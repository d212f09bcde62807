import StateChronicle.Commit.Roots
import StateChronicle.Domain.Commit

/-!
# Building commits

Events of one scope are collected in a batch.  The builder validates the batch, derives its roots on top
of the updates committed before, and assembles the body of the commit.
-/

namespace StateChronicle.Commit

open StateChronicle.Core Accumulator Domain Foundation

def maxEventBytes : Nat := 64 * 1024

def maxCommitBytes : Nat := 1024 * 1024

/-! ## Batches -/

structure CommitBatch where
  scope : CommitScope
  events : List Event
deriving DecidableEq, Repr

namespace CommitBatch

variable (eventBytes : Event → Option (List UInt8))

def new (scope : CommitScope) : CommitBatch := ⟨scope, []⟩

def addEvent (self : CommitBatch) (event : Event) : Except CommitError CommitBatch := do
  rejectIf (self.scope.tenantId.any fun tenant => tenant ≠ event.tenantId) .mixedTenant
  rejectIf (self.events.any fun existing => existing.eventId = event.eventId)
    (.duplicateEventId event.eventId.name)
  let bytes ← (canonicalize (eventBytes event)).mapError CommitError.ofCore
  rejectIf (bytes.length > maxEventBytes) (.sizeLimitExceeded "event" maxEventBytes bytes.length)
  return { self with events := self.events ++ [event] }

def addLength (total : U64) (event : Event) : Except CommitError U64 := do
  let bytes ← (canonicalize (eventBytes event)).mapError CommitError.ofCore
  if fits : total.val + bytes.length < 2 ^ 64 then return ⟨total.val + bytes.length, fits⟩
  else throw (.sizeLimitExceeded "commit" maxCommitBytes (2 ^ 64 - 1))

def validate (self : CommitBatch) : Except CommitError Unit := do
  rejectIf (self.events = []) .emptyBatch
  let total ← self.events.foldlM (addLength eventBytes) 0
  rejectIf (total.val > maxCommitBytes) (.sizeLimitExceeded "commit" maxCommitBytes total.val)

end CommitBatch

/-! ## The builder -/

structure CommitBuilder where
  scope : Option CommitScope
  sequence : U64
  executor : Option SubjectId
  profile : Option ProfileId
  createdAt : Option Timestamp
  parentCommitId : Option CommitId
deriving DecidableEq, Repr

namespace CommitBuilder

def countEvents (events : List Event) : Except CommitError U64 :=
  if fits : events.length < 2 ^ 64 then .ok ⟨events.length, fits⟩
  else .error (.invalidEvent
    "event count does not fit in u64: out of range integral type conversion attempted")

variable (sha256 : List UInt8 → Hash) (eventBytes : Event → Option (List UInt8))

def build (self : CommitBuilder) (batch : CommitBatch) (previousStateRoot : ContentDigest)
    (priorUpdates : List StateUpdate) (nextCommitId : Except CommitError CommitId) :
    Except CommitError Domain.Commit := do
  let scope ← okOr self.scope (.builderFieldMissing "scope")
  let executor ← okOr self.executor (.builderFieldMissing "executor")
  let profile ← okOr self.profile (.builderFieldMissing "profile")
  let createdAt ← okOr self.createdAt (.builderFieldMissing "created_at")
  batch.validate eventBytes
  let eventMerkleRoot ← eventRoot sha256 eventBytes batch.events
  let currentUpdates ← stateRootUpdates sha256 batch.events
  let nextStateRoot := computeStateRoot sha256 (sortUpdates (priorUpdates ++ currentUpdates))
  let commitId ← nextCommitId
  let eventCount ← countEvents batch.events
  return .new scope commitId self.parentCommitId self.sequence eventCount eventMerkleRoot previousStateRoot
    ⟨nextStateRoot.bytes⟩ createdAt executor profile

theorem roots_of_build {self : CommitBuilder} {batch : CommitBatch} {previousStateRoot : ContentDigest}
    {priorUpdates : List StateUpdate} {nextCommitId : Except CommitError CommitId} {commit : Domain.Commit}
    (built : self.build sha256 eventBytes batch previousStateRoot priorUpdates nextCommitId = .ok commit) :
    ∃ currentUpdates, stateRootUpdates sha256 batch.events = .ok currentUpdates ∧
      commit.previousStateRoot = previousStateRoot ∧
      commit.nextStateRoot = ⟨(computeStateRoot sha256 (sortUpdates (priorUpdates ++ currentUpdates))).bytes⟩ := by
  simp only [build, Except.bind_eq_ok, Except.pure_eq_ok] at built
  obtain ⟨_, _, _, _, _, _, _, _, _, _, _, _, currentUpdates, updates, _, _, _, _, rfl⟩ := built
  exact ⟨currentUpdates, updates, rfl, rfl⟩

end CommitBuilder

end StateChronicle.Commit
