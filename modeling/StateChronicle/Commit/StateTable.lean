import StateChronicle.Accumulator.Key
import StateChronicle.Commit.Error
import StateChronicle.Domain.Event
import StateChronicle.Foundation.FiniteMap

/-!
# State keys of events and the table they write

An event commits its after-state under a key derived from tenant, resource and the subject the after-state carries.
The table of current states is a finite map over those slots.
-/

namespace StateChronicle.Commit

open Accumulator Domain Foundation

/-- A place for one state: what a state key is the hash of. -/
structure StateSlot where
  tenant : TenantId
  resource : ResourceId
  subject : Option SubjectId
deriving DecidableEq, Repr

variable (sha256 : List UInt8 → Vector UInt8 32) {events : List Event} {slot : StateSlot}

def StateSlot.key (slot : StateSlot) : StateKey :=
  match slot.subject with
  | some subject => .forSubjectHeld sha256 slot.tenant.name slot.resource.name subject.name
  | none => .forResource sha256 slot.tenant.name slot.resource.name

variable (event : Event)

def eventSubject : Except CommitError String :=
  okOr (event.after.state.subject.map (·.name)) (.invalidEvent "after-state is missing `subject`")

def stateKeyFor : StateType → Except CommitError StateKey
  | .consumableStack | .fungibleBalance | .entitlement | .meteredResource => do
    let subject ← eventSubject event
    return .forSubjectHeld sha256 event.tenantId.name event.resourceId.name subject
  | .uniqueAsset | .listing | .escrow | .custom =>
    .ok (.forResource sha256 event.tenantId.name event.resourceId.name)

def inferStateKey : Except CommitError StateKey :=
  if event.after.state.subject.isSome then do
    let subject ← eventSubject event
    return .forSubjectHeld sha256 event.tenantId.name event.resourceId.name subject
  else .ok (.forResource sha256 event.tenantId.name event.resourceId.name)

def writtenSlot : StateSlot := ⟨event.tenantId, event.resourceId, event.after.state.subject⟩

/-- The key of an event is the key of the slot it writes. -/
theorem inferStateKey_eq_key_writtenSlot : inferStateKey sha256 event = .ok ((writtenSlot event).key sha256) := by
  cases held : event.after.state.subject with
  | none => simp [inferStateKey, writtenSlot, StateSlot.key, held]
  | some subject => simp [inferStateKey, writtenSlot, StateSlot.key, eventSubject, held]

variable (commitId : CommitId)

def projectionFor (event : Event) : StateProjection where
  tenantId := event.tenantId
  resourceId := event.resourceId
  stateType := event.after.state.stateType
  version := event.after.version
  lastEventId := event.eventId
  lastCommitId := commitId
  stateHash := event.after.stateHash
  state := event.after.state

abbrev StateTable : Type := Finmap fun _ : StateSlot => StateProjection

namespace StateTable

variable (table : StateTable)

def read (slot : StateSlot) : Option StateProjection := table.lookup slot

def write (event : Event) : StateTable := table.insert (writtenSlot event) (projectionFor commitId event)

def writeAll (events : List Event) : StateTable := events.foldl (write commitId) table

theorem read_write_self (event : Event) :
    (table.write commitId event).read (writtenSlot event) = some (projectionFor commitId event) :=
  Finmap.lookup_insert table

theorem read_write_of_ne {event : Event} (different : slot ≠ writtenSlot event) :
    (table.write commitId event).read slot = table.read slot :=
  Finmap.lookup_insert_of_ne table different

theorem read_write (event : Event) (slot : StateSlot) :
    (table.write commitId event).read slot =
      if slot = writtenSlot event then some (projectionFor commitId event) else table.read slot := by
  split
  case isTrue own => rw [own, read_write_self]
  case isFalse other => exact read_write_of_ne commitId table other

theorem read_writeAll_of_forall_ne (different : ∀ event ∈ events, writtenSlot event ≠ slot) :
    (table.writeAll commitId events).read slot = table.read slot := by
  induction events generalizing table with
  | nil => rfl
  | cons event rest ih =>
    rw [List.forall_mem_cons] at different
    exact (ih (table.write commitId event) different.2).trans
      (read_write_of_ne commitId table different.1.symm)

def All (holds : ResourceState → Prop) (table : StateTable) : Prop :=
  ∀ slot projection, table.read slot = some projection → holds projection.state

theorem All.writeAll {holds : ResourceState → Prop} {table : StateTable} (all : table.All holds) (commitId : CommitId)
    (each : ∀ event ∈ events, holds event.after.state) : (table.writeAll commitId events).All holds := by
  induction events generalizing table with
  | nil => exact all
  | cons event rest ih =>
    rw [List.forall_mem_cons] at each
    refine @ih (table.write commitId event) (fun slot projection found => ?_) each.2
    rw [read_write] at found
    split at found
    case isTrue =>
      rw [← Option.some.inj found]
      exact each.1
    case isFalse => exact all slot projection found

/-- Every holder's projection sits under its own tenant, resource and subject. -/
def HoldersKeyed : Prop :=
  ∀ slot projection, slot.subject.isSome → table.read slot = some projection →
    projection.tenantId = slot.tenant ∧ projection.resourceId = slot.resource ∧ projection.state.subject = slot.subject

theorem holdersKeyed_empty : HoldersKeyed ∅ := by
  intro slot projection _ found
  simp [read] at found

/-- Committed events keep a table keyed by holder. -/
theorem HoldersKeyed.writeAll {table : StateTable} (keyed : table.HoldersKeyed) (commitId : CommitId)
    (events : List Event) : (table.writeAll commitId events).HoldersKeyed := by
  induction events generalizing table with
  | nil => exact keyed
  | cons event rest ih =>
    refine @ih (table.write commitId event) fun slot projection held found => ?_
    rw [read_write] at found
    split at found
    case isTrue own =>
      rw [own, ← Option.some.inj found]
      exact ⟨rfl, rfl, rfl⟩
    case isFalse => exact keyed slot projection held found

end StateTable

end StateChronicle.Commit
