import StateChronicle.Accumulator.Authentication
import StateChronicle.Commit.Fork

/-!
# Fork freedom

Two chains over one first commit, compared pair by pair at equal heights, cannot part: where they would, the next
commits claim one parent and one sequence, and the fork check sees them.
-/

namespace StateChronicle.Verified

open StateChronicle.Core Accumulator Commit Domain Foundation

/-- A chain over a first commit: every commit continues the one before it. -/
structure CommitChain (genesis : Commit) where
  commits : List Commit
  continuous : (genesis :: commits).IsChain fun previous next => checkChainContinuity previous next = .ok ()

namespace CommitChain

variable {genesis : Commit} (chain : CommitChain genesis)

/-- The commit at a height, the first commit at the lowest. -/
def at? (height : ℕ) : Option Commit := (genesis :: chain.commits)[height]?

theorem at?_zero : chain.at? 0 = some genesis := rfl

/-- Below a commit of the chain there is one that it continues. -/
theorem exists_previous {height : ℕ} {commit : Commit} (found : chain.at? (height + 1) = some commit) :
    ∃ previous, chain.at? height = some previous ∧ checkChainContinuity previous commit = .ok () := by
  obtain ⟨inside, rfl⟩ := List.getElem?_eq_some_iff.mp found
  exact ⟨(genesis :: chain.commits)[height], List.getElem?_eq_getElem (Nat.lt_of_succ_lt inside),
    chain.continuous.getElem height inside⟩

theorem sequence_at {height : ℕ} {commit : Commit} (found : chain.at? height = some commit) :
    commit.sequence.val = genesis.sequence.val + height := by
  induction height generalizing commit with
  | zero =>
    rw [at?_zero] at found
    rw [← Option.some.inj found, Nat.add_zero]
  | succ height ih =>
    obtain ⟨previous, below, continues⟩ := chain.exists_previous found
    rw [(checkChainContinuity_eq_ok.mp continues).2, ih below, Nat.add_assoc]

end CommitChain

variable {genesis : Commit}

/-- The fork check passes on every two commits at one height, against the commit below the first of them. -/
def Unforked (first second : CommitChain genesis) : Prop :=
  ∀ height previous a b, first.at? height = some previous → first.at? (height + 1) = some a →
    second.at? (height + 1) = some b → detectFork previous a b = .ok ()

/-- Above commits with one id, the fork check lets the chains continue with one id only. -/
theorem detectFork_above_agreement {previous previous' a b : Commit} (agreed : previous.commitId = previous'.commitId)
    (level : previous.sequence = previous'.sequence) (continuesA : checkChainContinuity previous a = .ok ())
    (continuesB : checkChainContinuity previous' b = .ok ()) :
    detectFork previous a b = .ok () ↔ a.commitId = b.commitId := by
  obtain ⟨parentA, sequenceA⟩ := checkChainContinuity_eq_ok.mp continuesA
  obtain ⟨parentB, sequenceB⟩ := checkChainContinuity_eq_ok.mp continuesB
  rw [← agreed] at parentB
  rw [← level, ← sequenceA] at sequenceB
  exact detectFork_eq_ok_of_contested parentA parentB (Fin.ext sequenceB.symm)

theorem commitId_eq_of_unforked {first second : CommitChain genesis} (unforked : Unforked first second) {height : ℕ}
    {a b : Commit} (foundA : first.at? height = some a) (foundB : second.at? height = some b) :
    a.commitId = b.commitId := by
  induction height generalizing a b with
  | zero =>
    rw [CommitChain.at?_zero] at foundA foundB
    rw [← Option.some.inj foundA, ← Option.some.inj foundB]
  | succ height ih =>
    obtain ⟨previous, belowA, continuesA⟩ := first.exists_previous foundA
    obtain ⟨previous', belowB, continuesB⟩ := second.exists_previous foundB
    have agreed := ih belowA belowB
    have level : previous.sequence = previous'.sequence :=
      Fin.ext ((first.sequence_at belowA).trans (second.sequence_at belowB).symm)
    exact (detectFork_above_agreement agreed level continuesA continuesB).mp
      (unforked height previous a b belowA foundA foundB)

/-- Chains over one first commit that pass the fork check agree at every common height, and their sequence numbers
are consecutive. -/
theorem unforked_chains_agree {first second : CommitChain genesis} (unforked : Unforked first second) :
    (∀ height a b, first.at? height = some a → second.at? height = some b → a.commitId = b.commitId) ∧
    (∀ height a, first.at? height = some a → a.sequence.val = genesis.sequence.val + height) ∧
    ∀ height b, second.at? height = some b → b.sequence.val = genesis.sequence.val + height :=
  ⟨fun _ _ _ foundA foundB => commitId_eq_of_unforked unforked foundA foundB,
    fun _ _ found => first.sequence_at found, fun _ _ found => second.sequence_at found⟩

def linkedCommit (commitId : CommitId) (parentCommitId : Option CommitId) (sequence : U64) : Commit :=
  .new (.tenant ⟨"acme.game.alpha"⟩) commitId parentCommitId sequence 1 ⟨.replicate 32 0⟩ ⟨.replicate 32 0⟩
    ⟨.replicate 32 0⟩ 0 ⟨"service:statechronicle.example.net"⟩ ⟨"statechronicle.profile.resource.v0"⟩

def firstCommit : Commit := linkedCommit ⟨"cmt_0"⟩ none 7

def shortChain : CommitChain firstCommit where
  commits := [linkedCommit ⟨"cmt_1"⟩ (some ⟨"cmt_0"⟩) 8]
  continuous := by decide

def longChain : CommitChain firstCommit where
  commits := [linkedCommit ⟨"cmt_1"⟩ (some ⟨"cmt_0"⟩) 8, linkedCommit ⟨"cmt_2"⟩ (some ⟨"cmt_1"⟩) 9]
  continuous := by decide

theorem short_and_long_agree :
    Unforked shortChain longChain ∧
      ∀ height a b, shortChain.at? height = some a → longChain.at? height = some b → a.commitId = b.commitId := by
  have unforked : Unforked shortChain longChain := by
    intro height previous a b below foundA foundB
    match height with
    | 0 =>
      obtain rfl := Option.some.inj below
      obtain rfl := Option.some.inj foundA
      obtain rfl := Option.some.inj foundB
      decide
    | height + 1 => cases foundA
  exact ⟨unforked, (unforked_chains_agree unforked).1⟩

/-! ## Rewritten events -/

/-- An event passes as no rewrite of an accepted one exactly when it has another id or the same canonical bytes. -/
theorem no_rewrite_iff {sha256 : List UInt8 → Hash} {eventBytes : Event → Option (List UInt8)}
    {accepted candidate : Event} (collisionFree : CollisionFree sha256 ([accepted, candidate].filterMap eventBytes)) :
    validateNoEventRewrite sha256 eventBytes accepted candidate = .ok () ↔
      (accepted.eventId = candidate.eventId →
        ∃ bytes, eventBytes accepted = some bytes ∧ eventBytes candidate = some bytes) := by
  unfold validateNoEventRewrite
  split_ifs with other
  · exact iff_of_true rfl fun same => absurd same other
  · simp only [Except.bind_eq_ok, Except.mapError_eq_ok, canonicalizeAndDigest_eq_ok, rejectIf_eq_ok, ne_eq, not_not]
    constructor
    · rintro ⟨_, ⟨bytes, serialized, rfl⟩, _, ⟨bytes', serialized', rfl⟩, same⟩ -
      have strings : [accepted, candidate].filterMap eventBytes = [bytes, bytes'] := by
        simp [serialized, serialized']
      rw [strings] at collisionFree
      obtain rfl := collisionFree bytes (by simp) bytes' (by simp) (ContentDigest.mk.inj same)
      exact ⟨bytes, serialized, serialized'⟩
    · intro unchanged
      obtain ⟨bytes, serialized, serialized'⟩ := unchanged (not_not.mp other)
      exact ⟨_, ⟨bytes, serialized, rfl⟩, _, ⟨bytes, serialized', rfl⟩, rfl⟩

end StateChronicle.Verified
