import StateChronicle.Foundation.Replay
import StateChronicle.Verified.BlindOverwrite

/-!
# Batches replayed on the index

All intents of a batch are evaluated against the same index.  Replaying the events one after the other works exactly
when no slot is written twice and every event was computed from what its slot holds.
-/

namespace StateChronicle.Verified

open Commit Domain Execution Foundation

variable {W : Type}

/-! ## Replaying -/

/-- The before commitment has the version and the state hash that are current; nothing is at
version 0. -/
def Fits (current : Option StateProjection) (event : Event) : Prop :=
  match current with
  | some stored => event.before.version = stored.version ∧ event.before.stateHash = stored.stateHash
  | none => event.before.version = 0

/-- Committing the events in order, each finds the version and hash it was computed from. -/
def SequentiallyConsistent (commitId : CommitId) (table : StateTable) (events : List Event) : Prop :=
  Replays Fits writtenSlot (projectionFor commitId) table events

/-- What is stored has the version and the state hash of what was loaded; nothing is at version 0. -/
def SlotsMatch : Option StateProjection → Option StateProjection → Prop
  | some loaded, some stored => loaded.version = stored.version ∧ loaded.stateHash = stored.stateHash
  | some loaded, none => loaded.version = 0
  | none, some _ => False
  | none, none => True

/-- No slot is written twice, and every slot written matches the slot it was computed from. -/
def SlotsSeparate (table : StateTable) (accesses : List Access) : Prop :=
  (∀ access ∈ accesses, SlotsMatch (table.read access.source) (table.read access.target)) ∧
    (accesses.map (·.target)).Nodup

/-- Every stored state sits in the slot of its own subject, at a version above 0 and under its
canonical digest. -/
def Canonical (self : Executor W) (table : StateTable) : Prop :=
  ∀ slot stored, table.read slot = some stored → stored.state.subject = slot.subject ∧
    stored.version ≠ 0 ∧ self.digestState stored.state = .ok stored.stateHash

/-- The states a replay compares by digest. -/
def statesInvolved (table : StateTable) (events : List Event) : Set ResourceState :=
  {state | (∃ slot stored, table.read slot = some stored ∧ stored.state = state) ∨
    ∃ event ∈ events, event.after.state = state}

theorem fits_of_slotsMatch {loaded stored : Option StateProjection} {event : Event}
    (names : Executor.Names loaded event) (same : SlotsMatch loaded stored) : Fits stored event := by
  cases loaded <;> cases stored <;> simp_all [Executor.Names, SlotsMatch, Fits, StateProjection.commitment]

section Follows

variable {self : Executor W} {table : StateTable} {accesses : List Access} {events : List Event}
  (follows : List.Forall₂ (self.Follows table) accesses events) (commitId : CommitId)

include follows

theorem map_writtenSlot_eq : events.map writtenSlot = accesses.map (·.target) :=
  (Aligned.map_eq follows fun _ _ step => step.target.symm).symm

/-- Events of separate slots meet the index they were computed from. -/
theorem sequentiallyConsistent_of_slotsSeparate (separate : SlotsSeparate table accesses) :
    SequentiallyConsistent commitId table events := by
  have distinct : (events.map writtenSlot).Nodup := by
    rw [map_writtenSlot_eq follows]
    exact separate.2
  rw [SequentiallyConsistent, replays_iff_of_nodup distinct]
  intro event member
  obtain ⟨access, there, step⟩ := Aligned.exists_left follows member
  change Fits (table.read (writtenSlot event)) event
  rw [step.target]
  exact fits_of_slotsMatch step.names (separate.1 access there)

variable (canonical : Canonical self table) (collisionFree : Set.InjOn self.digestState (statesInvolved table events))

include canonical collisionFree

/-- An event that fits what an earlier one left in its slot was loaded from that very slot, because
the digest fixes the subject. -/
theorem version_of_fits_earlier {event earlier : Event} (member : event ∈ events) (earlierMember : earlier ∈ events)
    (same : writtenSlot earlier = writtenSlot event) (fits : Fits (some (projectionFor commitId earlier)) event) :
    earlier.after.version.val = slotRank (fun stored => stored.version.val) table (writtenSlot event) := by
  obtain ⟨access, there, step⟩ := Aligned.exists_left follows member
  obtain ⟨_, _, earlierStep⟩ := Aligned.exists_left follows earlierMember
  obtain ⟨version, hash⟩ := fits
  change event.before.version = earlier.after.version at version
  change event.before.stateHash = earlier.after.stateHash at hash
  have names := step.names
  cases loaded : table.read access.source with
  | none =>
    -- An unborn state is at version 0, and no after-state is.
    rw [loaded] at names
    have zero : event.before.version.val = 0 := congrArg Fin.val names
    rw [version, earlierStep.version] at zero
    exact absurd zero (Nat.succ_ne_zero _)
  | some stored =>
    rw [loaded] at names
    change event.before = stored.commitment at names
    obtain ⟨subject, -, digest⟩ := canonical _ _ loaded
    have state : stored.state = earlier.after.state := by
      refine collisionFree (.inl ⟨_, _, loaded, rfl⟩) (.inr ⟨_, earlierMember, rfl⟩) ?_
      rw [digest, earlierStep.digest, ← hash, names]
      rfl
    have slot : access.source = writtenSlot event := by
      have target := step.target
      have subjects : access.source.subject = (writtenSlot event).subject := by
        rw [← subject, state, ← same]
        rfl
      rw [target] at subjects ⊢
      cases sourceEq : access.source
      cases targetEq : access.target
      have tenants := step.tenant
      have resources := step.resource
      rw [sourceEq, targetEq] at tenants resources subjects
      simp_all
    change _ = (table.read (writtenSlot event)).elim 0 _
    rw [← slot, loaded, ← version, names]
    rfl

/-- On a canonical index with collision-free digests nothing else replays. -/
theorem slotsSeparate_of_sequentiallyConsistent
    (consistent : SequentiallyConsistent commitId table events) : SlotsSeparate table accesses := by
  have distinct : (events.map writtenSlot).Nodup := by
    refine nodup_of_replays (fun stored => stored.version.val) ?_ ?_ consistent
    · intro event member current fits
      obtain ⟨_, _, step⟩ := Aligned.exists_left follows member
      change _ < event.after.version.val
      rw [step.version]
      cases current with
      | none => exact Nat.succ_pos _
      | some stored => exact Nat.lt_succ_of_le (congrArg Fin.val fits.1).ge
    · intro event member earlier earlierMember same fits
      exact version_of_fits_earlier follows commitId canonical collisionFree member earlierMember same fits
  refine ⟨fun access there => ?_, map_writtenSlot_eq follows ▸ distinct⟩
  rw [SequentiallyConsistent, replays_iff_of_nodup distinct] at consistent
  obtain ⟨event, member, step⟩ := Aligned.exists_right follows there
  have fits : Fits (table.read access.target) event := step.target ▸ consistent event member
  have names := step.names
  cases loaded : table.read access.source with
  | none =>
    rw [loaded] at names
    cases occupied : table.read access.target with
    | none => trivial
    | some stored =>
      rw [occupied] at fits
      exact absurd (fits.1.symm.trans names) (canonical _ _ occupied).2.1
  | some projection =>
    rw [loaded] at names
    change event.before = projection.commitment at names
    cases occupied : table.read access.target with
    | none =>
      rw [occupied] at fits
      exact (congrArg StateCommitment.version names).symm.trans fits
    | some stored =>
      rw [occupied, Fits, names] at fits
      exact fits

end Follows

/-! ## The routes -/

/-- A batch accepted by one of the planning routes is sequentially consistent if the fresh intents
write separate slots; on a canonical index with collision-free digests, only then. -/
theorem accepted_batch_sequentially_consistent {self : Executor W} {table : StateTable} {claims : W → Claims}
    {intents : List ValidatedIntent} {events : List Event} {w w' : W}
    (served : self.ports.Serves table) (stores : self.StoresClaims claims)
    (accepted : self.executeBatch intents w = .ok events w' ∨
      self.executeSettle intents w = .ok events w') (commitId : CommitId) :
    (SlotsSeparate table (self.freshAccesses (claims w) table intents) →
        SequentiallyConsistent commitId table events) ∧
      (Canonical self table → Set.InjOn self.digestState (statesInvolved table events) →
        SequentiallyConsistent commitId table events →
        SlotsSeparate table (self.freshAccesses (claims w) table intents)) := by
  have follows : List.Forall₂ (self.Follows table) (self.freshAccesses (claims w) table intents)
      events := by
    rcases accepted with batch | settle
    · exact Executor.follows_of_produces served (Executor.executeBatch_produces stores batch)
    · exact Executor.follows_of_produces served (Executor.executeSettle_produces stores settle)
  exact ⟨sequentiallyConsistent_of_slotsSeparate follows commitId,
    slotsSeparate_of_sequentiallyConsistent follows commitId⟩

open Harness

instance : DecidableRel SlotsMatch
  | some loaded, some stored =>
    inferInstanceAs (Decidable (loaded.version = stored.version ∧ loaded.stateHash = stored.stateHash))
  | some loaded, none => inferInstanceAs (Decidable (loaded.version = 0))
  | none, some _ => inferInstanceAs (Decidable False)
  | none, none => inferInstanceAs (Decidable True)

instance (table : StateTable) (accesses : List Access) : Decidable (SlotsSeparate table accesses) := instDecidableAnd

instance : DecidableRel Fits
  | some stored, event => inferInstanceAs (Decidable
      (event.before.version = stored.version ∧ event.before.stateHash = stored.stateHash))
  | none, event => inferInstanceAs (Decidable (event.before.version = 0))

instance (commitId : CommitId) (table : StateTable) (events : List Event) :
    Decidable (SequentiallyConsistent commitId table events) :=
  decidableReplays table events

def marketTable : StateTable :=
  tableOf [⟨tenant, gold, 1, goldBalance "alice" 100⟩, ⟨tenant, gold, 7, goldBalance "carol" 100⟩]

def twoPayments (payer : String) (version : U64) : List ValidatedIntent :=
  [intent "int_first" "balance.transfer" "alice" gold .fungibleBalance 1
      [("amount", "80"), ("to_subject", "bob")],
    intent "int_second" "balance.transfer" payer gold .fungibleBalance version
      [("amount", "80"), ("to_subject", "dave")]]

def paid (payer : String) (version : U64) : List Event :=
  emitted ((executor .baseline marketTable).executeBatch (twoPayments payer version) .fresh)

theorem payments_of_two_holders_consistent :
    (paid "carol" 7).length = 4 ∧ SequentiallyConsistent commitId marketTable (paid "carol" 7) := by
  have four : (paid "carol" 7).length = 4 := by decide +kernel
  have fresh : paid "carol" 7 ≠ [] := List.ne_nil_of_length_pos (by omega)
  obtain ⟨memory, returns⟩ := ok_of_emitted_ne_nil fresh
  exact ⟨four, (accepted_batch_sequentially_consistent (executor_serves _ _) (executor_storesClaims _ _)
    (.inl returns) commitId).1 (by decide +kernel)⟩

/-- Alice spends eighty of their hundred gold twice: both transfers are accepted against version 1. -/
theorem payments_of_one_holder_double_spend :
    (paid "alice" 1).map (fun event => (writtenSlot event, event.before.version.val)) =
        [(⟨tenant, gold, some ⟨"alice"⟩⟩, 1), (⟨tenant, gold, some ⟨"bob"⟩⟩, 0),
          (⟨tenant, gold, some ⟨"alice"⟩⟩, 1), (⟨tenant, gold, some ⟨"dave"⟩⟩, 0)] ∧
      ¬ SequentiallyConsistent commitId marketTable (paid "alice" 1) := by
  decide +kernel

end StateChronicle.Verified
