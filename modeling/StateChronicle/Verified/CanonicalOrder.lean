import StateChronicle.Commit.Ordering
import StateChronicle.Execution.Harness

/-!
# Canonical order of what the executor returns

The canonical key of an event is its resource and the version it leads to, but the versions of a
subject-held resource run per holder: the two events of a transfer may have one key.
-/

namespace StateChronicle.Verified

open Commit Domain Execution Foundation Profiles

/-- Events with distinct ids are ordered alike in whatever order they come, and a list is accepted exactly when its
ids are distinct and its keys strictly increase. -/
theorem canonical_order_unique (events : List Event) :
    ((events.map (·.eventId)).Nodup → ∀ rearranged, events.Perm rearranged →
      orderEvents rearranged = orderEvents events) ∧
      (validateOrder events = .ok () ↔
        (events.map (·.eventId)).Nodup ∧
          (events.map fun event => toLex (event.resourceId.name, event.after.version)).Pairwise (· < ·)) :=
  ⟨fun distinct _ perm => (orderEvents_perm distinct perm).symm, validateOrder_eq_ok⟩

variable {W : Type} {self : Executor W} {table : StateTable}

def slotVersion (table : StateTable) (slot : StateSlot) : U64 := ((table.read slot).map (·.version)).getD 0

/-- No two accesses of an intent lead one resource to one version. -/
def SeparateVersions (table : StateTable) (accesses : List Access) : Prop :=
  (accesses.map fun access => (access.target.resource, slotVersion table access.source)).Nodup

theorem before_version {slot : StateSlot} {event : Event} (names : Executor.Names (table.read slot) event) :
    event.before.version = slotVersion table slot := by
  rw [slotVersion]
  cases held : table.read slot with
  | none =>
    rw [held] at names
    exact names
  | some projection =>
    rw [held] at names
    exact congrArg StateCommitment.version names

section Follows

variable {accesses : List Access} {events : List Event} (follows : List.Forall₂ (self.Follows table) accesses events)

include follows

/-- Events are one version apart, so keys differ when resources or replaced versions do. -/
theorem canonicalKeys_nodup :
    (events.map canonicalKey).Nodup ↔ (events.map fun event => (event.resourceId, event.before.version)).Nodup := by
  have same : ∀ {a b : Event}, a ∈ events → b ∈ events → (canonicalKey a = canonicalKey b ↔
      (a.resourceId, a.before.version) = (b.resourceId, b.before.version)) := by
    intro a b first second
    obtain ⟨_, -, step⟩ := Aligned.exists_left follows first
    obtain ⟨_, -, step'⟩ := Aligned.exists_left follows second
    rw [canonicalKey, canonicalKey, toLex_inj, Prod.mk.injEq, Prod.mk.injEq, ResourceId.name_injective.eq_iff,
      Fin.ext_iff, Fin.ext_iff, step.version, step'.version, Nat.add_right_cancel_iff]
  rw [List.Nodup, List.Nodup, List.pairwise_map, List.pairwise_map]
  exact List.Pairwise.iff_of_mem fun first second => not_congr (same first second)

theorem separateVersions_iff : (events.map canonicalKey).Nodup ↔ SeparateVersions table accesses := by
  have images : accesses.map (fun access => (access.target.resource, slotVersion table access.source)) =
      events.map fun event => (event.resourceId, event.before.version) := by
    refine Aligned.map_eq follows fun access event followed => ?_
    rw [before_version followed.names, ← followed.target]
    rfl
  rw [canonicalKeys_nodup follows, SeparateVersions, images]

end Follows

/-- Sorting the events of a freshly accepted intent gives an accepted order exactly when no two of them
lead one resource to one version; for a built-in type, when a transfer does not meet its destination at
the version of its source. -/
theorem accepted_events_orderable_iff {validated : ValidatedIntent} {stateType : StateType} {events : List Event}
    {w w' : W} (served : self.ports.Serves table) (accepted : self.execute validated w = .ok events w')
    (fresh : events ≠ []) (distinct : (events.map (·.eventId)).Nodup) :
    ((∃ ordered, orderEvents events = .ok ordered ∧ validateOrder ordered = .ok ()) ↔
      SeparateVersions table (self.accesses table validated.intent)) ∧
    (self.profiles.Standard → validated.intent.stateType = some stateType → stateType ≠ .custom →
      (SeparateVersions table (self.accesses table validated.intent) ↔ ∀ holder : SubjectId,
        Resource.isTransferOperation validated.intent.operation →
        validated.intent.inputs.get? "to_subject" = some (.string holder.name) →
        slotVersion table (currentSlot table (Resource.resourceExecution stateType) validated.intent) ≠
          slotVersion table ⟨validated.intent.tenantId, validated.intent.resourceId, some holder⟩)) := by
  obtain ⟨acceptance, rfl⟩ := Executor.acceptance_of_fresh accepted fresh
  have follows := Executor.follows_of_acceptance served acceptance
  constructor
  · rw [← separateVersions_iff follows]
    constructor
    · rintro ⟨ordered, ⟨⟩, valid⟩
      exact (validateOrder_sortEvents.mp valid).2
    · exact fun keys => ⟨_, rfl, validateOrder_sortEvents.mpr ⟨distinct, keys⟩⟩
  · intro standard typed native
    have builtin := acceptance.builtin standard (by simpa [typed] using native)
    obtain rfl : acceptance.stateType = stateType := Option.some.inj (acceptance.typed.symm.trans typed)
    have loaded := acceptance.current_eq served
    have extended := acceptance.extended
    have emitted := acceptance.emitted
    rw [builtin.executionPolicy_eq] at loaded extended emitted
    rw [loaded] at emitted
    rw [← separateVersions_iff follows, canonicalKeys_nodup follows]
    rcases Executor.extends_cases served extended with ⟨other, alone⟩ |
      ⟨credit, one, holder, _, after, transfer, named, -, -, credited⟩
    · rw [Executor.Acceptance.events, alone]
      exact ⟨fun _ holder transfer => absurd transfer other, fun _ => List.nodup_singleton _⟩
    · rw [Executor.Acceptance.events, one, List.map_cons, List.map_singleton, List.nodup_cons, List.mem_singleton,
        emitted.resourceId, credited.resourceId, before_version emitted.names, before_version credited.names]
      constructor
      · rintro ⟨different, -⟩ holder' - named' same
        obtain rfl := subject_eq_of_text (named.symm.trans named')
        exact different (Prod.ext rfl same)
      · intro different
        exact ⟨fun same => different holder transfer named (congrArg Prod.snd same), List.nodup_singleton _⟩

/-! ### Transfers between two holders -/

open Harness

def holdersTable (version : Nat) : StateTable :=
  tableOf [⟨tenant, gold, 1, goldBalance "alice" 100⟩, ⟨tenant, gold, Fin.ofNat _ version, goldBalance "bob" 50⟩]

def payBob (version : Nat) : List Event :=
  emitted ((executor .baseline (holdersTable version)).execute
    (intent "int_pay" "balance.transfer" "alice" gold .fungibleBalance 1
      [("amount", "30"), ("to_subject", "bob")]) .fresh)

theorem payment_reversed_ordered :
    ((payBob 4).map (·.eventId)).Nodup ∧ orderEvents (payBob 4).reverse = orderEvents (payBob 4) := by
  have distinct : ((payBob 4).map (·.eventId)).Nodup := by decide +kernel
  exact ⟨distinct, (canonical_order_unique (payBob 4)).1 distinct _ (List.reverse_perm _).symm⟩

theorem transfer_to_later_version_orderable :
    payBob 4 ≠ [] ∧ ∃ ordered, orderEvents (payBob 4) = .ok ordered ∧ validateOrder ordered = .ok () := by
  have fresh : payBob 4 ≠ [] := by decide +kernel
  have distinct : ((payBob 4).map (·.eventId)).Nodup := by decide +kernel
  obtain ⟨memory, returns⟩ := ok_of_emitted_ne_nil fresh
  obtain ⟨orderable, simple⟩ :=
    accepted_events_orderable_iff (executor_serves .baseline (holdersTable 4)) returns fresh distinct
  refine ⟨fresh, orderable.mpr ((simple ProfileRegistry.standard_baseline rfl (by decide)).mpr ?_)⟩
  intro holder _ named
  obtain rfl : ⟨"bob"⟩ = holder := subject_eq_of_text named
  decide +kernel

/-- Alice and bob both hold gold at version 1: the debit and the credit lead to version 2. -/
theorem transfer_between_equal_versions_not_orderable :
    payBob 1 ≠ [] ∧ ((payBob 1).map (·.eventId)).Nodup ∧
      (orderEvents (payBob 1) >>= validateOrder) = .error (.duplicateCanonicalKey "currency:gold" 2) := by
  decide +kernel

end StateChronicle.Verified
