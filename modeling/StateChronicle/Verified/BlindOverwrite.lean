import StateChronicle.Execution.Harness

/-!
# What an event replaces

The executor loads a state by the actor and the holder it records; the commit layer writes under the subject of the
after-state.  An event names the state it replaces exactly when the two slots hold the same commitment.
-/

namespace StateChronicle.Verified

open Commit Domain Execution Profiles

variable {W : Type}

/-! ## Slots -/

/-- The slot the primary after-state of an intent is committed to, given the state it acts on. -/
def targetSlot (stateType : StateType) (intent : Intent) (current : Option StateProjection) : StateSlot :=
  ⟨intent.tenantId, intent.resourceId,
    if stateType.subjectHeld then
      Transition.writtenSubject current intent.operation intent.inputs
    else none⟩

/-- The before commitment of the event is what the table holds at the slot the event writes, and
has version 0 exactly when that slot is empty. -/
def NamesReplaced (table : StateTable) (event : Event) : Prop :=
  Executor.Names (table.read (writtenSlot event)) event ∧
    (event.before.version = 0 ↔ table.read (writtenSlot event) = none)

/-- An event computed from `loaded` and written over `stored` names what it replaces. -/
def SlotsAgree : Option StateProjection → Option StateProjection → Prop
  | some loaded, some stored => loaded.commitment = stored.commitment ∧ loaded.version ≠ 0
  | some loaded, none => loaded.version = 0
  | none, some _ => False
  | none, none => True

theorem namesReplaced_iff {table : StateTable} {loaded : Option StateProjection} {event : Event}
    (names : Executor.Names loaded event) :
    NamesReplaced table event ↔ SlotsAgree loaded (table.read (writtenSlot event)) := by
  unfold NamesReplaced
  cases table.read (writtenSlot event) with
  | none =>
    cases loaded with
    | none => simp_all [Executor.Names, SlotsAgree]
    | some projection => simp_all [Executor.Names, SlotsAgree, StateProjection.commitment]
  | some stored =>
    cases loaded with
    | none =>
      -- Version 0 was announced, yet the slot is taken.
      simp_all [Executor.Names, SlotsAgree]
    | some projection => simp_all [Executor.Names, SlotsAgree, StateProjection.commitment]

section Writes

variable {self : Executor W} {table : StateTable} {intent : Intent} {coordinated : Bool}

theorem writtenSlot_of_acceptance (acceptance : self.Acceptance intent coordinated)
    (builtin : Builtin acceptance.stateType acceptance.rules) :
    writtenSlot acceptance.event = targetSlot acceptance.stateType intent acceptance.current := by
  have applied := acceptance.applied
  rw [builtin.apply_eq] at applied
  have typed := (admitted_of_checkLoaded acceptance.admitted).typed
  have subject : acceptance.after.subject = if acceptance.stateType.subjectHeld then
      Transition.writtenSubject acceptance.current intent.operation intent.inputs else none := by
    split
    case isTrue held =>
      refine Transition.subject_of_apply applied (fun current present => ?_) ?_
      · rw [(typed current present).1, (typed current present).2]
      · rw [acceptance.after_stateType, held]
    case isFalse unheld =>
      rw [← Option.not_isSome_iff_eq_none, ResourceState.subject_isSome_iff, acceptance.after_stateType]
      exact unheld
  rw [writtenSlot, targetSlot, acceptance.emitted.tenantId, acceptance.emitted.resourceId,
    acceptance.emitted.after_state, subject]

/-- The condition under which every event of an intent names what it replaces: the slot the
operation writes agrees with the slot it was computed from, and the destination of a transfer, if
there is one, is not recorded at version 0. -/
def WritesWhatItReads (table : StateTable) (stateType : StateType) (intent : Intent) : Prop :=
  let loaded := table.read (currentSlot table (Resource.resourceExecution stateType) intent)
  SlotsAgree loaded (table.read (targetSlot stateType intent loaded)) ∧
    ∀ holder : SubjectId, Resource.isTransferOperation intent.operation →
      intent.inputs.get? "to_subject" = some (.string holder.name) →
      let destination := table.read ⟨intent.tenantId, intent.resourceId, some holder⟩
      SlotsAgree destination destination

/-- An accepted intent of a built-in type names every state it replaces exactly when it writes the
slots it has read. -/
theorem accepted_names_replaced_iff {validated : ValidatedIntent} {stateType : StateType} {w w' : W}
    {events : List Event} (served : self.ports.Serves table) (standard : self.profiles.Standard)
    (typed : validated.intent.stateType = some stateType) (native : stateType ≠ .custom)
    (accepted : self.execute validated w = .ok events w') (fresh : events ≠ []) :
    (∀ event ∈ events, NamesReplaced table event) ↔
      WritesWhatItReads table stateType validated.intent := by
  obtain ⟨acceptance, rfl⟩ := Executor.acceptance_of_fresh accepted fresh
  have builtin := acceptance.builtin standard (by simpa [typed] using native)
  obtain rfl : acceptance.stateType = stateType :=
    Option.some.inj (acceptance.typed.symm.trans typed)
  have policy := builtin.executionPolicy_eq
  have loaded := acceptance.current_eq served
  rw [policy] at loaded
  have primary : NamesReplaced table acceptance.event ↔ SlotsAgree acceptance.current
      (table.read (targetSlot acceptance.stateType validated.intent acceptance.current)) := by
    rw [namesReplaced_iff acceptance.emitted.names, writtenSlot_of_acceptance acceptance builtin]
  have extended := acceptance.extended
  rw [policy] at extended
  simp only [Executor.Acceptance.events, List.forall_mem_cons, WritesWhatItReads, ← loaded, primary]
  refine and_congr_right fun _ => ?_
  rcases Executor.extends_cases served extended with ⟨other, none⟩ |
    ⟨credit, one, holder, source, after, transfer, named, -, applied, emitted⟩
  · simp [none, other]
  · rw [one, List.forall_mem_singleton, namesReplaced_iff emitted.names,
      writtenSlot_of_credit named applied emitted]
    constructor
    · intro agree holder' _ named'
      obtain rfl := subject_eq_of_text (named.symm.trans named')
      exact agree
    · intro agree
      exact agree holder transfer named

end Writes

open Harness

instance (table : StateTable) (event : Event) : Decidable (NamesReplaced table event) :=
  match found : table.read (writtenSlot event) with
  | none => decidable_of_iff (event.before.version = 0) (by
      simp [NamesReplaced, Executor.Names, found])
  | some stored => decidable_of_iff
      (event.before = stored.commitment ∧ event.before.version ≠ 0) (by
        simp [NamesReplaced, Executor.Names, found])

def heldTable : StateTable := tableOf [⟨tenant, gold, 4, goldBalance "alice" 100⟩]

def openFive (subject : String) : List Event :=
  emitted ((executor .baseline heldTable).execute
    (intent "int_open" "balance.create" "admin" gold .fungibleBalance 0
      [("balance", "5"), ("subject", subject), ("unit", "gold")]) .fresh)

theorem creation_for_new_holder_names_replaced :
    openFive "bob" ≠ [] ∧ ∀ event ∈ openFive "bob", NamesReplaced heldTable event := by
  have fresh : openFive "bob" ≠ [] := by decide +kernel
  obtain ⟨memory, returns⟩ := ok_of_emitted_ne_nil fresh
  refine ⟨fresh, (accepted_names_replaced_iff (executor_serves _ _)
    ProfileRegistry.standard_baseline rfl (by decide) returns fresh).mpr ⟨?_, ?_⟩⟩
  · change SlotsAgree none none
    trivial
  · intro _ transfer
    exact absurd transfer (by decide)

/-- Alice's hundred gold at version 4 are replaced by an event that claims to create the balance. -/
theorem creation_for_held_subject_overwrites :
    (openFive "alice").map (fun event => (event.before.version, writtenSlot event)) =
        [(0, ⟨tenant, gold, some ⟨"alice"⟩⟩)] ∧
      (heldTable.read ⟨tenant, gold, some ⟨"alice"⟩⟩).map (·.version) = some 4 ∧
      ¬ ∀ event ∈ openFive "alice", NamesReplaced heldTable event := by
  decide +kernel

end StateChronicle.Verified
