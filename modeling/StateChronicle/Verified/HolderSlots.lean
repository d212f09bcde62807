import StateChronicle.Profiles.HoldingEffects
import StateChronicle.Verified.Entitlements

/-!
# The slot of a holder

What one accepted intent can do to the state a subject holds: leave it alone, replace it with what was computed
from it, credit it on behalf of another subject, or bestow a new state on the subject.
-/

namespace StateChronicle.Verified

open Commit StateChronicle.Core Domain Execution Foundation Profiles

variable {W : Type}

def inputValue (inputs : Inputs) (key : String) : ℚ := (inputAmount inputs key).toOption.elim 0 Amount.value

theorem inputValue_of_inputAmount {inputs : Inputs} {key : String} {amount : Amount}
    (given : inputAmount inputs key = .ok amount) : inputValue inputs key = amount.value := by
  rw [inputValue, given]
  rfl

theorem inputValue_nonneg (inputs : Inputs) (key : String) : 0 ≤ inputValue inputs key := by
  unfold inputValue
  cases (inputAmount inputs key).toOption with
  | none => exact le_rfl
  | some amount => exact amount.value_nonneg

def holderSlot (intent : Intent) (subject : SubjectId) : StateSlot := ⟨intent.tenantId, intent.resourceId, some subject⟩

section Effects

variable {self : Executor W} {table : StateTable} {intent : Intent} {coordinated : Bool} {kind : HoldingKind}

theorem rules_of_kind {stateType : StateType} {rules : ProfileRules} (builtin : Builtin stateType rules)
    (typed : stateType = kind.stateType) : rules = kind.rules := by
  cases kind <;> cases builtin <;> first | rfl | cases typed

variable (acceptance : self.Acceptance intent coordinated)

section Builtins

variable (builtin : Builtin acceptance.stateType acceptance.rules)

include builtin

theorem effect_of_acceptance (typed : acceptance.stateType = kind.stateType) :
    kind.Effect acceptance.current intent.operation intent.inputs acceptance.after := by
  have checked := acceptance.checked
  have reduced := acceptance.appliedTyped builtin
  rw [rules_of_kind builtin typed] at checked
  rw [typed] at reduced
  refine kind.effect_of_check checked (fun projection present => ?_) reduced
  exact ((admitted_of_checkLoaded acceptance.admitted).typed projection present).2.trans typed

theorem meterEffect_of_acceptance (typed : acceptance.stateType = .meteredResource) :
    Meter.Effect acceptance.current intent.operation intent.inputs acceptance.after := by
  have checked := acceptance.checked
  have reduced := acceptance.appliedTyped builtin
  rw [builtin.eq_meterRules typed] at checked
  rw [typed] at reduced
  refine Meter.effect_of_check (fun projection present => ?_) checked reduced
  exact ((admitted_of_checkLoaded acceptance.admitted).typed projection present).2.trans typed

variable (served : self.ports.Serves table) (keyed : table.HoldersKeyed)
  (held : acceptance.stateType.subjectHeld = true)

include served keyed held

theorem current_of_held : acceptance.current = table.read (holderSlot intent intent.actor) := by
  rw [acceptance.current_eq served, builtin.executionPolicy_eq, currentSlot_of_holdersKeyed keyed held, holderSlot]

/-- An operation that neither opens nor hands over a holding is written back to its actor's slot. -/
theorem writtenSlot_own (keeps : Transition.KeepsHolder intent.operation) :
    writtenSlot acceptance.event = holderSlot intent intent.actor := by
  have written := writtenSlot_of_acceptance acceptance builtin
  have current := current_of_held acceptance builtin served keyed held
  rw [targetSlot, if_pos held, Transition.writtenSubject, if_neg keeps.1, if_neg keeps.2] at written
  have subject : (acceptance.current.bind (·.state.subject)).isSome := by
    have recorded := written
    rw [writtenSlot, acceptance.emitted.after_state] at recorded
    rw [← (StateSlot.mk.inj recorded).2.2, ResourceState.subject_isSome_iff, acceptance.after_stateType, held]
  obtain ⟨holder, named⟩ := Option.isSome_iff_exists.mp subject
  obtain ⟨loaded, present, recorded⟩ := Option.bind_eq_some_iff.mp named
  have own : loaded.state.subject = some intent.actor := (keyed _ loaded rfl (current.symm.trans present)).2.2
  rw [written, named, ← recorded, own, holderSlot]

end Builtins

theorem holder_of_holds (keyed : table.HoldersKeyed) {tenant : TenantId} {resource : ResourceId}
    {holder subject : SubjectId} {amount : Amount} {unit : String}
    (had : kind.Holds (table.read ⟨tenant, resource, some holder⟩) subject amount unit) : subject = holder := by
  obtain ⟨projection, read, payload⟩ := Option.map_eq_some_iff.mp had
  have recorded := (keyed _ projection rfl read).2.2
  rw [payload, kind.subject_holding] at recorded
  exact Option.some.inj recorded

/-- What an accepted transfer writes: the debit leaves its actor the rest, and the credit leaves the holder it names
the amount on top of what they have, in the unit of the actor. -/
structure Transferred (kind : HoldingKind) (table : StateTable) (intent : Intent) (debit credit : Event)
    (toSubject : SubjectId) (held amount left existing next : Amount) (unit : String) : Prop where
  named : intent.inputs.get? "to_subject" = some (.string toSubject.name)
  given : inputAmount intent.inputs kind.input = .ok amount
  positive : 0 < amount.value
  had : kind.Holds (table.read (holderSlot intent intent.actor)) intent.actor held unit
  rest : held.checkedSub amount = some left
  debitSlot : writtenSlot debit = holderSlot intent intent.actor
  debitState : debit.after.state = kind.holding intent.actor left unit
  found : (table.read (holderSlot intent toSubject)).elim (some Amount.zero) (·.state.amount kind.field) = some existing
  sum : existing.checkedAdd amount = some next
  creditSlot : writtenSlot credit = holderSlot intent toSubject
  creditState : credit.after.state = kind.holding toSubject next unit

theorem transferred_of_acceptance (standard : self.profiles.Standard) (served : self.ports.Serves table)
    (keyed : table.HoldersKeyed) (transfers : intent.operation = kind.transfer) :
    ∃ credit toSubject held amount left existing next unit, acceptance.events = [acceptance.event, credit] ∧
      Transferred kind table intent acceptance.event credit toSubject held amount left existing next unit := by
  have ofKind : kind.transfer.stateTypeHint = some kind.stateType ∧ kind.stateType.subjectHeld = true ∧
      kind.transfer ∈ kind.takings ∧ Transition.KeepsHolder kind.transfer ∧
      Resource.isTransferOperation kind.transfer := by
    cases kind <;> decide
  rw [← transfers] at ofKind
  obtain ⟨hint, subjectHeld, takes, keeps, isTransfer⟩ := ofKind
  obtain ⟨builtin, typed⟩ := stateType_of_hint acceptance standard hint
  rw [← typed] at subjectHeld
  have current := current_of_held acceptance builtin served keyed subjectHeld
  obtain ⟨subject, held, amount, left, unit, had, given, positive, rest, after⟩ :=
    HoldingKind.Effect.of_taking kind (effect_of_acceptance acceptance builtin typed) takes
  have extended := acceptance.extended
  rw [builtin.executionPolicy_eq] at extended
  rcases Executor.extends_cases served extended with ⟨other, -⟩ |
    ⟨credit, companions, holder, source, credited, -, named, present, applied, emitted⟩
  · exact absurd isTransfer other
  have sourceTyped := ((admitted_of_checkLoaded acceptance.admitted).typed source present).2.trans typed
  have creditSlot := writtenSlot_of_credit named applied emitted
  rw [transfers] at applied
  obtain ⟨toSubject, unit', amount', existing, next, named', same, given', found, sum, rfl⟩ :=
    (kind.credit_of_transferAfterState sourceTyped applied).amounts
  rw [← present] at same
  cases given.symm.trans given'
  obtain rfl := same had
  rw [current] at had
  obtain rfl := holder_of_holds keyed had
  obtain rfl : holder = ⟨toSubject⟩ := subject_eq_of_text
    (named.symm.trans (inputStr_eq_ok.mp named').1)
  exact ⟨credit, ⟨toSubject⟩, held, amount, left, existing, next, unit', congrArg (acceptance.event :: ·) companions,
    named, given, positive, had, rest, writtenSlot_own acceptance builtin served keyed subjectHeld keeps,
    acceptance.emitted.after_state.trans after, found, sum, creditSlot, emitted.after_state⟩

end Effects

/-! ## Steps -/

/-- What a step has done to the slot of a subject. -/
inductive SlotStep (step : RunStep W) (tenant : TenantId) (resource : ResourceId) (subject : SubjectId) : Prop
  | spared (untouched : ∀ event ∈ step.events, writtenSlot event ≠ ⟨tenant, resource, some subject⟩)
      (kept : step.result.read ⟨tenant, resource, some subject⟩ = step.table.read ⟨tenant, resource, some subject⟩)
  | moved (acceptance : step.executor.Acceptance step.intent step.coordinated)
      (emitted : acceptance.events = step.events) (tenant_eq : step.intent.tenantId = tenant)
      (resource_eq : step.intent.resourceId = resource) (actor_eq : step.intent.actor = subject)
      (builtin : Builtin acceptance.stateType acceptance.rules)
      (keeps : Transition.KeepsHolder step.intent.operation)
      (current : acceptance.current = step.table.read ⟨tenant, resource, some subject⟩)
      (state : (step.result.read ⟨tenant, resource, some subject⟩).map (·.state) = some acceptance.after)
  | bestowed (acceptance : step.executor.Acceptance step.intent step.coordinated)
      (emitted : acceptance.events = step.events) (builtin : Builtin acceptance.stateType acceptance.rules)
      (bestows : Bestows step.intent tenant resource subject)
      (state : (step.result.read ⟨tenant, resource, some subject⟩).map (·.state) = some acceptance.after)
  | credited (acceptance : step.executor.Acceptance step.intent step.coordinated)
      (emitted : acceptance.events = step.events) (tenant_eq : step.intent.tenantId = tenant)
      (resource_eq : step.intent.resourceId = resource)
      (transfers : Resource.isTransferOperation step.intent.operation)
      (named : step.intent.inputs.get? "to_subject" = some (.string subject.name))
      (source : StateProjection) (present : acceptance.current = some source) (after : ResourceState)
      (applied : Transition.transferAfterState source (step.table.read ⟨tenant, resource, some subject⟩)
        step.intent.operation step.intent.inputs = .ok after)
      (state : (step.result.read ⟨tenant, resource, some subject⟩).map (·.state) = some after)

variable {step : RunStep W} {tenant : TenantId} {resource : ResourceId} {subject : SubjectId}

theorem read_writeAll_concat (commitId : CommitId) (table : StateTable) (events : List Event) (event : Event) :
    (table.writeAll commitId (events ++ [event])).read (writtenSlot event) = some (projectionFor commitId event) := by
  rw [StateTable.writeAll, List.foldl_append, List.foldl_cons, List.foldl_nil, StateTable.read_write_self]

/-- The slot of an acceptance's event holds what the event left, unless its companion overwrites it. -/
theorem state_of_written (acceptance : step.executor.Acceptance step.intent step.coordinated)
    (emitted : acceptance.events = step.events) {slot : StateSlot} (written : writtenSlot acceptance.event = slot)
    (last : ∀ event ∈ acceptance.companions, writtenSlot event ≠ slot) :
    (step.result.read slot).map (·.state) = some acceptance.after := by
  have read := StateTable.read_writeAll_of_forall_ne step.commitId
    (step.table.write step.commitId acceptance.event) last
  rw [← written, StateTable.read_write_self] at read
  rw [RunStep.result, ← emitted, ← written]
  exact (congrArg (Option.map (·.state)) read).trans (congrArg some acceptance.emitted.after_state)

theorem slotStep_of_written (accepted : step.Accepted) (keyed : step.table.HoldersKeyed)
    (acceptance : step.executor.Acceptance step.intent step.coordinated) (emitted : acceptance.events = step.events)
    (written : writtenSlot acceptance.event = ⟨tenant, resource, some subject⟩)
    (last : ∀ event ∈ acceptance.companions, writtenSlot event ≠ ⟨tenant, resource, some subject⟩) :
    SlotStep step tenant resource subject := by
  have state := state_of_written acceptance emitted written last
  obtain ⟨builtin, bestows | ⟨rfl, rfl, rfl, keeps, current⟩⟩ :=
    writer_cases acceptance accepted.standard accepted.served keyed written
  · exact .bestowed acceptance emitted builtin bestows state
  · exact .moved acceptance emitted rfl rfl rfl builtin keeps current state

/-- What a step can do to the slot of a subject. -/
theorem slotStep_of_accepted (accepted : step.Accepted) (keyed : step.table.HoldersKeyed) (tenant : TenantId)
    (resource : ResourceId) (subject : SubjectId) : SlotStep step tenant resource subject := by
  by_cases untouched : ∀ event ∈ step.events, writtenSlot event ≠ ⟨tenant, resource, some subject⟩
  · exact .spared untouched (StateTable.read_writeAll_of_forall_ne _ _ untouched)
  rcases accepted.cases with replayed | ⟨acceptance, emitted⟩
  · rw [replayed] at untouched
    exact absurd (fun _ member => absurd member List.not_mem_nil) untouched
  rcases acceptance.companion_cases accepted.standard accepted.nativeDomains accepted.served with none |
    ⟨credit, one, holder, source, after, transfers, named, present, applied, emits⟩
  · refine slotStep_of_written accepted keyed acceptance emitted ?_ (by simp [none])
    rw [← emitted, Executor.Acceptance.events, none] at untouched
    simpa using untouched
  have creditSlot := writtenSlot_of_credit named applied emits
  by_cases same : writtenSlot credit = ⟨tenant, resource, some subject⟩
  · rw [creditSlot] at same
    obtain ⟨rfl, rfl, holder_eq⟩ := StateSlot.mk.inj same
    obtain rfl := Option.some.inj holder_eq
    refine .credited acceptance emitted rfl rfl transfers named source present after applied ?_
    rw [← creditSlot, RunStep.result, ← emitted, Executor.Acceptance.events, one]
    exact (congrArg (Option.map (·.state))
      (read_writeAll_concat step.commitId step.table [acceptance.event] credit)).trans
      (congrArg some emits.after_state)
  · refine slotStep_of_written accepted keyed acceptance emitted ?_ (by simpa [one] using same)
    rw [← emitted, Executor.Acceptance.events, one] at untouched
    simpa [same] using untouched

end StateChronicle.Verified
