import StateChronicle.Execution.Outcomes

/-!
# Runs

Intents are executed one after the other.  Each meets the states the earlier ones left, and its events are
committed before the next.  What one step can do to a slot is said once; invariants of whole runs follow from it.
-/

namespace StateChronicle.Execution

open Commit Domain Profiles

variable {W : Type} {event : Event} {resource : ResourceId} {current : StateProjection} {tenant : TenantId}

/-- One executed intent: the states it met, the worlds around it, and the commit of its events. -/
structure RunStep (W : Type) where
  executor : Executor W
  table : StateTable
  validated : ValidatedIntent
  coordinated : Bool
  persist : Bool
  world : W
  world' : W
  events : List Event
  commitId : CommitId

namespace RunStep

def intent (step : RunStep W) : Intent := step.validated.intent

def result (step : RunStep W) : StateTable := step.table.writeAll step.commitId step.events

/-- The intent is accepted by an executor over the recorded states, on any route. -/
structure Accepted (step : RunStep W) : Prop where
  standard : step.executor.profiles.Standard
  /-- Consumer-written execution policies are excluded: every registered domain keeps the one the trait gives it. -/
  nativeDomains : step.executor.profiles.NativeDomains
  served : step.executor.ports.Serves step.table
  executed : step.executor.executeInner step.validated step.coordinated step.persist step.world =
    .ok step.events step.world'

/-- A step is a replay without events or a fresh acceptance. -/
theorem Accepted.cases {step : RunStep W} (accepted : step.Accepted) :
    step.events = [] ∨
      ∃ acceptance : step.executor.Acceptance step.intent step.coordinated, acceptance.events = step.events := by
  rcases Executor.executeInner_eq_ok accepted.executed with ⟨replayed, -⟩ | fresh
  · exact .inl replayed
  · exact .inr fresh

end RunStep

/-- The steps of a run and the states it leaves. -/
inductive Executed (start : StateTable) : List (RunStep W) → StateTable → Prop
  | start : Executed start [] start
  | step {steps : List (RunStep W)} {step : RunStep W} (run : Executed start steps step.table)
      (accepted : step.Accepted) : Executed start (steps ++ [step]) step.result

namespace Executed

variable {start table : StateTable} {steps : List (RunStep W)}

theorem before {step : RunStep W} (run : Executed start steps table) (member : step ∈ steps) :
    step.Accepted ∧ ∃ earlier, earlier ⊆ steps ∧ Executed start earlier step.table := by
  induction run with
  | start => cases member
  | @step earlier last run accepted ih =>
    rcases List.mem_append.mp member with inside | final
    · obtain ⟨accepted, before, among, ran⟩ := ih inside
      exact ⟨accepted, before, List.Subset.trans among (List.subset_append_left _ _), ran⟩
    · obtain rfl := List.mem_singleton.mp final
      exact ⟨accepted, earlier, List.subset_append_left _ _, run⟩

section

variable {holds : StateTable → Prop} (run : Executed start steps table) (first : holds start)

include run first

/-- What every step preserves, the whole run preserves. -/
theorem invariant (keeps : ∀ step ∈ steps, step.Accepted → holds step.table → holds step.result) : holds table := by
  induction run with
  | start => exact first
  | @step earlier last run accepted ih =>
    refine keeps last (by simp) accepted (ih fun step member => ?_)
    exact keeps step (List.mem_append_left _ member)

/-- What every step preserves, every step meets. -/
theorem invariant_at (keeps : ∀ step ∈ steps, step.Accepted → holds step.table → holds step.result) {step : RunStep W}
    (member : step ∈ steps) : holds step.table := by
  obtain ⟨-, earlier, among, ran⟩ := run.before member
  exact ran.invariant first fun step inside => keeps step (among inside)

/-- Two conditions on steps that agree where the invariant holds, and of which one keeps it, agree on whole runs. -/
theorem forall_iff {p q : RunStep W → Prop} (agree : ∀ step ∈ steps, holds step.table → (p step ↔ q step))
    (keeps : ∀ step ∈ steps, holds step.table → p step → holds step.result) :
    (∀ step ∈ steps, p step) ↔ ∀ step ∈ steps, q step := by
  constructor
  · intro each step member
    have here := run.invariant_at first (fun step inside _ before => keeps step inside before (each step inside)) member
    exact (agree step member here).mp (each step member)
  · intro each step member
    have here := run.invariant_at first (fun step inside _ before =>
      keeps step inside before ((agree step inside before).mpr (each step inside))) member
    exact (agree step member here).mpr (each step member)

end

theorem split {earlier later : List (RunStep W)} {step : RunStep W}
    (run : Executed start (earlier ++ step :: later) table) :
    Executed start earlier step.table ∧ step.Accepted ∧ Executed step.result later table := by
  generalize whole : earlier ++ step :: later = steps at run
  induction run generalizing later with
  | start => simp at whole
  | @step before last run accepted ih =>
    rcases List.eq_nil_or_concat later with rfl | ⟨rest, final, rfl⟩
    · obtain ⟨rfl, same⟩ := List.append_inj' whole rfl
      obtain rfl := List.singleton_inj.mp same
      exact ⟨run, accepted, .start⟩
    · rw [List.concat_eq_append, ← List.cons_append, ← List.append_assoc] at whole
      obtain ⟨rfl, same⟩ := List.append_inj' whole rfl
      obtain rfl := List.singleton_inj.mp same
      obtain ⟨first, here, rest⟩ := ih rfl
      exact ⟨first, here, List.concat_eq_append ▸ rest.step accepted⟩

theorem holdersKeyed_at (run : Executed start steps table) (keyed : start.HoldersKeyed)
    {step : RunStep W} (member : step ∈ steps) : step.table.HoldersKeyed :=
  run.invariant_at keyed (fun _ _ _ keyed => keyed.writeAll _ _) member

end Executed

/-! ## What a step can do to a slot -/

theorem currentSlot_of_unheld {table : StateTable} {stateType : StateType} {intent : Intent}
    (unheld : stateType.subjectHeld = false) :
    currentSlot table (Resource.policy stateType) intent = ⟨intent.tenantId, intent.resourceId, none⟩ := by
  have primary : (Resource.policy stateType).primarySubject intent = none := by
    cases stateType <;> first | rfl | cases unheld
  have reload (current : Option StateProjection) :
      Executor.reloadSubject (Resource.policy stateType) intent current = none := by
    simp [Executor.reloadSubject, primary]
  rw [currentSlot, reload, primarySlot, primary]

namespace Executor.Acceptance

variable {self : Executor W} {table : StateTable} {intent : Intent} {coordinated : Bool}
  (acceptance : self.Acceptance intent coordinated) (standard : self.profiles.Standard)

include standard

theorem available (native : acceptance.stateType ≠ .custom) (present : acceptance.current = some current) :
    Resource.checkResourceAvailability current intent.operation = .ok () := by
  have access := (admitted_of_checkLoaded acceptance.admitted).access
  have builtin := acceptance.builtin standard fun custom =>
    native (Option.some.inj (acceptance.typed.symm.trans custom))
  rw [builtin.executionPolicy_eq, present] at access
  exact (Resource.checkAccess_eq_ok.mp access).2

theorem status_ne_terminal (present : acceptance.current = some current) (native : current.state.stateType ≠ .custom)
    {status : Status} (terminal : status ∈ Resource.terminalStatuses) : current.state.status ≠ some status := by
  intro recorded
  rw [((admitted_of_checkLoaded acceptance.admitted).typed current present).2] at native
  have available := acceptance.available standard native present
  rw [Resource.blocked_of_terminal recorded terminal] at available
  cases available

variable (nativeDomains : self.profiles.NativeDomains)

include nativeDomains

theorem policy_eq : acceptance.rules.executionPolicy = Resource.policy acceptance.stateType := by
  rcases ProfileRegistry.resolve_cases acceptance.resolved with ⟨native, served⟩ | ⟨custom, registered⟩
  · rw [(standard.builtin served).executionPolicy_eq, Resource.policy_of_ne_custom native]
  · rw [nativeDomains _ registered, custom]
    rfl

variable (served : self.ports.Serves table)

include served

theorem current_of_unheld (unheld : acceptance.stateType.subjectHeld = false) :
    acceptance.current = table.read ⟨intent.tenantId, intent.resourceId, none⟩ := by
  rw [acceptance.current_eq served, acceptance.policy_eq standard nativeDomains, currentSlot_of_unheld unheld]

/-- A companion is the credit of the holder a transfer names. -/
theorem companion_cases :
    acceptance.companions = [] ∨
      ∃ credit, acceptance.companions = [credit] ∧
        self.Credits table acceptance.stateType intent acceptance.current credit := by
  have extended := acceptance.extended
  rw [acceptance.policy_eq standard nativeDomains] at extended
  by_cases custom : acceptance.stateType = .custom
  · rw [custom] at extended
    generalize acceptance.companions = companions at extended
    cases extended with
    | alone => exact .inl rfl
    | companion targeted => cases targeted
  · rw [Resource.policy_of_ne_custom custom] at extended
    rcases Executor.extends_cases served extended with ⟨-, none⟩ | transfer
    · exact .inl none
    · exact .inr transfer

theorem credits_of_companion (member : event ∈ acceptance.companions) :
    self.Credits table acceptance.stateType intent acceptance.current event := by
  rcases acceptance.companion_cases standard nativeDomains served with none | ⟨credit, one, credits⟩
  · rw [none] at member
    cases member
  · rw [one, List.mem_singleton] at member
    exact member ▸ credits

theorem subject_of_companion (member : event ∈ acceptance.companions) :
    ∃ holder : SubjectId, intent.inputs.get? "to_subject" = some (.string holder.name) ∧
      writtenSlot event = ⟨intent.tenantId, intent.resourceId, some holder⟩ := by
  obtain ⟨holder, source, after, -, named, -, applied, emitted⟩ :=
    acceptance.credits_of_companion standard nativeDomains served member
  exact ⟨holder, named, writtenSlot_of_credit named applied emitted⟩

theorem unheld_of_written (member : event ∈ acceptance.events)
    (written : writtenSlot event = ⟨tenant, resource, none⟩) :
    event = acceptance.event ∧ intent.tenantId = tenant ∧ intent.resourceId = resource ∧
      acceptance.stateType.subjectHeld = false ∧ acceptance.current = table.read ⟨tenant, resource, none⟩ := by
  rcases List.mem_cons.mp member with rfl | companion
  · rw [writtenSlot, acceptance.emitted.tenantId, acceptance.emitted.resourceId,
      acceptance.emitted.after_state] at written
    obtain ⟨rfl, rfl, unheld⟩ := StateSlot.mk.inj written
    have keyed : acceptance.stateType.subjectHeld = false := by
      rw [← acceptance.after_stateType, ← ResourceState.subject_isSome_iff, unheld]
      rfl
    exact ⟨rfl, rfl, rfl, keyed, acceptance.current_of_unheld standard nativeDomains served keyed⟩
  · obtain ⟨holder, -, held⟩ := acceptance.subject_of_companion standard nativeDomains served companion
    rw [held] at written
    cases written

omit standard nativeDomains served in
theorem writtenSlot_of_unheld (unheld : acceptance.stateType.subjectHeld = false) :
    writtenSlot acceptance.event = ⟨intent.tenantId, intent.resourceId, none⟩ := by
  have subject : acceptance.after.subject = none := by
    rw [← Option.not_isSome_iff_eq_none, ResourceState.subject_isSome_iff, acceptance.after_stateType, unheld]
    exact Bool.false_ne_true
  rw [writtenSlot, acceptance.emitted.tenantId, acceptance.emitted.resourceId, acceptance.emitted.after_state, subject]

end Executor.Acceptance

/-- The intent is for the state a resource has by itself, not for one of its holders. -/
def Addresses (intent : Intent) (tenant : TenantId) (resource : ResourceId) : Prop :=
  intent.tenantId = tenant ∧ intent.resourceId = resource ∧
    ∃ stateType, intent.stateType = some stateType ∧ stateType.subjectHeld = false

/-- A step leaves the state of a resource alone, or replaces it with what it has computed from it. -/
theorem RunStep.Accepted.resource_cases {step : RunStep W} (accepted : step.Accepted) (tenant : TenantId)
    (resource : ResourceId) :
    ((step.events = [] ∨ ¬ Addresses step.intent tenant resource) ∧
        step.result.read ⟨tenant, resource, none⟩ = step.table.read ⟨tenant, resource, none⟩) ∨
      ∃ acceptance : step.executor.Acceptance step.intent step.coordinated,
        acceptance.events = step.events ∧ Addresses step.intent tenant resource ∧
        acceptance.current = step.table.read ⟨tenant, resource, none⟩ ∧
        ∃ projection, step.result.read ⟨tenant, resource, none⟩ = some projection ∧
          projection.state = acceptance.after := by
  rcases accepted.cases with replayed | ⟨acceptance, emitted⟩
  · left
    rw [RunStep.result, replayed]
    exact ⟨.inl rfl, rfl⟩
  by_cases addressed : Addresses step.intent tenant resource
  · right
    obtain ⟨rfl, rfl, stateType, typed, unheld⟩ := id addressed
    obtain rfl := Option.some.inj (acceptance.typed.symm.trans typed)
    have current := acceptance.current_of_unheld accepted.standard accepted.nativeDomains accepted.served unheld
    refine ⟨acceptance, emitted, addressed, current, projectionFor step.commitId acceptance.event, ?_,
      acceptance.emitted.after_state⟩
    rw [RunStep.result, ← emitted, Executor.Acceptance.events]
    -- The companions of a step are states of holders.
    refine (StateTable.read_writeAll_of_forall_ne step.commitId (step.table.write step.commitId acceptance.event)
      fun event companion written => ?_).trans ?_
    · obtain ⟨holder, -, held⟩ := acceptance.subject_of_companion accepted.standard accepted.nativeDomains
        accepted.served companion
      rw [held] at written
      cases written
    · rw [← acceptance.writtenSlot_of_unheld unheld, StateTable.read_write_self]
  · refine .inl ⟨.inr addressed, StateTable.read_writeAll_of_forall_ne _ _ fun event member written => addressed ?_⟩
    rw [← emitted] at member
    obtain ⟨-, sameTenant, sameResource, unheld, -⟩ := acceptance.unheld_of_written accepted.standard
      accepted.nativeDomains accepted.served member written
    exact ⟨sameTenant, sameResource, _, acceptance.typed, unheld⟩

/-- Once an intent for a resource's own state has been accepted, the resource has one. -/
theorem Executed.isSome_of_addressed {start table : StateTable} {steps : List (RunStep W)} {prior : RunStep W}
    (run : Executed start steps table) (member : prior ∈ steps) (fresh : prior.events ≠ [])
    (addressed : Addresses prior.intent tenant resource) : (table.read ⟨tenant, resource, none⟩).isSome := by
  induction run with
  | start => cases member
  | @step earlier last run accepted ih =>
    rcases accepted.resource_cases tenant resource with ⟨untouched, kept⟩ | ⟨-, -, -, -, next, read, -⟩
    · rw [kept]
      rcases List.mem_append.mp member with inside | final
      · exact ih inside
      · obtain rfl := List.mem_singleton.mp final
        rcases untouched with replayed | elsewhere
        · exact absurd replayed fresh
        · exact absurd addressed elsewhere
    · rw [read]
      rfl

end StateChronicle.Execution
