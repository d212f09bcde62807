import StateChronicle.Commit.StateTable
import StateChronicle.Execution.Acceptance

/-!
# Runs against a fixed index

The state index is a port; `Ports.Serves` says that whatever it answers is the content of one
table.  Under it the state a run loaded is a function of the table, the policy and the intent.
-/

namespace StateChronicle.Execution

open Commit Domain Foundation Profiles

variable {W : Type} {current : Option StateProjection} {stateType : StateType}

/-- Every answer of the state index is the content of `table`; the index may still fail. -/
structure Ports.Serves (ports : Ports W) (table : StateTable) : Prop where
  state : ∀ tenant resource w answer w', ports.getState tenant resource w = (.ok answer, w') →
    answer = table.read ⟨tenant, resource, none⟩
  subjectState : ∀ tenant subject resource w answer w',
    ports.getSubjectState tenant subject resource w = (.ok answer, w') →
      answer = table.read ⟨tenant, resource, some subject⟩

/-- The slot of the first lookup. -/
def primarySlot (policy : ExecutionPolicy) (intent : Intent) : StateSlot :=
  ⟨intent.tenantId, intent.resourceId, policy.primarySubject intent⟩

/-- The slot the current state of an intent is read from. -/
def currentSlot (table : StateTable) (policy : ExecutionPolicy) (intent : Intent) : StateSlot :=
  match Executor.reloadSubject policy intent (table.read (primarySlot policy intent)) with
  | some holder => ⟨intent.tenantId, intent.resourceId, some holder⟩
  | none => primarySlot policy intent

theorem currentSlot_of_holdersKeyed {table : StateTable} (keyed : table.HoldersKeyed) (held : stateType.subjectHeld)
    (intent : Intent) : currentSlot table (Resource.resourceExecution stateType) intent =
      ⟨intent.tenantId, intent.resourceId, some intent.actor⟩ := by
  have primary : primarySlot (Resource.resourceExecution stateType) intent =
      ⟨intent.tenantId, intent.resourceId, some intent.actor⟩ := by
    simp [primarySlot, Resource.resourceExecution, Resource.subjectFor, held]
  have stays : Executor.reloadSubject (Resource.resourceExecution stateType) intent
      (table.read (primarySlot (Resource.resourceExecution stateType) intent)) = none := by
    rw [primary]
    simp only [Executor.reloadSubject, Resource.resourceExecution, Resource.subjectFor,
      Resource.holderFor, held, if_true]
    cases found : table.read ⟨intent.tenantId, intent.resourceId, some intent.actor⟩ with
    | none => simp
    | some projection =>
      obtain ⟨-, -, subject⟩ := keyed _ projection rfl found
      simp [subject]
  simp only [currentSlot, stays]
  exact primary

namespace Executor

/-- The credit of the holder a transfer names. -/
inductive Credits (self : Executor W) (table : StateTable) (stateType : StateType) (intent : Intent)
    (current : Option StateProjection) (credit : Event) : Prop
  | intro (holder : SubjectId) (source : StateProjection) (after : ResourceState)
      (transfer : Resource.isTransferOperation intent.operation)
      (named : intent.inputs.get? "to_subject" = some (.string holder.name)) (present : current = some source)
      (applied : Transition.transferAfterState source (table.read ⟨intent.tenantId, intent.resourceId, some holder⟩)
        intent.operation intent.inputs = .ok after)
      (emitted : self.Emits (Resource.resourceExecution stateType) intent intent.resourceId
        (table.read ⟨intent.tenantId, intent.resourceId, some holder⟩) after credit)

variable {self : Executor W} {table : StateTable} {policy : ExecutionPolicy} {intent : Intent} {w w' : W}
  (served : self.ports.Serves table)

include served

theorem load_of_serves {tenant : TenantId} {resource : ResourceId} {subject : Option SubjectId}
    {answer : Option StateProjection} (returns : self.load tenant resource subject w = .ok answer w') :
    answer = table.read ⟨tenant, resource, subject⟩ := by
  cases subject with
  | none =>
    simp only [load, request_eq_ok] at returns
    exact served.state _ _ _ _ _ returns
  | some subject =>
    simp only [load, request_eq_ok] at returns
    exact served.subjectState _ _ _ _ _ _ returns

theorem loadCurrent_of_serves (returns : self.loadCurrent policy intent w = .ok current w') :
    current = table.read (currentSlot table policy intent) := by
  simp only [loadCurrent, EStateM.bind_eq_ok] at returns
  obtain ⟨first, w₁, firstLoaded, reloaded⟩ := returns
  obtain rfl : first = table.read (primarySlot policy intent) := load_of_serves served firstLoaded
  cases names : reloadSubject policy intent (table.read (primarySlot policy intent)) with
  | some holder =>
    simp only [reload, names] at reloaded
    simp only [currentSlot, names]
    exact load_of_serves served reloaded
  | none =>
    simp only [reload, names, EStateM.pure_apply, EStateM.Result.ok.injEq] at reloaded
    simp only [currentSlot, names]
    exact reloaded.1.symm

theorem Acceptance.current_eq {coordinated : Bool} (acceptance : self.Acceptance intent coordinated) :
    acceptance.current = table.read (currentSlot table acceptance.rules.executionPolicy intent) := by
  obtain ⟨_, _, loaded⟩ := acceptance.loaded
  exact loadCurrent_of_serves served loaded

/-- Under the baseline policy a transfer has one companion, the credit of its destination. -/
theorem extends_cases {companions : List Event}
    (extended : self.Extends (Resource.resourceExecution stateType) intent current companions) :
    (¬ Resource.isTransferOperation intent.operation ∧ companions = []) ∨
      ∃ credit, companions = [credit] ∧ self.Credits table stateType intent current credit := by
  cases extended with
  | alone untargeted =>
    rcases Resource.companionTarget_eq_ok untargeted with ⟨other, -⟩ | ⟨-, _, -, -, targeted⟩
    · exact .inl ⟨other, rfl⟩
    · cases targeted
  | @companion target destination source after credit targeted loaded present applied emitted =>
    rcases Resource.companionTarget_eq_ok targeted with ⟨-, untargeted⟩ | ⟨transfer, holder, named, -, aimed⟩
    · cases untargeted
    · cases aimed
      obtain ⟨_, _, loaded⟩ := loaded
      obtain rfl := load_of_serves served loaded
      exact .inr ⟨credit, rfl, holder, source, after, transfer, named, present, applied, emitted⟩

end Executor

/-- The credit of a transfer is written where its destination was read. -/
theorem writtenSlot_of_credit {self : Executor W} {intent : Intent} {holder : SubjectId} {source : StateProjection}
    {destination : Option StateProjection} {after : ResourceState} {credit : Event}
    (named : intent.inputs.get? "to_subject" = some (.string holder.name))
    (applied : Transition.transferAfterState source destination intent.operation intent.inputs = .ok after)
    (emitted : self.Emits (Resource.resourceExecution stateType) intent intent.resourceId destination after credit) :
    writtenSlot credit = ⟨intent.tenantId, intent.resourceId, some holder⟩ := by
  have subject := Transition.subject_of_transferAfterState applied
  rw [Transition.namedSubject, named] at subject
  rw [writtenSlot, emitted.tenantId, emitted.resourceId, emitted.after_state, subject]
  rfl

end StateChronicle.Execution
