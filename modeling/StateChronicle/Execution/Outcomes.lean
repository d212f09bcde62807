import StateChronicle.Execution.Batch
import StateChronicle.Execution.Claims
import StateChronicle.Execution.Index
import StateChronicle.Foundation.Aligned

/-!
# What a batch has done

Inversion of the batch routes.  The events of a batch that succeeded are the concatenation of what its intents
contributed; which slots an intent reads and writes is a function of the index.
-/

namespace StateChronicle.Execution

open Commit Domain Foundation Profiles
open Atomicity (TenantEventGroup TradeManifest)

variable {W α : Type} {event : Event} {leg : String × List ValidatedIntent}

/-! ## The boundary -/

variable {validated : ValidatedIntent}

section Boundary

variable {sink : Option (DurableBatchSink W)} {begin : W → Except TransactionManagerError (TransactionHandle W) × W}
  {intents : List ValidatedIntent} {events : α → List Event} {run : Run W α} {validate : α → Except ExecutorError Unit}
  {w w' : W} {γ : Type} {observe : W → γ}

variable (frames : Frames observe (request begin mapTransactionManagerError))

include frames

theorem frames_beginUnlessDurable :
    Frames observe (beginUnlessDurable sink begin) := by
  cases sink with
  | none => exact frames.map _
  | some sink => exact .pure _

theorem transactional_eq_ok {output : α}
    (returns : transactional sink begin intents events run validate w = .ok output w') :
    ∃ w₁ w₂, observe w₁ = observe w ∧ run w₁ = .ok output w₂ ∧ validate output = .ok () := by
  simp only [transactional, EStateM.bind_eq_ok, attempt_eq_ok] at returns
  obtain ⟨handle, w₁, began, result, w₂, ⟨produced, rfl, ran⟩ | ⟨error, rfl, -⟩, concluded⟩ := returns
  · simp only [liftM_eq_liftExcept, liftExcept_eq_ok, EStateM.pure_apply, EStateM.Result.ok.injEq] at ran
    obtain ⟨produced', w₃, ran, ⟨⟩, w₄, ⟨valid, rfl⟩, rfl, rfl⟩ := ran
    simp only [conclude, EStateM.bind_eq_ok, EStateM.pure_apply, EStateM.Result.ok.injEq] at concluded
    obtain ⟨-, -, -, -, -, -, rfl, -⟩ := concluded
    exact ⟨w₁, w₃, (frames_beginUnlessDurable frames).of_ok began, ran, valid⟩
  · simp only [conclude, EStateM.bind_eq_ok, EStateM.throw_apply, reduceCtorEq, and_false, exists_false] at concluded

end Boundary

/-! ## Contributions -/

/-- What an intent of a batch contributed: nothing, or the events of a fresh acceptance. -/
def Executor.Contributes (executor : Executor W) (coordinated : Bool) (validated : ValidatedIntent)
    (events : List Event) : Prop :=
  events = [] ∨ ∃ acceptance : executor.Acceptance validated.intent coordinated, acceptance.events = events

/-- A contribution, with the claim that decided which of the two it is. -/
inductive Executor.Produces (executor : Executor W) (claims : Claims) (coordinated : Bool)
    (validated : ValidatedIntent) : List Event → Prop
  | replay (claimed : claims.of validated.intent = some validated.intent) :
      executor.Produces claims coordinated validated []
  | fresh (unclaimed : claims.of validated.intent = none)
      (acceptance : executor.Acceptance validated.intent coordinated) :
      executor.Produces claims coordinated validated acceptance.events

namespace Executor

variable {self : Executor W} {claims : W → Claims} {coordinated persist : Bool}
  {intents : List ValidatedIntent} {events : List Event} {w w' : W}

theorem contributes_of_executeInner (returns : self.executeInner validated coordinated persist w = .ok events w') :
    self.Contributes coordinated validated events := by
  rcases executeInner_eq_ok returns with ⟨none, -⟩ | accepted
  · exact .inl none
  · exact .inr accepted

theorem produces_of_executeInner (stores : self.StoresClaims claims)
    (returns : self.executeInner validated coordinated persist w = .ok events w') :
    self.Produces (claims w) coordinated validated events := by
  rcases claims_of_executeInner stores.toRecordsClaims returns with
    ⟨rfl, claimed, -⟩ | ⟨⟨acceptance, rfl⟩, unclaimed, -⟩
  · exact .replay claimed
  · exact .fresh unclaimed acceptance

end Executor

/-- The events are what the intents contributed, in the order of the intents. -/
def Assembled (contribution : ValidatedIntent → List Event → Prop) (intents : List ValidatedIntent)
    (events : List Event) : Prop :=
  ∃ outputs, List.Forall₂ contribution intents outputs ∧ events = outputs.flatten

namespace Assembled

variable {contribution : ValidatedIntent → List Event → Prop} {intents : List ValidatedIntent} {events : List Event}

theorem exists_intent (assembled : Assembled contribution intents events) (member : event ∈ events) :
    ∃ validated ∈ intents, ∃ output, contribution validated output ∧ event ∈ output ∧ output.Sublist events := by
  obtain ⟨outputs, aligned, rfl⟩ := assembled
  obtain ⟨output, there, inside⟩ := List.mem_flatten.mp member
  obtain ⟨validated, supplied, contributed⟩ := Aligned.exists_left aligned there
  exact ⟨validated, supplied, output, contributed, inside, List.sublist_flatten_of_mem there⟩

theorem exists_output (assembled : Assembled contribution intents events) (supplied : validated ∈ intents) :
    ∃ output, contribution validated output ∧ output ⊆ events := by
  obtain ⟨outputs, aligned, rfl⟩ := assembled
  obtain ⟨output, there, contributed⟩ := Aligned.exists_right aligned supplied
  exact ⟨output, contributed, fun event inside => List.mem_flatten.mpr ⟨output, there, inside⟩⟩

/-- The outputs of a loop over the intents, each started where nothing has changed that is observed. -/
theorem of_collect {γ : Type} {observe : W → γ} {step : ValidatedIntent → Run W (List Event)} {w w' : W}
    (frames : ∀ validated, Frames observe (step validated))
    (contributes : ∀ {validated output w₁ w₂}, observe w₁ = observe w → step validated w₁ = .ok output w₂ →
      contribution validated output)
    (returns : collect step intents w = .ok events w') : Assembled contribution intents events := by
  obtain ⟨outputs, aligned, same⟩ := collect_eq_ok frames returns
  exact ⟨outputs, aligned.imp fun _ _ ⟨_, _, unchanged, ran⟩ => contributes unchanged ran, same⟩

end Assembled

namespace Executor

variable {self : Executor W} {claims : W → Claims} {coordinated persist : Bool}
  {intents : List ValidatedIntent} {events : List Event} {w w' : W}

theorem runBatch_contributes (returns : self.runBatch coordinated persist intents w = .ok events w') :
    Assembled (self.Contributes coordinated) intents events :=
  .of_collect (fun _ => Frames.blind _) (fun _ => contributes_of_executeInner) returns

theorem executeUnreplayed_eq_ok (returns : self.executeUnreplayed persist validated w = .ok events w') :
    self.executeInner validated false persist w = .ok events w' ∧ events ≠ [] := by
  simp only [executeUnreplayed, EStateM.bind_eq_ok, liftM_eq_liftExcept, liftExcept_eq_ok,
    rejectIf_eq_ok, EStateM.pure_apply, EStateM.Result.ok.injEq] at returns
  obtain ⟨produced, w₁, ran, -, w₂, ⟨fresh, rfl⟩, rfl, rfl⟩ := returns
  exact ⟨ran, fresh⟩

section Stored

variable (stores : self.StoresClaims claims)

include stores

theorem runBatch_produces (returns : self.runBatch coordinated false intents w = .ok events w') :
    Assembled (self.Produces (claims w) coordinated) intents events :=
  .of_collect (fun validated => frames_executeInner stores.toRecordsClaims validated coordinated)
    (fun unchanged ran => unchanged ▸ produces_of_executeInner stores ran) returns

theorem frames_runBatch (coordinated : Bool) (intents : List ValidatedIntent) :
    Frames claims (self.runBatch coordinated false intents) :=
  .collect (fun validated => frames_executeInner stores.toRecordsClaims validated coordinated) intents

theorem frames_runLeg (coordinated : Bool) (leg : String × List ValidatedIntent) :
    Frames claims (self.runLeg coordinated false leg) :=
  .bind (frames_runBatch stores coordinated leg.2) fun _ => .pure _

theorem frames_executeUnreplayed (validated : ValidatedIntent) :
    Frames claims (self.executeUnreplayed false validated) :=
  .bind (frames_executeInner stores.toRecordsClaims validated false) fun _ => .bind (.liftExcept _) fun _ => .pure _

theorem runBatchFailClosed_produces (returns : self.runBatchFailClosed false intents w = .ok events w') :
    Assembled (self.Produces (claims w) false) intents events :=
  .of_collect (frames_executeUnreplayed stores)
    (fun unchanged ran => unchanged ▸ produces_of_executeInner stores (executeUnreplayed_eq_ok ran).1) returns

/-! ## The single-tenant routes -/

theorem executeBatch_produces (returns : self.executeBatch intents w = .ok events w') :
    Assembled (self.Produces (claims w) false) intents events := by
  cases intents with
  | nil => cases returns
  | cons first rest =>
    obtain ⟨w₁, w₂, unchanged, ran, -⟩ := transactional_eq_ok (.request (stores.begin _)) returns
    exact unchanged ▸ runBatchFailClosed_produces stores ran

theorem executeSettle_produces (returns : self.executeSettle intents w = .ok events w') :
    Assembled (self.Produces (claims w) true) intents events := by
  cases intents with
  | nil => cases returns
  | cons first rest =>
    obtain ⟨w₁, w₂, unchanged, ran, -⟩ := transactional_eq_ok (.request (stores.begin _)) returns
    exact unchanged ▸ runBatch_produces stores ran

end Stored

/-! ## The cross-tenant routes -/

/-- A tenant's group is assembled from the tenant's own intents. -/
def GroupAssembled (contribution : ValidatedIntent → List Event → Prop)
    (leg : String × List ValidatedIntent) (group : TenantEventGroup) : Prop :=
  group.tenant.name = leg.1 ∧ Assembled contribution leg.2 group.events

variable {legs : List (String × List ValidatedIntent)} {groups : List TenantEventGroup}

theorem runLeg_eq_ok (returns : self.runLeg coordinated persist leg w = .ok groups w') :
    ∃ events, groups = [⟨⟨leg.1⟩, events⟩] ∧ self.runBatch coordinated persist leg.2 w = .ok events w' := by
  simp only [runLeg, EStateM.bind_eq_ok, EStateM.pure_apply, EStateM.Result.ok.injEq] at returns
  obtain ⟨events, w₁, ran, rfl, rfl⟩ := returns
  exact ⟨events, rfl, ran⟩

theorem runCrossTenantLegs_assembled {γ : Type} {observe : W → γ}
    {contribution : ValidatedIntent → List Event → Prop}
    (frames : ∀ leg, Frames observe (self.runLeg coordinated persist leg))
    (assembles : ∀ {intents events w₁ w₂}, observe w₁ = observe w →
      self.runBatch coordinated persist intents w₁ = .ok events w₂ →
      Assembled contribution intents events)
    (returns : self.runCrossTenantLegs coordinated persist legs w = .ok groups w') :
    List.Forall₂ (GroupAssembled contribution) legs groups := by
  obtain ⟨outputs, aligned, rfl⟩ := collect_eq_ok frames returns
  clear returns
  induction aligned with
  | nil => exact .nil
  | cons first _ ih =>
    obtain ⟨w₁, w₂, same, ran⟩ := first
    obtain ⟨events, rfl, batch⟩ := runLeg_eq_ok ran
    exact .cons ⟨rfl, assembles same batch⟩ ih

theorem runCrossTenantLegs_produces (stores : self.StoresClaims claims)
    (returns : self.runCrossTenantLegs coordinated false legs w = .ok groups w') :
    List.Forall₂ (GroupAssembled (self.Produces (claims w) coordinated)) legs groups :=
  runCrossTenantLegs_assembled (frames_runLeg stores coordinated)
    (fun same ran => same ▸ runBatch_produces stores ran) returns

theorem executeTenants_eq_ok {label : String} {γ : Type} {observe : W → γ}
    {validate : List TenantEventGroup → Except ProfileError Unit} {sink : Option (DurableBatchSink W)}
    (frames : ∀ tenants, Frames observe (request (self.ports.beginMulti tenants) mapTransactionManagerError))
    (returns : self.executeTenants label coordinated validate intents sink w = .ok groups w') :
    ∃ w₁ w₂, observe w₁ = observe w ∧
      self.runCrossTenantLegs coordinated sink.isSome (byTenant intents).entries w₁ = .ok groups w₂ ∧
      validate groups = .ok () := by
  simp only [executeTenants, EStateM.bind_eq_ok, liftM_eq_liftExcept, liftExcept_eq_ok] at returns
  obtain ⟨-, _, ⟨-, rfl⟩, returns⟩ := returns
  obtain ⟨w₁, w₂, same, ran, valid⟩ := transactional_eq_ok (frames _) returns
  exact ⟨w₁, w₂, same, ran, Except.mapError_eq_ok.mp valid⟩

theorem mem_of_mem_leg (known : leg ∈ (byTenant intents).entries) (member : validated ∈ leg.2) :
    validated ∈ intents := by
  obtain ⟨group, -⟩ := SortedMap.mem_entries_groupBy.mp known
  rw [group] at member
  exact (List.mem_filter.mp member).1

theorem exists_leg (supplied : validated ∈ intents) : ∃ leg ∈ (byTenant intents).entries, validated ∈ leg.2 := by
  have known : validated.intent.tenantId.name ∈ (byTenant intents).keys :=
    SortedMap.mem_keys_groupBy.mpr ⟨validated, supplied, rfl⟩
  obtain ⟨group, found⟩ := SortedMap.mem_keys_iff.mp known
  refine ⟨(validated.intent.tenantId.name, group), SortedMap.mem_entries_iff.mpr found, ?_⟩
  rw [(SortedMap.get?_groupBy.mp found).1]
  exact List.mem_filter.mpr ⟨supplied, decide_eq_true rfl⟩

end Executor

variable (executor : Executor W) (table : StateTable)

/-! ## Slots read and written -/

/-- A slot an intent reads and the slot it writes in return. -/
structure Access where
  source : StateSlot
  target : StateSlot
deriving DecidableEq, Repr

def primaryAccess (rules : ProfileRules) (intent : Intent) : List Access :=
  let source := currentSlot table rules.executionPolicy intent
  match rules.apply (table.read source) intent.operation intent.inputs with
  | .ok after => [⟨source, ⟨intent.tenantId, intent.resourceId, after.subject⟩⟩]
  | .error _ => []

def companionAccess (policy : ExecutionPolicy) (intent : Intent) : List Access :=
  match policy.companionTarget intent, table.read (currentSlot table policy intent) with
  | .ok (some address), some source =>
    let destination : StateSlot := ⟨intent.tenantId, address.resource, address.subject⟩
    match policy.applyCompanion intent source (table.read destination) with
    | .ok after => [⟨destination, ⟨intent.tenantId, address.resource, after.subject⟩⟩]
    | .error _ => []
  | _, _ => []

/-- The accesses of an intent, computed from the index and the registered rules. -/
def Executor.accesses (intent : Intent) : List Access :=
  match intent.stateType with
  | none => []
  | some stateType =>
    match executor.profiles.resolve stateType intent.inputs with
    | .ok rules => primaryAccess table rules intent ++
        companionAccess table rules.executionPolicy intent
    | .error _ => []

/-- The event takes the state at the source of the access to the target. -/
structure Executor.Follows (access : Access) (event : Event) : Prop where
  names : Names (table.read access.source) event
  target : writtenSlot event = access.target
  tenant : access.source.tenant = access.target.tenant
  resource : access.source.resource = access.target.resource
  version : event.after.version.val = event.before.version.val + 1
  digest : executor.digestState event.after.state = .ok event.after.stateHash

namespace Executor

variable {self : Executor W} {table : StateTable} {intent : Intent} {coordinated : Bool}

theorem Emits.follows {policy : ExecutionPolicy} {resource : ResourceId} {slot : StateSlot} {after : ResourceState}
    (tenant : slot.tenant = intent.tenantId) (same : slot.resource = resource)
    (emitted : self.Emits policy intent resource (table.read slot) after event) :
    self.Follows table ⟨slot, ⟨intent.tenantId, resource, after.subject⟩⟩ event := by
  obtain ⟨-, version, digest, state⟩ := commitments_eq_ok emitted.committed
  refine ⟨emitted.names, ?_, tenant, same, version, state ▸ digest⟩
  rw [writtenSlot, emitted.tenantId, emitted.resourceId, emitted.after_state]

theorem currentSlot_tenant (table : StateTable) (policy : ExecutionPolicy) (intent : Intent) :
    (currentSlot table policy intent).tenant = intent.tenantId := by
  unfold currentSlot
  split <;> rfl

theorem currentSlot_resource (table : StateTable) (policy : ExecutionPolicy) (intent : Intent) :
    (currentSlot table policy intent).resource = intent.resourceId := by
  unfold currentSlot
  split <;> rfl

theorem follows_of_acceptance (served : self.ports.Serves table) (acceptance : self.Acceptance intent coordinated) :
    List.Forall₂ (self.Follows table) (self.accesses table intent) acceptance.events := by
  have current := acceptance.current_eq served
  have primary : primaryAccess table acceptance.rules intent =
      [⟨currentSlot table acceptance.rules.executionPolicy intent,
        ⟨intent.tenantId, intent.resourceId, acceptance.after.subject⟩⟩] := by
    have applied := acceptance.applied
    rw [current] at applied
    simp only [primaryAccess, applied]
  have emitted := acceptance.emitted
  rw [current] at emitted
  have first := emitted.follows (currentSlot_tenant _ _ _) (currentSlot_resource _ _ _)
  have companions : List.Forall₂ (self.Follows table)
      (companionAccess table acceptance.rules.executionPolicy intent) acceptance.companions := by
    have extended := acceptance.extended
    generalize acceptance.companions = companions at extended
    cases extended with
    | alone untargeted =>
      simp [companionAccess, untargeted]
    | companion targeted loaded present applied emitted =>
      obtain ⟨_, _, loaded⟩ := loaded
      obtain rfl := load_of_serves served loaded
      rw [current] at present
      simp only [companionAccess, targeted, present, applied]
      exact .cons (emitted.follows rfl rfl) .nil
  have routed : self.accesses table intent = primaryAccess table acceptance.rules intent ++
      companionAccess table acceptance.rules.executionPolicy intent := by
    simp only [accesses, acceptance.typed, acceptance.resolved]
  rw [routed, primary]
  exact .cons first companions

def freshAccesses (self : Executor W) (claims : Claims) (table : StateTable)
    (intents : List ValidatedIntent) : List Access :=
  (intents.filter fun validated => (claims.of validated.intent).isNone).flatMap fun validated =>
    self.accesses table validated.intent

theorem follows_of_produces (served : self.ports.Serves table) {claims : Claims} {intents : List ValidatedIntent}
    {events : List Event} (assembled : Assembled (self.Produces claims coordinated) intents events) :
    List.Forall₂ (self.Follows table) (self.freshAccesses claims table intents) events := by
  obtain ⟨outputs, produced, rfl⟩ := assembled
  induction produced with
  | nil => exact .nil
  | @cons validated output rest outputs first _ ih =>
    cases first with
    | replay claimed =>
      rw [freshAccesses, List.filter_cons_of_neg (by simp [claimed])]
      exact ih
    | fresh unclaimed acceptance =>
      rw [freshAccesses, List.filter_cons_of_pos (by simp [unclaimed]), List.flatMap_cons, List.flatten_cons]
      exact List.rel_append (follows_of_acceptance served acceptance) ih

end Executor

end StateChronicle.Execution
