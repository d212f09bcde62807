import StateChronicle.Execution.Pipeline

/-!
# What an accepted intent has established

Inversion of the pipeline: a run that emitted events went through every gate, and `Acceptance` keeps what it read and
computed; a run that emitted nothing found the intent already claimed.
-/

namespace StateChronicle.Execution

open StateChronicle.Core Domain Foundation Profiles

variable {W : Type} {authority : Option AuthorityProof}

/-! ## The gates -/

variable {current : Option StateProjection} {policy : ExecutionPolicy} {after : ResourceState} {self : Executor W}
  {rules : ProfileRules} {stateType : StateType} {intent : Intent} (executor : Executor W)

/-- What the gates on a loaded state establish. -/
structure Admitted (rules : ProfileRules) (stateType : StateType) (intent : Intent)
    (current : Option StateProjection) : Prop where
  typed : ∀ projection, current = some projection →
    projection.stateType = stateType ∧ projection.state.stateType = stateType
  version : checkExpectedVersion intent current = .ok ()
  access : rules.executionPolicy.checkAccess intent current = .ok ()
  domain : checkCustomDomain rules stateType intent current = .ok ()

theorem admitted_of_checkLoaded
    (passed : checkLoaded rules stateType intent current = .ok ()) : Admitted rules stateType intent current := by
  simp only [checkLoaded, Except.bind_eq_ok, Except.mapError_eq_ok] at passed
  obtain ⟨⟨⟩, typed, ⟨⟩, version, ⟨⟩, access, domain⟩ := passed
  refine ⟨fun projection present => ?_, version, access, domain⟩
  subst present
  simpa [checkStateType, not_or] using typed

theorem transition_eq_ok :
    transition rules stateType intent current = .ok after ↔
      rules.check intent.operation current intent.inputs = .ok () ∧
      rules.apply current intent.operation intent.inputs = .ok after ∧
      after.stateType = stateType ∧ checkCustomAfter rules after = .ok () := by
  simp only [transition, Except.bind_eq_ok, Except.mapError_eq_ok, rejectIf_eq_ok, not_not, Except.pure_eq_ok]
  constructor
  · rintro ⟨⟨⟩, checked, _, applied, -, typed, ⟨⟩, domain, rfl⟩
    exact ⟨checked, applied, typed, domain⟩
  · rintro ⟨checked, applied, typed, domain⟩
    exact ⟨(), checked, after, applied, (), typed, (), domain, rfl⟩

theorem Executor.digestState_eq_ok {state : ResourceState} {digest : ContentDigest} :
    self.digestState state = .ok digest ↔ self.codec.digestState state = .ok digest := by
  rw [digestState, Except.mapError_eq_ok]

/-- The commitments of an event: the versions are consecutive and both states are digested. -/
theorem Executor.commitments_eq_ok {committed : StateCommitment × StateCommitment}
    (computed : self.commitments policy current after = .ok committed) :
    self.beforeCommitment policy current after = .ok committed.1 ∧
      committed.2.version.val = committed.1.version.val + 1 ∧
      self.digestState after = .ok committed.2.stateHash ∧ committed.2.state = after := by
  simp only [commitments, nextVersion, Except.bind_eq_ok, okOr_eq_ok, Except.pure_eq_ok] at computed
  obtain ⟨version, grown, before, began, digest, digested, rfl⟩ := computed
  refine ⟨began, ?_, digested, rfl⟩
  have read : before.version = (current.map (·.version)).getD 0 := by
    cases current with
    | some projection =>
      cases began
      rfl
    | none =>
      simp only [beforeCommitment, Except.bind_eq_ok, Except.pure_eq_ok] at began
      obtain ⟨_, -, _, -, rfl⟩ := began
      rfl
  rw [read]
  exact (checkedAdd_eq_some.mp grown).symm

/-! ## Emitted events -/

/-- The event takes `current` to `after` on behalf of the intent. -/
structure Executor.Emits (policy : ExecutionPolicy) (intent : Intent)
    (resource : ResourceId) (current : Option StateProjection) (after : ResourceState)
    (event : Event) : Prop where
  schema : event.schema = eventSchema
  tenantId : event.tenantId = intent.tenantId
  intentId : event.intentId = intent.intentId
  operation : event.operation = intent.operation
  resourceId : event.resourceId = resource
  actor : event.actor = intent.actor
  committed : executor.commitments policy current after = .ok (event.before, event.after)

/-- What the companion stage emitted after the primary event. -/
inductive Executor.Extends (executor : Executor W) (policy : ExecutionPolicy) (intent : Intent)
    (current : Option StateProjection) : List Event → Prop
  | alone (untargeted : policy.companionTarget intent = .ok none) :
      executor.Extends policy intent current []
  | companion {target : StateAddress} {destination : Option StateProjection}
      {source : StateProjection} {after : ResourceState} {event : Event}
      (targeted : policy.companionTarget intent = .ok (some target))
      (loaded : ∃ w w', executor.load intent.tenantId target.resource target.subject w = .ok destination w')
      (present : current = some source)
      (applied : policy.applyCompanion intent source destination = .ok after)
      (emitted : executor.Emits policy intent target.resource destination after event) :
      executor.Extends policy intent current [event]

/-- A fresh acceptance of an intent under a routing flag. -/
structure Executor.Acceptance (intent : Intent) (allowCoordinated : Bool) where
  stateType : StateType
  rules : ProfileRules
  current : Option StateProjection
  after : ResourceState
  event : Event
  companions : List Event
  typed : intent.stateType = some stateType
  resolved : executor.profiles.resolve stateType intent.inputs = .ok rules
  routed : rules.executionPolicy.validateRoute intent allowCoordinated = .ok ()
  loaded : ∃ w w', executor.loadCurrent rules.executionPolicy intent w = .ok current w'
  admitted : checkLoaded rules stateType intent current = .ok ()
  reduced : transition rules stateType intent current = .ok after
  emitted : executor.Emits rules.executionPolicy intent intent.resourceId current after event
  extended : executor.Extends rules.executionPolicy intent current companions

namespace Executor

variable {resource : ResourceId} {event : Event}

def Acceptance.events {self : Executor W} {intent : Intent} {coordinated : Bool}
    (acceptance : self.Acceptance intent coordinated) : List Event :=
  acceptance.event :: acceptance.companions

variable {self : Executor W} {intent : Intent} {coordinated persist : Bool}
  {validated : ValidatedIntent} {events : List Event} {w w' : W}

theorem emits_of_emit {commitments : StateCommitment × StateCommitment}
    (computed : self.commitments policy current after = .ok commitments)
    (returns : self.emit intent resource commitments authority w = .ok event w') :
    self.Emits policy intent resource current after event := by
  simp only [emit, EStateM.bind_eq_ok, EStateM.pure_apply, EStateM.Result.ok.injEq] at returns
  obtain ⟨eventId, w₁, -, now, w₂, -, rfl, -⟩ := returns
  exact ⟨rfl, rfl, rfl, rfl, rfl, rfl, computed⟩

theorem extends_of_emitCompanions {target : Option StateAddress} (targeted : policy.companionTarget intent = .ok target)
    (returns : self.emitCompanions policy intent current authority target w = .ok events w') :
    self.Extends policy intent current events := by
  cases target with
  | none =>
    simp only [emitCompanions, EStateM.pure_apply, EStateM.Result.ok.injEq] at returns
    obtain ⟨rfl, -⟩ := returns
    exact .alone targeted
  | some target =>
    simp only [emitCompanions, emitCompanion, EStateM.bind_eq_ok, EStateM.pure_apply,
      EStateM.Result.ok.injEq, liftM_eq_liftExcept, liftExcept_eq_ok, Except.mapError_eq_ok,
      okOr_eq_ok] at returns
    obtain ⟨event, _, ⟨destination, w₁, loaded, source, w₂, ⟨present, -⟩, after, w₃,
      ⟨applied, -⟩, commitments, w₄, ⟨computed, -⟩, emitted⟩, rfl, -⟩ := returns
    exact .companion targeted ⟨_, _, loaded⟩ present applied (emits_of_emit computed emitted)

/-- What the gates let through: a fresh intent on its way from `w` to `w'`, where it can be claimed.  Each gate is given
with the answers of the ports that it looks at. -/
structure Passage (executor : Executor W) (validated : ValidatedIntent) (bytes : List UInt8) (coordinated : Bool)
    (w w' : W) where
  stateType : StateType
  rules : ProfileRules
  current : Option StateProjection
  authority : Option AuthorityProof
  after : ResourceState
  commitments : StateCommitment × StateCommitment
  event : Event
  target : Option StateAddress
  companions : List Event
  (w₁ w₂ w₃ w₄ w₅ w₆ : W)
  signed : executor.verifySignature validated.signature bytes w = .ok () w₁
  unrevoked : executor.checkPresentedProof validated.intent.authority w₁ = .ok () w₂
  known : executor.checkTenant validated.intent w₂ = .ok () w₃
  typed : validated.intent.stateType = some stateType
  resolved : executor.profiles.resolve stateType validated.intent.inputs = .ok rules
  routed : rules.executionPolicy.validateRoute validated.intent coordinated = .ok ()
  loaded : executor.loadCurrent rules.executionPolicy validated.intent w₃ = .ok current w₄
  admitted : checkLoaded rules stateType validated.intent current = .ok ()
  authorised : executor.evaluateAuthority rules validated.intent w₄ = .ok authority w₅
  reduced : transition rules stateType validated.intent current = .ok after
  computed : executor.commitments rules.executionPolicy current after = .ok commitments
  emitted : executor.emit validated.intent validated.intent.resourceId commitments authority w₅ = .ok event w₆
  targeted : rules.executionPolicy.companionTarget validated.intent = .ok target
  extended : executor.emitCompanions rules.executionPolicy validated.intent current authority target w₆ =
    .ok companions w'

variable {bytes : List UInt8}

theorem executeFresh_eq_ok : self.executeFresh validated bytes coordinated w = .ok events w' ↔
    ∃ passage : self.Passage validated bytes coordinated w w', passage.event :: passage.companions = events := by
  simp only [executeFresh, EStateM.bind_eq_ok, liftM_eq_liftExcept, liftExcept_eq_ok, Except.mapError_eq_ok,
    okOr_eq_ok, EStateM.pure_apply, EStateM.Result.ok.injEq, and_assoc, exists_eq_left', exists_and_left]
  constructor
  · rintro ⟨⟨⟩, w₁, signed, ⟨⟩, w₂, unrevoked, ⟨⟩, w₃, known, stateType, typed, rules, resolved, ⟨⟩, routed, current,
      w₄, loaded, ⟨⟩, admitted, authority, w₅, authorised, after, reduced, commitments, computed, event, w₆, emitted,
      target, targeted, companions, _, extended, rfl, rfl⟩
    exact ⟨⟨stateType, rules, current, authority, after, commitments, event, target, companions, w₁, w₂, w₃, w₄, w₅,
      w₆, signed, unrevoked, known, typed, resolved, routed, loaded, admitted, authorised, reduced, computed, emitted,
      targeted, extended⟩, rfl⟩
  · rintro ⟨passage, rfl⟩
    exact ⟨_, _, passage.signed, _, _, passage.unrevoked, _, _, passage.known, _, passage.typed, _, passage.resolved,
      _, passage.routed, _, _, passage.loaded, _, passage.admitted, _, _, passage.authorised, _, passage.reduced, _,
      passage.computed, _, _, passage.emitted, _, passage.targeted, _, _, passage.extended, rfl, rfl⟩

theorem acceptance_of_executeFresh (returns : self.executeFresh validated bytes coordinated w = .ok events w') :
    ∃ acceptance : self.Acceptance validated.intent coordinated, acceptance.events = events := by
  obtain ⟨passage, rfl⟩ := executeFresh_eq_ok.mp returns
  exact ⟨{ passage with
    loaded := ⟨_, _, passage.loaded⟩
    emitted := emits_of_emit passage.computed passage.emitted
    extended := extends_of_emitCompanions passage.targeted passage.extended }, rfl⟩

/-- A run of the pipeline looks for the claim of its intent.  It is a replay of the claimed intent, or it runs the
fresh intent and claims it when it persists. -/
theorem executeInner_steps : self.executeInner validated coordinated persist w = .ok events w' ↔
    ∃ bytes w₁ existing w₂, self.checkBody validated.intent w = .ok bytes w₁ ∧
      self.findClaim validated.intent w₁ = .ok existing w₂ ∧
      (existing = some validated.intent ∧ events = [] ∧ w' = w₂ ∨
        existing = none ∧ ∃ w₃, self.executeFresh validated bytes coordinated w₂ = .ok events w₃ ∧
          self.claim validated.intent persist w₃ = .ok () w') := by
  simp only [executeInner, EStateM.bind_eq_ok]
  constructor
  · rintro ⟨bytes, w₁, body, existing, w₂, found, run⟩
    refine ⟨bytes, w₁, existing, w₂, body, found, ?_⟩
    cases existing with
    | some existing =>
      simp only [executeUnlessClaimed, EStateM.bind_eq_ok, liftM_eq_liftExcept, liftExcept_eq_ok,
        checkIdempotencyExisting, rejectIf_eq_ok, EStateM.pure_apply, EStateM.Result.ok.injEq, not_not] at run
      obtain ⟨-, w₃, ⟨rfl, rfl⟩, rfl, rfl⟩ := run
      exact .inl ⟨rfl, rfl, rfl⟩
    | none =>
      simp only [executeUnlessClaimed, EStateM.bind_eq_ok, EStateM.pure_apply, EStateM.Result.ok.injEq] at run
      obtain ⟨emitted, w₃, fresh, ⟨⟩, w₄, claimed, rfl, rfl⟩ := run
      exact .inr ⟨rfl, w₃, fresh, claimed⟩
  · rintro ⟨bytes, w₁, _, w₂, body, found, ⟨rfl, rfl, rfl⟩ | ⟨rfl, w₃, fresh, claimed⟩⟩
    · exact ⟨bytes, w₁, body, _, _, found, EStateM.bind_eq_ok.mpr
        ⟨(), _, liftExcept_eq_ok.mpr ⟨rejectIf_eq_ok.mpr (not_not.mpr rfl), rfl⟩, rfl⟩⟩
    · exact ⟨bytes, w₁, body, _, w₂, found, EStateM.bind_eq_ok.mpr
        ⟨events, w₃, fresh, EStateM.bind_eq_ok.mpr ⟨(), w', claimed, rfl⟩⟩⟩

section

variable (returns : self.executeInner validated coordinated persist w = .ok events w')

include returns

theorem executeInner_eq_ok :
    (events = [] ∧ ∃ w₁ w₂, self.findClaim validated.intent w₁ = .ok (some validated.intent) w₂) ∨
      ∃ acceptance : self.Acceptance validated.intent coordinated, acceptance.events = events := by
  obtain ⟨_, w₁, _, w₂, -, found, ⟨rfl, none, -⟩ | ⟨-, _, fresh, -⟩⟩ := executeInner_steps.mp returns
  · exact .inl ⟨none, w₁, w₂, found⟩
  · exact .inr (acceptance_of_executeFresh fresh)

theorem acceptance_of_fresh (fresh : events ≠ []) :
    ∃ acceptance : self.Acceptance validated.intent coordinated, acceptance.events = events := by
  rcases executeInner_eq_ok returns with ⟨replayed, -⟩ | accepted
  · exact absurd replayed fresh
  · exact accepted

end

/-! ## Built-in operations -/

variable (acceptance : self.Acceptance intent coordinated)

theorem Acceptance.builtin (standard : self.profiles.Standard) (native : intent.stateType ≠ some .custom) :
    Builtin acceptance.stateType acceptance.rules := by
  rcases ProfileRegistry.resolve_cases acceptance.resolved with ⟨-, served⟩ | ⟨custom, -⟩
  · exact standard.builtin served
  · exact absurd (custom ▸ acceptance.typed) native

/-- An operation with a reserved name is only accepted by a built-in rule set. -/
theorem Acceptance.builtin_of_reserved (standard : self.profiles.Standard)
    (reserved : intent.operation.stateTypeHint.isSome) : Builtin acceptance.stateType acceptance.rules := by
  rcases ProfileRegistry.resolve_cases acceptance.resolved with ⟨-, served⟩ | ⟨custom, registered⟩
  · exact standard.builtin served
  · have domain := (admitted_of_checkLoaded acceptance.admitted).domain
    simp only [checkCustomDomain, custom, if_true, Except.bind_eq_ok, rejectIf_eq_ok, not_not] at domain
    obtain ⟨-, -, -, allowed, -⟩ := domain
    rw [(standard.custom _ registered).2 _ allowed] at reserved
    cases reserved

theorem Acceptance.stamped (member : event ∈ acceptance.events) :
    event.tenantId = intent.tenantId ∧ event.intentId = intent.intentId ∧ event.operation = intent.operation := by
  have extended := acceptance.extended
  rw [Acceptance.events] at member
  generalize acceptance.companions = companions at extended member
  rcases List.mem_cons.mp member with rfl | later
  · exact ⟨acceptance.emitted.tenantId, acceptance.emitted.intentId, acceptance.emitted.operation⟩
  · cases extended with
    | alone => cases later
    | companion _ _ _ _ emitted =>
      rw [List.mem_singleton.mp later]
      exact ⟨emitted.tenantId, emitted.intentId, emitted.operation⟩

/-- Under a built-in rule set transfers have one companion event and nothing else has any. -/
theorem Acceptance.companions_cases (builtin : Builtin acceptance.stateType acceptance.rules) :
    (¬ Resource.isTransferOperation intent.operation ∧ acceptance.companions = []) ∨
      (Resource.isTransferOperation intent.operation ∧ ∃ credit, acceptance.companions = [credit]) := by
  have extended := acceptance.extended
  rw [builtin.executionPolicy_eq] at extended
  generalize acceptance.companions = companions at extended
  cases extended with
  | alone untargeted =>
    rcases Resource.companionTarget_eq_ok untargeted with ⟨other, -⟩ | ⟨-, _, -, -, targeted⟩
    · exact .inl ⟨other, rfl⟩
    · cases targeted
  | @companion _ _ _ _ credit targeted =>
    rcases Resource.companionTarget_eq_ok targeted with ⟨-, untargeted⟩ | ⟨transfer, -⟩
    · cases untargeted
    · exact .inr ⟨transfer, credit, rfl⟩

theorem Acceptance.companions_of_other (builtin : Builtin acceptance.stateType acceptance.rules)
    (other : ¬ Resource.isTransferOperation intent.operation) : acceptance.companions = [] := by
  rcases acceptance.companions_cases builtin with ⟨-, none⟩ | ⟨transfers, -⟩
  · exact none
  · exact absurd transfers other

theorem Acceptance.checked : acceptance.rules.check intent.operation acceptance.current intent.inputs = .ok () :=
  (transition_eq_ok.mp acceptance.reduced).1

theorem Acceptance.applied :
    acceptance.rules.apply acceptance.current intent.operation intent.inputs = .ok acceptance.after :=
  (transition_eq_ok.mp acceptance.reduced).2.1

/-- A built-in rule set reduces with the reducer of its state type. -/
theorem Acceptance.appliedTyped (builtin : Builtin acceptance.stateType acceptance.rules) :
    Transition.applyTyped acceptance.current intent.operation intent.inputs acceptance.stateType =
      .ok acceptance.after := by
  have applied := acceptance.applied
  rw [builtin.apply_eq, Transition.apply] at applied
  obtain ⟨stateType, chosen, reduced⟩ := Except.bind_eq_ok.mp applied
  suffices same : stateType = acceptance.stateType by rwa [same] at reduced
  cases present : acceptance.current with
  | none =>
    rw [present, Transition.stateTypeOf, okOr_eq_ok] at chosen
    exact builtin.eq_of_stateTypeHint (builtin.mem_allowedOperations acceptance.checked) chosen
  | some current =>
    rw [present] at chosen
    rw [← ((admitted_of_checkLoaded acceptance.admitted).typed current present).1]
    exact (Except.ok.inj chosen).symm

theorem Acceptance.after_stateType : acceptance.after.stateType = acceptance.stateType :=
  (transition_eq_ok.mp acceptance.reduced).2.2.1

/-- The before commitment of an event is the state that was loaded, at version 0 when there was
none. -/
def Names (loaded : Option StateProjection) (event : Event) : Prop :=
  match loaded with
  | some projection => event.before = projection.commitment
  | none => event.before.version = 0

theorem Emits.names (emitted : self.Emits policy intent resource current after event) : Names current event := by
  have began := (commitments_eq_ok emitted.committed).1
  cases current with
  | some projection => exact (Except.ok.inj began).symm
  | none =>
    simp only [beforeCommitment, Except.bind_eq_ok, Except.pure_eq_ok] at began
    obtain ⟨_, -, _, -, unborn⟩ := began
    exact (congrArg StateCommitment.version unborn).symm

theorem Emits.after_state (emitted : self.Emits policy intent resource current after event) :
    event.after.state = after :=
  (commitments_eq_ok emitted.committed).2.2.2

/-- The state an event replaces: the recorded one, or the one a policy gives to what is not there yet. -/
def beforeState (policy : ExecutionPolicy) (current : Option StateProjection) (after : ResourceState) :
    Except ProfileError ResourceState :=
  match current with
  | some projection => .ok projection.state
  | none => policy.unbornState after

/-- An event commits to its before-state, by the digest recorded with it if it was recorded. -/
theorem Emits.before_state (emitted : self.Emits policy intent resource current after event)
    (canonical : ∀ projection, current = some projection →
      self.codec.digestState projection.state = .ok projection.stateHash) :
    beforeState policy current after = .ok event.before.state ∧
      self.codec.digestState event.before.state = .ok event.before.stateHash := by
  have began := (commitments_eq_ok emitted.committed).1
  cases current with
  | some projection =>
    simp only [beforeCommitment, Except.ok.injEq] at began
    rw [← began]
    exact ⟨rfl, canonical projection rfl⟩
  | none =>
    simp only [beforeCommitment, Except.bind_eq_ok, Except.mapError_eq_ok, Except.pure_eq_ok,
      digestState_eq_ok] at began
    obtain ⟨unborn, made, digest, digested, began⟩ := began
    rw [← began]
    exact ⟨made, digested⟩

end Executor

end StateChronicle.Execution
