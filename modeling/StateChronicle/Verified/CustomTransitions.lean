import StateChronicle.Execution.Harness
import StateChronicle.Profiles.Registration
import StateChronicle.Verified.CustomStates

/-!
# Custom transitions, executed and verified

A typed profile verifies a committed transition on its own: it decodes, bounds, reduces and digests again what the
executor did.
-/

namespace StateChronicle.Verified

open Commit StateChronicle.Core Domain Execution Foundation Profiles

/-- Every live projection has a version and the digest of its state, and is the one of its tenant and resource. -/
structure LiveIndex (codec : Codec) (table : StateTable) : Prop where
  version : ∀ {slot projection}, table.read slot = some projection → projection.version ≠ 0
  digest : ∀ {slot projection}, table.read slot = some projection →
    codec.digestState projection.state = .ok projection.stateHash
  scope : ∀ {slot projection}, table.read slot = some projection →
    projection.tenantId = slot.tenant ∧ projection.resourceId = slot.resource

section Agreement

variable {W : Type} {executor : Executor W} {typed : TypedProfile} {intent : Intent}
  {current : Option StateProjection} {event : Event}

/-! ## The commitments of the native policy -/

variable {after : ResourceState}

def versionOf (current : Option StateProjection) : U64 := (current.map (·.version)).getD 0

/-- From a digested state, the executor commits to the state before, its version and its digest, and to the next
version, the state after and its digest. -/
theorem commitments_native_iff {before later : StateCommitment}
    (canonical : ∀ projection ∈ current, executor.codec.digestState projection.state = .ok projection.stateHash) :
    executor.commitments nativeExecution current after = .ok (before, later) ↔
      before.version = versionOf current ∧ later.version.val = (versionOf current).val + 1 ∧
        Executor.beforeState nativeExecution current after = .ok before.state ∧
        executor.codec.digestState before.state = .ok before.stateHash ∧ later.state = after ∧
        executor.codec.digestState after = .ok later.stateHash := by
  have began : executor.beforeCommitment nativeExecution current after = .ok before ↔
      before.version = versionOf current ∧ Executor.beforeState nativeExecution current after = .ok before.state ∧
        executor.codec.digestState before.state = .ok before.stateHash := by
    obtain ⟨version, hash, state⟩ := before
    cases current with
    | some projection =>
      -- the executor takes the recorded digest, the verifier computes it again
      have recorded := canonical projection rfl
      simp only [Executor.beforeCommitment, Executor.beforeState, Except.ok.injEq, StateCommitment.mk.injEq,
        versionOf, Option.map_some, Option.getD_some]
      constructor
      · rintro ⟨rfl, rfl, rfl⟩
        exact ⟨rfl, rfl, recorded⟩
      · rintro ⟨rfl, rfl, digested⟩
        exact ⟨rfl, Except.ok.inj (recorded.symm.trans digested), rfl⟩
    | none =>
      simp only [Executor.beforeCommitment, Executor.beforeState, Except.bind_eq_ok, Except.mapError_eq_ok,
        Executor.digestState_eq_ok, Except.pure_eq_ok, StateCommitment.mk.injEq, versionOf, Option.map_none,
        Option.getD_none]
      constructor
      · rintro ⟨unborn, made, digest, digested, rfl, rfl, rfl⟩
        exact ⟨rfl, made, digested⟩
      · rintro ⟨rfl, made, digested⟩
        exact ⟨state, made, hash, digested, rfl, rfl, rfl⟩
  constructor
  · intro computed
    obtain ⟨before', version, digested, same⟩ := Executor.commitments_eq_ok computed
    obtain ⟨read, prior, digested'⟩ := began.mp before'
    exact ⟨read, read ▸ version, prior, digested', same, Executor.digestState_eq_ok.mp digested⟩
  · rintro ⟨read, version, prior, digested', rfl, digested⟩
    have next : Executor.nextVersion current = .ok later.version :=
      okOr_eq_ok.mpr (checkedAdd_eq_some.mpr version.symm)
    simp only [Executor.commitments, Except.bind_eq_ok, Except.pure_eq_ok]
    exact ⟨_, next, before, began.mpr ⟨read, prior, digested'⟩, _, Executor.digestState_eq_ok.mpr digested, rfl⟩

/-! ## Verification in terms of the executor -/

theorem priorState_iff {digest : ResourceState → Except StateChronicleError ContentDigest} {before : ResourceState} :
    TypedProfile.priorState digest intent current after = .ok before ↔
      (∀ projection ∈ current, projection.tenantId = intent.tenantId ∧ projection.resourceId = intent.resourceId ∧
        digest projection.state = .ok projection.stateHash) ∧
      Executor.beforeState nativeExecution current after = .ok before := by
  cases current with
  | some projection =>
    simp only [TypedProfile.priorState, TypedProfile.digestOf, Except.bind_eq_ok, rejectIf_eq_ok,
      Except.mapError_eq_ok, Except.pure_eq_ok, not_or, not_not, Option.mem_some_iff, forall_eq',
      Executor.beforeState, Except.ok.injEq]
    constructor
    · rintro ⟨_, ⟨tenant, resource⟩, _, digested, _, rfl, rfl⟩
      exact ⟨⟨tenant, resource, digested⟩, rfl⟩
    · rintro ⟨⟨tenant, resource, digested⟩, rfl⟩
      exact ⟨(), ⟨tenant, resource⟩, _, digested, (), rfl, rfl⟩
  | none =>
    simp only [TypedProfile.priorState, Executor.beforeState, nativeExecution, Option.not_mem_none, false_implies,
      implies_true, true_and]
    cases after <;> simp

/-- A transition is verified when it is the intent's, its prior state is the live one of the resource, and its
commitments are those the executor computes. -/
theorem verifyTransition_iff {u : Unit} :
    typed.verifyTransition executor.codec.digestState current intent event = .ok u ↔
      (event.schema = eventSchema ∧ event.tenantId = intent.tenantId ∧ event.resourceId = intent.resourceId ∧
        event.intentId = intent.intentId ∧ event.actor = intent.actor ∧ event.operation = intent.operation ∧
        intent.stateType = some .custom) ∧
      (∀ projection ∈ current, projection.version ≠ 0 ∧ projection.tenantId = intent.tenantId ∧
        projection.resourceId = intent.resourceId ∧
        executor.codec.digestState projection.state = .ok projection.stateHash) ∧
      intent.expectedVersion = versionOf current ∧
      ∃ after, typed.apply current intent.operation intent.inputs = .ok after ∧
        executor.commitments nativeExecution current after = .ok (event.before, event.after) := by
  have live : ¬ (current.any fun projection => projection.version = 0) ↔
      ∀ projection ∈ current, projection.version ≠ 0 := by
    cases current <;> simp
  simp only [TypedProfile.verifyTransition, Except.bind_eq_ok, rejectIf_eq_ok, okOr_eq_ok, checkedAdd_eq_some,
    not_or, not_not, live, TypedProfile.digestOf, Except.mapError_eq_ok, priorState_iff]
  constructor
  · rintro ⟨_, identity, _, ⟨versions, expected, read⟩, next, grown, _, rfl, after, applied, before,
      ⟨scopes, prior⟩, _, ⟨rfl, rfl⟩, _, digested, _, rfl, _, digested', rfl⟩
    refine ⟨identity, fun projection present => ⟨versions projection present, scopes projection present⟩, expected,
      event.after.state, applied, (commitments_native_iff fun projection present =>
        (scopes projection present).2.2).mpr ⟨read, grown.symm, prior, digested, rfl, digested'⟩⟩
  · rintro ⟨identity, alive, expected, after, applied, computed⟩
    obtain ⟨read, grown, prior, digested, rfl, digested'⟩ :=
      (commitments_native_iff fun projection present => (alive projection present).2.2.2).mp computed
    exact ⟨(), identity, (), ⟨fun projection present => (alive projection present).1, expected, read⟩, _, grown.symm,
      (), rfl, _, applied, _, ⟨fun projection present => (alive projection present).2, prior⟩, (), ⟨rfl, rfl⟩, _,
      digested, (), rfl, _, digested', rfl⟩

/-! ## The gates of the executor -/

theorem resolve_of_checkDomain {custom : List ProfileRules} {registry : ProfileRegistry}
    (composed : ProfileRegistry.withCustom custom = .ok registry) (registered : typed.rules ∈ custom) {inputs : Inputs}
    (named : typed.checkDomain inputs = .ok ()) : registry.resolve .custom inputs = .ok typed.rules := by
  simp only [TypedProfile.checkDomain, TypedProfile.identity, Except.bind_eq_ok, okOr_eq_ok, rejectIf_eq_ok, not_or,
    not_not] at named
  obtain ⟨domain, given, id, valid, identity, own, rfl, schema⟩ := named
  have identified := ProfileRegistry.validProfileId_eq_ok own
  have same : domain = typed.profile.domainId := by
    rw [ProfileRegistry.validProfileId_eq_ok valid] at identified
    exact ProfileId.mk.inj identified
  have text : inputStr inputs "profile" = .ok domain := by
    refine inputStr_eq_ok.mpr ⟨?_, fun empty => ?_⟩
    · obtain ⟨value, found, read⟩ := Option.bind_eq_some_iff.mp given
      cases value <;> cases read
      exact found
    · subst empty
      cases valid
  have version : ProfileRegistry.schemaInput inputs = some typed.profile.schemaVersion := by
    -- the verifier compares 64-bit numbers, the registry narrows the input first
    obtain ⟨value, read, fits⟩ := Option.map_eq_some_iff.mp schema
    simp only [ProfileRegistry.schemaInput, read, Option.bind_eq_bind, Option.bind_some]
    rw [dif_pos (fits ▸ typed.profile.schemaVersion.isLt)]
    exact congrArg some (Fin.ext fits)
  simp only [ProfileRegistry.resolve, ne_eq, not_true_eq_false, if_false, Except.bind_eq_ok, okOr_eq_ok]
  refine ⟨domain, text, _, valid, _, version, ?_⟩
  rw [identified]
  exact ProfileRegistry.findCustom_of_mem composed registered

theorem identity_new {domain : ProfileId} (named : typed.identity = .ok domain) :
    ProfileId.new typed.rules.profileId = .ok domain := by
  rwa [TypedProfile.identity, ProfileRegistry.validProfileId, Except.mapError_eq_ok] at named

theorem checkCustomIdentity_of_identity {domain : ProfileId} (named : typed.identity = .ok domain) (message : String)
    (payload : List UInt8) :
    checkCustomIdentity typed.rules message ⟨domain, typed.profile.schemaVersion, payload⟩ = .ok () := by
  simp only [checkCustomIdentity, Except.bind_eq_ok, Except.mapError_eq_ok, rejectIf_eq_ok, not_or, not_not]
  exact ⟨domain, identity_new named, rfl, rfl⟩

section

variable (applied : typed.apply current intent.operation intent.inputs = .ok after)

include applied

theorem checkLoaded_of_apply (expected : intent.expectedVersion = versionOf current) :
    checkLoaded typed.rules .custom intent current = .ok () := by
  obtain ⟨state, command, _, _, domain, read, -, -, -, -, named, -⟩ := TypedProfile.apply_eq_ok.mp applied
  obtain ⟨listed, -, -, decoded⟩ := TypedProfile.arguments_eq_ok read
  have domain' : checkCustomCurrent typed.rules current = .ok () →
      checkCustomDomain typed.rules .custom intent current = .ok () := by
    intro identified
    simp only [checkCustomDomain, if_true, Except.bind_eq_ok, Except.mapError_eq_ok, rejectIf_eq_ok, not_not]
    exact ⟨domain, identity_new named, (), listed, identified⟩
  cases current with
  | none =>
    have zero : checkExpectedVersion intent none = .ok () := by
      rw [checkExpectedVersion, rejectIf_eq_ok, expected]
      exact lt_irrefl _
    rw [checkLoaded, zero]
    exact domain' rfl
  | some projection =>
    simp only [TypedProfile.decodeCurrent, Except.bind_eq_ok, rejectIf_eq_ok, not_not, Except.pure_eq_ok] at decoded
    obtain ⟨_, stateType, _, decodes, -⟩ := decoded
    obtain ⟨payload, own, stored, identified, -⟩ := TypedProfile.decodeState_eq_ok.mp decodes
    have typed' : checkStateType .custom (some projection) = .ok () := by
      simp [checkStateType, stateType, stored, ResourceState.stateType]
    have version : checkExpectedVersion intent (some projection) = .ok () := by
      rw [checkExpectedVersion, rejectIf_eq_ok, not_not, expected]
      rfl
    rw [checkLoaded, typed', version]
    refine domain' ?_
    rw [checkCustomCurrent, stored]
    exact checkCustomIdentity_of_identity identified _ _

theorem transition_of_apply :
    transition typed.rules .custom intent current = .ok after := by
  obtain ⟨_, _, _, payload, domain, -, -, -, -, -, named, rfl⟩ := TypedProfile.apply_eq_ok.mp applied
  exact transition_eq_ok.mpr ⟨TypedProfile.check_of_apply applied, applied, rfl,
    checkCustomIdentity_of_identity named _ _⟩

end

/-! ## Both ways -/

theorem expected_of_admitted {rules : ProfileRules} {stateType : StateType}
    (admitted : Admitted rules stateType intent current) : intent.expectedVersion = versionOf current := by
  have version := admitted.version
  cases current with
  | none =>
    have zero := not_lt.mp (rejectIf_eq_ok.mp version)
    exact Fin.ext (Nat.le_zero.mp zero)
  | some projection => exact (not_not.mp (rejectIf_eq_ok.mp version)).symm

/-- An accepted custom intent emits one event, and the profile verifies it. -/
theorem verifyTransition_of_acceptance {table : StateTable} {coordinated : Bool} (live : LiveIndex executor.codec table)
    (served : executor.ports.Serves table) (acceptance : executor.Acceptance intent coordinated)
    (own : acceptance.rules = typed.rules) (custom : intent.stateType = some .custom) :
    acceptance.events = [acceptance.event] ∧
      typed.verifyTransition executor.codec.digestState (table.read ⟨intent.tenantId, intent.resourceId, none⟩) intent
        acceptance.event = .ok () := by
  have emitted := acceptance.emitted
  have extended := acceptance.extended
  have applied := acceptance.applied
  have loaded := acceptance.current_eq served
  rw [own] at emitted extended applied loaded
  -- a typed profile has no second target, so there are no companion events
  have alone : acceptance.companions = [] := by
    generalize acceptance.companions = companions at extended
    cases extended with
    | alone => rfl
    | companion targeted => cases targeted
  refine ⟨by rw [Executor.Acceptance.events, alone], ?_⟩
  have present : acceptance.current = table.read ⟨intent.tenantId, intent.resourceId, none⟩ := loaded
  have expected := expected_of_admitted (admitted_of_checkLoaded acceptance.admitted)
  rw [present] at emitted applied expected
  refine verifyTransition_iff.mpr ⟨⟨emitted.schema, emitted.tenantId, emitted.resourceId, emitted.intentId,
    emitted.actor, emitted.operation, custom⟩, fun projection found => ?_, expected, _, applied, emitted.committed⟩
  obtain ⟨tenant, resource⟩ := live.scope found
  exact ⟨live.version found, tenant, resource, live.digest found⟩

/-- Every event the executor emits for a custom intent is verified by its profile, and every event the profile
verifies has the commitments the executor computes from that state and those inputs. -/
theorem custom_transitions_agree {custom : List ProfileRules}
    (composed : ProfileRegistry.withCustom custom = .ok executor.profiles) (registered : typed.rules ∈ custom) :
    (∀ table validated coordinated persist events w w', LiveIndex executor.codec table →
      executor.ports.Serves table → validated.intent.stateType = some .custom →
      executor.profiles.resolve .custom validated.intent.inputs = .ok typed.rules →
      executor.executeInner validated coordinated persist w = .ok events w' →
      ∀ event ∈ events, typed.verifyTransition executor.codec.digestState
        (table.read ⟨validated.intent.tenantId, validated.intent.resourceId, none⟩) validated.intent event = .ok ()) ∧
      ∀ current intent event,
        typed.verifyTransition executor.codec.digestState current intent event = .ok () →
          executor.profiles.resolve .custom intent.inputs = .ok typed.rules ∧
          checkLoaded typed.rules .custom intent current = .ok () ∧
          ∃ after, transition typed.rules .custom intent current = .ok after ∧
            executor.commitments typed.rules.executionPolicy current after = .ok (event.before, event.after) := by
  constructor
  · intro table validated coordinated persist events w w' live served typed' resolved returns event member
    obtain ⟨acceptance, rfl⟩ := Executor.acceptance_of_fresh returns (List.ne_nil_of_mem member)
    have stateType : acceptance.stateType = .custom := Option.some.inj (acceptance.typed.symm.trans typed')
    have own : acceptance.rules = typed.rules := by
      have chosen := acceptance.resolved
      rw [stateType, resolved] at chosen
      exact (Except.ok.inj chosen).symm
    obtain ⟨alone, verified⟩ := verifyTransition_of_acceptance live served acceptance own typed'
    rw [alone] at member
    rw [List.mem_singleton.mp member]
    exact verified
  · intro current intent event verified
    obtain ⟨-, -, expected, after, applied, computed⟩ := verifyTransition_iff.mp verified
    obtain ⟨_, _, _, _, _, read, -⟩ := TypedProfile.apply_eq_ok.mp applied
    have named := (TypedProfile.arguments_eq_ok read).2.1
    exact ⟨resolve_of_checkDomain composed registered named, checkLoaded_of_apply applied expected, after,
      transition_of_apply applied, computed⟩

end Agreement

open Harness

def counterRegistry : ProfileRegistry := { ProfileRegistry.baseline with custom := [counter.rules] }

def visits : StateTable := tableOf [⟨tenant, ⟨"counter:visits"⟩, 4, .custom ⟨⟨"test.counter"⟩, 1, [3]⟩⟩]

def setCounter : ValidatedIntent :=
  let unset := intent "int_set" "counter.set" "alice" ⟨"counter:visits"⟩ .custom 4 []
  { unset with intent := { unset.intent with inputs := settingTo 7 } }

def counterEvents : List Event := emitted ((executor counterRegistry visits).executeInner setCounter false true .fresh)

/-- A live counter is set from three to seven. -/
theorem counter_set_verified :
    ∃ current event memory, visits.read ⟨tenant, ⟨"counter:visits"⟩, none⟩ = some current ∧ current.version = 4 ∧
      (executor counterRegistry visits).executeInner setCounter false true .fresh = .ok [event] memory ∧
      counter.verifyTransition Harness.codec.digestState (some current) setCounter.intent event = .ok () ∧
      ∃ after, transition counter.rules .custom setCounter.intent (some current) = .ok after ∧
        (executor counterRegistry visits).commitments counter.rules.executionPolicy (some current) after =
          .ok (event.before, event.after) := by
  have single : counterEvents.length = 1 := by decide +kernel
  obtain ⟨event, only⟩ := List.length_eq_one_iff.mp single
  obtain ⟨memory, returns⟩ : ∃ memory,
      (executor counterRegistry visits).executeInner setCounter false true .fresh = .ok counterEvents memory :=
    ok_of_emitted_ne_nil (by rw [← counterEvents, only]; exact List.cons_ne_nil _ _)
  have live : LiveIndex (executor counterRegistry visits).codec visits := by
    refine ⟨fun found => ?_, digestState_tableOf, fun found => ?_⟩ <;>
      obtain ⟨stored, member, rfl, rfl⟩ := mem_of_read_tableOf found
    · rw [List.mem_singleton.mp member]
      decide
    · exact ⟨rfl, rfl⟩
  have composed : ProfileRegistry.withCustom [counter.rules] = .ok (executor counterRegistry visits).profiles := rfl
  have agree := custom_transitions_agree composed (List.mem_singleton_self counter.rules)
  have verified := agree.1 visits setCounter false true counterEvents .fresh memory live
    (executor_serves counterRegistry visits) rfl rfl returns event (by rw [only]; exact List.mem_singleton_self _)
  obtain ⟨-, -, committed⟩ := agree.2 _ setCounter.intent event verified
  exact ⟨_, event, memory, rfl, rfl, only ▸ returns, verified, committed⟩

end StateChronicle.Verified
