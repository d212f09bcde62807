import StateChronicle.Execution.Ports

/-!
# The validation pipeline

One validated intent runs through the ordered gates; events are emitted only when all of them pass, and the intent is
claimed last.  A replay of a claimed intent returns no events.
-/

namespace StateChronicle.Execution

open StateChronicle.Core Domain Foundation Profiles

variable {W : Type}

/-! ## Conflict gates -/

/-- Without a projection only version zero is expected. -/
def checkExpectedVersion (intent : Intent) : Option StateProjection → Except ExecutorError Unit
  | none => rejectIf (0 < intent.expectedVersion) (.resourceNotFound intent.resourceId.name)
  | some projection => rejectIf (projection.version ≠ intent.expectedVersion)
      (.expectedVersionMismatch intent.resourceId.name intent.expectedVersion projection.version)

def checkTenantScope (intent : Intent) : Except ExecutorError Unit :=
  rejectIf (intent.tenantId.name = "") .tenantScopeMissing

/-- An intent is expired unless its expiry is strictly after `now`. -/
def checkExpiry (intent : Intent) (now : Timestamp) : Except ExecutorError Unit :=
  rejectIf (intent.expiresAt.any fun expiry => expiry ≤ now) (.expired intent.intentId.name)

def checkIdempotencyExisting (existing incoming : Intent) : Except ExecutorError Unit :=
  rejectIf (existing ≠ incoming) (.duplicateIntent incoming.intentId.name)

namespace Executor

variable (self : Executor W) (policy : ExecutionPolicy) (intent : Intent) (current : Option StateProjection)

/-! ## Before the state is loaded -/

/-- The canonical bytes of an intent that is within bounds and not expired. -/
def checkBody : Run W (List UInt8) := do
  let bytes ← (canonicalize (self.codec.intentBytes intent)).mapError ExecutorError.ofCore
  (checkSize "intent" maxIntentBytes bytes.length).mapError ExecutorError.ofCore
  let now ← perform self.now
  checkExpiry intent now
  return bytes

def findClaim : Run W (Option Intent) :=
  request (self.ports.getIntent intent.tenantId intent.intentId)
    (mapIntentStoreError intent.intentId.name)

def verifySignature (signature : Option SignatureBlock) (bytes : List UInt8) : Run W Unit :=
  match signature with
  | some block => request (self.intentVerifier block bytes) id
  | none => pure ()

/-- Asks the primary authority whether a proof is still fresh. -/
def checkFreshness (proof : AuthorityProof) : Run W Unit :=
  match self.ports.trustgrant with
  | primary :: _ => request (primary.checkRevocationFreshness proof) mapTrustgrantError
  | [] => pure ()

def checkPresentedProof (authority : Option AuthorityProof) : Run W Unit :=
  match authority with
  | some proof => self.checkFreshness proof
  | none => pure ()

def checkTenant : Run W Unit := do
  checkTenantScope intent
  let tenantExists ← request (self.ports.tenantExists intent.tenantId) mapTenantStoreError
  rejectIf (¬ tenantExists) (ExecutorError.tenantNotFound intent.tenantId.name)

/-! ## Loading -/

/-- The state a resource, or a holder of it, currently has. -/
def load (tenant : TenantId) (resource : ResourceId) (subject : Option SubjectId) : Run W (Option StateProjection) :=
  match subject with
  | some subject => request (self.ports.getSubjectState tenant subject resource) mapStateIndexError
  | none => request (self.ports.getState tenant resource) mapStateIndexError

/-- The address the loaded state is read from again, when its policy names a different holder. -/
def reloadSubject : Option SubjectId :=
  (policy.currentSubject intent current).filter fun holder =>
    (policy.primarySubject intent).isSome ∧ some holder ≠ policy.primarySubject intent

def reload : Run W (Option StateProjection) :=
  match reloadSubject policy intent current with
  | some holder => self.load intent.tenantId intent.resourceId (some holder)
  | none => pure current

def loadCurrent : Run W (Option StateProjection) := do
  let current ← self.load intent.tenantId intent.resourceId (policy.primarySubject intent)
  self.reload policy intent current

end Executor

/-! ## Gates on the loaded state -/

section Gates

variable (rules : ProfileRules) (stateType : StateType) (intent : Intent) (current : Option StateProjection)

def checkStateType : Except ExecutorError Unit :=
  rejectIf (current.any fun projection =>
      projection.stateType ≠ stateType ∨ projection.state.stateType ≠ stateType)
    (.transitionInvalid "state type mismatch")

/-- The identity and schema a custom payload must carry under its rule set. -/
def checkCustomIdentity (message : String) (custom : CustomState) : Except ExecutorError Unit := do
  let identity ← (ProfileId.new rules.profileId).mapError ExecutorError.domain
  rejectIf (custom.domain ≠ identity ∨ custom.schemaVersion ≠ rules.schemaVersion)
    (.transitionInvalid message)

def checkCustomState : ResourceState → Except ExecutorError Unit
  | .custom custom => checkCustomIdentity rules "domain/schema mismatch" custom
  | _ => .error (.transitionInvalid "custom state required")

def checkCustomCurrent : Option StateProjection → Except ExecutorError Unit
  | some projection => checkCustomState rules projection.state
  | none => .ok ()

def checkCustomDomain : Except ExecutorError Unit :=
  if stateType = .custom then do
    let _ ← (ProfileId.new rules.profileId).mapError ExecutorError.domain
    rejectIf (intent.operation ∉ rules.allowedOperations) (.transitionInvalid "unregistered operation")
    checkCustomCurrent rules current
  else .ok ()

/-- The gates between loading the state and evaluating authority. -/
def checkLoaded : Except ExecutorError Unit := do
  checkStateType stateType current
  checkExpectedVersion intent current
  (rules.executionPolicy.checkAccess intent current).mapError ExecutorError.ofProfile
  checkCustomDomain rules stateType intent current

end Gates

/-! ## Authority -/

/-- What the members of the authority set have answered so far. -/
structure AuthorityTally where
  outcomes : List TrustGrantOutcome
  denied : Bool
  stale : Bool
  unavailable : Option String

namespace AuthorityTally

def empty : AuthorityTally := ⟨[], false, false, none⟩

def record (tally : AuthorityTally) : Except TrustGrantError TrustGrantOutcome → AuthorityTally
  | .ok outcome =>
    if outcome.result = .allow then { tally with outcomes := tally.outcomes ++ [outcome] }
    else { tally with denied := true }
  | .error .denied => { tally with denied := true }
  | .error .stale => { tally with stale := true }
  | .error (.unavailable message) => { tally with unavailable := some message }

def passes (tally : AuthorityTally) : AggregationPolicy → Bool
  | .requireAll => !tally.denied && !tally.stale && tally.unavailable.isNone
  | .anyOf => !tally.outcomes.isEmpty

/-- Unavailability masks staleness, and staleness masks a denial. -/
def failure (tally : AuthorityTally) : ExecutorError :=
  match tally.unavailable with
  | some message => .authorityUnavailable message
  | none => if tally.stale then .authorityStale else .authorityDenied

end AuthorityTally

namespace Executor

variable (self : Executor W)

def evaluateMembers (intent : Intent) : List (TrustGrantPort W) → AuthorityTally → Run W AuthorityTally
  | [], tally => pure tally
  | trustgrant :: rest, tally => do
    let answer ← perform (trustgrant.evaluate intent.tenantId intent.actor intent.operation.name
      intent.resourceId)
    evaluateMembers intent rest (tally.record answer)

/-- The instant of the oldest evaluation. -/
def evaluatedAt (outcomes : List TrustGrantOutcome) : Run W Timestamp :=
  match (outcomes.map (·.evaluatedAt)).min? with
  | some oldest => pure oldest
  | none => perform self.now

def aggregateAuthority (policy : AggregationPolicy) (intent : Intent) : Run W AuthorityProof := do
  rejectIf (self.ports.trustgrant.isEmpty)
    (ExecutorError.authorityUnavailable "no authority configured")
  let tally ← evaluateMembers intent self.ports.trustgrant .empty
  rejectIf (¬ tally.passes policy) tally.failure
  let evaluatedAt ← self.evaluatedAt tally.outcomes
  let proof : AuthorityProof :=
    { kind := trustgrantEvaluationKind
      evaluationDigest := self.codec.aggregateEvaluationDigest policy
        (tally.outcomes.map (·.evaluationDigest))
      result := .allow
      evaluatedAt }
  self.checkFreshness proof
  return proof

/-- The authority bound into the events: required operations must present one, and a presented
binding is always evaluated. -/
def evaluateAuthority (rules : ProfileRules) (intent : Intent) : Run W (Option AuthorityProof) :=
  match intent.authority with
  | some _ => some <$> self.aggregateAuthority (rules.authorityPolicy intent.operation) intent
  | none => do
    rejectIf (rules.requiresAuthority intent.operation)
      (ExecutorError.authorityMissing intent.operation.name)
    return none

end Executor

/-! ## The transition -/

def checkCustomAfter (rules : ProfileRules) : ResourceState → Except ExecutorError Unit
  | .custom custom => checkCustomIdentity rules "reducer domain/schema mismatch" custom
  | _ => .ok ()

/-- The profile's rules and its reducer. -/
def transition (rules : ProfileRules) (stateType : StateType) (intent : Intent)
    (current : Option StateProjection) : Except ExecutorError ResourceState := do
  (rules.check intent.operation current intent.inputs).mapError ExecutorError.ofProfile
  let after ← (rules.apply current intent.operation intent.inputs).mapError
    ExecutorError.ofTransition
  rejectIf (after.stateType ≠ stateType) (.transitionInvalid "reducer state type mismatch")
  checkCustomAfter rules after
  return after

namespace Executor

variable (self : Executor W) (policy : ExecutionPolicy) (intent : Intent) (current : Option StateProjection)
  (authority : Option AuthorityProof)

def digestState (state : ResourceState) : Except ExecutorError ContentDigest :=
  (self.codec.digestState state).mapError ExecutorError.ofCore

/-- The commitment to the state a transition replaces; a resource without a state is unborn. -/
def beforeCommitment (after : ResourceState) : Except ExecutorError StateCommitment :=
  match current with
  | some projection => .ok ⟨projection.version, projection.stateHash, projection.state⟩
  | none => do
    let unborn ← (policy.unbornState after).mapError ExecutorError.ofProfile
    let digest ← self.digestState unborn
    return ⟨0, digest, unborn⟩

def nextVersion : Except ExecutorError U64 :=
  okOr (checkedAdd ((current.map (·.version)).getD 0) 1) (.transitionInvalid "version overflow")

/-- The commitments of an event that takes `current` to `after`. -/
def commitments (after : ResourceState) : Except ExecutorError (StateCommitment × StateCommitment) := do
  let version ← nextVersion current
  let before ← self.beforeCommitment policy current after
  let digest ← self.digestState after
  return (before, ⟨version, digest, after⟩)

def emit (resource : ResourceId) (commitments : StateCommitment × StateCommitment)
    (authority : Option AuthorityProof) : Run W Event := do
  let eventId ← perform self.eventIdFn
  let now ← perform self.now
  return Event.new intent.tenantId eventId intent.intentId intent.operation resource intent.actor
    commitments.1 commitments.2 authority self.executor now

/-! ## The companion transition -/

def emitCompanion (target : StateAddress) : Run W Event := do
  let destination ← self.load intent.tenantId target.resource target.subject
  let source ← okOr current (ExecutorError.transitionInvalid
    "companion transition requires an existing primary state")
  let after ← (policy.applyCompanion intent source destination).mapError ExecutorError.ofTransition
  let commitments ← self.commitments policy destination after
  self.emit intent target.resource commitments authority

def emitCompanions : Option StateAddress → Run W (List Event)
  | some target => do
    let event ← self.emitCompanion policy intent current authority target
    return [event]
  | none => pure []

/-! ## The pipeline -/

/-- The stages of an intent that is not a replay, up to the emitted events. -/
def executeFresh (validated : ValidatedIntent) (bytes : List UInt8) (allowCoordinated : Bool) : Run W (List Event) := do
  let intent := validated.intent
  self.verifySignature validated.signature bytes
  self.checkPresentedProof intent.authority
  self.checkTenant intent
  let stateType ← okOr intent.stateType ExecutorError.stateTypeRequired
  let rules ← (self.profiles.resolve stateType intent.inputs).mapError ExecutorError.ofProfile
  let policy := rules.executionPolicy
  (policy.validateRoute intent allowCoordinated).mapError ExecutorError.ofProfile
  let current ← self.loadCurrent policy intent
  checkLoaded rules stateType intent current
  let authority ← self.evaluateAuthority rules intent
  let after ← transition rules stateType intent current
  let commitments ← self.commitments policy current after
  let event ← self.emit intent intent.resourceId commitments authority
  let target ← (policy.companionTarget intent).mapError ExecutorError.ofProfile
  let companions ← self.emitCompanions policy intent current authority target
  return event :: companions

def claim (persistIntent : Bool) : Run W Unit :=
  if persistIntent then
    request (self.ports.putIntent intent.tenantId intent) (mapIntentStoreError intent.intentId.name)
  else pure ()

/-- An existing claim ends the run: it is a replay or a conflict. -/
def executeUnlessClaimed (validated : ValidatedIntent) (bytes : List UInt8)
    (allowCoordinated persistIntent : Bool) : Option Intent → Run W (List Event)
  | some existing => do
    checkIdempotencyExisting existing validated.intent
    return []
  | none => do
    let events ← self.executeFresh validated bytes allowCoordinated
    self.claim validated.intent persistIntent
    return events

def executeInner (validated : ValidatedIntent) (allowCoordinated persistIntent : Bool) : Run W (List Event) := do
  let bytes ← self.checkBody validated.intent
  let existing ← self.findClaim validated.intent
  self.executeUnlessClaimed validated bytes allowCoordinated persistIntent existing

def execute (validated : ValidatedIntent) : Run W (List Event) := self.executeInner validated false true

end Executor

end StateChronicle.Execution
