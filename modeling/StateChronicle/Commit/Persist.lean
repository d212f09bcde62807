import StateChronicle.Commit.Builder
import StateChronicle.Commit.Ledger
import StateChronicle.Execution.Player
import StateChronicle.Intent.Validated

/-!
# Durable persistence

A signed commit is persisted with its events, projections and outbox rows in one ledger transaction.  The
request is checked as a whole, and authorized, before the transaction is opened.
-/

namespace StateChronicle.Commit

open StateChronicle.Core Domain Execution Foundation

variable (tenant : TenantId) (commitId : CommitId) (codec : Codec)

def maxEventsPerCommit : Nat := 256

def maxEventBatchBytes : Nat := 4 * 1024 * 1024

def maxOutboxPayloadBytes : Nat := 1024 * 1024

def maxQuotaKeyBytes : Nat := 512

/-- The serialisers of the durable route; a failure is the text of the serialiser's error. -/
structure LedgerCodec extends Codec where
  eventBytes : Event → Except String (List UInt8)
  commitBytes : Signed Domain.Commit → Except String (List UInt8)

structure CommittedEvent where
  event : Event
  stateType : StateType
deriving DecidableEq, Repr

variable (entry : CommittedEvent) (entries : List CommittedEvent)

inductive DurablePersistResult where
  | committed (commitId : CommitId)
  | replay (commitId : CommitId)
deriving DecidableEq, Repr

structure DurableCommitRequest where
  principal : AuthenticatedPrincipal
  intent : Intent
  payloadDigest : ContentDigest
  entries : List CommittedEvent
  commit : Signed Domain.Commit
  projections : List StateProjection
  outbox : List OutboxRecord
deriving DecidableEq

def DurableCommitRequest.events (self : DurableCommitRequest) : List Event := self.entries.map CommittedEvent.event

/-! ## Events -/

/-- A custom transition stays in its domain and schema. -/
def validateCustomTransition (before after : ResourceState) : Except CommitError Unit :=
  match after with
  | .custom after =>
    match before with
    | .custom before => do
      let _ ← (ProfileId.new after.domain.name).mapError CommitError.domain
      rejectIf (after.schemaVersion = 0 ∨ before.domain ≠ after.domain ∨ before.schemaVersion ≠ after.schemaVersion)
        (.invalidEvent "custom transition changes domain/schema")
    | _ => .error (.invalidEvent "custom before-state required")
  | _ => .ok ()

/-- The digest of the after-state is only asked for when the one of the before-state agrees. -/
def validateStateDigests (before after : StateCommitment) : Except CommitError Unit := do
  let mismatch := CommitError.invalidEvent "event state digest does not match state"
  let beforeDigest ← (codec.digestState before.state).mapError CommitError.core
  rejectIf (beforeDigest ≠ before.stateHash) mismatch
  let afterDigest ← (codec.digestState after.state).mapError CommitError.core
  rejectIf (afterDigest ≠ after.stateHash) mismatch

def validateCommittedEvent : Except CommitError Unit := do
  let event := entry.event
  rejectIf (event.schema ≠ eventSchema) (.invalidEvent "event schema is not the supported v0 schema")
  let _ ← (EventId.new event.eventId.name).mapError fun error =>
    CommitError.invalidEvent ("invalid event id: " ++ error.toString)
  let _ ← (IntentId.new event.intentId.name).mapError fun error =>
    CommitError.invalidEvent ("invalid intent id: " ++ error.toString)
  let expectedAfter ← okOr (checkedAdd event.before.version 1)
    (.invalidEvent "event before-state version overflows")
  rejectIf (event.after.version ≠ expectedAfter) (.invalidEvent "event versions must advance by exactly one")
  rejectIf (entry.stateType ≠ event.before.state.stateType ∨ entry.stateType ≠ event.after.state.stateType)
    (.invalidEvent "event state type does not match committed entry")
  validateCustomTransition event.before.state event.after.state
  validateStateDigests codec event.before event.after

/-- One round of the loop over the entries, with the event ids met so far. -/
def validateEntry (eventIds : List EventId) (entry : CommittedEvent) : Except CommitError (List EventId) := do
  validateCommittedEvent codec entry
  rejectIf (entry.event.eventId ∈ eventIds)
    (.invalidEvent ("duplicate event id `" ++ entry.event.eventId.name ++ "` in durable commit"))
  return entry.event.eventId :: eventIds

def validateCommittedEvents : Except CommitError Unit := do
  let _ ← entries.foldlM (validateEntry codec) []
  return ()

def validateEventBinding (intent : Intent) (tenant : TenantId) (event : Event) : Except CommitError Unit := do
  rejectIf (event.tenantId ≠ tenant ∨ event.intentId ≠ intent.intentId ∨ event.actor ≠ intent.actor ∨
      event.operation ≠ intent.operation ∨ event.resourceId ≠ intent.resourceId ∨
      intent.stateType ≠ some event.after.state.stateType)
    (.store "durable event is not bound to the authenticated intent scope or operation")
  match event.after.state with
  | .custom custom => do
    let domain ← okOr ((intent.inputs.get? "profile").bind Value.asStr) (.invalidEvent "missing custom domain")
    let domain ← (ProfileId.new domain).mapError CommitError.domain
    rejectIf (intent.stateType ≠ some .custom ∨ custom.domain ≠ domain ∨
        ((intent.inputs.get? "schema_version").bind Value.asU64).map Fin.val ≠ some custom.schemaVersion.val)
      (.invalidEvent "custom event domain/schema does not match intent")
  | _ => return ()

/-! ## Projections -/

def CommittedEvent.projection : StateProjection where
  tenantId := entry.event.tenantId
  resourceId := entry.event.resourceId
  stateType := entry.stateType
  version := entry.event.after.version
  lastEventId := entry.event.eventId
  lastCommitId := commitId
  stateHash := entry.event.after.stateHash
  state := entry.event.after.state

def projectionsFor : List StateProjection :=
  entries.map (CommittedEvent.projection commitId)

def validateProjectionBindings (projections : List StateProjection) : Except CommitError Unit := do
  rejectIf (entries.any fun entry => entry.stateType ≠ entry.event.after.state.stateType)
    (.store "committed event state type does not match its typed after-state")
  if projections = [] then return ()
  else
    rejectIf (¬ projections.Forall₂ StateProjection.Equal (projectionsFor commitId entries))
      (.store "durable projections do not match committed event entries")

def validateProjectionScope (projection : StateProjection) : Except CommitError Unit :=
  rejectIf (projection.tenantId ≠ tenant ∨ projection.lastCommitId ≠ commitId)
    (.store "durable projection is not bound to the commit scope")

/-! ## What the checks on events say -/

/-- What is asked of an entry apart from its ids. -/
structure CommittedEvent.Coherent : Prop where
  schema : entry.event.schema = eventSchema
  version : entry.event.after.version.val = entry.event.before.version.val + 1
  before : entry.event.before.state.stateType = entry.stateType
  after : entry.event.after.state.stateType = entry.stateType
  domain : validateCustomTransition entry.event.before.state entry.event.after.state = .ok ()
  beforeDigest : codec.digestState entry.event.before.state = .ok entry.event.before.stateHash
  afterDigest : codec.digestState entry.event.after.state = .ok entry.event.after.stateHash

theorem validateStateDigests_eq_ok {codec : Codec} {before after : StateCommitment} {u : Unit} :
    validateStateDigests codec before after = .ok u ↔
      codec.digestState before.state = .ok before.stateHash ∧ codec.digestState after.state = .ok after.stateHash := by
  simp only [validateStateDigests, Except.bind_eq_ok, Except.mapError_eq_ok, rejectIf_eq_ok, not_not]
  constructor
  · rintro ⟨_, began, -, rfl, _, ended, rfl⟩
    exact ⟨began, ended⟩
  · rintro ⟨began, ended⟩
    exact ⟨_, began, (), rfl, _, ended, rfl⟩

theorem validateCommittedEvent_eq_ok {codec : Codec} {entry : CommittedEvent} {u : Unit} :
    validateCommittedEvent codec entry = .ok u ↔ (∃ id, EventId.new entry.event.eventId.name = .ok id) ∧
      (∃ id, IntentId.new entry.event.intentId.name = .ok id) ∧ entry.Coherent codec := by
  simp only [validateCommittedEvent, Except.bind_eq_ok, Except.mapError_eq_ok, rejectIf_eq_ok, okOr_eq_ok,
    checkedAdd_eq_some, validateStateDigests_eq_ok, not_or, not_not, exists_const]
  constructor
  · rintro ⟨schema, eventId, event, intentId, intent, version, next, same, ⟨before, after⟩, ⟨⟩, domain, digests⟩
    refine ⟨⟨_, event⟩, ⟨_, intent⟩, schema, ?_, before.symm, after.symm, domain, digests.1, digests.2⟩
    rw [same]
    exact next.symm
  · rintro ⟨⟨eventId, event⟩, ⟨intentId, intent⟩, coherent⟩
    exact ⟨coherent.schema, eventId, event, intentId, intent, _, coherent.version.symm, rfl,
      ⟨coherent.before.symm, coherent.after.symm⟩, (), coherent.domain, coherent.beforeDigest, coherent.afterDigest⟩

theorem validateCommittedEvents_eq_ok {codec : Codec} {entries : List CommittedEvent} {u : Unit} :
    validateCommittedEvents codec entries = .ok u ↔ (∀ entry ∈ entries, validateCommittedEvent codec entry = .ok ()) ∧
      (entries.map fun entry => entry.event.eventId).Nodup := by
  have round (seen : List EventId) (entry : CommittedEvent) (seen' : List EventId) :
      validateEntry codec seen entry = .ok seen' ↔ validateCommittedEvent codec entry = .ok () ∧
        entry.event.eventId ∉ seen ∧ seen' = entry.event.eventId :: seen := by
    simp only [validateEntry, Except.bind_eq_ok, rejectIf_eq_ok, Except.pure_eq_ok, exists_const]
    constructor
    · rintro ⟨⟨⟩, valid, unmet, rfl⟩
      exact ⟨valid, unmet, rfl⟩
    · rintro ⟨valid, unmet, rfl⟩
      exact ⟨(), valid, unmet, rfl⟩
  rw [validateCommittedEvents, Except.bind_eq_ok]
  simp only [Except.pure_eq_ok, and_true]
  rw [Except.foldlM_distinct (fun entry => entry.event.eventId) (validateCommittedEvent codec) round, unmet_nil]

theorem validateProjectionBindings_projectionsFor {commitId : CommitId} {entries : List CommittedEvent} {u : Unit} :
    validateProjectionBindings commitId entries (projectionsFor commitId entries) = .ok u ↔
      ∀ entry ∈ entries, entry.event.after.state.stateType = entry.stateType := by
  have second : (if projectionsFor commitId entries = [] then pure () else
      rejectIf (¬ (projectionsFor commitId entries).Forall₂ StateProjection.Equal (projectionsFor commitId entries))
        (CommitError.store "durable projections do not match committed event entries")) = .ok u := by
    split
    · rfl
    · exact rejectIf_eq_ok.mpr (not_not.mpr (List.forall₂_same.mpr fun projection _ => ⟨rfl, .refl _⟩))
  have first : ¬ (entries.any fun entry => entry.stateType ≠ entry.event.after.state.stateType) ↔
      ∀ entry ∈ entries, entry.event.after.state.stateType = entry.stateType := by
    simp only [List.any_eq_true, decide_eq_true_eq, not_exists, not_and, not_not]
    exact forall₂_congr fun entry _ => eq_comm
  rw [validateProjectionBindings, Except.bind_eq_ok, ← first]
  constructor
  · rintro ⟨⟨⟩, typed, -⟩
    exact rejectIf_eq_ok.mp typed
  · intro typed
    exact ⟨(), rejectIf_eq_ok.mpr typed, second⟩

/-! ## The outbox -/

variable (codec : LedgerCodec) (events : List Event) (body : Domain.Commit) (intent : Intent)

def validateOutboxRecord (record : OutboxRecord) : Except CommitError Unit := do
  rejectIf (record.deliveryKey = "" ∨ record.deliveryKey.utf8ByteSize > maxQuotaKeyBytes ∨
      record.deliveryKey.toList.any isControl ∨ hashBytes codec.sha256 record.payload ≠ record.payloadDigest)
    (.store "durable outbox payload or delivery key is invalid")
  (checkSize "outbox_payload" maxOutboxPayloadBytes record.payload.length).mapError fun error =>
    .invalidEvent error.toString

def validateOutboxRow (deliveryKeys : List String) (record : OutboxRecord) : Except CommitError (List String) := do
  validateOutboxRecord codec record
  rejectIf (record.deliveryKey ∈ deliveryKeys) (.store "durable outbox contains duplicate delivery keys")
  return record.deliveryKey :: deliveryKeys

def validateOutboxRecords (records : List OutboxRecord) : Except CommitError Unit := do
  let _ ← records.foldlM (validateOutboxRow codec) []
  return ()

def validateOutboxScope (tenant : TenantId) (commitId : CommitId) (record : OutboxRecord) :
    Except CommitError Unit := do
  rejectIf (record.tenant ≠ tenant ∨ record.commitId ≠ commitId)
    (.store "durable outbox record is not bound to the commit scope")
  validateOutboxRecord codec record

/-! ## The request -/

def validateDurableIntent : Except CommitError Unit := do
  let _ ← (ValidatedIntent.tryFromIntent codec.intentBytes intent none).mapError fun error =>
    CommitError.store ("invalid durable intent: " ++ error.toString)
  return ()

/-- The check shared by the executor's and the tenant's names. -/
def unnamed (name : String) : Bool := name = "" || name.length > maxIdLength || name.toList.any isControl

def commitTenant : Except CommitError TenantId := do
  rejectIf (body.schema ≠ commitSchema) (.store "commit schema is not the supported v0 schema")
  let _ ← (CommitId.new body.commitId.name).mapError fun error =>
    CommitError.store ("invalid commit id: " ++ error.toString)
  body.parentCommitId.toList.forM fun parent => do
    let _ ← (CommitId.new parent.name).mapError fun error =>
      CommitError.store ("invalid parent commit id: " ++ error.toString)
    return ()
  let _ ← (ProfileId.new body.profile.name).mapError fun error =>
    CommitError.store ("invalid commit profile: " ++ error.toString)
  rejectIf (unnamed body.executor.name) (.store "commit executor has an invalid subject identifier")
  rejectIf (body.scope.kind ≠ .tenant)
    (.store ("commit persistence requires a tenant-scoped commit; global checkpoint commits contain tenant " ++
      "roots, not direct events"))
  let tenant ← okOr body.scope.tenantId (.store "tenant-scoped commit is missing its tenant id")
  rejectIf (unnamed tenant.name) (.store "tenant-scoped commit has an invalid tenant identifier")
  return tenant

def validatePayloadDigest (payloadDigest : ContentDigest) : Except CommitError Unit := do
  let canonicalDigest ← (canonicalizeAndDigest codec.sha256 (codec.intentBytes intent)).mapError CommitError.core
  rejectIf (canonicalDigest ≠ payloadDigest) .payloadDigestMismatch

def validateDurableScope (principal : AuthenticatedPrincipal) (commitTenant : TenantId) : Except CommitError Unit :=
  rejectIf (intent.tenantId ≠ commitTenant ∨ principal.tenant ≠ commitTenant ∨ principal.subject ≠ intent.actor)
    (.store (AuthorizationError.contextMismatch
      "principal, intent, and commit tenant/actor are not consistently bound").toString)

/-- Adds the size of an event to a total that stops at the largest machine word. -/
def addEventSize (total : Nat) (event : Event) : Except String Nat := do
  let bytes ← codec.eventBytes event
  return min (total + bytes.length) (2 ^ 64 - 1)

/-- The limits on the number of events and on the sizes of the events and of the commit. -/
def validateSizes (commit : Signed Domain.Commit) : Except CommitError Unit := do
  rejectIf (events = []) (.invalidEvent "durable commit must contain at least one event")
  rejectIf (events.length > maxEventsPerCommit)
    (.invalidEvent s!"event count {events.length} exceeds durable limit {maxEventsPerCommit}")
  let eventBytes ← (events.foldlM (addEventSize codec) 0).mapError CommitError.invalidEvent
  (checkSize "event_batch" maxEventBatchBytes eventBytes).mapError fun error => .invalidEvent error.toString
  let commitBytes ← (codec.commitBytes commit).mapError CommitError.invalidEvent
  (checkSize "commit" maxCommitBytes commitBytes.length).mapError fun error => .invalidEvent error.toString

/-- The root is only derived when the count agrees. -/
def validateEventRoot : Except CommitError Unit := do
  let eventCount ← if fits : events.length < 2 ^ 64 then pure (⟨events.length, fits⟩ : U64)
    else throw (.invalidEvent "event count overflow: out of range integral type conversion attempted")
  rejectIf (eventCount ≠ body.eventCount) .eventRootMismatch
  let root ← eventRoot codec.sha256 (fun event => (codec.eventBytes event).toOption) events
  rejectIf (root ≠ body.eventMerkleRoot) .eventRootMismatch

/-- The checks that follow the authorization. -/
def validateContents (submitted : DurableCommitRequest) (tenant : TenantId) : Except CommitError Unit := do
  validateSizes codec submitted.events submitted.commit
  validateCommittedEvents codec.toCodec submitted.entries
  submitted.events.forM (validateEventBinding submitted.intent tenant)
  validateProjectionBindings submitted.commit.body.commitId submitted.entries submitted.projections
  submitted.projections.forM (validateProjectionScope tenant submitted.commit.body.commitId)
  validateOutboxRecords codec submitted.outbox
  submitted.outbox.forM (validateOutboxScope codec tenant submitted.commit.body.commitId)
  validateEventRoot codec submitted.events submitted.commit.body

/-! ## The transaction -/

variable {W T : Type} (ledger : LedgerStore W T) (authorizer : Authorizer W) (submitted : DurableCommitRequest)

def storeError (error : LedgerStoreError) : CommitError := .store error.toString

def DurableCommitRequest.context (self : DurableCommitRequest) (tenant : TenantId) : AuthorizationContext :=
  ⟨self.principal, tenant, self.intent, self.intent.resourceId⟩

/-- Everything that happens before the ledger is touched. -/
def checkRequest : EStateM CommitError W TenantId := do
  validateDurableIntent codec submitted.intent
  let tenant ← commitTenant submitted.commit.body
  validatePayloadDigest codec submitted.intent submitted.payloadDigest
  validateDurableScope submitted.intent submitted.principal tenant
  request (authorizer.authorize (submitted.context tenant)) fun error => .store error.toString
  validateContents codec submitted tenant
  return tenant

def writeMutation (tenant : TenantId) (transaction : T) (attemptId : String) : EStateM CommitError W Unit := do
  let orRollback (call : W → Except LedgerStoreError Unit × W) :=
    orUndo (ledger.rollback transaction) storeError call
  orRollback (ledger.appendEvents transaction submitted.events)
  orRollback (ledger.appendCommit transaction submitted.commit)
  submitted.projections.forM fun projection => orRollback (ledger.upsertProjection transaction projection)
  submitted.outbox.forM fun record => orRollback (ledger.enqueueOutbox transaction record)
  orRollback (ledger.finalizeIdempotency transaction tenant submitted.intent.intentId attemptId
    submitted.commit.body.commitId)

/-- What is done with the answer of the idempotency claim. -/
def settleClaim (tenant : TenantId) (transaction : T) : IdempotencyClaim → EStateM CommitError W DurablePersistResult
  | .committed commitId => do
    request (ledger.rollback transaction) storeError
    return .replay commitId
  | .newReservation attemptId => do
    writeMutation ledger submitted tenant transaction attemptId
    request (ledger.commit transaction) storeError
    return .committed submitted.commit.body.commitId
  | .inProgress _ _ => do
    request (ledger.rollback transaction) storeError
    throw (.store "idempotency reservation in progress")
  | .conflictDifferentPayload => do
    request (ledger.rollback transaction) storeError
    throw (.store "idempotency payload conflict")

/-- The one transaction of a checked request. -/
def persistChecked (tenant : TenantId) : EStateM CommitError W DurablePersistResult := do
  let transaction ← request (ledger.begin tenant) storeError
  let claim ← orUndo (ledger.rollback transaction) storeError
    (ledger.claimIdempotency transaction tenant submitted.intent submitted.payloadDigest)
  settleClaim ledger submitted tenant transaction claim

def persistDurable : EStateM CommitError W DurablePersistResult := do
  let tenant ← checkRequest codec authorizer submitted
  persistChecked ledger submitted tenant

/-- The public entry point: the signature of the commit is verified first. -/
def persistDurableVerified (verify : Signed Domain.Commit → Except String Unit) (submitted : DurableCommitRequest) :
    EStateM CommitError W DurablePersistResult := do
  (verify submitted.commit).mapError CommitError.store
  persistDurable codec ledger authorizer submitted

end StateChronicle.Commit
