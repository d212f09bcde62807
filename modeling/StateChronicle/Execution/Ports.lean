import StateChronicle.Domain.Commit
import StateChronicle.Profiles.Registry

/-!
# The executor and its ports

The executor is assembled from injected components.  Each of them is a function of the world `W`
it lives in: a call returns an answer and the world it leaves.
-/

namespace StateChronicle.Execution

open StateChronicle.Core Domain Foundation Profiles

/-! ## Errors -/

inductive ExecutorError where
  | domain (error : DomainError)
  | profile (error : ProfileError)
  | sizeLimitExceeded (name : String) (limit actual : Nat)
  | expired (intentId : String)
  | duplicateIntent (intentId : String)
  | expectedVersionMismatch (resource : String) (expected actual : U64)
  | tenantScopeMissing
  | tenantNotFound (tenant : String)
  | resourceNotFound (resource : String)
  | authorityDenied
  | authorityStale
  | authorityUnavailable (message : String)
  | authorityMissing (operation : String)
  | actorMismatch (expected actual : String)
  | resourceLocked (resource : String)
  | transitionInvalid (message : String)
  | actorAuthenticationFailed (message : String)
  | transferMismatch (message : String)
  | atomicityViolation (message : String)
  | valueLegSettleRouting (intentId : String)
  | store (message : String)
  | stateTypeRequired
deriving DecidableEq, Repr

namespace ExecutorError

def toString : ExecutorError → String
  | .domain error => error.toString
  | .profile error => error.toString
  | .sizeLimitExceeded name limit actual => sizeLimitText name limit actual
  | .expired intentId => s!"intent `{intentId}` expired before acceptance"
  | .duplicateIntent intentId => s!"duplicate intent id `{intentId}` with different payload"
  | .expectedVersionMismatch resource expected actual =>
    s!"expected version mismatch for `{resource}`: expected {expected}, actual {actual}"
  | .tenantScopeMissing => "intent has no tenant scope"
  | .tenantNotFound tenant => s!"tenant `{tenant}` not found"
  | .resourceNotFound resource => s!"resource `{resource}` not found"
  | .authorityDenied => "authority evaluation denied"
  | .authorityStale => "authority proof stale or revoked"
  | .authorityUnavailable message => s!"authority source unavailable: {message}"
  | .authorityMissing operation => s!"authority binding required for operation `{operation}`"
  | .actorMismatch expected actual => s!"actor mismatch: expected `{expected}`, got `{actual}`"
  | .resourceLocked resource => s!"resource `{resource}` is locked, burned, revoked, or escrowed"
  | .transitionInvalid message => s!"invalid transition: {message}"
  | .actorAuthenticationFailed message => s!"actor authentication failed: {message}"
  | .transferMismatch message => s!"transfer mismatch: {message}"
  | .atomicityViolation message => s!"atomicity violation: {message}"
  | .valueLegSettleRouting intentId =>
    s!"value-leg trade.settle intent `{intentId}` must be settled via execute_settle " ++
      "(single-tenant) or execute_cross_tenant_trade (cross-tenant)"
  | .store message => s!"store error: {message}"
  | .stateTypeRequired => "intent requires a state_type"

def ofProfile : ProfileError → ExecutorError
  | .actorMismatch expected actual => .actorMismatch expected actual
  | .resourceLocked resource => .resourceLocked resource
  | .atomicityViolation message => .atomicityViolation message
  | .transferMismatch message => .transferMismatch message
  | .valueLegSettleRouting intentId => .valueLegSettleRouting intentId
  | other => .profile other

def ofCore : StateChronicleError → ExecutorError
  | .sizeLimitExceeded name limit actual => .sizeLimitExceeded name limit actual
  | other => .domain (.core other)

/-- The reducers' failures surface as their text. -/
def ofTransition (error : ProfileError) : ExecutorError := .transitionInvalid error.toString

end ExecutorError

inductive IntentStoreError where
  | duplicate
  | unavailable (message : String)
deriving DecidableEq, Repr

inductive StateIndexError where
  | inconsistent (message : String)
  | unavailable (message : String)
deriving DecidableEq, Repr

def StateIndexError.toString : StateIndexError → String
  | .inconsistent message => s!"no consistent index projection available: {message}"
  | .unavailable message => s!"state index unavailable: {message}"

inductive TenantStoreError where
  | notFound
  | unavailable (message : String)
deriving DecidableEq, Repr

def TenantStoreError.toString : TenantStoreError → String
  | .notFound => "tenant checkpoint root not found"
  | .unavailable message => s!"tenant store unavailable: {message}"

inductive TrustGrantError where
  | denied
  | unavailable (message : String)
  | stale
deriving DecidableEq, Repr

inductive TransactionManagerError where
  | aborted
  | commitFailed (message : String)
  | rollbackFailed (message : String)
  | unavailable (message : String)
deriving DecidableEq, Repr

def TransactionManagerError.toString : TransactionManagerError → String
  | .aborted => "transaction aborted by coordinator"
  | .commitFailed message => s!"transaction commit failed: {message}"
  | .rollbackFailed message => s!"transaction rollback failed: {message}"
  | .unavailable message => s!"transaction coordinator unavailable: {message}"

def mapIntentStoreError (intentId : String) : IntentStoreError → ExecutorError
  | .duplicate => .duplicateIntent intentId
  | .unavailable message => .store message

def mapStateIndexError (error : StateIndexError) : ExecutorError := .store error.toString

def mapTenantStoreError (error : TenantStoreError) : ExecutorError := .store error.toString

def mapTrustgrantError : TrustGrantError → ExecutorError
  | .denied => .authorityDenied
  | .stale => .authorityStale
  | .unavailable message => .authorityUnavailable message

def mapTransactionManagerError (error : TransactionManagerError) : ExecutorError := .store error.toString

section Ports

variable (W : Type)

structure TrustGrantPort where
  evaluate : TenantId → SubjectId → String → ResourceId → W → Except TrustGrantError TrustGrantOutcome × W
  checkRevocationFreshness : AuthorityProof → W → Except TrustGrantError Unit × W

structure TransactionHandle where
  commit : W → Except TransactionManagerError Unit × W
  rollback : W → Except TransactionManagerError Unit × W

structure Ports where
  putIntent : TenantId → Intent → W → Except IntentStoreError Unit × W
  getIntent : TenantId → IntentId → W → Except IntentStoreError (Option Intent) × W
  getState : TenantId → ResourceId → W → Except StateIndexError (Option StateProjection) × W
  getSubjectState : TenantId → SubjectId → ResourceId → W → Except StateIndexError (Option StateProjection) × W
  tenantExists : TenantId → W → Except TenantStoreError Bool × W
  trustgrant : List (TrustGrantPort W)
  begin : TenantId → W → Except TransactionManagerError (TransactionHandle W) × W
  beginMulti : List TenantId → W → Except TransactionManagerError (TransactionHandle W) × W

end Ports

/-! ## Signed intents -/

structure ValidatedIntent where
  intent : Intent
  signature : Option SignatureBlock
deriving DecidableEq

/-- The persistence boundary of the durable batch routes. -/
structure DurableBatchSink (W : Type) where
  persistBatch : List ValidatedIntent → List Event → W → Except String Unit × W

/-! ## The executor -/

def authorityAggregateDomain : String := "statechronicle.authority.aggregate.v0"

/-- The primitives behind canonical bytes and digests. -/
structure Codec where
  sha256 : List UInt8 → Vector UInt8 32
  intentBytes : Intent → Option (List UInt8)
  stateBytes : ResourceState → Option (List UInt8)
  aggregateBytes : String → AggregationPolicy → List ContentDigest → Option (List UInt8)

namespace Codec

def digestState (codec : Codec) (state : ResourceState) : Except StateChronicleError ContentDigest :=
  canonicalizeAndDigest codec.sha256 (codec.stateBytes state)

/-- One digest for a set of evaluations; a single evaluation stands for itself. -/
def aggregateEvaluationDigest (codec : Codec) (policy : AggregationPolicy)
    (subDigests : List ContentDigest) : ContentDigest :=
  match subDigests.dedup.insertionSort ContentDigest.order with
  | [single] => single
  | sorted => hashBytes codec.sha256
      ((codec.aggregateBytes authorityAggregateDomain policy sorted).getD [])

end Codec

structure Executor (W : Type) where
  ports : Ports W
  profiles : ProfileRegistry
  executor : SubjectId
  now : W → Timestamp × W
  eventIdFn : W → EventId × W
  intentVerifier : SignatureBlock → List UInt8 → W → Except ExecutorError Unit × W
  codec : Codec

/-- A run of the executor: it may fail, and the ports keep the world it leaves either way. -/
abbrev Run (W α : Type) : Type := EStateM ExecutorError W α

end StateChronicle.Execution
