import Mathlib.Order.Defs.LinearOrder
import StateChronicle.Domain.State
import StateChronicle.Domain.Value

/-!
# Intents and events

An intent asks for one transition; an accepted intent is turned into events, each of which names
the state it replaces (`before`) and the state it writes (`after`).
-/

namespace StateChronicle.Domain

open StateChronicle.Core

/-! ## Authority -/

def trustgrantEvaluationKind : String := "trustgrant.evaluation"

inductive EvaluationResult where
  | allow
  | deny
deriving DecidableEq, Repr

inductive AggregationPolicy where
  | requireAll
  | anyOf
deriving DecidableEq, Repr

structure AuthorityProof where
  kind : String
  evaluationDigest : ContentDigest
  result : EvaluationResult
  evaluatedAt : Timestamp
deriving DecidableEq, Repr

structure TrustGrantOutcome where
  evaluationDigest : ContentDigest
  result : EvaluationResult
  evaluatedAt : Timestamp
deriving DecidableEq, Repr

/-! ## Intents -/

def intentSchema : String := "statechronicle.intent.v0"

structure Nonce where
  bytes : List UInt8
deriving DecidableEq, Repr

def maxNonceBytes : Nat := 64

def Nonce.fromBytes (bytes : List UInt8) : Except DomainError Nonce := do
  Foundation.rejectIf (bytes.length > maxNonceBytes)
    (.invalidNonce s!"nonce must be at most {maxNonceBytes} bytes, got {bytes.length}")
  return ⟨bytes⟩

/-- The text after the mark of base64url texts. -/
def stripB64u (value : String) : Option String := ("b64u:".toList.isPrefixOf? value.toList).map .ofList

def Nonce.fromB64uStr (base64 : String → Except String (List UInt8)) (value : String) : Except DomainError Nonce := do
  let encoded ← Foundation.okOr (stripB64u value) (.invalidNonce "nonce must start with `b64u:`")
  let decoded ← (base64 encoded).mapError fun source =>
    DomainError.invalidNonce s!"nonce is not valid base64url: {source}"
  Nonce.fromBytes decoded

structure Intent where
  schema : String
  tenantId : TenantId
  intentId : IntentId
  operation : Operation
  actor : SubjectId
  resourceId : ResourceId
  stateType : Option StateType
  expectedVersion : U64
  inputs : Inputs
  authority : Option AuthorityProof
  createdAt : Timestamp
  expiresAt : Option Timestamp
  nonce : Nonce
deriving DecidableEq

def Intent.new (tenantId : TenantId) (intentId : IntentId) (operation : Operation) (actor : SubjectId)
    (resourceId : ResourceId) (stateType : Option StateType) (expectedVersion : U64) (inputs : Inputs)
    (authority : Option AuthorityProof) (createdAt : Timestamp) (expiresAt : Option Timestamp)
    (nonce : Nonce) : Intent :=
  { schema := intentSchema, tenantId, intentId, operation, actor, resourceId, stateType, expectedVersion,
    inputs, authority, createdAt, expiresAt, nonce }

/-! ## Events -/

def eventSchema : String := "statechronicle.event.v0"

structure StateCommitment where
  version : U64
  stateHash : ContentDigest
  state : ResourceState
deriving DecidableEq, Repr

def StateProjection.commitment (projection : StateProjection) : StateCommitment :=
  ⟨projection.version, projection.stateHash, projection.state⟩

structure Event where
  schema : String
  tenantId : TenantId
  eventId : EventId
  intentId : IntentId
  operation : Operation
  resourceId : ResourceId
  actor : SubjectId
  before : StateCommitment
  after : StateCommitment
  authority : Option AuthorityProof
  executor : SubjectId
  createdAt : Timestamp
deriving DecidableEq, Repr

def Event.new (tenantId : TenantId) (eventId : EventId) (intentId : IntentId)
    (operation : Operation) (resourceId : ResourceId) (actor : SubjectId)
    (before after : StateCommitment) (authority : Option AuthorityProof) (executor : SubjectId)
    (createdAt : Timestamp) : Event :=
  { schema := eventSchema, tenantId, eventId, intentId, operation, resourceId, actor, before, after,
    authority, executor, createdAt }

/-! ## Orders on identifiers -/

instance : LinearOrder IntentId := LinearOrder.lift' IntentId.name IntentId.name_injective

instance : LinearOrder ResourceId := LinearOrder.lift' ResourceId.name ResourceId.name_injective

end StateChronicle.Domain
