import StateChronicle.Execution.Batch
import StateChronicle.Execution.Keys

/-!
# The routes for players

A player's request is signed, its principal is bound to the intent's actor and tenant and authorized, and its key is
looked up before the pipeline runs.  The durable routes hand the events to a sink before they answer.
-/

namespace StateChronicle.Execution

open Domain Foundation

structure AuthenticatedPrincipal where
  subject : SubjectId
  credentialId : String
  tenant : TenantId
deriving DecidableEq, Repr

structure AuthorizationContext where
  principal : AuthenticatedPrincipal
  tenant : TenantId
  intent : Intent
  resource : ResourceId

inductive AuthorizationError where
  | unauthenticated
  | denied
  | unavailable (message : String)
  | contextMismatch (message : String)
deriving DecidableEq, Repr

def AuthorizationError.toString : AuthorizationError → String
  | .unauthenticated => "authentication failed"
  | .denied => "authorization denied"
  | .unavailable message => s!"authorization service unavailable: {message}"
  | .contextMismatch message => s!"authorization context mismatch: {message}"

structure Authorizer (W : Type) where
  authorize : AuthorizationContext → W → Except AuthorizationError Unit × W

/-- The persistence boundary of the durable player route. -/
structure DurableMutationSink (W : Type) where
  persistPlayerMutation : ValidatedIntent → AuthenticatedPrincipal → List Event → W → Except String Unit × W

structure PlayerBatchItem where
  validated : ValidatedIntent
  principal : AuthenticatedPrincipal

variable {W : Type} (self : Executor W) (validated : ValidatedIntent) (principal : AuthenticatedPrincipal)
  (authorizer : Authorizer W)

/-- Binds the principal to the intent and asks the authorizer. -/
def authorizePrincipal : Run W Unit := do
  rejectIf (principal.tenant ≠ validated.intent.tenantId ∨ principal.subject ≠ validated.intent.actor)
    (ExecutorError.actorAuthenticationFailed "authenticated principal is not bound to intent actor and tenant")
  request (authorizer.authorize ⟨principal, validated.intent.tenantId, validated.intent, validated.intent.resourceId⟩)
    fun error => .actorAuthenticationFailed error.toString

def requireSignature : Except ExecutorError SignatureBlock :=
  okOr validated.signature
    (.actorAuthenticationFailed "player mutation requires a detached intent signature")

variable (keyRegistry : KeyRegistry W)

/-- Looks the signing key up, at the time the intent says it was created. -/
def resolveKey (signature : SignatureBlock) : Run W KeyRecord :=
  request (keyRegistry.resolveIntentKey validated.intent.tenantId principal.subject signature.keyId
      validated.intent.operation validated.intent.createdAt)
    fun error => .actorAuthenticationFailed error.toString

namespace Executor

def executeAuthenticatedInner (persistIntent : Bool) : Run W (List Event) := do
  authorizePrincipal validated principal authorizer
  self.executeInner validated false persistIntent

def executeAuthenticated : Run W (List Event) := self.executeAuthenticatedInner validated principal authorizer true

def executePlayer : Run W (List Event) := do
  let _ ← requireSignature validated
  self.executeAuthenticated validated principal authorizer

def executePlayerDurable (sink : DurableMutationSink W) : Run W (List Event) := do
  let _ ← requireSignature validated
  let events ← self.executeAuthenticatedInner validated principal authorizer false
  -- No events are a replay, which the sink never sees.
  if events = [] then return events
  else
    request (sink.persistPlayerMutation validated principal events) ExecutorError.store
    return events

def executePlayerWithKeyRegistry : Run W (List Event) := do
  let signature ← requireSignature validated
  let _ ← resolveKey validated principal keyRegistry signature
  self.executePlayer validated principal authorizer

def executePlayerDurableWithKeyRegistry (sink : DurableMutationSink W) : Run W (List Event) := do
  let signature ← requireSignature validated
  let _ ← resolveKey validated principal keyRegistry signature
  self.executePlayerDurable validated principal authorizer sink

/-- The checks of one item of a batch. -/
def admitItem (item : PlayerBatchItem) : Run W ValidatedIntent := do
  let signature ← requireSignature item.validated
  authorizePrincipal item.validated item.principal authorizer
  let _ ← resolveKey item.validated item.principal keyRegistry signature
  return item.validated

def admitItems (authorizer : Authorizer W) (keyRegistry : KeyRegistry W) :
    List PlayerBatchItem → Run W (List ValidatedIntent)
  | [] => pure []
  | item :: rest => do
    let validated ← admitItem authorizer keyRegistry item
    let intents ← admitItems authorizer keyRegistry rest
    return validated :: intents

def executePlayerBatchDurableWithKeyRegistry (items : List PlayerBatchItem) (authorizer : Authorizer W)
    (keyRegistry : KeyRegistry W) (sink : DurableBatchSink W) : Run W (List Event) := do
  let intents ← admitItems authorizer keyRegistry items
  self.executeBatchDurable intents sink

end Executor

end StateChronicle.Execution
