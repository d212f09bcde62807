import StateChronicle.Execution.Ports

/-!
# Validated intents

The checks on a typed intent before it is wrapped for execution, and the digest that is bound to its
idempotency reservation.
-/

namespace StateChronicle.Execution

open StateChronicle.Core Domain Foundation

/-! ## Errors -/

inductive IntentError where
  | sizeLimitExceeded (name : String) (limit actual : Nat)
  | invalidJson (source : String)
  | invalidSchema (found expected : String)
  | invalidField (message : String)
  | invalidExpiry (message : String)
  | domain (error : DomainError)
deriving DecidableEq, Repr

def IntentError.ofCore : StateChronicleError → IntentError
  | .sizeLimitExceeded name limit actual => .sizeLimitExceeded name limit actual
  | error => .domain (.core error)

def IntentError.toString : IntentError → String
  | .sizeLimitExceeded name limit actual => sizeLimitText name limit actual
  | .invalidJson source => s!"intent payload is not valid JSON: {source}"
  | .invalidSchema found expected => s!"unsupported intent schema `{found}`; expected `{expected}`"
  | .invalidField message => s!"invalid intent field: {message}"
  | .invalidExpiry message => s!"invalid intent expiry: {message}"
  | .domain error => error.toString

/-! ## Nesting -/

def maxJsonDepth : Nat := 32

mutual

def jsonDepth : Value → Nat
  | .array items => 1 + deepestItem items
  | .object fields => 1 + deepestField fields
  | _ => 0

def deepestItem : List Value → Nat
  | [] => 0
  | item :: rest => max (jsonDepth item) (deepestItem rest)

def deepestField : List (String × Value) → Nat
  | [] => 0
  | (_, content) :: rest => max (jsonDepth content) (deepestField rest)

end

/-! ## Validation -/

/-- The checks on the identifier `name`. -/
def checkIdentifier (name value : String) : Except IntentError Unit := do
  rejectIf (value = "") (.invalidField s!"{name} identifier must not be empty")
  rejectIf (value.length > maxIdLength) (.invalidField s!"{name} identifier exceeds {maxIdLength} characters")
  rejectIf (value.toList.any isControl) (.invalidField s!"{name} identifier must not contain control characters")

/-- An identifier that passes the checks. -/
structure Identifies (value : String) : Prop where
  named : value ≠ ""
  short : value.length ≤ maxIdLength
  printable : value.toList.any isControl = false

theorem checkIdentifier_eq_ok {name value : String} {u : Unit} :
    checkIdentifier name value = .ok u ↔ Identifies value := by
  simp only [checkIdentifier, Except.bind_eq_ok, rejectIf_eq_ok, exists_const, not_lt, Bool.not_eq_true]
  constructor
  · rintro ⟨named, short, printable⟩
    exact ⟨named, short, printable⟩
  · rintro ⟨named, short, printable⟩
    exact ⟨named, short, printable⟩

namespace ValidatedIntent

variable {intentBytes : Intent → Option (List UInt8)} {signature : Option SignatureBlock} {validated : ValidatedIntent}

def fromIntent (intent : Intent) (signature : Option SignatureBlock) : ValidatedIntent := ⟨intent, signature⟩

def tryFromIntent (intentBytes : Intent → Option (List UInt8)) (intent : Intent)
    (signature : Option SignatureBlock) : Except IntentError ValidatedIntent := do
  rejectIf (intent.schema ≠ intentSchema) (.invalidSchema intent.schema intentSchema)
  checkIdentifier "tenant" intent.tenantId.name
  checkIdentifier "actor" intent.actor.name
  checkIdentifier "resource" intent.resourceId.name
  rejectIf (intent.expiresAt.any fun expiry => expiry ≤ intent.createdAt)
    (.invalidExpiry "expires_at must be after created_at")
  rejectIf (deepestField intent.inputs.entries > maxJsonDepth)
    (.invalidField s!"intent input nesting depth exceeds limit {maxJsonDepth}")
  let bytes ← (canonicalize (intentBytes intent)).mapError IntentError.ofCore
  rejectIf (bytes.length > maxIntentBytes) (.sizeLimitExceeded "intent" maxIntentBytes bytes.length)
  return fromIntent intent signature

def payloadDigest (sha256 : List UInt8 → Vector UInt8 32) (intentBytes : Intent → Option (List UInt8))
    (self : ValidatedIntent) : Except StateChronicleError ContentDigest :=
  canonicalizeAndDigest sha256 (intentBytes self.intent)

/-- What the checks ask of an intent. -/
structure Valid (intentBytes : Intent → Option (List UInt8)) (intent : Intent) : Prop where
  schema : intent.schema = intentSchema
  tenant : Identifies intent.tenantId.name
  actor : Identifies intent.actor.name
  resource : Identifies intent.resourceId.name
  expiry : ∀ expiry, intent.expiresAt = some expiry → intent.createdAt < expiry
  nesting : deepestField intent.inputs.entries ≤ maxJsonDepth
  encoded : ∃ bytes, intentBytes intent = some bytes ∧ bytes.length ≤ maxIntentBytes

theorem tryFromIntent_eq_ok_iff {intent : Intent} :
    tryFromIntent intentBytes intent signature = .ok validated ↔
      Valid intentBytes intent ∧ validated = ⟨intent, signature⟩ := by
  simp only [tryFromIntent, checkIdentifier_eq_ok, canonicalize, Except.bind_eq_ok, Except.mapError_eq_ok,
    okOr_eq_ok, rejectIf_eq_ok, Except.pure_eq_ok, exists_const, not_lt, not_not, Option.any_eq_true,
    decide_eq_true_eq, not_exists, not_and, not_le]
  constructor
  · rintro ⟨schema, tenant, actor, resource, expiry, nesting, bytes, encoded, short, rfl⟩
    exact ⟨⟨schema, tenant, actor, resource, expiry, nesting, bytes, encoded, short⟩, rfl⟩
  · rintro ⟨⟨schema, tenant, actor, resource, expiry, nesting, bytes, encoded, short⟩, rfl⟩
    exact ⟨schema, tenant, actor, resource, expiry, nesting, bytes, encoded, short, rfl⟩

variable {intent : Intent} (accepted : tryFromIntent intentBytes intent signature = .ok validated)

include accepted

/-- What an accepted intent has shown. -/
theorem tryFromIntent_eq_ok :
    validated = ⟨intent, signature⟩ ∧ intent.resourceId.name ≠ "" ∧
      ∃ bytes, intentBytes intent = some bytes ∧ bytes.length ≤ maxIntentBytes := by
  obtain ⟨valid, same⟩ := tryFromIntent_eq_ok_iff.mp accepted
  exact ⟨same, valid.resource.named, valid.encoded⟩

theorem named_of_tryFromIntent :
    intent.tenantId.name ≠ "" ∧ intent.resourceId.name ≠ "" := by
  obtain ⟨valid, -⟩ := tryFromIntent_eq_ok_iff.mp accepted
  exact ⟨valid.tenant.named, valid.resource.named⟩

end ValidatedIntent

end StateChronicle.Execution
