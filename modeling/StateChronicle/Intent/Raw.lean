import StateChronicle.Intent.Validated

/-!
# Raw intents

The wire form of an intent.  A payload is parsed into a document of texts, numbers and JSON values,
and the document is validated field by field into a typed intent with its detached signature.
-/

namespace StateChronicle.Execution

open StateChronicle.Core Domain Foundation

variable {inputs : Inputs} {bound : Nat} {content : Value}

/-! ## Documents -/

structure RawSignature where
  alg : String
  keyId : String
  sig : String
deriving DecidableEq, Repr

structure RawIntent where
  schema : String
  tenantId : String
  intentId : String
  operation : String
  actor : String
  resourceId : String
  stateType : Option Value
  expectedVersion : U64
  inputs : Inputs
  authority : Option Value
  createdAt : String
  expiresAt : Option String
  nonce : String
  signature : Option RawSignature
deriving DecidableEq

/-- The libraries a payload is read with.  Their failures are texts; `unexpected` names the value a
reader found in place of another, and `display` shows an instant. -/
structure WireReaders where
  json : List UInt8 → Except String Value
  unexpected : Value → String
  authorityProof : Value → Except String AuthorityProof
  base64 : String → Except String (List UInt8)
  rfc3339 : String → Except String Timestamp
  display : Timestamp → String

/-! ## Fields of a document -/

/-- Where a derived reader finds its fields: under their names in an object, at their positions in an
array.  A field that may be absent is read as null. -/
structure FieldSource where
  required : Nat → String → Except String Value
  optional : Nat → String → Except String Value
  defaulted : Nat → String → Option Value

namespace FieldSource

def ofObject (fields : List (String × Value)) : FieldSource where
  required _ name := okOr (fields.lookup name) s!"missing field `{name}`"
  optional _ name := .ok ((fields.lookup name).getD .null)
  defaulted _ name := fields.lookup name

/-- An array has to list every field that has no default. -/
def ofArray (expected : String) (items : List Value) : FieldSource where
  required position _ := okOr items[position]? s!"invalid length {position}, expected {expected}"
  optional position _ := okOr items[position]? s!"invalid length {position}, expected {expected}"
  defaulted position _ := items[position]?

end FieldSource

namespace WireReaders

variable (wire : WireReaders)

def invalidType (content : Value) (expected : String) : String :=
  "invalid type: " ++ wire.unexpected content ++ ", expected " ++ expected

def readString : Value → Except String String
  | .string text => .ok text
  | content => .error (wire.invalidType content "a string")

def readU64 : Value → Except String U64
  | .number (.posInt value) => .ok value
  | .number (.negInt magnitude) =>
    .error ("invalid value: " ++ wire.unexpected (.number (.negInt magnitude)) ++ ", expected u64")
  | content => .error (wire.invalidType content "u64")

def readMap : Value → Except String Inputs
  | .object fields => .ok (.ofList fields)
  | content => .error (wire.invalidType content "a map")

/-- Null stands for no value. -/
def readOption {α : Type} (read : Value → Except String α) : Value → Except String (Option α)
  | .null => .ok none
  | content => do return some (← read content)

/-- The derived reader of a record: an object is checked field by field in key order before a missing
field is reported, an array may not be longer than the record. -/
def readStruct {α : Type} (name : String) (count : Nat) (check : String × Value → Except String Unit)
    (read : FieldSource → Except String α) : Value → Except String α
  | .object fields => do
    fields.forM check
    read (.ofObject fields)
  | .array items => do
    let record ← read (.ofArray s!"struct {name} with {count} elements" items)
    rejectIf (items.length > count) s!"invalid length {items.length}, expected fewer elements in array"
    return record
  | content => .error (wire.invalidType content s!"struct {name}")

/-! ## Signatures -/

def checkSignatureField : String × Value → Except String Unit
  | (name, content) =>
    if name ∈ ["alg", "key_id", "sig"] then discard (wire.readString content) else .ok ()

def readSignatureFields (source : FieldSource) : Except String RawSignature := do
  let alg ← wire.readString (← source.required 0 "alg")
  let keyId ← wire.readString (← source.required 1 "key_id")
  let sig ← wire.readString (← source.required 2 "sig")
  return { alg, keyId, sig }

def readRawSignature : Value → Except String RawSignature :=
  wire.readStruct "RawSignature" 3 wire.checkSignatureField wire.readSignatureFields

/-! ## Intents -/

def checkIntentField : String × Value → Except String Unit
  | (name, content) =>
    if name ∈ ["schema", "tenant_id", "intent_id", "operation", "actor", "resource_id", "created_at", "nonce"] then
      discard (wire.readString content)
    else if name = "expected_version" then discard (wire.readU64 content)
    else if name = "inputs" then discard (wire.readMap content)
    else if name = "expires_at" then discard (readOption wire.readString content)
    else if name = "signature" then discard (readOption wire.readRawSignature content)
    else .ok ()

/-- Inputs that are left out are empty. -/
def readInputs : Option Value → Except String Inputs
  | some content => wire.readMap content
  | none => .ok .empty

def readIntentFields (source : FieldSource) : Except String RawIntent := do
  let schema ← wire.readString (← source.required 0 "schema")
  let tenantId ← wire.readString (← source.required 1 "tenant_id")
  let intentId ← wire.readString (← source.required 2 "intent_id")
  let operation ← wire.readString (← source.required 3 "operation")
  let actor ← wire.readString (← source.required 4 "actor")
  let resourceId ← wire.readString (← source.required 5 "resource_id")
  let stateType ← readOption .ok (← source.optional 6 "state_type")
  let expectedVersion ← wire.readU64 (← source.required 7 "expected_version")
  let inputs ← wire.readInputs (source.defaulted 8 "inputs")
  let authority ← readOption .ok (← source.optional 9 "authority")
  let createdAt ← wire.readString (← source.required 10 "created_at")
  let expiresAt ← readOption wire.readString (← source.optional 11 "expires_at")
  let nonce ← wire.readString (← source.required 12 "nonce")
  let signature ← readOption wire.readRawSignature (← source.optional 13 "signature")
  return { schema, tenantId, intentId, operation, actor, resourceId, stateType, expectedVersion, inputs, authority,
           createdAt, expiresAt, nonce, signature }

def readRawIntent : Value → Except String RawIntent :=
  wire.readStruct "RawIntent" 14 wire.checkIntentField wire.readIntentFields

/-- The text that names a state type, or an object that binds the name to null. -/
def readStateType : Value → Except String StateType
  | .string name => named name
  | .object [(name, content)] => do
    let stateType ← named name
    rejectIf (content ≠ .null) (wire.invalidType content "unit")
    return stateType
  | .object _ => .error "invalid value: map, expected map with a single key"
  | content => .error (wire.invalidType content "string or map")
where
  named (name : String) : Except String StateType :=
    okOr (([.uniqueAsset, .consumableStack, .fungibleBalance, .entitlement, .meteredResource, .listing, .escrow,
        .custom] : List StateType).find? fun stateType => stateType.asStr = name)
      ("unknown variant `" ++ name ++ "`, expected one of `unique_asset`, `consumable_stack`, `fungible_balance`, " ++
        "`entitlement`, `metered_resource`, `listing`, `escrow`, `custom`")

end WireReaders

/-! ## Parsing -/

section

variable (wire : WireReaders)

def parseIntent (payload : List UInt8) : Except IntentError RawIntent := do
  (checkSize "intent" maxIntentBytes payload.length).mapError IntentError.ofCore
  let value ← (wire.json payload).mapError IntentError.invalidJson
  rejectIf (jsonDepth value > maxJsonDepth) (.invalidField s!"JSON nesting depth exceeds limit {maxJsonDepth}")
  (wire.readRawIntent value).mapError IntentError.invalidJson

/-! ## Validation -/

def signatureByteLen : Nat := 64

def readSignature (value : String) : Except String (List UInt8) := do
  let encoded ← okOr (stripB64u value) "signature must start with `b64u:`"
  let decoded ← (wire.base64 encoded).mapError fun source => s!"signature is not valid base64url: {source}"
  rejectIf (decoded.length ≠ signatureByteLen)
    s!"signature must be exactly {signatureByteLen} bytes, got {decoded.length}"
  return decoded

def parseSignature (raw : RawSignature) : Except IntentError SignatureBlock := do
  rejectIf (raw.alg ≠ "ed25519") (.invalidField ("unsupported signature alg `" ++ raw.alg ++ "`"))
  (validateKeyId raw.keyId).mapError IntentError.domain
  let sig ← (readSignature wire raw.sig).mapError fun source =>
    IntentError.invalidField ("invalid signature `" ++ raw.sig ++ "`: " ++ source)
  return { alg := .ed25519, keyId := raw.keyId, sig }

def parseTimestamp (field value : String) : Except IntentError Timestamp :=
  (wire.rfc3339 value).mapError fun source => .invalidField s!"invalid {field} `{value}`: {source}"

def rejectExpiry (createdAt : Timestamp) : Option Timestamp → Except IntentError Unit
  | some expiry =>
    rejectIf (expiry ≤ createdAt) (.invalidExpiry ("expires_at `" ++ wire.display expiry ++
      "` must be after created_at `" ++ wire.display createdAt ++ "`"))
  | none => .ok ()

def validate (raw : RawIntent) : Except IntentError ValidatedIntent := do
  rejectIf (raw.schema ≠ intentSchema) (.invalidSchema raw.schema intentSchema)
  let intentId ← (IntentId.new raw.intentId).mapError IntentError.domain
  let operation ← (Operation.new raw.operation).mapError IntentError.domain
  let stateType ← raw.stateType.mapM fun value => (wire.readStateType value).mapError fun source =>
    IntentError.invalidField s!"invalid state_type: {source}"
  let authority ← raw.authority.mapM fun value => (wire.authorityProof value).mapError fun source =>
    IntentError.invalidField s!"invalid authority proof: {source}"
  let createdAt ← parseTimestamp wire "created_at" raw.createdAt
  let expiresAt ← raw.expiresAt.mapM (parseTimestamp wire "expires_at")
  rejectExpiry wire createdAt expiresAt
  let nonce ← (Nonce.fromB64uStr wire.base64 raw.nonce).mapError IntentError.domain
  let signature ← raw.signature.mapM (parseSignature wire)
  let intent := Intent.new ⟨raw.tenantId⟩ intentId operation ⟨raw.actor⟩ ⟨raw.resourceId⟩ stateType
    raw.expectedVersion raw.inputs authority createdAt expiresAt nonce
  return ⟨intent, signature⟩

end

/-! ## What an accepted document has shown -/

section

variable {wire : WireReaders} {raw : RawIntent}

theorem rejectExpiry_eq_ok {createdAt : Timestamp} {expiresAt : Option Timestamp} {u : Unit} :
    rejectExpiry wire createdAt expiresAt = .ok u ↔ ∀ expiry, expiresAt = some expiry → createdAt < expiry := by
  cases expiresAt with
  | none | some expiry => simp [rejectExpiry]

/-- The typed reading of the checked fields of a document. -/
structure Checked (wire : WireReaders) (raw : RawIntent) (validated : ValidatedIntent) : Prop where
  schema : raw.schema = intentSchema
  intentId : IntentId.new raw.intentId = .ok validated.intent.intentId
  operation : Operation.new raw.operation = .ok validated.intent.operation
  stateType : (raw.stateType.mapM fun value => (wire.readStateType value).mapError fun source =>
    IntentError.invalidField s!"invalid state_type: {source}") = .ok validated.intent.stateType
  authority : (raw.authority.mapM fun value => (wire.authorityProof value).mapError fun source =>
    IntentError.invalidField s!"invalid authority proof: {source}") = .ok validated.intent.authority
  createdAt : parseTimestamp wire "created_at" raw.createdAt = .ok validated.intent.createdAt
  expiresAt : raw.expiresAt.mapM (parseTimestamp wire "expires_at") = .ok validated.intent.expiresAt
  expiry : ∀ expiry, validated.intent.expiresAt = some expiry → validated.intent.createdAt < expiry
  nonce : Nonce.fromB64uStr wire.base64 raw.nonce = .ok validated.intent.nonce
  signature : raw.signature.mapM (parseSignature wire) = .ok validated.signature

/-- The fields that are taken over from a document without a check. -/
structure Copied (raw : RawIntent) (intent : Intent) : Prop where
  schema : intent.schema = intentSchema
  tenantId : intent.tenantId.name = raw.tenantId
  actor : intent.actor.name = raw.actor
  resourceId : intent.resourceId.name = raw.resourceId
  expectedVersion : intent.expectedVersion = raw.expectedVersion
  inputs : intent.inputs = raw.inputs

theorem validate_eq_ok {validated : ValidatedIntent} :
    validate wire raw = .ok validated ↔ Checked wire raw validated ∧ Copied raw validated.intent := by
  simp only [validate, Except.bind_eq_ok, Except.mapError_eq_ok, rejectIf_eq_ok, rejectExpiry_eq_ok,
    Except.pure_eq_ok, exists_const, not_not]
  constructor
  · rintro ⟨schema, intentId, identified, operation, operated, stateType, typed, authority, proved, createdAt,
      created, expiresAt, expires, inTime, nonce, fresh, signature, signed, rfl⟩
    exact ⟨⟨schema, identified, operated, typed, proved, created, expires, inTime, fresh, signed⟩,
      ⟨rfl, rfl, rfl, rfl, rfl, rfl⟩⟩
  · rintro ⟨checked, copied⟩
    obtain ⟨⟨schema, ⟨tenantId⟩, intentId, operation, ⟨actor⟩, ⟨resourceId⟩, stateType, version, inputs, authority,
      createdAt, expiresAt, nonce⟩, signature⟩ := validated
    obtain ⟨rfl, rfl, rfl, rfl, rfl, rfl⟩ := copied
    exact ⟨checked.schema, _, checked.intentId, _, checked.operation, _, checked.stateType, _, checked.authority, _,
      checked.createdAt, _, checked.expiresAt, checked.expiry, _, checked.nonce, _, checked.signature, rfl⟩

end

/-! ## Nesting of the inputs -/

theorem deepestField_le_iff {fields : List (String × Value)} :
    deepestField fields ≤ bound ↔ ∀ field ∈ fields, jsonDepth field.2 ≤ bound := by
  induction fields with
  | nil => simp [deepestField]
  | cons field rest ih =>
    rw [deepestField, Nat.max_le, ih, List.forall_mem_cons]

theorem deepestItem_le_iff {items : List Value} :
    deepestItem items ≤ bound ↔ ∀ item ∈ items, jsonDepth item ≤ bound := by
  induction items with
  | nil => simp [deepestItem]
  | cons item rest ih =>
    rw [deepestItem, Nat.max_le, ih, List.forall_mem_cons]

/-- No field with a default is nested deeper than `bound`. -/
def FieldSource.Within (source : FieldSource) (bound : Nat) : Prop :=
  ∀ position name content, source.defaulted position name = some content → jsonDepth content ≤ bound

namespace FieldSource

theorem ofObject_within (fields : List (String × Value)) : (ofObject fields).Within (deepestField fields) := by
  intro position name content found
  obtain ⟨before, after, rfl, -⟩ := List.lookup_eq_some_iff.mp found
  have member : (name, content) ∈ before ++ (name, content) :: after := by simp
  exact deepestField_le_iff.mp le_rfl _ member

theorem ofArray_within (expected : String) (items : List Value) :
    (ofArray expected items).Within (deepestItem items) := by
  intro position name content found
  have member : content ∈ items := List.mem_of_getElem? found
  exact deepestItem_le_iff.mp le_rfl _ member

end FieldSource

namespace WireReaders

variable {wire : WireReaders}

theorem deepestField_readMap (read : wire.readMap content = .ok inputs) :
    deepestField inputs.entries < jsonDepth content := by
  cases content with
  | object fields =>
    obtain rfl := Except.ok.inj read
    have kept : deepestField (SortedMap.ofList fields).entries ≤ deepestField fields := by
      refine deepestField_le_iff.mpr ?_
      rintro ⟨key, value⟩ member
      have bound : (key, value) ∈ fields := SortedMap.mem_of_get?_ofList (SortedMap.mem_entries_iff.mp member)
      exact deepestField_le_iff.mp le_rfl _ bound
    rw [jsonDepth]
    omega
  | null | bool _ | number _ | string _ | array _ => cases read

theorem deepestField_readInputs {found : Option Value}
    (within : ∀ content, found = some content → jsonDepth content ≤ bound) (read : wire.readInputs found = .ok inputs) :
    deepestField inputs.entries ≤ bound := by
  cases found with
  | none =>
    obtain rfl := Except.ok.inj read
    exact Nat.zero_le bound
  | some content => exact (deepestField_readMap read).le.trans (within content rfl)

/-- The inputs of a document are the ones found under their name, whatever the other fields are. -/
theorem readIntentFields_inputs (source : FieldSource) :
    Yields (fun raw => wire.readInputs (source.defaulted 8 "inputs") = .ok raw.inputs)
      (wire.readIntentFields source) := by
  -- Each of the eight fields before the inputs is found and then read.
  iterate 16 refine .bind fun _ => ?_
  intro raw read
  obtain ⟨inputs, found, rest⟩ := Except.bind_eq_ok.mp read
  have kept : raw.inputs = inputs := by
    refine (?_ : Yields (fun record => record.inputs = inputs) _) raw rest
    iterate 10 refine .bind fun _ => ?_
    exact .ok rfl
  rw [kept]
  exact found

theorem deepestField_readRawIntent {raw : RawIntent} (read : wire.readRawIntent content = .ok raw) :
    deepestField raw.inputs.entries < jsonDepth content := by
  cases content with
  | object fields =>
    obtain ⟨-, -, fromFields⟩ := Except.bind_eq_ok.mp read
    have inputs := readIntentFields_inputs _ raw fromFields
    have shallow := deepestField_readInputs (FieldSource.ofObject_within fields 8 "inputs") inputs
    rw [jsonDepth]
    omega
  | array items =>
    obtain ⟨record, fromItems, rest⟩ := Except.bind_eq_ok.mp read
    obtain ⟨-, -, same⟩ := Except.bind_eq_ok.mp rest
    obtain rfl := Except.pure_eq_ok.mp same
    have inputs := readIntentFields_inputs _ record fromItems
    have shallow := deepestField_readInputs (FieldSource.ofArray_within _ items 8 "inputs") inputs
    rw [jsonDepth]
    omega
  | null | bool _ | number _ | string _ => cases read

end WireReaders

/-- The inputs of a parsed payload are nested less deeply than the limit. -/
theorem deepestField_parseIntent {wire : WireReaders} {payload : List UInt8} {raw : RawIntent}
    (parsed : parseIntent wire payload = .ok raw) : deepestField raw.inputs.entries < maxJsonDepth := by
  simp only [parseIntent, Except.bind_eq_ok, Except.mapError_eq_ok, rejectIf_eq_ok, exists_const] at parsed
  obtain ⟨-, -, value, -, shallow, read⟩ := parsed
  have inside := WireReaders.deepestField_readRawIntent read
  omega

end StateChronicle.Execution
