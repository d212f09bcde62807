import StateChronicle.Commit.Persist
import StateChronicle.Domain.IntentBytes
import StateChronicle.Execution.Harness
import StateChronicle.Intent.Raw

/-!
# The two ways an intent comes in

A wire payload is parsed and validated; a typed intent is checked by `tryFromIntent`.  The wire path checks schema,
expiry and nesting at least as strictly, but it never looks at the names of tenant, actor and resource, and it bounds
the payload, not the canonical bytes.
-/

namespace StateChronicle.Verified

open StateChronicle.Core Domain Execution Foundation Commit

/-! ## What the wire path leaves open -/

/-- What the typed check asks of an intent beyond what its payload has shown. -/
structure Storable (intentBytes : Intent → Option (List UInt8)) (intent : Intent) : Prop where
  tenant : Identifies intent.tenantId.name
  actor : Identifies intent.actor.name
  resource : Identifies intent.resourceId.name
  encoded : ∃ bytes, intentBytes intent = some bytes ∧ bytes.length ≤ maxIntentBytes

section

variable {wire : WireReaders} {payload : List UInt8} {raw : RawIntent} {validated : ValidatedIntent}

theorem valid_iff_storable (parsed : parseIntent wire payload = .ok raw)
    (accepted : validate wire raw = .ok validated) (intentBytes : Intent → Option (List UInt8)) :
    ValidatedIntent.Valid intentBytes validated.intent ↔ Storable intentBytes validated.intent := by
  obtain ⟨checked, copied⟩ := validate_eq_ok.mp accepted
  constructor
  · intro valid
    exact ⟨valid.tenant, valid.actor, valid.resource, valid.encoded⟩
  · rintro ⟨tenant, actor, resource, encoded⟩
    have nesting : deepestField validated.intent.inputs.entries ≤ maxJsonDepth := by
      rw [copied.inputs]
      exact (deepestField_parseIntent parsed).le
    exact ⟨copied.schema, tenant, actor, resource, checked.expiry, nesting, encoded⟩

/-- The wire path accepts a document under any three names once it accepts it under some. -/
theorem validate_renamed (accepted : validate wire raw = .ok validated) (tenant actor resource : String) :
    validate wire { raw with tenantId := tenant, actor := actor, resourceId := resource } =
      .ok { validated with
        intent := { validated.intent with tenantId := ⟨tenant⟩, actor := ⟨actor⟩, resourceId := ⟨resource⟩ } } := by
  obtain ⟨checked, copied⟩ := validate_eq_ok.mp accepted
  refine validate_eq_ok.mpr ⟨?_, ?_⟩
  · exact ⟨checked.schema, checked.intentId, checked.operation, checked.stateType, checked.authority,
      checked.createdAt, checked.expiresAt, checked.expiry, checked.nonce, checked.signature⟩
  · exact ⟨copied.schema, rfl, rfl, rfl, copied.expectedVersion, copied.inputs⟩

end

theorem validateDurableIntent_eq_ok {codec : LedgerCodec} {intent : Intent} {u : Unit} :
    validateDurableIntent codec intent = .ok u ↔ ValidatedIntent.Valid codec.intentBytes intent := by
  simp only [validateDurableIntent, Except.bind_eq_ok, Except.mapError_eq_ok, ValidatedIntent.tryFromIntent_eq_ok_iff,
    Except.pure_eq_ok, and_true]
  constructor
  · rintro ⟨_, valid, -⟩
    exact valid
  · intro valid
    exact ⟨_, valid, rfl⟩

/-- With the canonical bytes, an intent is left out for a name, for a value BCS cannot write, or for
the length of its bytes. -/
theorem storable_bcs_iff {instant : Timestamp → String} {intent : Intent} :
    Storable (Bcs.intent instant) intent ↔
      (Identifies intent.tenantId.name ∧ Identifies intent.actor.name ∧ Identifies intent.resourceId.name) ∧
        (intent.inputs.entries.length ≤ maxSequenceLength ∧ Value.writableFields intent.inputs.entries) ∧
        (Bcs.intentBody instant intent).length ≤ maxIntentBytes := by
  constructor
  · rintro ⟨tenant, actor, resource, bytes, encoded, short⟩
    obtain ⟨writable, rfl⟩ := Bcs.intent_eq_some.mp encoded
    exact ⟨⟨tenant, actor, resource⟩, writable, short⟩
  · rintro ⟨⟨tenant, actor, resource⟩, writable, short⟩
    exact ⟨tenant, actor, resource, _, Bcs.intent_eq_some.mpr ⟨writable, rfl⟩, short⟩

/-! ## Agreement -/

/-- The typed check takes back what the wire path accepted, unchanged, exactly when the three names
identify something and the canonical bytes exist within the limit; so does the durable store. -/
theorem ingress_paths_agree_iff (codec : LedgerCodec) {wire : WireReaders} {payload : List UInt8} {raw : RawIntent}
    {validated : ValidatedIntent} (parsed : parseIntent wire payload = .ok raw)
    (accepted : validate wire raw = .ok validated) :
    (∀ again, ValidatedIntent.tryFromIntent codec.intentBytes validated.intent validated.signature = .ok again ↔
      again = validated ∧ Storable codec.intentBytes validated.intent) ∧
    (validateDurableIntent codec validated.intent = .ok () ↔ Storable codec.intentBytes validated.intent) := by
  constructor
  · intro again
    rw [ValidatedIntent.tryFromIntent_eq_ok_iff, valid_iff_storable parsed accepted, and_comm]
  · rw [validateDurableIntent_eq_ok, valid_iff_storable parsed accepted]

namespace IngressPaths

def document (tenant : String) : Value :=
  .object [("actor", .string "account:alice"), ("created_at", .string "2026-07-14T00:00:00Z"),
    ("expected_version", .number (.posInt 41)), ("inputs", .object [("to_owner", .string "account:bob")]),
    ("intent_id", .string "int_01"), ("nonce", .string "b64u:AAME"), ("operation", .string "asset.transfer"),
    ("resource_id", .string "asset:sword"), ("schema", .string intentSchema), ("tenant_id", .string tenant)]

def payload (tenant : String) : List UInt8 :=
  Accumulator.utf8 ("\x7b\"actor\":\"account:alice\",\"created_at\":\"2026-07-14T00:00:00Z\"," ++
    "\"expected_version\":41,\"inputs\":\x7b\"to_owner\":\"account:bob\"\x7d,\"intent_id\":\"int_01\"," ++
    "\"nonce\":\"b64u:AAME\",\"operation\":\"asset.transfer\",\"resource_id\":\"asset:sword\"," ++
    "\"schema\":\"statechronicle.intent.v0\",\"tenant_id\":\"" ++ tenant ++ "\"\x7d")

/-- Readers that know the payloads of two tenants. -/
def readers : WireReaders where
  json bytes :=
    if bytes = payload "" then .ok (document "")
    else if bytes = payload "acme" then .ok (document "acme")
    else .error "expected value at line 1 column 1"
  unexpected _ := "another value"
  authorityProof _ := .error "missing field `kind`"
  base64 text := if text = "AAME" then .ok [0, 3, 4] else .error "Invalid symbol 37, offset 0."
  rfc3339 text := if text = "2026-07-14T00:00:00Z" then .ok 1783987200 else .error "premature end of input"
  display _ := "2026-07-14 00:00:00 UTC"

def raw (tenant : String) : RawIntent where
  schema := intentSchema
  tenantId := tenant
  intentId := "int_01"
  operation := "asset.transfer"
  actor := "account:alice"
  resourceId := "asset:sword"
  stateType := none
  expectedVersion := 41
  inputs := .ofList [("to_owner", .string "account:bob")]
  authority := none
  createdAt := "2026-07-14T00:00:00Z"
  expiresAt := none
  nonce := "b64u:AAME"
  signature := none

def validated (tenant : String) : ValidatedIntent :=
  ⟨.new ⟨tenant⟩ ⟨"int_01"⟩ ⟨"asset.transfer"⟩ ⟨"account:alice"⟩ ⟨"asset:sword"⟩ none 41
    (.ofList [("to_owner", .string "account:bob")]) none 1783987200 none ⟨[0, 3, 4]⟩, none⟩

def instant (_ : Timestamp) : String := "2026-07-14T00:00:00Z"

def codec : LedgerCodec where
  toCodec := { Harness.codec with intentBytes := Bcs.intent instant }
  eventBytes event := .ok (Bcs.event instant event)
  commitBytes commit := .ok (Bcs.commit instant commit.body ++ Bcs.signatureBlock commit.signature)

theorem acme_parsed : parseIntent readers (payload "acme") = .ok (raw "acme") := by
  decide +kernel

theorem acme_validated : validate readers (raw "acme") = .ok (validated "acme") := by
  decide +kernel

theorem acme_storable : Storable codec.intentBytes (validated "acme").intent := by
  refine storable_bcs_iff.mpr ⟨⟨?_, ?_, ?_⟩, ?_, ?_⟩
  · exact ⟨by decide, by decide, by decide⟩
  · exact ⟨by decide, by decide, by decide⟩
  · exact ⟨by decide, by decide, by decide⟩
  · decide +kernel
  · decide +kernel

end IngressPaths

open IngressPaths in
/-- A payload with its three names in order is taken back. -/
theorem acme_taken_back :
    ValidatedIntent.tryFromIntent codec.intentBytes (validated "acme").intent (validated "acme").signature =
        .ok (validated "acme") ∧
      validateDurableIntent codec (validated "acme").intent = .ok () := by
  have agree := ingress_paths_agree_iff codec acme_parsed acme_validated
  exact ⟨(agree.1 _).mpr ⟨rfl, acme_storable⟩, agree.2.mpr acme_storable⟩

open IngressPaths in
/-- A payload without a tenant is parsed and validated; the typed check and the durable store refuse
the intent whatever its bytes are. -/
theorem anonymous_tenant_refused :
    parseIntent readers (payload "") = .ok (raw "") ∧
      validate readers (raw "") = .ok (validated "") ∧
      ∀ codec : LedgerCodec,
        ValidatedIntent.tryFromIntent codec.intentBytes (validated "").intent (validated "").signature =
            .error (.invalidField "tenant identifier must not be empty") ∧
          validateDurableIntent codec (validated "").intent =
            .error (.store "invalid durable intent: invalid intent field: tenant identifier must not be empty") := by
  refine ⟨by decide +kernel, validate_renamed acme_validated "" "account:alice" "asset:sword", ?_⟩
  intro codec
  have refused : ValidatedIntent.tryFromIntent codec.intentBytes (validated "").intent (validated "").signature =
      .error (.invalidField "tenant identifier must not be empty") := rfl
  refine ⟨refused, ?_⟩
  rw [validateDurableIntent]
  rfl

end StateChronicle.Verified
