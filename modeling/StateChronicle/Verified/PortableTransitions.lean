import StateChronicle.Domain.Bcs
import StateChronicle.Foundation.Sha256
import StateChronicle.Portable.Fields
import StateChronicle.Portable.Transition
import StateChronicle.Profiles.Registration
import StateChronicle.Verified.CustomStates

/-!
# Portable execution refines the host profile

`ReducesTo` says which payload a profile leads to, in terms of the BCS forms of its types alone.  The typed profile of
the host returns exactly those payloads, and so does the portable executor for states whose version can be
incremented.
-/

namespace StateChronicle.Verified

open StateChronicle.Core Domain Foundation Accumulator Profiles
open Portable (CanonicalCodec EncodedState TransitionRequest TransitionResult TransitionError Encoder
  Decoder CodecError decodeCanonical execute customStateHash lengthPrefixed completed completed_eq_ok)

/-! ## The reduction of a request -/

/-- Bytes are the BCS form of a value. -/
structure Encodes {T : Type} (form : BcsForm T) (value : T) (bytes : List UInt8) : Prop where
  complete : form.failure value = none
  written : (form.chunks value).flatten = bytes

/-- What a request holds as current state: nothing, or a canonical and valid state of the domain. -/
inductive Holds (typed : TypedProfile) : Option EncodedState → Option typed.profile.State → Prop
  | absent : Holds typed none none
  | present {encoded : EncodedState} {state : typed.profile.State} (domain : encoded.domain = typed.profile.domainId)
      (schema : encoded.schema = typed.profile.schemaVersion)
      (canonical : Encodes typed.stateForm state encoded.payload)
      (bounded : encoded.payload.length ≤ typed.profile.maxPayloadBytes)
      (valid : typed.profile.validateState state = .ok ()) : Holds typed (some encoded) (some state)

/-- The profile accepts the request and leads to the payload. -/
structure ReducesTo (typed : TypedProfile) (request : TransitionRequest) (payload : List UInt8) : Prop where
  named : typed.identity = .ok ⟨typed.profile.domainId⟩
  versioned : typed.profile.schemaVersion ≠ 0
  limited : typed.profile.maxPayloadBytes ≠ 0
  domain : request.domain = typed.profile.domainId
  schema : request.schema = typed.profile.schemaVersion
  bounded : request.command.length ≤ typed.profile.maxPayloadBytes
  reduced : ∃ command state next, Encodes typed.commandForm command request.command ∧
    typed.profile.operation command = request.operation ∧ Holds typed request.current state ∧
    typed.profile.validate state command = .ok () ∧ typed.profile.apply state command = .ok next ∧
    typed.profile.validateState next = .ok () ∧ Encodes typed.stateForm next payload
  fits : payload.length ≤ typed.profile.maxPayloadBytes

section Host

variable {typed : TypedProfile} (bounded : typed.profile.maxPayloadBytes ≤ maxIntentBytes)

include bounded

theorem limit_eq : typed.limit = typed.profile.maxPayloadBytes := min_eq_left bounded

theorem encode_iff {T : Type} {form : BcsForm T} {value : T} {bytes : List UInt8} :
    typed.encode form value = .ok bytes ↔
      typed.profile.schemaVersion ≠ 0 ∧ typed.profile.maxPayloadBytes ≠ 0 ∧ Encodes form value bytes ∧
        bytes.length ≤ typed.profile.maxPayloadBytes := by
  rw [TypedProfile.encode_eq_ok, limit_eq bounded]
  constructor
  · rintro ⟨versioned, limited, complete, written, fits⟩
    exact ⟨versioned, limited, ⟨complete, written⟩, fits⟩
  · rintro ⟨versioned, limited, ⟨complete, written⟩, fits⟩
    exact ⟨versioned, limited, complete, written, fits⟩

def byteValue (byte : UInt8) : Value := .number (.posInt ⟨byte.toNat, byte.toNat_lt.trans (by norm_num)⟩)

omit bounded in
theorem mapM_byteOf (bytes : List UInt8) : (bytes.map byteValue).mapM TypedProfile.byteOf = some bytes := by
  induction bytes with
  | nil => rfl
  | cons byte rest ih =>
    have read : TypedProfile.byteOf (byteValue byte) = some byte := by
      have small : byte.toNat < 256 := byte.toNat_lt
      simp [TypedProfile.byteOf, byteValue, small]
    rw [List.map_cons, List.mapM_cons, read, ih]
    rfl

theorem decodeCommand_iff (roundTrips : RoundTrips typed.commandForm) {inputs : Inputs} {bytes : List UInt8}
    (carried : inputs.get? "command" = some (.array (bytes.map byteValue))) {command : typed.profile.Command} :
    typed.decodeCommand inputs = .ok command ↔
      typed.profile.schemaVersion ≠ 0 ∧ typed.profile.maxPayloadBytes ≠ 0 ∧
        Encodes typed.commandForm command bytes ∧ bytes.length ≤ typed.profile.maxPayloadBytes := by
  have array : (Value.array (bytes.map byteValue)).asArray = some (bytes.map byteValue) := rfl
  have read := mapM_byteOf bytes
  simp only [TypedProfile.decodeCommand, TypedProfile.bound, Except.bind_eq_ok, okOr_eq_ok, Except.mapError_eq_ok,
    rejectIf_eq_ok, Except.pure_eq_ok, not_not, encode_iff bounded, TypedProfile.checkSize_eq_ok, limit_eq bounded]
  constructor
  · -- the re-encoding alone decides: the bounds on the array and on the bytes follow from it
    rintro ⟨_, found, _, listed, _, -, _, decoded, _, -, _, -, _, ⟨versioned, limited, canonical, fits⟩, _, rfl, rfl⟩
    obtain rfl := Option.some.inj (carried.symm.trans found)
    obtain rfl := Option.some.inj (array.symm.trans listed)
    obtain rfl := Option.some.inj (read.symm.trans decoded)
    exact ⟨versioned, limited, canonical, fits⟩
  · rintro ⟨versioned, limited, canonical, fits⟩
    have parsed := roundTrips command canonical.complete
    rw [canonical.written] at parsed
    have sized : (bytes.map byteValue).length ≤ typed.profile.maxPayloadBytes := by
      rw [List.length_map]
      exact fits
    exact ⟨_, carried, _, array, (), ⟨versioned, limited, sized⟩, _, read, (), ⟨versioned, limited, fits⟩, _, parsed, _,
      ⟨versioned, limited, canonical, fits⟩, (), rfl, rfl⟩

/-- How a projection and the state of a request stand for one another. -/
inductive SameState : Option EncodedState → Option StateProjection → Prop
  | absent : SameState none none
  | present {encoded : EncodedState} {projection : StateProjection} (type : projection.stateType = .custom)
      (state : projection.state = .custom ⟨⟨encoded.domain⟩, encoded.schema, encoded.payload⟩)
      (version : projection.version = encoded.version) : SameState (some encoded) (some projection)

theorem decodeCurrent_iff (roundTrips : RoundTrips typed.stateForm)
    (named : typed.identity = .ok ⟨typed.profile.domainId⟩) (versioned : typed.profile.schemaVersion ≠ 0)
    (limited : typed.profile.maxPayloadBytes ≠ 0) {encoded : Option EncodedState} {current : Option StateProjection}
    (same : SameState encoded current) {state : Option typed.profile.State} :
    typed.decodeCurrent current = .ok state ↔ Holds typed encoded state := by
  cases same with
  | absent =>
    constructor
    · intro returns
      cases returns
      exact .absent
    · intro holds
      cases holds
      rfl
  | present type custom version =>
    simp only [TypedProfile.decodeCurrent, Except.bind_eq_ok, rejectIf_eq_ok, Except.pure_eq_ok, not_not,
      TypedProfile.decodeState_eq_ok, encode_iff bounded]
    constructor
    · rintro ⟨_, -, decoded, ⟨payload, domain, same, identity, ⟨-, -, canonical, fits⟩, -, valid⟩, rfl⟩
      rw [custom, ResourceState.custom.injEq, CustomState.mk.injEq] at same
      obtain ⟨rfl, schema, rfl⟩ := same
      rw [named] at identity
      exact .present (ProfileId.mk.inj (Except.ok.inj identity)).symm schema canonical fits valid
    · rintro (_ | ⟨domain, schema, canonical, fits, valid⟩)
      have parsed := roundTrips _ canonical.complete
      rw [canonical.written] at parsed
      rw [domain, schema] at custom
      exact ⟨(), type, _, ⟨_, _, custom, named, ⟨versioned, limited, canonical, fits⟩, parsed, valid⟩, rfl⟩

/-- What the inputs of an intent and the current projection have in common with a request. -/
structure Corresponds (typed : TypedProfile) (request : TransitionRequest) (current : Option StateProjection)
    (operation : Operation) (inputs : Inputs) : Prop where
  registered : operation ∈ typed.operations
  valid : Operation.new operation.name = .ok operation
  operation : request.operation = operation.name
  profile : inputs.get? "profile" = some (.string request.domain)
  schema : inputs.get? "schema_version" = some (.number (.posInt (request.schema.castLE (by decide))))
  command : inputs.get? "command" = some (.array (request.command.map byteValue))
  current : SameState request.current current

omit bounded in
theorem validProfileId_name {name : String} {id : ProfileId} (valid : ProfileRegistry.validProfileId name = .ok id) :
    ProfileRegistry.validProfileId name = .ok ⟨name⟩ := by
  rw [valid, ProfileRegistry.validProfileId_eq_ok valid]

variable (stateRoundTrips : RoundTrips typed.stateForm) (commandRoundTrips : RoundTrips typed.commandForm)
  {request : TransitionRequest} {current : Option StateProjection} {operation : Operation} {inputs : Inputs}
  (corresponds : Corresponds typed request current operation inputs)

include corresponds

omit bounded in
theorem checkDomain_iff :
    typed.checkDomain inputs = .ok () ↔
      typed.identity = .ok ⟨typed.profile.domainId⟩ ∧ request.domain = typed.profile.domainId ∧
        request.schema = typed.profile.schemaVersion := by
  have text : (inputs.get? "profile").bind Value.asStr = some request.domain := by rw [corresponds.profile]; rfl
  have number : ((inputs.get? "schema_version").bind Value.asU64).map Fin.val = some request.schema.val := by
    rw [corresponds.schema]
    rfl
  simp only [TypedProfile.checkDomain, Except.bind_eq_ok, okOr_eq_ok, rejectIf_eq_ok, not_or, not_not, text, number,
    Option.some.injEq]
  constructor
  · rintro ⟨_, rfl, id, valid, identity, own, rfl, schema⟩
    have named := validProfileId_name own
    obtain rfl := ProfileRegistry.validProfileId_eq_ok own
    have same := ProfileRegistry.validProfileId_eq_ok valid
    exact ⟨named, (ProfileId.mk.inj same).symm, Fin.ext schema⟩
  · rintro ⟨named, domain, schema⟩
    refine ⟨_, rfl, ⟨typed.profile.domainId⟩, ?_, _, named, rfl, congrArg Fin.val schema⟩
    rw [domain]
    exact named

include stateRoundTrips commandRoundTrips

theorem arguments_iff {state : Option typed.profile.State} {command : typed.profile.Command} :
    typed.arguments operation current inputs = .ok (state, command) ↔
      typed.identity = .ok ⟨typed.profile.domainId⟩ ∧ typed.profile.schemaVersion ≠ 0 ∧
        typed.profile.maxPayloadBytes ≠ 0 ∧ request.domain = typed.profile.domainId ∧
        request.schema = typed.profile.schemaVersion ∧ request.command.length ≤ typed.profile.maxPayloadBytes ∧
        Encodes typed.commandForm command request.command ∧ typed.profile.operation command = request.operation ∧
        Holds typed request.current state := by
  simp only [TypedProfile.arguments, Except.bind_eq_ok, rejectIf_eq_ok, not_not, Except.mapError_eq_ok,
    Except.pure_eq_ok, Prod.mk.injEq, checkDomain_iff corresponds,
    decodeCommand_iff bounded commandRoundTrips corresponds.command]
  constructor
  · rintro ⟨_, -, _, ⟨named, domain, schema⟩, _, ⟨versioned, limited, canonical, fits⟩, _, new, _, rfl, _, decoded, rfl,
      rfl⟩
    refine ⟨named, versioned, limited, domain, schema, fits, canonical, ?_,
      (decodeCurrent_iff bounded stateRoundTrips named versioned limited corresponds.current).mp decoded⟩
    simp only [Operation.new, Except.bind_eq_ok, Except.pure_eq_ok] at new
    obtain ⟨_, -, rfl⟩ := new
    exact corresponds.operation.symm
  · rintro ⟨named, versioned, limited, domain, schema, fits, canonical, bound, holds⟩
    refine ⟨(), corresponds.registered, (), ⟨named, domain, schema⟩, command, ⟨versioned, limited, canonical, fits⟩,
      operation, ?_, (), rfl, state,
      (decodeCurrent_iff bounded stateRoundTrips named versioned limited corresponds.current).mpr holds, rfl, rfl⟩
    rw [bound, corresponds.operation]
    exact corresponds.valid

theorem apply_iff {after : ResourceState} :
    typed.apply current operation inputs = .ok after ↔
      ∃ payload, ReducesTo typed request payload ∧
        after = .custom ⟨⟨typed.profile.domainId⟩, typed.profile.schemaVersion, payload⟩ := by
  simp only [TypedProfile.apply_eq_ok, arguments_iff bounded stateRoundTrips commandRoundTrips corresponds,
    encode_iff bounded]
  constructor
  · rintro ⟨state, command, next, payload, domain, ⟨named, versioned, limited, requested, schema, sized, canonical,
      bound, holds⟩, validated, reduced, valid, ⟨-, -, written, fits⟩, identity, rfl⟩
    rw [named] at identity
    cases identity
    exact ⟨payload, ⟨named, versioned, limited, requested, schema, sized,
      ⟨command, state, next, canonical, bound, holds, validated, reduced, valid, written⟩, fits⟩, rfl⟩
  · rintro ⟨payload, reduces, rfl⟩
    obtain ⟨command, state, next, canonical, bound, holds, validated, reduced, valid, written⟩ := reduces.reduced
    exact ⟨state, command, next, payload, _, ⟨reduces.named, reduces.versioned, reduces.limited, reduces.domain,
      reduces.schema, reduces.bounded, canonical, bound, holds⟩, validated, reduced, valid,
      ⟨reduces.versioned, reduces.limited, written, reduces.fits⟩, reduces.named, rfl⟩

end Host

/-! ## The portable executor -/

/-- A codec that writes and reads the BCS form of its type. -/
structure IsBcs {T : Type} (codec : CanonicalCodec T) (form : BcsForm T) : Prop where
  encodes : ∀ value encoder encoder', codec.encode value encoder = .ok () encoder' ↔
    form.failure value = none ∧ ∃ fits, encoder' = encoder.put (form.chunks value).flatten fits
  decodes : ∀ value, form.failure value = none → codec.decode (form.chunks value).flatten = .ok value []

theorem finish_eq_ok {reader rest : List UInt8} : Decoder.finish reader = .ok () rest ↔ reader = [] ∧ rest = [] := by
  unfold Decoder.finish
  split_ifs with ended
  · have empty := List.isEmpty_iff.mp ended
    simp [empty, eq_comm]
  · have rest : reader ≠ [] := mt List.isEmpty_iff.mpr ended
    simp [rest]

section

variable {T : Type} {codec : CanonicalCodec T} {form : BcsForm T} (isBcs : IsBcs codec form) {maximum : ℕ} {value : T}
  {bytes : List UInt8}

include isBcs

theorem encode_new_iff {buffer : List UInt8} (large : maximum ≤ buffer.length) :
    (∃ encoder, codec.encode value (.new (buffer.take (min buffer.length maximum))) = .ok () encoder ∧
      encoder.written = bytes) ↔ Encodes form value bytes ∧ bytes.length ≤ maximum := by
  have capacity : (buffer.take (min buffer.length maximum)).length = maximum := by
    rw [List.length_take]
    omega
  simp only [isBcs.encodes]
  constructor
  · rintro ⟨_, ⟨complete, fits, rfl⟩, rfl⟩
    have room : 0 + (form.chunks value).flatten.length ≤ (buffer.take (min buffer.length maximum)).length := fits
    rw [Encoder.written_put]
    refine ⟨⟨complete, rfl⟩, ?_⟩
    change (form.chunks value).flatten.length ≤ maximum
    omega
  · rintro ⟨⟨complete, rfl⟩, bounded⟩
    have fits : (Encoder.new (buffer.take (min buffer.length maximum))).Fits (form.chunks value).flatten := by
      change 0 + _ ≤ (buffer.take (min buffer.length maximum)).length
      omega
    exact ⟨_, ⟨complete, fits, rfl⟩, Encoder.written_put _ _ _⟩

theorem decodeCanonical_iff {scratch : List UInt8} (large : maximum ≤ scratch.length) :
    decodeCanonical codec bytes maximum scratch = .ok value ↔ Encodes form value bytes ∧ bytes.length ≤ maximum := by
  rw [← encode_new_iff isBcs large]
  constructor
  · intro returns
    simp only [decodeCanonical, Except.bind_eq_ok, rejectIf_eq_ok, not_lt, not_not] at returns
    obtain ⟨_, bounded, ⟨decoded, reader⟩, read, ⟨_, rest⟩, finished, ⟨_, writer⟩, wrote, _, same, returned⟩ := returns
    cases returned
    exact ⟨writer, completed_eq_ok.mp wrote, same⟩
  · rintro ⟨writer, wrote, rfl⟩
    obtain ⟨canonical, bounded⟩ := (encode_new_iff isBcs large).mp ⟨writer, wrote, rfl⟩
    have read := isBcs.decodes value canonical.complete
    rw [canonical.written] at read
    simp only [decodeCanonical, Except.bind_eq_ok, rejectIf_eq_ok, not_lt, not_not]
    exact ⟨(), bounded, (value, []), completed_eq_ok.mpr read, ((), []),
      completed_eq_ok.mpr (finish_eq_ok.mpr ⟨rfl, rfl⟩), ((), writer), completed_eq_ok.mpr wrote, (), rfl, rfl⟩

end

/-! ### Identity and hash -/

theorem identity_iff {typed : TypedProfile} :
    typed.identity = .ok ⟨typed.profile.domainId⟩ ↔
      typed.profile.domainId ≠ "" ∧ ¬ 128 < (typed.profile.domainId.toList.take 129).length ∧
        ¬ typed.profile.domainId.toList.any isControl = true := by
  have count : 128 < (typed.profile.domainId.toList.take 129).length ↔ typed.profile.domainId.length > maxIdLength := by
    rw [List.length_take, String.length_toList, maxIdLength]
    omega
  rw [count]
  simp only [TypedProfile.identity, ProfileRegistry.validProfileId, Except.mapError_eq_ok, ProfileId.new,
    Except.bind_eq_ok, Except.pure_eq_ok, validateName]
  split_ifs with empty control long
  · simp [empty]
  · simp [control]
  · simp [long]
  · exact iff_of_true ⟨(), rfl, trivial⟩ ⟨empty, long, control⟩

/-- A length is written as the host writes it. -/
theorem ulebRounds_eq {digits n : ℕ} (small : n < 2 ^ (7 * (digits + 1))) :
    Encoder.ulebRounds (digits + 1) n = Bcs.uleb128 digits n := by
  induction digits generalizing n with
  | zero =>
    have byte : n < 128 := small
    rw [Encoder.ulebRounds, if_pos (by omega), Nat.mod_eq_of_lt byte]
    rfl
  | succ digits ih =>
    have shifted := Decoder.two_pow_next (digits + 1)
    rw [Encoder.ulebRounds, Bcs.uleb128]
    by_cases byte : n < 128
    · rw [if_pos (by omega), if_pos byte, Nat.mod_eq_of_lt byte]
    · rw [if_neg (by omega), if_neg byte, ih (by omega)]

theorem lengthPrefixed_eq {bytes : List UInt8} (representable : bytes.length < 2 ^ 32) :
    lengthPrefixed bytes = .ok (Bcs.bytes bytes) := by
  rw [lengthPrefixed, dif_pos representable, Encoder.ulebBytes, ulebRounds_eq (by omega)]
  rfl

theorem hash_custom_eq (sha256 : List UInt8 → Hash) {domain : String} {payload : List UInt8}
    (short : domain.utf8ByteSize < 2 ^ 32) (bounded : payload.length < 2 ^ 32) (schema : U32) :
    customStateHash sha256 domain schema payload = .ok (sha256 (Bcs.state (.custom ⟨⟨domain⟩, schema, payload⟩))) := by
  rw [← length_utf8] at short
  rw [customStateHash, lengthPrefixed_eq short, lengthPrefixed_eq bounded, LittleEndian.encode_eq_map]
  rfl

theorem domain_short {typed : TypedProfile} (named : typed.identity = .ok ⟨typed.profile.domainId⟩) :
    typed.profile.domainId.utf8ByteSize < 2 ^ 32 := by
  obtain ⟨-, short, -⟩ := identity_iff.mp named
  have bytes := Bcs.utf8ByteSize_ofList_le typed.profile.domainId.toList
  rw [String.ofList_toList] at bytes
  rw [List.length_take] at short
  omega

/-- Of what a request reduces to, the portable hash is the hash of the canonical bytes. -/
theorem ReducesTo.customStateHash_eq {typed : TypedProfile} {request : TransitionRequest} {payload : List UInt8}
    (reduces : ReducesTo typed request payload) (bounded : typed.profile.maxPayloadBytes ≤ maxIntentBytes)
    (sha256 : List UInt8 → Hash) :
    customStateHash sha256 typed.profile.domainId typed.profile.schemaVersion payload =
      .ok (sha256 (Bcs.state (.custom ⟨⟨typed.profile.domainId⟩, typed.profile.schemaVersion, payload⟩))) := by
  have fits := reduces.fits
  have representable : payload.length < 2 ^ 32 := by
    rw [maxIntentBytes] at bounded
    omega
  exact hash_custom_eq sha256 (domain_short reduces.named) representable typed.profile.schemaVersion

/-! ### Transitions -/

section Portable

variable {typed : TypedProfile} {stateCodec : CanonicalCodec typed.profile.State}
  {commandCodec : CanonicalCodec typed.profile.Command} (stateBcs : IsBcs stateCodec typed.stateForm)
  (commandBcs : IsBcs commandCodec typed.commandForm) {request : TransitionRequest} {output scratch : List UInt8}
  (scratchLarge : typed.profile.maxPayloadBytes ≤ scratch.length)

include stateBcs scratchLarge

theorem portable_decodeCurrent_iff {encoded : Option EncodedState} {state : Option typed.profile.State} :
    Portable.decodeCurrent typed.profile stateCodec encoded scratch = .ok state ↔ Holds typed encoded state := by
  cases encoded with
  | none =>
    constructor
    · intro returns
      cases returns
      exact .absent
    · intro holds
      cases holds
      rfl
  | some encoded =>
    simp only [Portable.decodeCurrent, Except.bind_eq_ok, rejectIf_eq_ok, not_or, not_not, Except.mapError_eq_ok,
      Except.pure_eq_ok, decodeCanonical_iff stateBcs scratchLarge]
    constructor
    · rintro ⟨_, ⟨domain, schema⟩, decoded, ⟨canonical, bounded⟩, _, valid, rfl⟩
      exact .present domain schema canonical bounded valid
    · rintro (_ | ⟨domain, schema, canonical, bounded, valid⟩)
      exact ⟨(), ⟨domain, schema⟩, _, ⟨canonical, bounded⟩, (), valid, rfl⟩

def currentVersion (request : TransitionRequest) : U64 := (request.current.map (·.version)).getD 0

/-- The versions of a request are in order. -/
structure Versioned (request : TransitionRequest) : Prop where
  expected : request.expectedVersion = currentVersion request
  live : ∀ state ∈ request.current, state.version ≠ 0

include commandBcs

theorem reducesTo_of_execute {sha256 : List UInt8 → Hash} (outputLarge : typed.profile.maxPayloadBytes ≤ output.length)
    {result : TransitionResult} {output' : List UInt8}
    (returns : execute sha256 typed.profile stateCodec commandCodec request output scratch = .ok (result, output')) :
    ∃ payload, ReducesTo typed request payload ∧ output'.take result.payloadLen = payload ∧
      result.version.val = (currentVersion request).val + 1 ∧
      customStateHash sha256 typed.profile.domainId typed.profile.schemaVersion payload = .ok result.stateHash := by
  simp only [execute, Except.bind_eq_ok, rejectIf_eq_ok, not_or, not_not, Except.mapError_eq_ok, okOr_eq_ok,
    decodeCanonical_iff commandBcs scratchLarge, portable_decodeCurrent_iff stateBcs scratchLarge,
    checkedAdd_eq_some] at returns
  -- what each check of the executor has found, in its order
  obtain ⟨_, ⟨nonempty, short, printable, versioned, limited, domain, schema⟩, _, -, version, next, command,
    ⟨canonical, bounded⟩, _, bound, state, holds, _, validated, after, reduced, _, valid, ⟨_, encoder⟩, wrote, hash,
    hashed, returned⟩ := returns
  cases returned
  obtain ⟨written, fits⟩ := (encode_new_iff stateBcs outputLarge).mp ⟨encoder, completed_eq_ok.mp wrote, rfl⟩
  refine ⟨encoder.written, ⟨identity_iff.mpr ⟨nonempty, short, printable⟩, versioned, limited, domain, schema, bounded,
    ⟨command, state, after, canonical, bound, holds, validated, reduced, valid, written⟩, fits⟩, ?_, next.symm, hashed⟩
  have length : encoder.written.length = encoder.position := by
    rw [Encoder.written, List.length_take, min_eq_left encoder.inBounds]
  rw [length, List.take_append_of_le_length encoder.inBounds]
  rfl

theorem execute_of_reducesTo (sha256 : List UInt8 → Hash) (bounded : typed.profile.maxPayloadBytes ≤ maxIntentBytes)
    (outputLarge : typed.profile.maxPayloadBytes ≤ output.length) {payload : List UInt8}
    (reduces : ReducesTo typed request payload) (versions : Versioned request)
    (below : (currentVersion request).val + 1 < 2 ^ 64) :
    ∃ result output',
      execute sha256 typed.profile stateCodec commandCodec request output scratch = .ok (result, output') := by
  obtain ⟨command, state, next, canonical, bound, holds, validated, reduced, valid, written⟩ := reduces.reduced
  obtain ⟨nonempty, short, printable⟩ := identity_iff.mp reduces.named
  obtain ⟨encoder, wrote, same⟩ := (encode_new_iff stateBcs outputLarge).mpr ⟨written, reduces.fits⟩
  have hashed := reduces.customStateHash_eq bounded sha256
  rw [← same] at hashed
  have live : ¬ request.current.any (fun state => decide (state.version = 0)) = true := by
    cases held : request.current with
    | none => simp
    | some state => simpa using versions.live state held
  refine ⟨⟨encoder.written.length, ⟨(currentVersion request).val + 1, below⟩, sha256 (Bcs.state (.custom
      ⟨⟨typed.profile.domainId⟩, typed.profile.schemaVersion, encoder.written⟩))⟩,
    encoder.buffer ++ output.drop (min output.length typed.profile.maxPayloadBytes), ?_⟩
  simp only [execute, Except.bind_eq_ok, rejectIf_eq_ok, not_or, not_not, Except.mapError_eq_ok, okOr_eq_ok,
    decodeCanonical_iff commandBcs scratchLarge, portable_decodeCurrent_iff stateBcs scratchLarge,
    checkedAdd_eq_some]
  exact ⟨(), ⟨nonempty, short, printable, reduces.versioned, reduces.limited, reduces.domain, reduces.schema⟩, (),
    ⟨versions.expected.symm, live⟩, ⟨_, below⟩, rfl, command, ⟨canonical, reduces.bounded⟩, (), bound, state, holds, (),
    validated, next, reduced, (), valid, ((), encoder), completed_eq_ok.mpr wrote, _, hashed, rfl⟩

end Portable

/-- Portable execution refines the host profile: for codecs that are the BCS forms of the profile's types, a payload
bound within the host's, and large enough buffers, the executor accepts a request exactly when the host's check and
apply accept it and the version can be incremented.  It then returns the host's next payload, the next version and the
canonical digest of the host's next state. -/
theorem portable_execution_refines {typed : TypedProfile} {stateCodec : CanonicalCodec typed.profile.State}
    {commandCodec : CanonicalCodec typed.profile.Command} (stateBcs : IsBcs stateCodec typed.stateForm)
    (commandBcs : IsBcs commandCodec typed.commandForm) (stateRoundTrips : RoundTrips typed.stateForm)
    (commandRoundTrips : RoundTrips typed.commandForm) (bounded : typed.profile.maxPayloadBytes ≤ maxIntentBytes)
    {request : TransitionRequest} {current : Option StateProjection} {operation : Operation} {inputs : Inputs}
    (corresponds : Corresponds typed request current operation inputs) (versions : Versioned request)
    {output scratch : List UInt8} (outputLarge : typed.profile.maxPayloadBytes ≤ output.length)
    (scratchLarge : typed.profile.maxPayloadBytes ≤ scratch.length) (sha256 : List UInt8 → Hash)
    {stateBytes : ResourceState → Option (List UInt8)} (layout : ∀ state, stateBytes state = some (Bcs.state state)) :
    ((∃ result output', execute sha256 typed.profile stateCodec commandCodec request output scratch =
        .ok (result, output')) ↔
      (typed.check operation current inputs = .ok () ∧ ∃ after, typed.apply current operation inputs = .ok after) ∧
        (currentVersion request).val < 2 ^ 64 - 1) ∧
    ∀ result output', execute sha256 typed.profile stateCodec commandCodec request output scratch =
        .ok (result, output') →
      ∃ next, typed.apply current operation inputs = .ok (.custom next) ∧
        output'.take result.payloadLen = next.payload ∧
        result.version.val = (currentVersion request).val + 1 ∧
        canonicalizeAndDigest sha256 (stateBytes (.custom next)) = .ok ⟨result.stateHash⟩ := by
  refine ⟨⟨?_, ?_⟩, fun result output' returns => ?_⟩
  · rintro ⟨result, output', returns⟩
    obtain ⟨payload, reduces, -, version, -⟩ :=
      reducesTo_of_execute stateBcs commandBcs scratchLarge outputLarge returns
    have applied := (apply_iff bounded stateRoundTrips commandRoundTrips corresponds).mpr ⟨payload, reduces, rfl⟩
    refine ⟨⟨TypedProfile.check_of_apply applied, _, applied⟩, ?_⟩
    have bound := result.version.isLt
    omega
  · rintro ⟨⟨-, after, applied⟩, below⟩
    obtain ⟨payload, reduces, -⟩ := (apply_iff bounded stateRoundTrips commandRoundTrips corresponds).mp applied
    exact execute_of_reducesTo stateBcs commandBcs scratchLarge sha256 bounded outputLarge reduces versions (by omega)
  · obtain ⟨payload, reduces, written, version, hashed⟩ :=
      reducesTo_of_execute stateBcs commandBcs scratchLarge outputLarge returns
    rw [reduces.customStateHash_eq bounded] at hashed
    refine ⟨_, (apply_iff bounded stateRoundTrips commandRoundTrips corresponds).mpr ⟨payload, reduces, rfl⟩, written,
      version, ?_⟩
    rw [← Except.ok.inj hashed, layout]
    rfl

def byteCodec : CanonicalCodec UInt8 where
  encode byte := Encoder.fixed [byte]
  decode := do
    match (← Decoder.fixed 1).head? with
    | some byte => return byte
    | none => throw .truncated

theorem byteCodec_isBcs : IsBcs byteCodec byteForm where
  encodes value encoder encoder' := by
    constructor
    · intro returns
      by_cases fits : encoder.Fits [value]
      · have wrote := (Encoder.fixed_writes [value]).succeeds encoder fits
        cases wrote.symm.trans returns
        exact ⟨rfl, fits, rfl⟩
      · obtain ⟨error, failed⟩ := (Encoder.fixed_writes [value]).fails encoder fits
        cases failed.symm.trans returns
    · rintro ⟨-, fits, rfl⟩
      exact (Encoder.fixed_writes [value]).succeeds encoder fits
  decodes value _ := rfl

def counterAt (version : U64) : EncodedState := ⟨"test.counter", 1, version, [5]⟩

def setToSeven (version : U64) : TransitionRequest :=
  ⟨"test.counter", 1, version, "counter.set", [7], some (counterAt version)⟩

def counterProjection (version : U64) : StateProjection :=
  ⟨⟨"acme"⟩, ⟨"counter:1"⟩, .custom, version, ⟨"evt_1"⟩, ⟨"cmt_1"⟩, ⟨zeroHash⟩, .custom ⟨⟨"test.counter"⟩, 1, [5]⟩⟩

theorem setToSeven_corresponds (version : U64) :
    Corresponds counter (setToSeven version) (some (counterProjection version)) ⟨"counter.set"⟩ (settingTo 7) where
  registered := List.mem_singleton.mpr rfl
  valid := by decide +kernel
  operation := rfl
  profile := show SortedMap.get? (settingTo 7) "profile" = some (.string "test.counter") by decide +kernel
  schema := show SortedMap.get? (settingTo 7) "schema_version" = some (.number (.posInt 1)) by decide +kernel
  command := show SortedMap.get? (settingTo 7) "command" = some (.array [byteValue 7]) by decide +kernel
  current := .present rfl rfl rfl

/-- In the last version the host accepts the request, and the executor does not. -/
theorem last_version_not_incremented :
    counter.check ⟨"counter.set"⟩ (some (counterProjection (Fin.last _))) (settingTo 7) = .ok () ∧
      counter.apply (some (counterProjection (Fin.last _))) ⟨"counter.set"⟩ (settingTo 7) =
        .ok (.custom ⟨⟨"test.counter"⟩, 1, [7]⟩) ∧
      execute Sha256.sha256 counter.profile byteCodec byteCodec (setToSeven (Fin.last _)) [0] [0] =
        .error .version :=
  ⟨by decide +kernel, by decide +kernel, by decide +kernel⟩

/-- In the first version both accept it. -/
theorem set_to_seven_executed :
    ∃ result output',
      execute Sha256.sha256 counter.profile byteCodec byteCodec (setToSeven 1) [0] [0] = .ok (result, output') ∧
        output'.take result.payloadLen = [7] ∧ result.version.val = 2 := by
  have refines := portable_execution_refines byteCodec_isBcs byteCodec_isBcs byteForm_roundTrips byteForm_roundTrips
    (by decide) (setToSeven_corresponds 1) ⟨rfl, by simp [setToSeven, counterAt]⟩
    (show 1 ≤ [(0 : UInt8)].length from le_refl 1) (show 1 ≤ [(0 : UInt8)].length from le_refl 1) Sha256.sha256
    fun _ => rfl
  have applied : counter.apply (some (counterProjection 1)) ⟨"counter.set"⟩ (settingTo 7) =
      .ok (.custom ⟨⟨"test.counter"⟩, 1, [7]⟩) := by decide +kernel
  obtain ⟨result, output', returns⟩ :=
    refines.1.mpr ⟨⟨TypedProfile.check_of_apply applied, _, applied⟩, by decide⟩
  obtain ⟨next, applied', written, version, -⟩ := refines.2 result output' returns
  cases applied.symm.trans applied'
  exact ⟨result, output', returns, written, version⟩

end StateChronicle.Verified
