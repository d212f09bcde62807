import StateChronicle.Profiles.Registry

/-!
# Typed consumer profiles

A consumer's state model, with states and commands written in BCS, as a rule set of the registry.  What is decoded has
to be encoded to the same bytes.  `verifyTransition` replays a committed transition without the executor.
-/

namespace StateChronicle.Profiles

open StateChronicle.Core Domain Foundation

variable {inputs : Inputs} {after : ResourceState}

/-! ## Contracts -/

/-- Consumer-defined semantics; errors are kept as the texts they are displayed with. -/
structure StateProfile where
  State : Type
  Command : Type
  domainId : String
  schemaVersion : U32
  maxPayloadBytes : Nat
  operation : Command → String
  validate : Option State → Command → Except String Unit
  apply : Option State → Command → Except String State
  validateState : State → Except String Unit

/-- How values are written and read: the chunks a serializer hands to its writer, why it fails after them if it
does, and the parser. -/
structure BcsForm (T : Type) where
  chunks : T → List (List UInt8)
  failure : T → Option String
  fromBytes : List UInt8 → Except String T

/-- A profile with the BCS forms of its types, and the words of the libraries for an error of the writer and for
a value that is no list of bytes. -/
structure TypedProfile where
  profile : StateProfile
  operations : List Operation
  authorityRequired : Bool := true
  stateForm : BcsForm profile.State
  commandForm : BcsForm profile.Command
  writerError : String → String
  byteArrayError : Value → String

/-! ## Bounded output -/

structure BoundedBuffer where
  bytes : List UInt8
  limit : Nat
deriving DecidableEq, Repr

def BoundedBuffer.write (buffer : BoundedBuffer) (chunk : List UInt8) : Except String BoundedBuffer := do
  rejectIf (buffer.limit - buffer.bytes.length < chunk.length) "payload size limit"
  return { buffer with bytes := buffer.bytes ++ chunk }

namespace TypedProfile

variable (self : TypedProfile) {current : Option StateProjection} {operation : Operation}

def identity : Except ProfileError ProfileId := ProfileRegistry.validProfileId self.profile.domainId

def limit : Nat := min self.profile.maxPayloadBytes maxIntentBytes

def checkSize (size : Nat) : Except ProfileError Unit :=
  rejectIf (self.profile.schemaVersion = 0 ∨ self.profile.maxPayloadBytes = 0 ∨ self.limit < size)
    (.invalidInput "invalid schema or payload size limit")

def bound (payload : List UInt8) : Except ProfileError Unit := self.checkSize payload.length

def serializeInto {T : Type} (form : BcsForm T) (buffer : BoundedBuffer) (value : T) : Except String BoundedBuffer := do
  let written ← ((form.chunks value).foldlM BoundedBuffer.write buffer).mapError self.writerError
  match form.failure value with
  | some message => throw message
  | none => return written

def encode {T : Type} (form : BcsForm T) (value : T) : Except ProfileError (List UInt8) := do
  self.checkSize 0
  let buffer ← (self.serializeInto form ⟨[], self.limit⟩ value).mapError ProfileError.invalidInput
  return buffer.bytes

def decodeState (state : ResourceState) : Except ProfileError self.profile.State :=
  match state with
  | .custom custom => do
    let identity ← self.identity
    rejectIf (custom.domain ≠ identity ∨ custom.schemaVersion ≠ self.profile.schemaVersion)
      (.invalidInput "domain/schema mismatch")
    self.bound custom.payload
    let decoded ← (self.stateForm.fromBytes custom.payload).mapError ProfileError.invalidInput
    let encoded ← self.encode self.stateForm decoded
    rejectIf (encoded ≠ custom.payload) (.invalidInput "noncanonical state")
    (self.profile.validateState decoded).mapError ProfileError.invalidInput
    return decoded
  | _ => .error (.invalidInput "custom state required")

/-! ## Commands -/

def byteOf : Value → Option UInt8
  | .number (.posInt value) => if value.val < 256 then some (UInt8.ofNat value.val) else none
  | _ => none

def decodeCommand (inputs : Inputs) : Except ProfileError self.profile.Command := do
  let commandValue ← okOr (inputs.get? "command") (.invalidInput "missing command")
  let commandArray ← okOr commandValue.asArray (.invalidInput "command must be a BCS byte array")
  self.checkSize commandArray.length
  let commandBytes ← okOr (commandArray.mapM byteOf) (.invalidInput (self.byteArrayError commandValue))
  self.bound commandBytes
  let command ← (self.commandForm.fromBytes commandBytes).mapError ProfileError.invalidInput
  let encoded ← self.encode self.commandForm command
  rejectIf (encoded ≠ commandBytes) (.invalidInput "noncanonical command")
  return command

def decodeCurrent (current : Option StateProjection) : Except ProfileError (Option self.profile.State) :=
  match current with
  | some projection => do
    rejectIf (projection.stateType ≠ .custom) (.invalidInput "projection state type mismatch")
    let state ← self.decodeState projection.state
    return some state
  | none => return none

def checkDomain (inputs : Inputs) : Except ProfileError Unit := do
  let domain ← okOr ((inputs.get? "profile").bind Value.asStr) (.invalidInput "missing profile")
  let id ← ProfileRegistry.validProfileId domain
  let identity ← self.identity
  rejectIf (id ≠ identity ∨ ((inputs.get? "schema_version").bind Value.asU64).map Fin.val ≠
    some self.profile.schemaVersion.val) (.invalidInput "domain/schema mismatch")

/-- The current state and the command an operation is run with. -/
def arguments (operation : Operation) (current : Option StateProjection) (inputs : Inputs) :
    Except ProfileError (Option self.profile.State × self.profile.Command) := do
  rejectIf (operation ∉ self.operations) (.unknownOperation operation.name)
  self.checkDomain inputs
  let command ← self.decodeCommand inputs
  let commandOperation ← (Operation.new (self.profile.operation command)).mapError fun error =>
    ProfileError.invalidInput error.toString
  rejectIf (commandOperation ≠ operation) (.invalidInput "command operation mismatch")
  let state ← self.decodeCurrent current
  return (state, command)

/-! ## The rule set -/

def check (operation : Operation) (current : Option StateProjection) (inputs : Inputs) : Except ProfileError Unit := do
  let (state, command) ← self.arguments operation current inputs
  (self.profile.validate state command).mapError ProfileError.invalidInput

def apply (current : Option StateProjection) (operation : Operation) (inputs : Inputs) :
    Except ProfileError ResourceState := do
  let (state, command) ← self.arguments operation current inputs
  (self.profile.validate state command).mapError ProfileError.invalidInput
  let next ← (self.profile.apply state command).mapError ProfileError.invalidInput
  (self.profile.validateState next).mapError ProfileError.invalidInput
  let payload ← self.encode self.stateForm next
  self.bound payload
  let domain ← self.identity
  return .custom ⟨domain, self.profile.schemaVersion, payload⟩

def rules : ProfileRules where
  stateType := .custom
  profileId := self.profile.domainId
  allowedOperations := self.operations
  check := self.check
  apply := self.apply
  schemaVersion := self.profile.schemaVersion
  validateRegistration := self.checkSize 0
  requiresAuthority _ := self.authorityRequired

section Verification

variable (digest : ResourceState → Except StateChronicleError ContentDigest)

def digestOf (state : ResourceState) : Except ProfileError ContentDigest :=
  (digest state).mapError fun error => ProfileError.invalidInput error.toString

/-- The state before the transition; what was not there yet has an empty payload. -/
def priorState (intent : Intent) (current : Option StateProjection) (after : ResourceState) :
    Except ProfileError ResourceState :=
  match current with
  | some projection => do
    rejectIf (projection.tenantId ≠ intent.tenantId ∨ projection.resourceId ≠ intent.resourceId)
      (.invalidInput "prior state scope mismatch")
    let recorded ← digestOf digest projection.state
    rejectIf (recorded ≠ projection.stateHash) (.invalidInput "prior state hash mismatch")
    return projection.state
  | none =>
    match after with
    | .custom unborn => return .custom { unborn with payload := [] }
    | _ => .error (.invalidInput "custom state required")

def verifyTransition (current : Option StateProjection) (intent : Intent) (event : Event) :
    Except ProfileError Unit := do
  rejectIf (event.schema ≠ eventSchema ∨ event.tenantId ≠ intent.tenantId ∨ event.resourceId ≠ intent.resourceId ∨
      event.intentId ≠ intent.intentId ∨ event.actor ≠ intent.actor ∨ event.operation ≠ intent.operation ∨
      intent.stateType ≠ some .custom)
    (.invalidInput "transition identity mismatch")
  let version := (current.map (·.version)).getD 0
  rejectIf ((current.any fun projection => projection.version = 0) ∨ intent.expectedVersion ≠ version ∨
      event.before.version ≠ version)
    (.invalidInput "transition version mismatch")
  let next ← okOr (checkedAdd version 1) (ProfileError.invalidInput "version overflow")
  rejectIf (event.after.version ≠ next) (.invalidInput "transition version mismatch")
  let after ← self.apply current intent.operation intent.inputs
  let before ← priorState digest intent current after
  rejectIf (event.before.state ≠ before ∨ event.after.state ≠ after)
    (.invalidInput "transition commitment mismatch")
  let beforeHash ← digestOf digest before
  rejectIf (beforeHash ≠ event.before.stateHash) (.invalidInput "transition commitment mismatch")
  let afterHash ← digestOf digest after
  rejectIf (afterHash ≠ event.after.stateHash) (.invalidInput "transition commitment mismatch")

end Verification

/-! ## What is written -/

theorem foldlM_write_eq_ok {buffer buffer' : BoundedBuffer} (fits : buffer.bytes.length ≤ buffer.limit)
    (chunks : List (List UInt8)) :
    chunks.foldlM BoundedBuffer.write buffer = .ok buffer' ↔
      (buffer.bytes ++ chunks.flatten).length ≤ buffer.limit ∧
        ⟨buffer.bytes ++ chunks.flatten, buffer.limit⟩ = buffer' := by
  induction chunks generalizing buffer with
  | nil =>
    rw [List.flatten_nil, List.append_nil]
    exact ⟨fun written => ⟨fits, Except.ok.inj written⟩, fun ⟨_, same⟩ => congrArg Except.ok same⟩
  | cons chunk rest ih =>
    rw [List.foldlM_cons, List.flatten_cons, ← List.append_assoc]
    simp only [BoundedBuffer.write, Except.bind_eq_ok, rejectIf_eq_ok, Except.pure_eq_ok, not_lt]
    constructor
    · rintro ⟨_, ⟨_, room, rfl⟩, others⟩
      have fits' : (buffer.bytes ++ chunk).length ≤ buffer.limit := by
        rw [List.length_append]
        omega
      exact (ih fits').mp others
    · rintro ⟨bounded, same⟩
      have fits' : (buffer.bytes ++ chunk).length ≤ buffer.limit := by
        rw [List.length_append] at bounded
        omega
      refine ⟨⟨buffer.bytes ++ chunk, buffer.limit⟩, ⟨(), ?_, rfl⟩, (ih fits').mpr ⟨bounded, same⟩⟩
      rw [List.length_append] at fits'
      omega

variable {self}

theorem checkSize_eq_ok {size : Nat} {u : Unit} :
    self.checkSize size = .ok u ↔
      self.profile.schemaVersion ≠ 0 ∧ self.profile.maxPayloadBytes ≠ 0 ∧ size ≤ self.limit := by
  rw [checkSize, rejectIf_eq_ok, not_or, not_or, not_lt]

theorem encode_eq_ok {T : Type} {form : BcsForm T} {value : T} {bytes : List UInt8} :
    self.encode form value = .ok bytes ↔
      self.profile.schemaVersion ≠ 0 ∧ self.profile.maxPayloadBytes ≠ 0 ∧ form.failure value = none ∧
        (form.chunks value).flatten = bytes ∧ bytes.length ≤ self.limit := by
  have empty : (⟨[], self.limit⟩ : BoundedBuffer).bytes.length ≤ self.limit := Nat.zero_le _
  simp only [encode, serializeInto, Except.bind_eq_ok, Except.mapError_eq_ok, checkSize_eq_ok,
    foldlM_write_eq_ok empty, List.nil_append, Except.pure_eq_ok]
  cases failure : form.failure value with
  | some message => simp
  | none =>
    constructor
    · rintro ⟨_, ⟨versioned, bounded, -⟩, _, ⟨_, ⟨fits, rfl⟩, written⟩, rfl⟩
      obtain rfl := Except.pure_eq_ok.mp written
      exact ⟨versioned, bounded, rfl, rfl, fits⟩
    · rintro ⟨versioned, bounded, -, rfl, fits⟩
      exact ⟨(), ⟨versioned, bounded, empty⟩, _, ⟨_, ⟨fits, rfl⟩, rfl⟩, rfl⟩

/-! ## What is read -/

theorem decodeState_eq_ok {state : ResourceState} {decoded : self.profile.State} :
    self.decodeState state = .ok decoded ↔
      ∃ payload domain, state = .custom ⟨domain, self.profile.schemaVersion, payload⟩ ∧
        self.identity = .ok domain ∧ self.encode self.stateForm decoded = .ok payload ∧
        self.stateForm.fromBytes payload = .ok decoded ∧ self.profile.validateState decoded = .ok () := by
  constructor
  · intro returns
    cases state with
    | custom custom =>
      simp only [decodeState, bound, Except.bind_eq_ok, rejectIf_eq_ok, Except.mapError_eq_ok, Except.pure_eq_ok,
        not_or, not_not] at returns
      obtain ⟨domain, named, _, ⟨rfl, schema⟩, _, -, _, parsed, _, encoded, _, rfl, _, valid, rfl⟩ := returns
      refine ⟨custom.payload, custom.domain, ?_, named, encoded, parsed, valid⟩
      rw [← schema]
    | _ => cases returns
  · rintro ⟨payload, domain, rfl, named, encoded, parsed, valid⟩
    obtain ⟨versioned, bounded, -, -, fits⟩ := encode_eq_ok.mp encoded
    simp only [decodeState, bound, Except.bind_eq_ok, rejectIf_eq_ok, Except.mapError_eq_ok, Except.pure_eq_ok,
      not_or, not_not, checkSize_eq_ok]
    exact ⟨domain, named, (), ⟨rfl, trivial⟩, (), ⟨versioned, bounded, fits⟩, decoded, parsed, payload, encoded, (),
      rfl, (), valid, rfl⟩

theorem apply_eq_ok : self.apply current operation inputs = .ok after ↔
      ∃ state command next payload domain, self.arguments operation current inputs = .ok (state, command) ∧
        self.profile.validate state command = .ok () ∧ self.profile.apply state command = .ok next ∧
        self.profile.validateState next = .ok () ∧ self.encode self.stateForm next = .ok payload ∧
        self.identity = .ok domain ∧ after = .custom ⟨domain, self.profile.schemaVersion, payload⟩ := by
  simp only [apply, bound, Except.bind_eq_ok, Except.mapError_eq_ok, Except.pure_eq_ok, checkSize_eq_ok]
  constructor
  · rintro ⟨⟨state, command⟩, read, _, validated, next, reduced, _, valid, payload, encoded, _, -, domain, named, rfl⟩
    exact ⟨state, command, next, payload, domain, read, validated, reduced, valid, encoded, named, rfl⟩
  · rintro ⟨state, command, next, payload, domain, read, validated, reduced, valid, encoded, named, rfl⟩
    obtain ⟨versioned, bounded, -, -, fits⟩ := encode_eq_ok.mp encoded
    exact ⟨(state, command), read, (), validated, next, reduced, (), valid, payload, encoded, (),
      ⟨versioned, bounded, fits⟩, domain, named, rfl⟩

theorem check_of_apply (applied : self.apply current operation inputs = .ok after) :
    self.check operation current inputs = .ok () := by
  obtain ⟨state, command, _, _, _, read, validated, -⟩ := apply_eq_ok.mp applied
  simp only [check, Except.bind_eq_ok, Except.mapError_eq_ok]
  exact ⟨(state, command), read, validated⟩

theorem arguments_eq_ok {state : Option self.profile.State} {command : self.profile.Command}
    (read : self.arguments operation current inputs = .ok (state, command)) :
    operation ∈ self.operations ∧ self.checkDomain inputs = .ok () ∧ self.decodeCommand inputs = .ok command ∧
      self.decodeCurrent current = .ok state := by
  simp only [arguments, Except.bind_eq_ok, rejectIf_eq_ok, Except.pure_eq_ok, not_not, Prod.mk.injEq] at read
  obtain ⟨_, listed, _, domain, _, decoded, _, -, _, -, _, current, rfl, rfl⟩ := read
  exact ⟨listed, domain, decoded, current⟩

end TypedProfile

end StateChronicle.Profiles
