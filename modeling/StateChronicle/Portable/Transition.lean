import StateChronicle.Portable.Integrity
import StateChronicle.Profiles.Custom

/-!
# Portable transitions

The reduction of one profile over caller-owned buffers: inputs are decoded and encoded again into scratch space to
check that they are canonical, and the next state is written to the output.
-/

namespace StateChronicle.Portable

open Foundation Domain Accumulator Profiles

/-- A consumer's encoding of one type. -/
structure CanonicalCodec (T : Type) where
  encode : T → Encode
  decode : Decode T

structure EncodedState where
  domain : String
  schema : U32
  version : U64
  payload : List UInt8
deriving DecidableEq, Repr

structure TransitionRequest where
  domain : String
  schema : U32
  expectedVersion : U64
  operation : String
  command : List UInt8
  current : Option EncodedState
deriving DecidableEq, Repr

structure TransitionResult where
  payloadLen : ℕ
  version : U64
  stateHash : Hash
deriving DecidableEq, Repr

/-- Errors of the consumer are kept as the texts they are displayed with. -/
inductive TransitionError where
  | identity
  | version
  | operation
  | codec (error : CodecError)
  | domain (message : String)
deriving DecidableEq, Repr

/-- What a run returned, with the state it left; a failed run's state is discarded. -/
def completed {ε σ α : Type} : EStateM.Result ε σ α → Except ε (α × σ)
  | .ok value state => .ok (value, state)
  | .error error _ => .error error

@[simp] theorem completed_eq_ok {ε σ α : Type} {result : EStateM.Result ε σ α} {value : α} {state : σ} :
    completed result = .ok (value, state) ↔ result = .ok value state := by
  cases result <;> simp [completed]

def decodeCanonical {T : Type} (codec : CanonicalCodec T) (bytes : List UInt8) (maximum : ℕ) (scratch : List UInt8) :
    Except CodecError T := do
  rejectIf (maximum < bytes.length) .capacity
  let (decoded, reader) ← completed (codec.decode bytes)
  let _ ← completed (Decoder.finish reader)
  -- what was decoded has to be encoded to the same bytes, so every other form of it is refused
  let capacity := min scratch.length maximum
  let (_, writer) ← completed (codec.encode decoded (.new (scratch.take capacity)))
  rejectIf (writer.written ≠ bytes) .nonCanonical
  return decoded

section

variable (sha256 : List UInt8 → Hash) (profile : StateProfile) (stateCodec : CanonicalCodec profile.State)
  (commandCodec : CanonicalCodec profile.Command)

/-- The current state, decoded and valid. -/
def decodeCurrent (current : Option EncodedState) (scratch : List UInt8) :
    Except TransitionError (Option profile.State) :=
  match current with
  | some state => do
    rejectIf (state.domain ≠ profile.domainId ∨ state.schema ≠ profile.schemaVersion) TransitionError.identity
    let decoded ← (decodeCanonical stateCodec state.payload profile.maxPayloadBytes scratch).mapError
      TransitionError.codec
    (profile.validateState decoded).mapError TransitionError.domain
    return some decoded
  | none => return none

/-- Reduces a request; with the result comes the output buffer, which a caller discards on an error. -/
def execute (request : TransitionRequest) (output scratch : List UInt8) :
    Except TransitionError (TransitionResult × List UInt8) := do
  rejectIf (profile.domainId = "" ∨ 128 < (profile.domainId.toList.take 129).length ∨
      profile.domainId.toList.any isControl ∨ profile.schemaVersion = 0 ∨ profile.maxPayloadBytes = 0 ∨
      request.domain ≠ profile.domainId ∨ request.schema ≠ profile.schemaVersion)
    TransitionError.identity
  -- live states start at version one
  let currentVersion := (request.current.map (·.version)).getD 0
  rejectIf (currentVersion ≠ request.expectedVersion ∨ request.current.any fun state => state.version = 0)
    TransitionError.version
  let version ← okOr (checkedAdd currentVersion 1) TransitionError.version
  let command ← (decodeCanonical commandCodec request.command profile.maxPayloadBytes scratch).mapError
    TransitionError.codec
  rejectIf (profile.operation command ≠ request.operation) TransitionError.operation
  let current ← decodeCurrent profile stateCodec request.current scratch
  (profile.validate current command).mapError TransitionError.domain
  let next ← (profile.apply current command).mapError TransitionError.domain
  (profile.validateState next).mapError TransitionError.domain
  let capacity := min output.length profile.maxPayloadBytes
  let (_, encoder) ← (completed (stateCodec.encode next (.new (output.take capacity)))).mapError TransitionError.codec
  let payload := encoder.written
  let stateHash ← (customStateHash sha256 profile.domainId profile.schemaVersion payload).mapError TransitionError.codec
  return (⟨payload.length, version, stateHash⟩, encoder.buffer ++ output.drop capacity)

end

end StateChronicle.Portable
