import StateChronicle.Domain.State
import StateChronicle.Foundation.ExactCode
import StateChronicle.Foundation.LittleEndian

/-!
# Bounded canonical codec

An encoder over a caller-owned buffer and a decoder over borrowed bytes.  Integers are little-endian, lengths and tags
minimal ULEB128 below `2 ^ 32`.
-/

namespace StateChronicle.Portable

open Foundation Domain

inductive CodecError where
  | capacity
  | truncated
  | nonCanonical
  | overflow
  | trailing
  | utf8
deriving DecidableEq, Repr

/-! ## Encoder -/

/-- A buffer of fixed length and how much of it is written. -/
structure Encoder where
  buffer : List UInt8
  position : ℕ
  inBounds : position ≤ buffer.length

abbrev Encode : Type := EStateM CodecError Encoder Unit

namespace Encoder

def new (buffer : List UInt8) : Encoder := ⟨buffer, 0, Nat.zero_le _⟩

def written (encoder : Encoder) : List UInt8 := encoder.buffer.take encoder.position

/-- There is room for more bytes. -/
def Fits (encoder : Encoder) (bytes : List UInt8) : Prop := encoder.position + bytes.length ≤ encoder.buffer.length

instance (encoder : Encoder) (bytes : List UInt8) : Decidable (encoder.Fits bytes) := Nat.decLe _ _

/-- Copies bytes to the position and moves it behind them. -/
def put (encoder : Encoder) (bytes : List UInt8) (fits : encoder.Fits bytes) : Encoder where
  buffer := encoder.buffer.take encoder.position ++ bytes ++ encoder.buffer.drop (encoder.position + bytes.length)
  position := encoder.position + bytes.length
  inBounds := by
    have inside := encoder.inBounds
    unfold Fits at fits
    simp only [List.length_append, List.length_take, List.length_drop]
    omega

def fixed (bytes : List UInt8) : Encode := fun encoder =>
  if fits : encoder.Fits bytes then .ok () (encoder.put bytes fits) else .error .capacity encoder

def boolean (value : Bool) : Encode := fixed [if value then 1 else 0]

def u32 (value : U32) : Encode := fixed (LittleEndian.encode 4 value.val)

def u64 (value : U64) : Encode := fixed (LittleEndian.encode 8 value.val)

/-- The rounds of the loop that takes seven bits at a time. -/
def ulebRounds : ℕ → ℕ → List UInt8
  | 0, _ => []
  | rounds + 1, value =>
    if value / 128 = 0 then [.ofNat (value % 128)]
    else .ofNat (value % 128 + 128) :: ulebRounds rounds (value / 128)

/-- The bytes of a length or tag, as many as are counted. -/
def ulebBytes (value : U32) : List UInt8 := ulebRounds 5 value.val

def uleb (value : U32) : Encode := fixed (ulebBytes value)

/-- Writes a length and so many bytes; whether both fit is checked before either is written. -/
def bytes (value : List UInt8) : Encode := fun encoder =>
  if representable : value.length < 2 ^ 32 then
    let lengthBytes := ulebBytes ⟨value.length, representable⟩
    if encoder.buffer.length < encoder.position + (lengthBytes.length + value.length) then .error .capacity encoder
    else (do fixed lengthBytes; fixed value : Encode) encoder
  else .error .overflow encoder

def string (value : String) : Encode := bytes value.toUTF8.data.toList

/-! ### All or nothing -/

section

variable (encoder : Encoder) (bytes : List UInt8) (fits : encoder.Fits bytes)

theorem written_put : (encoder.put bytes fits).written = encoder.written ++ bytes := by
  refine List.take_left' ?_
  rw [List.length_append, List.length_take, min_eq_left encoder.inBounds]
  rfl

@[simp] theorem length_buffer_put : (encoder.put bytes fits).buffer.length = encoder.buffer.length := by
  have inside := encoder.inBounds
  unfold Fits at fits
  simp only [put, List.length_append, List.length_take, List.length_drop]
  omega

theorem position_put :
    (encoder.put bytes fits).position = encoder.position + bytes.length := rfl

end

theorem put_nil (encoder : Encoder) (fits : encoder.Fits []) : encoder.put [] fits = encoder := by
  cases encoder
  simp [put]

/-- Bytes put one after the other are bytes put together. -/
theorem put_put (encoder : Encoder) (first second : List UInt8) (fits : encoder.Fits first)
    (fitsToo : (encoder.put first fits).Fits second) (together : encoder.Fits (first ++ second)) :
    (encoder.put first fits).put second fitsToo = encoder.put (first ++ second) together := by
  have length : (encoder.buffer.take encoder.position ++ first).length = encoder.position + first.length := by
    rw [List.length_append, List.length_take, min_eq_left encoder.inBounds]
  simp only [put, mk.injEq, List.length_append, Nat.add_assoc, and_true]
  rw [List.take_left' length, ← Nat.add_assoc, List.drop_append, List.drop_eq_nil_of_le (by omega), List.nil_append,
    List.drop_drop, length, List.append_assoc _ first second]
  congr 2
  omega

/-- The action writes the bytes if they fit, and otherwise fails and changes nothing. -/
structure Writes (action : Encode) (bytes : List UInt8) : Prop where
  succeeds : ∀ encoder (fits : encoder.Fits bytes), action encoder = .ok () (encoder.put bytes fits)
  fails : ∀ encoder, ¬ encoder.Fits bytes → ∃ error, action encoder = .error error encoder

theorem fixed_writes (bytes : List UInt8) : Writes (fixed bytes) bytes where
  succeeds _ fits := dif_pos fits
  fails _ unfit := ⟨.capacity, dif_neg unfit⟩

theorem bytes_writes (value : List UInt8) (representable : value.length < 2 ^ 32) :
    Writes (bytes value) (ulebBytes ⟨value.length, representable⟩ ++ value) := by
  have total : ∀ encoder : Encoder,
      encoder.buffer.length < encoder.position + ((ulebBytes ⟨value.length, representable⟩).length + value.length) ↔
        ¬ encoder.Fits (ulebBytes ⟨value.length, representable⟩ ++ value) := by
    intro encoder
    rw [Fits, List.length_append, not_le]
  constructor
  · intro encoder fits
    have first : encoder.Fits (ulebBytes ⟨value.length, representable⟩) := by
      rw [Fits, List.length_append] at fits
      rw [Fits]
      omega
    have second : (encoder.put _ first).Fits value := by
      rw [Fits, List.length_append] at fits
      rw [Fits, length_buffer_put, position_put]
      omega
    rw [bytes, dif_pos representable, if_neg ((total encoder).not_left.mpr fits),
      EStateM.bind_apply_of_ok ((fixed_writes _).succeeds encoder first),
      (fixed_writes value).succeeds _ second, put_put]
  · intro encoder unfit
    rw [bytes, dif_pos representable, if_pos ((total encoder).mpr unfit)]
    exact ⟨.capacity, rfl⟩

theorem Writes.unchanged {action : Encode} {bytes : List UInt8} (writes : Writes action bytes)
    {encoder encoder' : Encoder} {error : CodecError} (failed : action encoder = .error error encoder') :
    encoder' = encoder := by
  by_cases fits : encoder.Fits bytes
  · rw [writes.succeeds encoder fits] at failed
    cases failed
  · obtain ⟨error', same⟩ := writes.fails encoder fits
    rw [same] at failed
    cases failed
    rfl

/-- A write of a byte string that fails changes nothing, even one too long to be counted. -/
theorem bytes_unchanged {value : List UInt8} {encoder encoder' : Encoder} {error : CodecError}
    (failed : bytes value encoder = .error error encoder') : encoder' = encoder := by
  by_cases representable : value.length < 2 ^ 32
  · exact (bytes_writes value representable).unchanged failed
  · rw [bytes, dif_neg representable] at failed
    cases failed
    rfl

end Encoder

/-! ## Decoder -/

abbrev Decoder : Type := List UInt8

abbrev Decode (α : Type) : Type := EStateM CodecError Decoder α

namespace Decoder

def finish : Decode Unit := fun remaining =>
  if remaining.isEmpty then .ok () remaining else .error .trailing remaining

def fixed (count : ℕ) : Decode (List UInt8) := fun remaining =>
  if count ≤ remaining.length then .ok (remaining.take count) (remaining.drop count)
  else .error .truncated remaining

def boolean : Decode Bool := do
  let first := (← fixed 1).head?
  if first = some 0 then return false
  else if first = some 1 then return true
  else throw .nonCanonical

def u32 : Decode U32 := do return Fin.ofNat _ (LittleEndian.value (← fixed 4))

def u64 : Decode U64 := do return Fin.ofNat _ (LittleEndian.value (← fixed 8))

/-- The rounds of the loop over the shifts; `value` is a `u32`. -/
def ulebRounds : List ℕ → ℕ → Decode U32
  | [], _ => throw .overflow
  | shift :: shifts, value => do
    let byte ← match (← fixed 1).head? with
      | some byte => pure byte.toNat
      | none => throw .truncated
    -- in the fifth byte there is room for four bits
    if shift = 28 ∧ 15 < byte then throw .overflow
    let value := value ||| (byte % 128) <<< shift % 2 ^ 32
    if byte < 128 then
      -- a last byte of zero would only lengthen the number
      if shift ≠ 0 ∧ byte = 0 then throw .nonCanonical
      return Fin.ofNat _ value
    ulebRounds shifts value

def uleb : Decode U32 := ulebRounds [0, 7, 14, 21, 28] 0

def bytes (maximum : ℕ) : Decode (List UInt8) := do
  let count ← uleb
  if maximum < count.val then throw .capacity
  fixed count.val

def string (maximum : ℕ) : Decode String := do
  match String.fromUTF8? ⟨(← bytes maximum).toArray⟩ with
  | some text => return text
  | none => throw .utf8

end Decoder

end StateChronicle.Portable
