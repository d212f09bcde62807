import Mathlib.Data.Nat.Bitwise
import StateChronicle.Portable.Codec

/-!
# Typed fields

The sequences of fields that consumers write and read with the codec's primitives.  Every field has one code, which
the encoder writes and the decoder accepts for the field's type.
-/

namespace StateChronicle.Portable

open Foundation Domain

variable {maximum count n rounds bound : ℕ}

/-- The type of a field; byte strings and texts with the bound they are read with. -/
inductive FieldType where
  | fixed (count : ℕ)
  | boolean
  | u32
  | u64
  | uleb
  | bytes (maximum : ℕ)
  | string (maximum : ℕ)
deriving DecidableEq, Repr

inductive Field where
  | fixed (content : List UInt8)
  | boolean (value : Bool)
  | u32 (value : U32)
  | u64 (value : U64)
  | uleb (value : U32)
  | bytes (maximum : ℕ) (content : List UInt8)
  | string (maximum : ℕ) (content : String)
deriving DecidableEq

namespace Field

def type : Field → FieldType
  | .fixed content => .fixed content.length
  | .boolean _ => .boolean
  | .u32 _ => .u32
  | .u64 _ => .u64
  | .uleb _ => .uleb
  | .bytes maximum _ => .bytes maximum
  | .string maximum _ => .string maximum

/-- Byte strings and texts are within their bound, and their length can be written. -/
def Within : Field → Prop
  | .bytes maximum content => content.length ≤ maximum ∧ content.length < 2 ^ 32
  | .string maximum content => content.utf8ByteSize ≤ maximum ∧ content.utf8ByteSize < 2 ^ 32
  | _ => True

def counted (content : List UInt8) : List UInt8 := Encoder.ulebRounds 5 content.length ++ content

def code : Field → List UInt8
  | .fixed content => content
  | .boolean value => [if value then 1 else 0]
  | .u32 value => LittleEndian.encode 4 value.val
  | .u64 value => LittleEndian.encode 8 value.val
  | .uleb value => Encoder.ulebBytes value
  | .bytes _ content => counted content
  | .string _ content => counted content.toUTF8.data.toList

end Field

def Encoder.write : Field → Encode
  | .fixed content => Encoder.fixed content
  | .boolean value => Encoder.boolean value
  | .u32 value => Encoder.u32 value
  | .u64 value => Encoder.u64 value
  | .uleb value => Encoder.uleb value
  | .bytes _ content => Encoder.bytes content
  | .string _ content => Encoder.string content

def Encoder.writeAll : List Field → Encode
  | [] => pure ()
  | field :: fields => do
    Encoder.write field
    Encoder.writeAll fields

def Decoder.read : FieldType → Decode Field
  | .fixed count => do return .fixed (← Decoder.fixed count)
  | .boolean => do return .boolean (← Decoder.boolean)
  | .u32 => do return .u32 (← Decoder.u32)
  | .u64 => do return .u64 (← Decoder.u64)
  | .uleb => do return .uleb (← Decoder.uleb)
  | .bytes maximum => do return .bytes maximum (← Decoder.bytes maximum)
  | .string maximum => do return .string maximum (← Decoder.string maximum)

/-- Reads fields of the types and requires the input to end there. -/
def Decoder.readComplete (types : List FieldType) : Decode (List Field) := do
  let fields ← readAll Decoder.read types
  Decoder.finish
  return fields

namespace Decoder

variable {input rest content : List UInt8} {round value : ℕ}

theorem fixed_append (content rest : List UInt8) : fixed content.length (content ++ rest) = .ok content rest := by
  rw [fixed, if_pos (by simp), List.take_left, List.drop_left]

theorem fixed_eq_ok : fixed count input = .ok content rest ↔ content.length = count ∧ input = content ++ rest := by
  constructor
  · intro returns
    unfold fixed at returns
    split_ifs at returns with enough
    cases returns
    exact ⟨List.length_take_of_le enough, (List.take_append_drop count input).symm⟩
  · rintro ⟨rfl, rfl⟩
    exact fixed_append content rest

/-- The shifts of the last rounds. -/
def shiftsFrom (round : ℕ) : List ℕ := (List.range' round (5 - round)).map (7 * ·)

theorem uleb_eq : uleb = ulebRounds (shiftsFrom 0) 0 := rfl

theorem shiftsFrom_eq (inside : round < 5) : shiftsFrom round = 7 * round :: shiftsFrom (round + 1) := by
  unfold shiftsFrom
  rw [show 5 - round = 5 - (round + 1) + 1 by omega, List.range'_succ, List.map_cons]

/-- The lowest seven bits of a byte fit above the value so far, in the last round only if they are small. -/
theorem payload_fits (inside : round < 5) {payload : ℕ} (small : payload < 128) (last : round = 4 → payload ≤ 15) :
    payload * 2 ^ (7 * round) + 2 ^ (7 * round) ≤ 2 ^ 32 := by
  rw [← Nat.succ_mul]
  by_cases final : round = 4
  · subst final
    have := last rfl
    omega
  · calc (payload + 1) * 2 ^ (7 * round) ≤ 2 ^ 7 * 2 ^ (7 * round) := Nat.mul_le_mul_right _ small
      _ = 2 ^ (7 + 7 * round) := (Nat.pow_add 2 7 _).symm
      _ ≤ 2 ^ 32 := Nat.pow_le_pow_right (by decide) (by omega)

theorem ulebRounds_cons (inside : round < 5) (below : value < 2 ^ (7 * round)) (byte : UInt8) (input : List UInt8) :
    ulebRounds (shiftsFrom round) value (byte :: input) = if round = 4 ∧ 15 < byte.toNat then .error .overflow input
      else if byte.toNat < 128 then
        if round ≠ 0 ∧ byte.toNat = 0 then .error .nonCanonical input
        else .ok (Fin.ofNat _ (value + byte.toNat * 2 ^ (7 * round))) input
      else ulebRounds (shiftsFrom (round + 1)) (value + byte.toNat % 128 * 2 ^ (7 * round)) input := by
  have lastRound : 7 * round = 28 ↔ round = 4 := by omega
  have firstRound : 7 * round ≠ 0 ↔ round ≠ 0 := by omega
  have next : fixed 1 (byte :: input) = .ok [byte] input := fixed_append [byte] input
  rw [shiftsFrom_eq inside, ulebRounds, EStateM.bind_apply_of_ok next]
  simp only [List.head?_cons, EStateM.bind_apply_of_ok (EStateM.pure_apply byte.toNat), lastRound, firstRound]
  by_cases overflow : round = 4 ∧ 15 < byte.toNat
  · rw [if_pos overflow, if_pos overflow]
    rfl
  · have fits := payload_fits inside (Nat.mod_lt byte.toNat (show 0 < 128 by decide)) (by omega)
    have payload : byte.toNat % 128 * 2 ^ (7 * round) < 2 ^ 32 := by omega
    have joined : value ||| (byte.toNat % 128) <<< (7 * round) % 2 ^ 32 =
        value + byte.toNat % 128 * 2 ^ (7 * round) := by
      rw [Nat.shiftLeft_eq, Nat.mod_eq_of_lt payload, ← Nat.shiftLeft_eq, Nat.or_comm,
        ← Nat.shiftLeft_add_eq_or_of_lt below, Nat.add_comm]
    rw [if_neg overflow, if_neg overflow, joined]
    split_ifs with short zero
    · rfl
    · rw [Nat.mod_eq_of_lt short]
      rfl
    · rfl

theorem two_pow_next (round : ℕ) : 2 ^ (7 * (round + 1)) = 128 * 2 ^ (7 * round) := by
  rw [Nat.mul_succ, Nat.pow_add, Nat.mul_comm]

theorem split_payload (n weight : ℕ) : n % 128 * weight + n / 128 * (128 * weight) = n * weight := by
  rw [← Nat.mul_assoc, ← Nat.add_mul, Nat.mul_comm (n / 128), Nat.mod_add_div]

theorem last_payload_small (small : value + n * 2 ^ (7 * round) < 2 ^ 32) : round = 4 → n ≤ 15 := by
  rintro rfl
  omega

theorem ulebRounds_last (inside : round < 5) (below : value < 2 ^ (7 * round)) (short : n < 128)
    (last : round = 4 → n ≤ 15) (minimal : round ≠ 0 → n ≠ 0) (rest : List UInt8) :
    ulebRounds (shiftsFrom round) value (.ofNat (n % 128) :: rest) =
      .ok (Fin.ofNat _ (value + n * 2 ^ (7 * round))) rest := by
  have byte : (UInt8.ofNat (n % 128)).toNat = n := by
    rw [UInt8.toNat_ofNat_of_lt' (by change n % 128 < 256; omega), Nat.mod_eq_of_lt short]
  rw [ulebRounds_cons inside below, byte, if_neg (by omega), if_pos short, if_neg (by omega)]

theorem ulebRounds_complete (total : round + (rounds + 1) = 5) (below : value < 2 ^ (7 * round))
    (small : value + n * 2 ^ (7 * round) < 2 ^ 32) (minimal : round ≠ 0 → n ≠ 0) (rest : List UInt8) :
    ulebRounds (shiftsFrom round) value (Encoder.ulebRounds (rounds + 1) n ++ rest) =
      .ok (Fin.ofNat _ (value + n * 2 ^ (7 * round))) rest := by
  have inside : round < 5 := by omega
  have last := last_payload_small small
  -- the rounds that are left to the encoder, with the value the decoder has so far
  induction rounds generalizing round value n with
  | zero =>
    rw [Encoder.ulebRounds, if_pos (by omega)]
    exact ulebRounds_last inside below (by omega) last minimal rest
  | succ rounds ih =>
    rw [Encoder.ulebRounds]
    split_ifs with short
    · exact ulebRounds_last inside below (by omega) last minimal rest
    · -- a byte with the high bit: its payload is added, and the rest of the number is read one round later
      have byte : (UInt8.ofNat (n % 128 + 128)).toNat = n % 128 + 128 :=
        UInt8.toNat_ofNat_of_lt' (by change n % 128 + 128 < 256; omega)
      have payload : (n % 128 + 128) % 128 = n % 128 := by omega
      have weight := two_pow_next round
      have split := split_payload n (2 ^ (7 * round))
      have low : n % 128 * 2 ^ (7 * round) ≤ 127 * 2 ^ (7 * round) := Nat.mul_le_mul_right _ (by omega)
      have smaller : value + n % 128 * 2 ^ (7 * round) + n / 128 * 2 ^ (7 * (round + 1)) < 2 ^ 32 := by
        rw [weight]
        omega
      rw [List.cons_append, ulebRounds_cons inside below, byte, if_neg (by omega), if_neg (by omega), payload,
        ih (by omega) (by omega) smaller (by omega) (by omega) (last_payload_small smaller),
        weight, Nat.add_assoc, split]

/-- What is read is the minimal bytes of the number that is returned. -/
theorem ulebRounds_sound (total : round + rounds = 5) (below : value < 2 ^ (7 * round)) {result : U32}
    (returns : ulebRounds (shiftsFrom round) value input = .ok result rest) :
    ∃ n, result.val = value + n * 2 ^ (7 * round) ∧ (round ≠ 0 → n ≠ 0) ∧
      input = Encoder.ulebRounds rounds n ++ rest := by
  induction rounds generalizing round value input with
  | zero =>
    obtain rfl : round = 5 := total
    cases returns
  | succ rounds ih =>
    cases input with
    | nil =>
      rw [shiftsFrom_eq (by omega)] at returns
      cases returns
    | cons byte input =>
      have bound := byte.toNat_lt
      rw [ulebRounds_cons (by omega) below] at returns
      split_ifs at returns with overflow short zero
      · -- the last byte of the number
        have inside : round < 5 := by omega
        have fits := payload_fits inside short (by omega)
        cases returns
        refine ⟨byte.toNat, Nat.mod_eq_of_lt (by omega), by omega, ?_⟩
        rw [Encoder.ulebRounds, if_pos (by omega), Nat.mod_eq_of_lt short, UInt8.ofNat_toNat]
        rfl
      · have weight := two_pow_next round
        have low : byte.toNat % 128 * 2 ^ (7 * round) ≤ 127 * 2 ^ (7 * round) :=
          Nat.mul_le_mul_right _ (by omega)
        obtain ⟨high, value', positive, rfl⟩ := ih (by omega) (by rw [weight]; omega) returns
        have nonzero := positive (by omega)
        refine ⟨byte.toNat % 128 + 128 * high, ?_, by omega, ?_⟩
        · rw [value', weight, Nat.add_mul, Nat.mul_assoc 128, Nat.mul_left_comm high]
          omega
        · have quotient : (byte.toNat % 128 + 128 * high) / 128 = high := by omega
          have byte' : (byte.toNat % 128 + 128 * high) % 128 + 128 = byte.toNat := by omega
          rw [Encoder.ulebRounds, quotient, if_neg nonzero, byte', UInt8.ofNat_toNat]
          rfl

theorem uleb_complete (value : U32) (rest : List UInt8) : uleb (Encoder.ulebBytes value ++ rest) = .ok value rest := by
  have small : 0 + value.val * 2 ^ (7 * 0) < 2 ^ 32 := by
    have bound := value.isLt
    omega
  have read : ulebRounds (shiftsFrom 0) 0 (Encoder.ulebRounds (4 + 1) value.val ++ rest) = _ :=
    ulebRounds_complete rfl (by decide) small (by omega) rest
  rw [uleb_eq, Encoder.ulebBytes, read]
  simp

theorem uleb_sound {value : U32} (returns : uleb input = .ok value rest) : input = Encoder.ulebBytes value ++ rest := by
  obtain ⟨n, same, -, rfl⟩ := ulebRounds_sound (show 0 + 5 = 5 from rfl) (by decide) returns
  rw [Encoder.ulebBytes, same]
  simp

/-! ## Reading fields -/

theorem boolean_complete (value : Bool) (rest : List UInt8) :
    boolean ((if value then 1 else 0) :: rest) = .ok value rest := by
  cases value <;> rfl

theorem boolean_sound {value : Bool} (returns : boolean input = .ok value rest) :
    input = (if value then 1 else 0) :: rest := by
  obtain ⟨bytes, middle, first, others⟩ := EStateM.bind_eq_ok.mp returns
  obtain ⟨single, rfl⟩ := fixed_eq_ok.mp first
  obtain ⟨byte, rfl⟩ := List.length_eq_one_iff.mp single
  split_ifs at others with zero one
  · cases others
    obtain rfl : byte = 0 := Option.some.inj zero
    rfl
  · cases others
    obtain rfl : byte = 1 := Option.some.inj one
    rfl
  · cases others

/-- A little-endian integer of a fixed count of bytes. -/
theorem integer_complete [NeZero bound] (size : 256 ^ count = bound) (value : Fin bound) (rest : List UInt8) :
    (do return Fin.ofNat bound (LittleEndian.value (← fixed count)) : Decode (Fin bound))
      (LittleEndian.encode count value.val ++ rest) = .ok value rest := by
  have read := fixed_append (LittleEndian.encode count value.val) rest
  rw [LittleEndian.length_encode] at read
  have small : value.val < 256 ^ count := by
    rw [size]
    exact value.isLt
  rw [EStateM.bind_apply_of_ok read, LittleEndian.value_encode small, Fin.ofNat_val_eq_self]
  rfl

theorem integer_sound [NeZero bound] (size : 256 ^ count = bound) {value : Fin bound}
    (returns : (do return Fin.ofNat bound (LittleEndian.value (← fixed count)) : Decode (Fin bound)) input =
      .ok value rest) :
    input = LittleEndian.encode count value.val ++ rest := by
  obtain ⟨bytes, middle, first, others⟩ := EStateM.bind_eq_ok.mp returns
  obtain ⟨length, rfl⟩ := fixed_eq_ok.mp first
  cases others
  have small := LittleEndian.value_lt bytes
  rw [length, size] at small
  rw [Fin.val_ofNat, Nat.mod_eq_of_lt small, ← length, LittleEndian.encode_value]

theorem bytes_complete (within : content.length ≤ maximum) (representable : content.length < 2 ^ 32)
    (rest : List UInt8) :
    bytes maximum (Field.counted content ++ rest) = .ok content rest := by
  have length : uleb (Encoder.ulebRounds 5 content.length ++ (content ++ rest)) = .ok _ (content ++ rest) :=
    uleb_complete ⟨content.length, representable⟩ (content ++ rest)
  rw [Field.counted, List.append_assoc, bytes, EStateM.bind_apply_of_ok length]
  simp only [if_neg (not_lt.mpr within)]
  exact fixed_append content rest

theorem bytes_sound (returns : bytes maximum input = .ok content rest) :
    content.length ≤ maximum ∧ content.length < 2 ^ 32 ∧ input = Field.counted content ++ rest := by
  obtain ⟨count, middle, length, others⟩ := EStateM.bind_eq_ok.mp returns
  obtain rfl := uleb_sound length
  split_ifs at others with excess
  · cases others
  · obtain ⟨counted, rfl⟩ := fixed_eq_ok.mp others
    refine ⟨counted ▸ not_lt.mp excess, counted ▸ count.isLt, ?_⟩
    rw [Field.counted, counted, List.append_assoc]
    rfl

theorem length_toUTF8 (content : String) : content.toUTF8.data.toList.length = content.utf8ByteSize := by
  simp

theorem string_complete {content : String} (within : content.utf8ByteSize ≤ maximum)
    (representable : content.utf8ByteSize < 2 ^ 32) (rest : List UInt8) :
    string maximum (Field.counted content.toUTF8.data.toList ++ rest) = .ok content rest := by
  rw [← length_toUTF8] at within representable
  have valid : String.fromUTF8? ⟨content.toUTF8.data.toList.toArray⟩ = some content := by
    simp only [String.fromUTF8?, String.toUTF8_eq_toByteArray, Array.toArray_toList, dif_pos content.isValidUTF8]
    rfl
  rw [string, EStateM.bind_apply_of_ok (bytes_complete within representable rest), valid]
  rfl

theorem string_sound {content : String} (returns : string maximum input = .ok content rest) :
    content.utf8ByteSize ≤ maximum ∧ content.utf8ByteSize < 2 ^ 32 ∧
      input = Field.counted content.toUTF8.data.toList ++ rest := by
  obtain ⟨raw, middle, first, others⟩ := EStateM.bind_eq_ok.mp returns
  obtain ⟨within, representable, rfl⟩ := bytes_sound first
  cases decoded : String.fromUTF8? ⟨raw.toArray⟩ with
  | none =>
    rw [decoded] at others
    cases others
  | some text =>
    rw [decoded] at others
    cases others
    have same : content.toUTF8.data.toList = raw := by
      unfold String.fromUTF8? at decoded
      split at decoded
      · cases decoded
        rfl
      · cases decoded
    rw [← length_toUTF8, same]
    exact ⟨within, representable, rfl⟩

theorem read_exact : ExactReader Field.type Field.Within Field.code read where
  complete field rest within := by
    cases field with
    | fixed content => exact EStateM.bind_apply_of_ok (fixed_append content rest)
    | boolean value => exact EStateM.bind_apply_of_ok (boolean_complete value rest)
    | u32 value | u64 value => exact EStateM.bind_apply_of_ok (integer_complete (by norm_num) value rest)
    | uleb value => exact EStateM.bind_apply_of_ok (uleb_complete value rest)
    | bytes maximum content => exact EStateM.bind_apply_of_ok (bytes_complete within.1 within.2 rest)
    | string maximum content => exact EStateM.bind_apply_of_ok (string_complete within.1 within.2 rest)
  sound type input field rest returns := by
    cases type with
    | fixed count =>
      obtain ⟨content, read, rfl⟩ := EStateM.bind_pure_eq_ok.mp returns
      obtain ⟨rfl, rfl⟩ := fixed_eq_ok.mp read
      exact ⟨rfl, trivial, rfl⟩
    | boolean =>
      obtain ⟨value, read, rfl⟩ := EStateM.bind_pure_eq_ok.mp returns
      exact ⟨rfl, trivial, boolean_sound read⟩
    | u32 | u64 =>
      obtain ⟨value, read, rfl⟩ := EStateM.bind_pure_eq_ok.mp returns
      exact ⟨rfl, trivial, integer_sound (by norm_num) read⟩
    | uleb =>
      obtain ⟨value, read, rfl⟩ := EStateM.bind_pure_eq_ok.mp returns
      exact ⟨rfl, trivial, uleb_sound read⟩
    | bytes maximum =>
      obtain ⟨content, read, rfl⟩ := EStateM.bind_pure_eq_ok.mp returns
      obtain ⟨within, representable, rfl⟩ := bytes_sound read
      exact ⟨rfl, ⟨within, representable⟩, rfl⟩
    | string maximum =>
      obtain ⟨content, read, rfl⟩ := EStateM.bind_pure_eq_ok.mp returns
      obtain ⟨within, representable, rfl⟩ := string_sound read
      exact ⟨rfl, ⟨within, representable⟩, rfl⟩

end Decoder

namespace Encoder

theorem write_writes {field : Field} (within : field.Within) : Writes (write field) field.code := by
  cases field with
  | fixed content => exact fixed_writes content
  | boolean value | u32 value | u64 value | uleb value => exact fixed_writes _
  | bytes maximum content => exact bytes_writes content within.2
  | string maximum content =>
    have representable := within.2
    rw [← Decoder.length_toUTF8] at representable
    exact bytes_writes content.toUTF8.data.toList representable

theorem write_unchanged {field : Field} {encoder encoder' : Encoder} {error : CodecError}
    (failed : write field encoder = .error error encoder') : encoder' = encoder := by
  cases field with
  | fixed content => exact (fixed_writes content).unchanged failed
  | boolean value | u32 value | u64 value | uleb value => exact (fixed_writes _).unchanged failed
  | bytes maximum content | string maximum content => exact bytes_unchanged failed

variable {fields : List Field} (within : ∀ field ∈ fields, field.Within)

include within

theorem writeAll_succeeds {encoder : Encoder} (fits : encoder.Fits (fields.flatMap Field.code)) :
    writeAll fields encoder = .ok () (encoder.put (fields.flatMap Field.code) fits) := by
  induction fields generalizing encoder with
  | nil => exact congrArg (EStateM.Result.ok ()) (put_nil encoder fits).symm
  | cons field fields ih =>
    obtain ⟨first, others⟩ := List.forall_mem_cons.mp within
    have fits' := fits
    rw [Fits, List.flatMap_cons, List.length_append] at fits'
    have fitsFirst : encoder.Fits field.code := by
      rw [Fits]
      omega
    have fitsOthers : (encoder.put field.code fitsFirst).Fits (fields.flatMap Field.code) := by
      rw [Fits, length_buffer_put, position_put]
      omega
    rw [writeAll, EStateM.bind_apply_of_ok ((write_writes first).succeeds encoder fitsFirst),
      ih others fitsOthers, put_put]
    rfl

theorem written_writeAll {buffer : List UInt8} (large : (fields.flatMap Field.code).length ≤ buffer.length) :
    ∃ encoder, writeAll fields (new buffer) = .ok () encoder ∧ encoder.written = fields.flatMap Field.code := by
  have fits : (new buffer).Fits (fields.flatMap Field.code) := (Nat.zero_add _).trans_le large
  refine ⟨_, writeAll_succeeds within fits, ?_⟩
  rw [written_put]
  rfl

end Encoder

end StateChronicle.Portable
