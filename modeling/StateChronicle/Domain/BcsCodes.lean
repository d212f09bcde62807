import StateChronicle.Domain.IntentBytes
import StateChronicle.Foundation.PrefixCode

/-!
# BCS bytes can be read back

Every field of fixed type delimits itself in a string short enough for its lengths.  JSON values do so
only against values of the same shape.
-/

namespace StateChronicle.Domain.Bcs

open Accumulator StateChronicle.Core Foundation

/-- The strings whose lengths can be written. -/
def readable : ℕ := 2 ^ 35

/-! ## Numbers and lengths -/

theorem ofNat_inj {n m : ℕ} (same : UInt8.ofNat n = UInt8.ofNat m) : n % 256 = m % 256 := by
  have values := congrArg UInt8.toNat same
  simpa using values

theorem uleb128_cancels (digits : ℕ) {n m : ℕ} (small : n < 2 ^ (7 * (digits + 1)))
    (small' : m < 2 ^ (7 * (digits + 1))) {rest rest' : List UInt8}
    (same : uleb128 digits n ++ rest = uleb128 digits m ++ rest') : n = m ∧ rest = rest' := by
  induction digits generalizing n m with
  | zero =>
    simp only [uleb128, List.singleton_append, List.cons.injEq] at same
    have values := ofNat_inj same.1
    exact ⟨by omega, same.2⟩
  | succ digits ih =>
    rw [uleb128, uleb128] at same
    by_cases last : n < 128
    · rw [if_pos last] at same
      by_cases last' : m < 128
      · rw [if_pos last', List.singleton_append, List.singleton_append, List.cons.injEq] at same
        have values := ofNat_inj same.1
        exact ⟨by omega, same.2⟩
      · rw [if_neg last', List.singleton_append, List.cons_append, List.cons.injEq] at same
        have values := ofNat_inj same.1
        omega
    · rw [if_neg last] at same
      by_cases last' : m < 128
      · rw [if_pos last', List.singleton_append, List.cons_append, List.cons.injEq] at same
        have values := ofNat_inj same.1
        omega
      · rw [if_neg last', List.cons_append, List.cons_append, List.cons.injEq] at same
        have values := ofNat_inj same.1
        have shifted : 2 ^ (7 * (digits + 1 + 1)) = 128 * 2 ^ (7 * (digits + 1)) := by
          rw [show 7 * (digits + 1 + 1) = 7 + 7 * (digits + 1) by omega, pow_add]
          norm_num
        obtain ⟨quotients, others⟩ := ih (by omega) (by omega) same.2
        exact ⟨by omega, others⟩

theorem length_cancels {n m : ℕ} (small : n < readable) (small' : m < readable) {rest rest' : List UInt8}
    (same : length n ++ rest = length m ++ rest') : n = m ∧ rest = rest' :=
  uleb128_cancels 4 small small' same

theorem eq_of_bytes {count n m : ℕ} (small : n < 256 ^ count) (small' : m < 256 ^ count)
    (byte : ∀ i < count, n / 256 ^ i % 256 = m / 256 ^ i % 256) : n = m := by
  induction count generalizing n m with
  | zero =>
    rw [pow_zero] at small small'
    omega
  | succ count ih =>
    have low := byte 0 (Nat.succ_pos _)
    rw [pow_succ] at small small'
    have high : n / 256 = m / 256 := by
      refine ih (by omega) (by omega) fun i inside => ?_
      have above := byte (i + 1) (Nat.succ_lt_succ inside)
      rwa [pow_succ', ← Nat.div_div_eq_div_mul, ← Nat.div_div_eq_div_mul] at above
    rw [pow_zero, Nat.div_one, Nat.div_one] at low
    omega

theorem u64_injective : Function.Injective u64 := by
  intro n m same
  refine Fin.ext (eq_of_bytes (by simp) (by simp) fun i (inside : i < 8) => ?_)
  have bytes := congrArg (fun list => list[i]?) same
  simp only [u64, List.getElem?_map, List.getElem?_range inside, Option.map_some, Option.some.injEq] at bytes
  have values := ofNat_inj bytes
  rwa [Nat.shiftRight_eq_div_pow, Nat.shiftRight_eq_div_pow, pow_mul] at values

theorem u64_delimits : Delimits readable u64 := .of_length 8 (fun value => by simp [u64]) u64_injective

/-! ## Texts -/

theorem bytes_delimits : Delimits readable bytes := by
  intro content content' rest rest' short same
  have short' := short
  rw [same] at short'
  simp only [bytes, List.append_assoc, List.length_append] at short short' same
  obtain ⟨counted, others⟩ := length_cancels (by omega) (by omega) same
  exact List.append_inj others counted

theorem utf8_injective : Function.Injective utf8 := by
  intro first second same
  exact String.toByteArray_inj.mp (ByteArray.ext (Array.toList_inj.mp same))

theorem text_delimits : Delimits readable text := bytes_delimits.comp utf8_injective

theorem digitChar_inj : ∀ n < 16, ∀ m < 16, Nat.digitChar n = Nat.digitChar m → n = m := by decide

theorem hexStr_injective : Function.Injective hexStr := by
  intro first second same
  have digits := String.ofList_injective same
  clear same
  induction first generalizing second with
  | nil =>
    cases second with
    | nil => rfl
    | cons byte rest => cases digits
  | cons byte rest ih =>
    cases second with
    | nil => cases digits
    | cons byte' rest' =>
      simp only [List.flatMap_cons, List.cons_append, List.nil_append, List.cons.injEq] at digits
      obtain ⟨high, low, others⟩ := digits
      have small := byte.toNat_lt
      have small' := byte'.toNat_lt
      have highs := digitChar_inj _ (by omega) _ (by omega) high
      have lows := digitChar_inj _ (by omega) _ (by omega) low
      have bytes : byte = byte' := UInt8.toNat_inj.mp (by omega)
      rw [bytes, ih others]

theorem digest_delimits : Delimits readable digest := by
  refine text_delimits.comp fun first second same => ?_
  have hex := hexStr_injective ((String.append_right_inj _).mp same)
  exact congrArg ContentDigest.mk (Vector.toList_inj.mp hex)

theorem b64u_injective : Function.Injective b64u := by
  intro first second same
  exact Base64.encode_inj (String.ofList_injective ((String.append_right_inj _).mp same))

/-! ## Options and tags -/

theorem option_cancels {α : Type} {encode : α → List UInt8} {first second : Option α}
    (cancels : ∀ a ∈ first, ∀ b ∈ second, Cancels readable encode a b) :
    Cancels readable (option encode) first second := by
  intro rest rest' short same
  cases first with
  | none =>
    cases second with
    | none => exact ⟨rfl, (List.cons.inj same).2⟩
    | some b => exact absurd (List.cons.inj same).1 (by decide)
  | some a =>
    cases second with
    | none => exact absurd (List.cons.inj same).1 (by decide)
    | some b =>
      rw [option, List.cons_append, List.length_cons] at short
      obtain ⟨rfl, others⟩ := cancels a rfl b rfl (by omega) (List.cons.inj same).2
      exact ⟨rfl, others⟩

theorem stateType_delimits : Delimits readable stateType :=
  .of_length 1 (fun value => by cases value <;> rfl) fun first second => by
    cases first <;> cases second <;> decide

theorem evaluationResult_delimits : Delimits readable evaluationResult :=
  .of_length 1 (fun value => by cases value <;> rfl) fun first second => by
    cases first <;> cases second <;> decide

theorem bool_delimits : Delimits readable bool :=
  .of_length 1 (fun _ => rfl) fun first second => by
    cases first <;> cases second <;> decide

variable {instant : Timestamp → String}

theorem instant_cancels {first second : Timestamp} (apart : instant first = instant second → first = second) :
    Cancels readable (fun time => text (instant time)) first second := by
  intro rest rest' short same
  obtain ⟨texts, others⟩ := text_delimits _ _ short same
  exact ⟨apart texts, others⟩

theorem authorityProof_cancels {first second : AuthorityProof}
    (apart : instant first.evaluatedAt = instant second.evaluatedAt → first.evaluatedAt = second.evaluatedAt) :
    Cancels readable (authorityProof instant) first second := by
  intro rest rest' short same
  simp only [authorityProof, List.append_assoc] at short same
  obtain ⟨kind, short, same⟩ := text_delimits.read short same
  obtain ⟨evaluationDigest, short, same⟩ := digest_delimits.read short same
  obtain ⟨result, short, same⟩ := evaluationResult_delimits.read short same
  obtain ⟨evaluatedAt, others⟩ := instant_cancels apart short same
  cases first
  cases second
  exact ⟨AuthorityProof.mk.injEq .. ▸ ⟨kind, evaluationDigest, result, evaluatedAt⟩, others⟩

end StateChronicle.Domain.Bcs
