import StateChronicle.Core.Amount
import StateChronicle.Foundation.DecimalPoint
import StateChronicle.Foundation.Outcome

/-!
# Amounts as text

The wire form of an amount is its canonical text: the value with a decimal point and without trailing zeros.  The text
and the value determine each other.  Reading accepts digits only, so it reads whole amounts back.
-/

namespace StateChronicle.Core

open Foundation

variable {b : Amount} {extra : Nat}

def AmountError.toString : AmountError → String
  | .invalidInput message => s!"invalid amount input: {message}"
  | .overflow => "amount overflow"

namespace Amount

variable {a : Amount}

def serialize (a : Amount) : String := a.toCanonicalString

/-- What is read from a text; the error is the message handed to the deserializer. -/
def deserialize (text : String) : Except String Amount := (tryFromStr text).mapError AmountError.toString

/-! ## The canonical text -/

/-- The digits around the point are those of the quotient and the last ones of the mantissa. -/
theorem decimalDigits_eq (a : Amount) :
    a.decimalDigits = (Nat.toDigits 10 (a.mantissa.val / 10 ^ a.scale.val), lastDigits a.scale.val a.mantissa.val) := by
  simp only [decimalDigits]
  split_ifs with whole longer
  · rw [whole, pow_zero, Nat.div_one]
    rfl
  · -- more digits than the scale: the text is cut before the last ones
    have long : 10 ^ a.scale.val ≤ a.mantissa.val := by
      by_contra short
      exact absurd ((Nat.length_toDigits_le_iff (by decide) (Nat.pos_of_ne_zero whole)).mpr (not_le.mp short))
        (not_le.mpr longer)
    have split := toDigits_eq_append long
    have cut : (Nat.toDigits 10 a.mantissa.val).length - a.scale.val =
        (Nat.toDigits 10 (a.mantissa.val / 10 ^ a.scale.val)).length := by
      rw [split, List.length_append, length_lastDigits, Nat.add_sub_cancel]
    rw [cut, split, List.take_left, List.drop_left]
  · -- a value below one: the fraction is filled up with zeros
    have short : a.mantissa.val < 10 ^ a.scale.val :=
      (Nat.length_toDigits_le_iff (by decide) (Nat.pos_of_ne_zero whole)).mp (not_lt.mp longer)
    rw [Nat.div_eq_of_lt short, Nat.toDigits_zero, lastDigits_eq_pad short (Nat.pos_of_ne_zero whole)]

def leadingDigits (a : Amount) : List Char := Nat.toDigits 10 (a.mantissa.val / 10 ^ a.scale.val)

def trimmedFraction (a : Amount) : List Char := trimTrailingZeros (lastDigits a.scale.val a.mantissa.val)

theorem toCanonicalString_eq (a : Amount) :
    a.toCanonicalString = if a.trimmedFraction = [] then .ofList a.leadingDigits
      else .ofList (a.leadingDigits ++ '.' :: a.trimmedFraction) := by
  unfold toCanonicalString
  split_ifs with whole none none
  · rw [leadingDigits, whole, pow_zero, Nat.div_one]
  · rw [trimmedFraction, whole] at none
    exact absurd rfl none
  · rw [decimalDigits_eq]
    exact if_pos none
  · rw [decimalDigits_eq]
    exact if_neg none

theorem isDigits_leadingDigits (a : Amount) : IsDigits a.leadingDigits := isDigits_toDigits _

theorem value_eq_leading_add_fraction (a : Amount) :
    a.value = decimalValue a.leadingDigits + fractionValue a.trimmedFraction := by
  rw [trimmedFraction, fractionValue_trimTrailingZeros, fractionValue, leadingDigits, decimalValue_toDigits,
    decimalValue_lastDigits, length_lastDigits, value]
  have split := Nat.div_add_mod a.mantissa.val (10 ^ a.scale.val)
  rw [div_eq_iff (by positivity), add_mul, div_mul_cancel₀ _ (by positivity)]
  exact_mod_cast (by rw [mul_comm]; exact split.symm)

theorem pointValue_toCanonicalString (a : Amount) : pointValue a.toCanonicalString.toList = a.value := by
  rw [toCanonicalString_eq, value_eq_leading_add_fraction]
  split_ifs with none
  · rw [String.toList_ofList, pointValue_digits a.isDigits_leadingDigits, none]
    simp [fractionValue]
  · rw [String.toList_ofList, pointValue_point a.isDigits_leadingDigits]

/-- Scaling a mantissa up does not change the text. -/
theorem toCanonicalString_of_scaled (scales : b.scale.val = a.scale.val + extra)
    (mantissas : b.mantissa.val = a.mantissa.val * 10 ^ extra) : a.toCanonicalString = b.toCanonicalString := by
  have leading : a.leadingDigits = b.leadingDigits := by
    rw [leadingDigits, leadingDigits, scales, mantissas, pow_add, Nat.mul_div_mul_right _ _ (by positivity)]
  have fraction : a.trimmedFraction = b.trimmedFraction := by
    rw [trimmedFraction, trimmedFraction, scales, mantissas, lastDigits_mul_pow, trimTrailingZeros_append_zeros]
  rw [toCanonicalString_eq, toCanonicalString_eq, leading, fraction]

theorem mantissa_of_value_eq (scales : b.scale.val = a.scale.val + extra) (same : a.value = b.value) :
    b.mantissa.val = a.mantissa.val * 10 ^ extra := by
  rw [value, value, scales, pow_add, div_eq_div_iff (by positivity) (by positivity)] at same
  have cancelled : (a.mantissa.val * 10 ^ extra : ℚ) = b.mantissa.val := by
    have positive : (10 ^ a.scale.val : ℚ) ≠ 0 := by positivity
    apply mul_right_cancel₀ positive
    rw [← same]
    ring
  exact_mod_cast cancelled.symm

theorem toCanonicalString_eq_iff : a.toCanonicalString = b.toCanonicalString ↔ a.value = b.value := by
  constructor
  · intro same
    rw [← pointValue_toCanonicalString a, same, pointValue_toCanonicalString]
  · intro same
    rcases le_total a.scale.val b.scale.val with below | above
    · obtain ⟨extra, scales⟩ := Nat.exists_eq_add_of_le below
      exact toCanonicalString_of_scaled scales (mantissa_of_value_eq scales same)
    · obtain ⟨extra, scales⟩ := Nat.exists_eq_add_of_le above
      exact (toCanonicalString_of_scaled scales (mantissa_of_value_eq scales same.symm)).symm

/-! ## Reading -/

/-- The digit loop computes the number, unless the number is too large. -/
theorem parseDigits_eq_some {mantissa result : U128} {text : List Char} (digits : IsDigits text) :
    parseDigits mantissa text = some result ↔ mantissa.val * 10 ^ text.length + decimalValue text = result.val := by
  induction text generalizing mantissa with
  | nil => simp [parseDigits, Fin.ext_iff]
  | cons c rest ih =>
    have digit : (Fin.ofNat (2 ^ 128) (digitValue c)).val = digitValue c :=
      Nat.mod_eq_of_lt ((digitValue_lt (digits c List.mem_cons_self)).trans (by decide))
    have shifted : mantissa.val * 10 ^ (c :: rest).length + decimalValue (c :: rest) =
        (mantissa.val * 10 + digitValue c) * 10 ^ rest.length + decimalValue rest := by
      rw [List.length_cons, pow_succ 10 rest.length, decimalValue_cons]
      ring
    simp only [parseDigits, Option.bind_eq_bind, Option.bind_eq_some_iff, checkedMul_eq_some,
      Foundation.checkedAdd_eq_some, ih digits.tail, digit, shifted]
    constructor
    · rintro ⟨shift, product, next, sum, rest⟩
      rw [← sum, ← product] at rest
      exact rest
    · intro total
      -- the number read so far is no larger than the whole
      have bound : mantissa.val * 10 + digitValue c < 2 ^ 128 := by
        have large := Nat.le_mul_of_pos_right (mantissa.val * 10 + digitValue c)
          (Nat.pow_pos (n := rest.length) (show 0 < 10 by decide))
        have fits := result.isLt
        omega
      exact ⟨⟨mantissa.val * 10, by omega⟩, rfl, ⟨_, bound⟩, rfl, total⟩

theorem isDigits_of_tryFromStr {text : String} (parsed : tryFromStr text = .ok a) : IsDigits text.toList := by
  unfold tryFromStr at parsed
  split_ifs at parsed with long empty digits
  exact digits

theorem tryFromStr_toDigits (n : U128) : tryFromStr (.ofList (Nat.toDigits 10 n.val)) = .ok ⟨n, 0⟩ := by
  have digits := isDigits_toDigits n.val
  have short : (Nat.toDigits 10 n.val).length ≤ maxMantissaDigits :=
    (Nat.length_toDigits_le_iff (by decide) (by decide)).mpr (n.isLt.trans (by decide))
  have size := utf8ByteSize_digits digits
  have nonempty : String.ofList (Nat.toDigits 10 n.val) ≠ "" := by
    intro empty
    have none := congrArg String.toList empty
    rw [String.toList_ofList] at none
    exact Nat.toDigits_ne_nil none
  have read : parseDigits 0 (Nat.toDigits 10 n.val) = some n := by
    rw [parseDigits_eq_some digits, decimalValue_toDigits]
    simp
  unfold tryFromStr
  rw [if_neg (by omega), if_neg nonempty, if_neg (by rw [String.toList_ofList]; exact not_not.mpr digits),
    String.toList_ofList, read]

theorem trimmedFraction_eq_nil_iff (a : Amount) : a.trimmedFraction = [] ↔ 10 ^ a.scale.val ∣ a.mantissa.val := by
  rw [trimmedFraction, trimTrailingZeros_eq_nil_iff (isDigits_lastDigits _ _), decimalValue_lastDigits,
    Nat.dvd_iff_mod_eq_zero]

theorem tryFromStr_canonical_ne_ok (fraction : a.trimmedFraction ≠ []) (b : Amount) :
    tryFromStr a.toCanonicalString ≠ .ok b := by
  intro parsed
  have digits := isDigits_of_tryFromStr parsed
  rw [toCanonicalString_eq, if_neg fraction, String.toList_ofList] at digits
  exact absurd (digits '.' (List.mem_append_right _ List.mem_cons_self)) (by decide)

/-- A whole amount is read back with its value. -/
theorem tryFromStr_canonical (whole : a.trimmedFraction = []) :
    ∃ b, tryFromStr a.toCanonicalString = .ok b ∧ b.value = a.value := by
  have fits : a.mantissa.val / 10 ^ a.scale.val < 2 ^ 128 := (Nat.div_le_self _ _).trans_lt a.mantissa.isLt
  rw [toCanonicalString_eq, if_pos whole]
  refine ⟨_, tryFromStr_toDigits ⟨_, fits⟩, ?_⟩
  rw [value_of_scale_zero rfl, value_eq_leading_add_fraction, whole, leadingDigits, decimalValue_toDigits]
  simp [fractionValue]

end Amount

end StateChronicle.Core
