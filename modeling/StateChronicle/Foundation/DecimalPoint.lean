import Mathlib.Algebra.Field.Rat
import Mathlib.Data.List.TakeWhile
import Mathlib.Data.String.Basic
import Mathlib.Tactic.FieldSimp
import StateChronicle.Foundation.DecimalText

/-!
# Numerals with a decimal point

A number over a power of ten is written as its integer digits, a point and the digits after the point.  Without
trailing zeros the text is the same for every power of ten the number is written over.
-/

namespace Foundation

/-! ## The last digits of a number -/

variable {text : List Char}

/-- The last `width` digits of a number, zeros where the number has none. -/
def lastDigits : Nat → Nat → List Char
  | 0, _ => []
  | width + 1, n => lastDigits width (n / 10) ++ [Nat.digitChar (n % 10)]

@[simp] theorem length_lastDigits (width n : Nat) : (lastDigits width n).length = width := by
  induction width generalizing n with
  | zero => rfl
  | succ width ih => simp [lastDigits, ih]

theorem isDigits_lastDigits (width n : Nat) : IsDigits (lastDigits width n) := by
  induction width generalizing n with
  | zero => simp [IsDigits, lastDigits]
  | succ width ih =>
    refine (ih (n / 10)).append fun c member => ?_
    rw [List.mem_singleton.mp member, Nat.isDigit_digitChar]
    exact decide_eq_true (Nat.mod_lt n (by decide))

theorem lastDigits_zero (width : Nat) : lastDigits width 0 = List.replicate width '0' := by
  induction width with
  | zero => rfl
  | succ width ih =>
    rw [lastDigits, Nat.zero_div, ih, List.replicate_succ']
    rfl

theorem toDigits_eq_append {width n : Nat} (long : 10 ^ width ≤ n) :
    Nat.toDigits 10 n = Nat.toDigits 10 (n / 10 ^ width) ++ lastDigits width n := by
  induction width generalizing n with
  | zero => simp [lastDigits]
  | succ width ih =>
    have shifted : 10 ^ width ≤ n / 10 := by
      rw [Nat.le_div_iff_mul_le (by decide), ← pow_succ]
      exact long
    have several : 10 ≤ n := (Nat.le_self_pow (by omega) 10).trans long
    rw [Nat.toDigits_of_base_le (by decide) several, ih shifted, Nat.div_div_eq_div_mul,
      ← pow_succ', lastDigits, List.append_assoc]

theorem lastDigits_eq_pad {width n : Nat} (short : n < 10 ^ width) (positive : 0 < width) :
    lastDigits width n = List.replicate (width - (Nat.toDigits 10 n).length) '0' ++ Nat.toDigits 10 n := by
  induction width generalizing n with
  | zero => exact absurd positive (lt_irrefl 0)
  | succ width ih =>
    rw [lastDigits]
    by_cases single : n < 10
    · rw [Nat.div_eq_of_lt single, Nat.mod_eq_of_lt single, Nat.toDigits_of_lt_base single, lastDigits_zero]
      rfl
    · have several : 10 ≤ n := not_lt.mp single
      have shorter : n / 10 < 10 ^ width := by
        rw [Nat.div_lt_iff_lt_mul (by decide), ← pow_succ]
        exact short
      have remaining : 0 < width := by
        rcases Nat.eq_zero_or_pos width with rfl | remaining
        · rw [zero_add, pow_one] at short
          exact absurd short single
        · exact remaining
      rw [Nat.toDigits_of_base_le (by decide) several, ih shorter remaining, List.length_append,
        List.length_singleton, Nat.add_sub_add_right, List.append_assoc]

theorem lastDigits_mul_pow (width extra n : Nat) :
    lastDigits (width + extra) (n * 10 ^ extra) = lastDigits width n ++ List.replicate extra '0' := by
  induction extra with
  | zero => simp
  | succ extra ih =>
    have tenfold : n * 10 ^ (extra + 1) = n * 10 ^ extra * 10 := by rw [pow_succ, mul_assoc]
    rw [← Nat.add_assoc, lastDigits, tenfold, Nat.mul_div_cancel _ (by decide), Nat.mul_mod_left,
      ih, List.append_assoc, List.replicate_succ']
    rfl

theorem decimalValue_lastDigits (width n : Nat) : decimalValue (lastDigits width n) = n % 10 ^ width := by
  induction width generalizing n with
  | zero => rw [pow_zero, Nat.mod_one]; rfl
  | succ width ih =>
    have last : decimalValue [Nat.digitChar (n % 10)] = n % 10 := by
      have digits := decimalValue_toDigits (n % 10)
      rwa [Nat.toDigits_of_lt_base (Nat.mod_lt n (by decide))] at digits
    rw [lastDigits, decimalValue_append, ih, last, List.length_singleton, pow_one, pow_succ',
      Nat.mod_mul, mul_comm, Nat.add_comm]

theorem utf8ByteSize_digits (digits : IsDigits text) : (String.ofList text).utf8ByteSize = text.length := by
  rw [String.utf8ByteSize_ofList]
  induction text with
  | nil => rfl
  | cons c rest ih =>
    have code := toNat_eq_digitValue (digits c List.mem_cons_self)
    have below := digitValue_lt (digits c List.mem_cons_self)
    have ascii : c.utf8Size = 1 := by
      rw [Char.utf8Size_eq_one_iff, UInt32.le_iff_toNat_le]
      change c.toNat ≤ 127
      omega
    rw [String.utf8Len_cons, ih digits.tail, List.length_cons, ascii]

/-! ## Trailing zeros -/

def trimTrailingZeros (text : List Char) : List Char := (text.reverse.dropWhile (· == '0')).reverse

theorem trimTrailingZeros_append_zeros (text : List Char) (extra : Nat) :
    trimTrailingZeros (text ++ List.replicate extra '0') = trimTrailingZeros text := by
  have zeros : ∀ c ∈ List.replicate extra '0', (c == '0') = true := by
    intro c member
    rw [List.eq_of_mem_replicate member]
    rfl
  rw [trimTrailingZeros, List.reverse_append, List.reverse_replicate, List.dropWhile_append_of_pos zeros]
  rfl

theorem exists_trimTrailingZeros_append (text : List Char) :
    ∃ extra, text = trimTrailingZeros text ++ List.replicate extra '0' := by
  have split := List.takeWhile_append_dropWhile (p := (· == '0')) (l := text.reverse)
  have zeros : text.reverse.takeWhile (· == '0') =
      List.replicate (text.reverse.takeWhile (· == '0')).length '0' := by
    refine List.eq_replicate_of_mem fun c member => ?_
    simpa using List.mem_takeWhile_imp member
  refine ⟨(text.reverse.takeWhile (· == '0')).length, ?_⟩
  have whole := congrArg List.reverse split
  rw [List.reverse_append, List.reverse_reverse, zeros, List.reverse_replicate] at whole
  exact whole.symm

theorem decimalValue_eq_zero_iff (digits : IsDigits text) : decimalValue text = 0 ↔ ∀ c ∈ text, c = '0' := by
  induction text with
  | nil => simp
  | cons c rest ih =>
    have digit := digits c List.mem_cons_self
    have code := toNat_eq_digitValue digit
    have zero : digitValue c = 0 ↔ c = '0' := by
      rw [← Char.toNat_inj, code]
      exact Nat.add_eq_right.symm
    rw [decimalValue_cons, Nat.add_eq_zero_iff, ih digits.tail, Nat.mul_eq_zero, zero, List.forall_mem_cons]
    simp

theorem trimTrailingZeros_eq_nil_iff (digits : IsDigits text) :
    trimTrailingZeros text = [] ↔ decimalValue text = 0 := by
  rw [decimalValue_eq_zero_iff digits, trimTrailingZeros, List.reverse_eq_nil_iff, List.dropWhile_eq_nil_iff]
  simp

/-! ## The number a text stands for -/

/-- The value of the digits after a point. -/
def fractionValue (text : List Char) : ℚ := decimalValue text / 10 ^ text.length

theorem fractionValue_append_zeros (text : List Char) (extra : Nat) :
    fractionValue (text ++ List.replicate extra '0') = fractionValue text := by
  rw [fractionValue, fractionValue, decimalValue_append, decimalValue_replicate_zero, List.length_append,
    List.length_replicate, pow_add]
  push_cast
  field_simp
  simp

theorem fractionValue_trimTrailingZeros (text : List Char) :
    fractionValue (trimTrailingZeros text) = fractionValue text := by
  obtain ⟨extra, split⟩ := exists_trimTrailingZeros_append text
  conv_rhs => rw [split]
  exact (fractionValue_append_zeros _ extra).symm

/-- The value of a text with or without a point. -/
def pointValue (text : List Char) : ℚ :=
  decimalValue (text.takeWhile (· != '.')) + fractionValue ((text.dropWhile (· != '.')).drop 1)

theorem IsDigits.ne_point (digits : IsDigits text) : ∀ c ∈ text, (c != '.') = true := by
  intro c member
  have digit := digits c member
  rw [bne_iff_ne]
  rintro rfl
  exact absurd digit (by decide)

theorem pointValue_digits (digits : IsDigits text) : pointValue text = decimalValue text := by
  rw [pointValue, List.takeWhile_eq_self_iff.mpr digits.ne_point, List.dropWhile_eq_nil_iff.mpr digits.ne_point]
  simp [fractionValue]

theorem pointValue_point {leading : List Char} (digits : IsDigits leading) (fraction : List Char) :
    pointValue (leading ++ '.' :: fraction) = decimalValue leading + fractionValue fraction := by
  rw [pointValue, List.takeWhile_append_of_pos digits.ne_point, List.dropWhile_append_of_pos digits.ne_point]
  simp

end Foundation
