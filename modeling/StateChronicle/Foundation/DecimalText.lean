import Mathlib.Algebra.Order.Ring.Nat
import Mathlib.Data.List.Basic
import Mathlib.Order.Compare
import Mathlib.Tactic.Linarith
import Mathlib.Tactic.Ring

/-!
# Decimal numerals as text

Comparing numbers by their decimal digits: numerals of one length compare as texts, and numerals
without leading zeros compare by length first.
-/

namespace Foundation

variable (text : List Char)

def IsDigits : Prop := ∀ c ∈ text, c.isDigit

instance (text : List Char) : Decidable (IsDigits text) := List.decidableBAll (fun c : Char => c.isDigit = true) text

def decimalValue : Nat := Nat.ofDigitChars 10 text 0

def compareText : List Char → List Char → Ordering
  | [], [] => .eq
  | [], _ :: _ => .lt
  | _ :: _, [] => .gt
  | a :: as, b :: bs => (compare a b).then (compareText as bs)

def digitValue (c : Char) : Nat := c.toNat - '0'.toNat

theorem digitValue_lt {c : Char} (digit : c.isDigit) : digitValue c < 10 := by
  simp only [Char.isDigit, ge_iff_le, Bool.and_eq_true, decide_eq_true_eq, UInt32.le_iff_toNat_le] at digit
  have upper : c.toNat ≤ 57 := digit.2
  simp only [digitValue, Char.reduceToNat]
  omega

theorem toNat_eq_digitValue {c : Char} (digit : c.isDigit) : c.toNat = digitValue c + 48 := by
  simp only [Char.isDigit, ge_iff_le, Bool.and_eq_true, decide_eq_true_eq, UInt32.le_iff_toNat_le] at digit
  have lower : 48 ≤ c.toNat := digit.1
  simp only [digitValue, Char.reduceToNat]
  omega

theorem compare_digits {a b : Char} (digitA : a.isDigit) (digitB : b.isDigit) :
    compare a b = compare (digitValue a) (digitValue b) := by
  have codeA := toNat_eq_digitValue digitA
  have codeB := toNat_eq_digitValue digitB
  have order : a < b ↔ digitValue a < digitValue b := by
    change a.toNat < b.toNat ↔ _
    omega
  have same : a = b ↔ digitValue a = digitValue b := by
    rw [← Char.toNat_inj]
    omega
  rw [Nat.compare_eq_ite_lt]
  change compareOfLessAndEq a b = _
  unfold compareOfLessAndEq
  simp only [order, same]
  split_ifs <;> first | rfl | omega

@[simp] theorem decimalValue_nil : decimalValue [] = 0 := rfl

theorem decimalValue_append (l r : List Char) :
    decimalValue (l ++ r) = decimalValue l * 10 ^ r.length + decimalValue r := by
  rw [decimalValue, Nat.ofDigitChars_append, Nat.ofDigitChars_eq_ofDigitChars_zero]
  simp [decimalValue, Nat.mul_comm]

theorem decimalValue_cons (c : Char) (rest : List Char) :
    decimalValue (c :: rest) = digitValue c * 10 ^ rest.length + decimalValue rest := by
  rw [← List.singleton_append, decimalValue_append]
  simp [decimalValue, Nat.ofDigitChars_cons, digitValue]

variable (n : Nat)

@[simp] theorem decimalValue_toDigits : decimalValue (Nat.toDigits 10 n) = n := by
  simp [decimalValue]

theorem decimalValue_replicate_zero : decimalValue (List.replicate n '0') = 0 := by
  simp [decimalValue]

theorem IsDigits.tail {c : Char} {rest : List Char} (digits : IsDigits (c :: rest)) :
    IsDigits rest := fun x member => digits x (List.mem_cons_of_mem _ member)

theorem IsDigits.append {l r : List Char} (left : IsDigits l) (right : IsDigits r) : IsDigits (l ++ r) := by
  intro c member
  rcases List.mem_append.mp member with member | member
  · exact left c member
  · exact right c member

theorem isDigits_toDigits : IsDigits (Nat.toDigits 10 n) := fun _ member =>
  Nat.isDigit_of_mem_toDigits (by decide) (by decide) member

theorem isDigits_replicate_zero : IsDigits (List.replicate n '0') := by
  intro c member
  rw [List.eq_of_mem_replicate member]
  rfl

theorem decimalValue_lt {text : List Char} (digits : IsDigits text) : decimalValue text < 10 ^ text.length := by
  induction text with
  | nil => simp
  | cons c rest ih =>
    have digit := digitValue_lt (digits c List.mem_cons_self)
    have below := ih digits.tail
    rw [decimalValue_cons, List.length_cons, pow_succ]
    nlinarith

/-- Two numbers written as a leading part over a base and a remainder below it. -/
theorem compare_leading {base a b r s : Nat} (below : r < base) (below' : s < base) :
    compare (a * base + r) (b * base + s) = (compare a b).then (compare r s) := by
  rcases lt_trichotomy a b with less | rfl | more
  · rw [compare_lt_iff_lt.mpr less, compare_lt_iff_lt.mpr]
    · rfl
    · nlinarith
  · rw [compare_eq_iff_eq.mpr rfl]
    rcases lt_trichotomy r s with less | rfl | more
    · rw [compare_lt_iff_lt.mpr less, compare_lt_iff_lt.mpr (by omega)]
      rfl
    · rw [compare_eq_iff_eq.mpr rfl, compare_eq_iff_eq.mpr rfl]
      rfl
    · rw [compare_gt_iff_gt.mpr more, compare_gt_iff_gt.mpr (by omega)]
      rfl
  · rw [compare_gt_iff_gt.mpr more, compare_gt_iff_gt.mpr]
    · rfl
    · nlinarith

/-- Numerals of one length compare as texts. -/
theorem compareText_eq_compare_decimalValue {l r : List Char} (sameLength : l.length = r.length) (left : IsDigits l)
    (right : IsDigits r) : compareText l r = compare (decimalValue l) (decimalValue r) := by
  induction l generalizing r with
  | nil =>
    cases r with
    | nil => simp [compareText]
    | cons b bs => simp at sameLength
  | cons a as ih =>
    cases r with
    | nil => simp at sameLength
    | cons b bs =>
      have sameTail : as.length = bs.length := by simpa using sameLength
      have below := decimalValue_lt left.tail
      rw [sameTail] at below
      rw [compareText, decimalValue_cons, decimalValue_cons, sameTail,
        compare_leading below (decimalValue_lt right.tail),
        compare_digits (left a List.mem_cons_self) (right b List.mem_cons_self),
        ih sameTail left.tail right.tail]

/-! ## Leading zeros -/

def trimLeadingZeros : List Char := text.dropWhile (· == '0')

theorem decimalValue_trimLeadingZeros : decimalValue (trimLeadingZeros text) = decimalValue text := by
  induction text with
  | nil => rfl
  | cons c rest ih =>
    by_cases zero : c = '0'
    · subst zero
      rw [decimalValue_cons, ← ih]
      simp [trimLeadingZeros, digitValue]
    · simp [trimLeadingZeros, zero]

theorem IsDigits.trimLeadingZeros {text : List Char} (digits : IsDigits text) :
    IsDigits (trimLeadingZeros text) := fun c member =>
  digits c ((List.dropWhile_sublist _).subset member)

theorem pow_le_decimalValue_trimLeadingZeros {text : List Char} (digits : IsDigits text)
    (nonempty : 0 < (trimLeadingZeros text).length) :
    10 ^ ((trimLeadingZeros text).length - 1) ≤ decimalValue (trimLeadingZeros text) := by
  cases trimmed : trimLeadingZeros text with
  | nil => simp [trimmed] at nonempty
  | cons c rest =>
    have isDigit : c.isDigit := digits.trimLeadingZeros c (by simp [trimmed])
    have nonzero : c ≠ '0' := by
      have head := List.head?_dropWhile_not (· == '0') text
      simp only [trimLeadingZeros] at trimmed
      simpa [trimmed] using head
    have positive : 1 ≤ digitValue c := by
      by_contra small
      have code := toNat_eq_digitValue isDigit
      exact nonzero (Char.toNat_inj.mp (by simp; omega))
    rw [decimalValue_cons]
    simp only [List.length_cons, Nat.add_sub_cancel]
    exact (Nat.le_mul_of_pos_left _ positive).trans (Nat.le_add_right _ _)

/-- Numerals compare by length once leading zeros are gone, and as texts at equal length. -/
theorem compare_trimmed {l r : List Char} (left : IsDigits l) (right : IsDigits r) :
    (if (trimLeadingZeros l).length ≠ (trimLeadingZeros r).length
      then compare (trimLeadingZeros l).length (trimLeadingZeros r).length
      else compareText (trimLeadingZeros l) (trimLeadingZeros r)) =
      compare (decimalValue l) (decimalValue r) := by
  have shorter_lt {a b : List Char} (digitsA : IsDigits a) (digitsB : IsDigits b)
      (shorter : (trimLeadingZeros a).length < (trimLeadingZeros b).length) :
      decimalValue a < decimalValue b := by
    calc decimalValue a = decimalValue (trimLeadingZeros a) := (decimalValue_trimLeadingZeros a).symm
      _ < 10 ^ (trimLeadingZeros a).length := decimalValue_lt digitsA.trimLeadingZeros
      _ ≤ 10 ^ ((trimLeadingZeros b).length - 1) := Nat.pow_le_pow_right (by decide) (by omega)
      _ ≤ decimalValue (trimLeadingZeros b) :=
          pow_le_decimalValue_trimLeadingZeros digitsB (by omega)
      _ = decimalValue b := decimalValue_trimLeadingZeros b
  rcases lt_trichotomy (trimLeadingZeros l).length (trimLeadingZeros r).length with less | same | more
  · rw [if_pos less.ne, compare_lt_iff_lt.mpr less, compare_lt_iff_lt.mpr (shorter_lt left right less)]
  · rw [if_neg (not_not.mpr same),
      compareText_eq_compare_decimalValue same left.trimLeadingZeros right.trimLeadingZeros,
      decimalValue_trimLeadingZeros, decimalValue_trimLeadingZeros]
  · rw [if_pos more.ne', compare_gt_iff_gt.mpr more, compare_gt_iff_gt.mpr (shorter_lt right left more)]

end Foundation
