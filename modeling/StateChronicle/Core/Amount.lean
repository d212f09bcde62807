import Mathlib.Algebra.Field.Rat
import Mathlib.Algebra.Order.Field.Rat
import Mathlib.Tactic.FieldSimp
import Mathlib.Tactic.Positivity
import StateChronicle.Foundation.Checked
import StateChronicle.Foundation.DecimalText

/-!
# Exact fixed-point amounts

An `Amount` is a `u128` mantissa over a power of ten.  Arithmetic aligns the scales upwards and fails on overflow and
underflow; comparison works on the decimal digits.  Every operation is exact for `Amount.value`.
-/

namespace StateChronicle.Core

open Foundation

def maxScale : Nat := 18

def maxMantissaDigits : Nat := 39

abbrev U128 : Type := Fin (2 ^ 128)

inductive AmountError where
  | invalidInput (message : String)
  | overflow
deriving DecidableEq, Repr

/-- `mantissa * 10 ^ (-scale)`; the bounds of both fields are part of their types. -/
structure Amount where
  mantissa : U128
  scale : Fin (maxScale + 1)
deriving DecidableEq, Repr

namespace Amount

def zero : Amount := ⟨0, 0⟩

def ofNat (n : Nat) : Amount := ⟨Fin.ofNat _ n, 0⟩

/-- Multiplies by ten `steps` times, failing on overflow. -/
def scaleUp (mantissa : U128) : Nat → Option U128
  | 0 => some mantissa
  | steps + 1 => do
    let next ← checkedMul mantissa 10
    scaleUp next steps

def checkedRescale (a : Amount) (newScale : Fin (maxScale + 1)) : Option Amount :=
  if newScale = a.scale then some a
  else if newScale < a.scale then none
  else do
    let mantissa ← scaleUp a.mantissa (newScale.val - a.scale.val)
    return ⟨mantissa, newScale⟩

def checkedAdd (a b : Amount) : Option Amount := do
  let scale := max a.scale b.scale
  let left ← a.checkedRescale scale
  let right ← b.checkedRescale scale
  let mantissa ← Foundation.checkedAdd left.mantissa right.mantissa
  return ⟨mantissa, scale⟩

def checkedSub (a b : Amount) : Option Amount := do
  let scale := max a.scale b.scale
  let left ← a.checkedRescale scale
  let right ← b.checkedRescale scale
  let mantissa ← Foundation.checkedSub left.mantissa right.mantissa
  return ⟨mantissa, scale⟩

/-- The digit loop of the parser; every character is known to be a digit. -/
def parseDigits (mantissa : U128) : List Char → Option U128
  | [] => some mantissa
  | c :: rest => do
    let shifted ← checkedMul mantissa 10
    let next ← Foundation.checkedAdd shifted (Fin.ofNat _ (digitValue c))
    parseDigits next rest

def tryFromStr (text : String) : Except AmountError Amount :=
  if text.utf8ByteSize > maxMantissaDigits then .error .overflow
  else if text = "" then .error (.invalidInput "empty string")
  else if ¬ IsDigits text.toList then
    .error (.invalidInput "input must contain only ASCII decimal digits")
  else
    match parseDigits 0 text.toList with
    | some mantissa => .ok ⟨mantissa, 0⟩
    | none => .error .overflow

/-- The integer and the fractional digits of an amount; the fraction has `scale` digits. -/
def decimalDigits (a : Amount) : List Char × List Char :=
  let digits := Nat.toDigits 10 a.mantissa.val
  if a.scale.val = 0 then (digits, [])
  else if digits.length > a.scale.val then
    (digits.take (digits.length - a.scale.val), digits.drop (digits.length - a.scale.val))
  else (['0'], List.replicate (a.scale.val - digits.length) '0' ++ digits)

/-- Joins an integer part and a fraction, dropping trailing zeros of the fraction. -/
def formatFixed (intPart frac : List Char) : String :=
  let trimmed := (frac.reverse.dropWhile (· == '0')).reverse
  if trimmed = [] then String.ofList intPart
  else String.ofList (intPart ++ '.' :: trimmed)

def toCanonicalString (a : Amount) : String :=
  if a.scale.val = 0 then String.ofList (Nat.toDigits 10 a.mantissa.val)
  else formatFixed a.decimalDigits.1 a.decimalDigits.2

def cmpUnsigned (intA fracA intB fracB : List Char) : Ordering :=
  let a := trimLeadingZeros intA
  let b := trimLeadingZeros intB
  if a.length ≠ b.length then compare a.length b.length
  else
    (compareText a b).then
      (let width := max fracA.length fracB.length
       compareText (fracA ++ List.replicate (width - fracA.length) '0')
         (fracB ++ List.replicate (width - fracB.length) '0'))

def cmp (a b : Amount) : Ordering := cmpUnsigned a.decimalDigits.1 a.decimalDigits.2 b.decimalDigits.1 b.decimalDigits.2

/-- Amounts are ordered by the value they stand for. -/
instance : LT Amount := ⟨fun a b => a.cmp b = .lt⟩

instance (a b : Amount) : Decidable (a < b) := inferInstanceAs (Decidable (a.cmp b = .lt))

/-- Value-based equality: `12@1` and `120@2` are the same amount. -/
def SameValue (a b : Amount) : Prop := a.cmp b = .eq

instance (a b : Amount) : Decidable (SameValue a b) := inferInstanceAs (Decidable (a.cmp b = .eq))

def min (a b : Amount) : Amount := if a < b then a else b

def isZero (a : Amount) : Bool := a.mantissa = 0

/-! ## The number an amount stands for -/

def value (a : Amount) : ℚ := a.mantissa.val / 10 ^ a.scale.val

@[simp] theorem value_zero : zero.value = 0 := by simp [zero, value]

theorem value_nonneg (a : Amount) : 0 ≤ a.value := by
  unfold value
  positivity

theorem scaleUp_eq_some {mantissa result : U128} {steps : Nat} :
    scaleUp mantissa steps = some result ↔ mantissa.val * 10 ^ steps = result.val := by
  induction steps generalizing mantissa with
  | zero => simp [scaleUp, Fin.ext_iff]
  | succ steps ih =>
    simp only [scaleUp, Option.bind_eq_bind, Option.bind_eq_some_iff, checkedMul_eq_some, ih]
    constructor
    · rintro ⟨next, product, rest⟩
      rw [← rest, ← product, pow_succ 10 steps, mul_assoc, mul_comm (10 ^ steps) 10]
      rfl
    · intro total
      rw [pow_succ 10 steps, mul_comm (10 ^ steps) 10, ← mul_assoc] at total
      have bound : mantissa.val * 10 < 2 ^ 128 :=
        (Nat.le_mul_of_pos_right _ (by positivity)).trans_lt (total ▸ result.isLt)
      exact ⟨⟨mantissa.val * 10, bound⟩, rfl, total⟩

/-- The mantissa of an amount over a larger power of ten. -/
def alignedTo (a : Amount) (scale : Fin (maxScale + 1)) : Nat := a.mantissa.val * 10 ^ (scale.val - a.scale.val)

variable {a result : Amount}

theorem checkedRescale_eq_some {newScale : Fin (maxScale + 1)} :
    a.checkedRescale newScale = some result ↔
      a.scale ≤ newScale ∧ result.scale = newScale ∧ result.mantissa.val = a.alignedTo newScale := by
  obtain ⟨mantissa, scale⟩ := result
  unfold checkedRescale alignedTo
  split_ifs with same below
  · subst same
    simp only [Option.some.injEq, le_refl, true_and, Nat.sub_self, pow_zero, mul_one]
    constructor
    · rintro rfl
      exact ⟨rfl, rfl⟩
    · rintro ⟨scales, mantissas⟩
      cases a
      rw [mk.injEq]
      exact ⟨(Fin.ext mantissas).symm, scales.symm⟩
  · simp only [false_iff, not_and]
    exact fun above => absurd above (not_le.mpr below)
  · simp only [Option.bind_eq_bind, Option.bind_eq_some_iff, Option.pure_def, Option.some.injEq, mk.injEq,
      scaleUp_eq_some]
    constructor
    · rintro ⟨_, scaled, rfl, rfl⟩
      exact ⟨not_lt.mp below, rfl, scaled.symm⟩
    · rintro ⟨-, rfl, mantissas⟩
      exact ⟨mantissa, mantissas.symm, rfl, rfl⟩

theorem value_eq_alignedTo {scale : Fin (maxScale + 1)} (above : a.scale ≤ scale) :
    a.value = a.alignedTo scale / 10 ^ scale.val := by
  have split : scale.val = a.scale.val + (scale.val - a.scale.val) := by
    rw [Fin.le_def] at above
    omega
  rw [value, alignedTo, split, pow_add, Nat.add_sub_cancel_left]
  push_cast
  field_simp

variable {b : Amount}

theorem checkedAdd_eq_some :
    a.checkedAdd b = some result ↔ result.scale = max a.scale b.scale ∧
      a.alignedTo (max a.scale b.scale) + b.alignedTo (max a.scale b.scale) = result.mantissa.val := by
  simp only [checkedAdd, Option.bind_eq_bind, Option.bind_eq_some_iff, Option.pure_def, Option.some.injEq,
    Foundation.checkedAdd_eq_some, checkedRescale_eq_some]
  constructor
  · rintro ⟨left, ⟨-, -, leftMantissa⟩, right, ⟨-, -, rightMantissa⟩, mantissa, sum, rfl⟩
    rw [leftMantissa, rightMantissa] at sum
    exact ⟨rfl, sum⟩
  · obtain ⟨mantissa, scale⟩ := result
    rintro ⟨rfl, sum⟩
    have left : a.alignedTo (max a.scale b.scale) < 2 ^ 128 := (Nat.le_add_right _ _).trans_lt (sum ▸ mantissa.isLt)
    have right : b.alignedTo (max a.scale b.scale) < 2 ^ 128 := (Nat.le_add_left _ _).trans_lt (sum ▸ mantissa.isLt)
    exact ⟨⟨⟨_, left⟩, _⟩, ⟨le_max_left _ _, rfl, rfl⟩, ⟨⟨_, right⟩, _⟩, ⟨le_max_right _ _, rfl, rfl⟩, mantissa, sum,
      rfl⟩

theorem checkedSub_eq_some :
    a.checkedSub b = some result ↔ result.scale = max a.scale b.scale ∧ a.alignedTo (max a.scale b.scale) < 2 ^ 128 ∧
      a.alignedTo (max a.scale b.scale) = result.mantissa.val + b.alignedTo (max a.scale b.scale) := by
  simp only [checkedSub, Option.bind_eq_bind, Option.bind_eq_some_iff, Option.pure_def, Option.some.injEq,
    Foundation.checkedSub_eq_some, checkedRescale_eq_some]
  constructor
  · rintro ⟨left, ⟨-, -, leftMantissa⟩, right, ⟨-, -, rightMantissa⟩, mantissa, difference, rfl⟩
    have fits := left.mantissa.isLt
    rw [leftMantissa, rightMantissa] at difference
    rw [leftMantissa] at fits
    exact ⟨rfl, fits, difference⟩
  · obtain ⟨mantissa, scale⟩ := result
    rintro ⟨rfl, fits, difference⟩
    have right : b.alignedTo (max a.scale b.scale) < 2 ^ 128 :=
      ((Nat.le_add_left _ _).trans_eq difference.symm).trans_lt fits
    exact ⟨⟨⟨_, fits⟩, _⟩, ⟨le_max_left _ _, rfl, rfl⟩, ⟨⟨_, right⟩, _⟩, ⟨le_max_right _ _, rfl, rfl⟩, mantissa,
      difference, rfl⟩

theorem value_checkedAdd (added : a.checkedAdd b = some result) : result.value = a.value + b.value := by
  obtain ⟨scale, sum⟩ := checkedAdd_eq_some.mp added
  rw [value_eq_alignedTo (le_max_left a.scale b.scale), value_eq_alignedTo (le_max_right a.scale b.scale), value,
    scale, ← sum]
  push_cast
  ring

theorem value_checkedSub (subtracted : a.checkedSub b = some result) : result.value = a.value - b.value := by
  obtain ⟨scale, -, difference⟩ := checkedSub_eq_some.mp subtracted
  rw [value_eq_alignedTo (le_max_left a.scale b.scale), value_eq_alignedTo (le_max_right a.scale b.scale), value,
    scale, difference]
  push_cast
  ring

/-! ## Amounts of scale 0 are computed by their mantissas -/

theorem checkedAdd_of_scale_zero (left : a.scale = 0) (right : b.scale = 0) :
    a.checkedAdd b = (Foundation.checkedAdd a.mantissa b.mantissa).map fun mantissa => ⟨mantissa, 0⟩ := by
  obtain ⟨m, scale⟩ := a
  obtain ⟨n, scale'⟩ := b
  cases left
  cases right
  simp only [checkedAdd, checkedRescale, max_self, if_true, Option.bind_eq_bind, Option.bind_some, Option.pure_def,
    Option.map_eq_bind, Function.comp_def]
  rfl

theorem checkedSub_of_scale_zero (left : a.scale = 0) (right : b.scale = 0) :
    a.checkedSub b = (Foundation.checkedSub a.mantissa b.mantissa).map fun mantissa => ⟨mantissa, 0⟩ := by
  obtain ⟨m, scale⟩ := a
  obtain ⟨n, scale'⟩ := b
  cases left
  cases right
  simp only [checkedSub, checkedRescale, max_self, if_true, Option.bind_eq_bind, Option.bind_some, Option.pure_def,
    Option.map_eq_bind, Function.comp_def]
  rfl

theorem value_of_scale_zero (unscaled : a.scale = 0) : a.value = a.mantissa.val := by
  rw [value, unscaled]
  simp

theorem exists_checkedSub (left : a.scale = 0) (right : b.scale = 0) (available : b.value ≤ a.value) :
    ∃ c, a.checkedSub b = some c := by
  rw [value_of_scale_zero left, value_of_scale_zero right, Nat.cast_le] at available
  rw [checkedSub_of_scale_zero left right, Foundation.checkedSub, if_pos available]
  exact ⟨_, rfl⟩

theorem exists_checkedAdd_iff (left : a.scale = 0) (right : b.scale = 0) :
    (∃ c, a.checkedAdd b = some c) ↔ a.mantissa.val + b.mantissa.val < 2 ^ 128 := by
  rw [checkedAdd_of_scale_zero left right, Foundation.checkedAdd]
  split
  case isTrue fits => exact ⟨fun _ => fits, fun _ => ⟨_, rfl⟩⟩
  case isFalse tooLarge =>
    refine ⟨fun ⟨c, sum⟩ => ?_, fun fits => absurd fits tooLarge⟩
    cases sum

theorem scale_of_tryFromStr {text : String} (parsed : tryFromStr text = .ok a) : a.scale = 0 := by
  unfold tryFromStr at parsed
  split at parsed
  · cases parsed
  split at parsed
  · cases parsed
  split at parsed
  · cases parsed
  split at parsed
  · cases parsed
    rfl
  · cases parsed

/-! ## Comparison is comparison of values -/

theorem decimalDigits_spec (a : Amount) :
    IsDigits a.decimalDigits.1 ∧ IsDigits a.decimalDigits.2 ∧ a.decimalDigits.2.length = a.scale.val ∧
      decimalValue (a.decimalDigits.1 ++ a.decimalDigits.2) = a.mantissa.val := by
  have digits := isDigits_toDigits a.mantissa.val
  simp only [decimalDigits]
  split_ifs with noFraction longer
  · exact ⟨digits, by simp [IsDigits], by simp [noFraction], by simp⟩
  · refine ⟨fun c member => digits c (List.mem_of_mem_take member),
      fun c member => digits c (List.mem_of_mem_drop member), ?_, ?_⟩
    · simp only [List.length_drop]
      omega
    · simp [List.take_append_drop]
  · refine ⟨by simp [IsDigits], (isDigits_replicate_zero _).append digits, ?_, ?_⟩
    · simp only [List.length_append, List.length_replicate]
      omega
    · rw [← List.append_assoc, decimalValue_append]
      have zeros := decimalValue_replicate_zero (a.scale.val - (Nat.toDigits 10 a.mantissa.val).length + 1)
      rw [List.replicate_succ] at zeros
      simp [zeros]

theorem value_eq_div (a : Amount) (width : Nat) (wide : a.scale.val ≤ width) :
    a.value = ((decimalValue a.decimalDigits.1 * 10 ^ width +
      decimalValue (a.decimalDigits.2 ++
        List.replicate (width - a.decimalDigits.2.length) '0') : Nat) : ℚ) / 10 ^ width := by
  obtain ⟨-, -, length, total⟩ := a.decimalDigits_spec
  have split : width = a.scale.val + (width - a.scale.val) := by omega
  rw [decimalValue_append, length] at total
  rw [decimalValue_append, decimalValue_replicate_zero, List.length_replicate, length, value, ← total]
  rw [eq_div_iff (by positivity), div_mul_eq_mul_div, div_eq_iff (by positivity)]
  push_cast
  generalize width - a.scale.val = extra at *
  subst split
  ring

theorem compare_div {m n : Nat} {c : ℚ} (positive : 0 < c) : compare ((m : ℚ) / c) ((n : ℚ) / c) = compare m n := by
  rcases lt_trichotomy m n with less | rfl | more
  · rw [compare_lt_iff_lt.mpr less, compare_lt_iff_lt]
    exact div_lt_div_of_pos_right (by exact_mod_cast less) positive
  · rw [compare_eq_iff_eq.mpr rfl, compare_eq_iff_eq.mpr rfl]
  · rw [compare_gt_iff_gt.mpr more, compare_gt_iff_gt]
    exact div_lt_div_of_pos_right (by exact_mod_cast more) positive

/-- Comparing digit by digit compares the values. -/
theorem cmp_eq_compare_value (a b : Amount) : a.cmp b = compare a.value b.value := by
  obtain ⟨intA, fracA, lengthA, -⟩ := a.decimalDigits_spec
  obtain ⟨intB, fracB, lengthB, -⟩ := b.decimalDigits_spec
  set width := max a.decimalDigits.2.length b.decimalDigits.2.length with widthEq
  have paddedA := fracA.append (isDigits_replicate_zero (width - a.decimalDigits.2.length))
  have paddedB := fracB.append (isDigits_replicate_zero (width - b.decimalDigits.2.length))
  have lengthPaddedA : (a.decimalDigits.2 ++
      List.replicate (width - a.decimalDigits.2.length) '0').length = width := by
    simp only [List.length_append, List.length_replicate]
    omega
  have lengthPaddedB : (b.decimalDigits.2 ++
      List.replicate (width - b.decimalDigits.2.length) '0').length = width := by
    simp only [List.length_append, List.length_replicate]
    omega
  have boundA := decimalValue_lt paddedA
  have boundB := decimalValue_lt paddedB
  rw [lengthPaddedA] at boundA
  rw [lengthPaddedB] at boundB
  rw [a.value_eq_div width (by omega), b.value_eq_div width (by omega),
    compare_div (by positivity), compare_leading boundA boundB,
    ← compareText_eq_compare_decimalValue (lengthPaddedA.trans lengthPaddedB.symm) paddedA paddedB,
    ← compare_trimmed intA intB]
  simp only [cmp, cmpUnsigned, ← widthEq]
  split_ifs with differ
  · rcases lt_or_gt_of_ne differ with less | more
    · rw [compare_lt_iff_lt.mpr less]
      rfl
    · rw [compare_gt_iff_gt.mpr more]
      rfl
  · rfl

theorem lt_iff_value_lt : a < b ↔ a.value < b.value := by
  change a.cmp b = .lt ↔ _
  rw [cmp_eq_compare_value, compare_lt_iff_lt]

theorem value_min_le_left (a b : Amount) : (a.min b).value ≤ a.value := by
  unfold min
  split
  case isTrue => exact le_rfl
  case isFalse notLess => exact not_lt.mp (mt lt_iff_value_lt.mpr notLess)

theorem value_min_le_right (a b : Amount) : (a.min b).value ≤ b.value := by
  unfold min
  split
  case isTrue less => exact (lt_iff_value_lt.mp less).le
  case isFalse => exact le_rfl

theorem sameValue_iff : SameValue a b ↔ a.value = b.value := by
  change a.cmp b = .eq ↔ _
  rw [cmp_eq_compare_value, compare_eq_iff_eq]

theorem isZero_iff : a.isZero = true ↔ a.value = 0 := by
  simp [isZero, value]

end Amount

end StateChronicle.Core
