import Mathlib.Data.Fin.Basic

/-!
# Checked machine arithmetic

Unsigned integers below a bound `n`, with the operations that fail instead of wrapping and those that stop at the
bounds.
-/

namespace Foundation

variable {n : Nat} (a b : Fin n)

def checkedAdd : Option (Fin n) :=
  if fits : a.val + b.val < n then some ⟨a.val + b.val, fits⟩ else none

def checkedSub : Option (Fin n) :=
  if b.val ≤ a.val then some ⟨a.val - b.val, (Nat.sub_le _ _).trans_lt a.isLt⟩ else none

def checkedMul : Option (Fin n) :=
  if fits : a.val * b.val < n then some ⟨a.val * b.val, fits⟩ else none

def saturatingAdd : Fin n :=
  if fits : a.val + b.val < n then ⟨a.val + b.val, fits⟩ else ⟨n - 1, Nat.sub_lt a.pos Nat.one_pos⟩

def saturatingSub : Fin n := ⟨a.val - b.val, (Nat.sub_le _ _).trans_lt a.isLt⟩

def saturatingMul : Fin n :=
  if fits : a.val * b.val < n then ⟨a.val * b.val, fits⟩ else ⟨n - 1, Nat.sub_lt a.pos Nat.one_pos⟩

def checkedDiv : Option (Fin n) :=
  if b.val = 0 then none else some ⟨a.val / b.val, (Nat.div_le_self _ _).trans_lt a.isLt⟩

theorem checkedAdd_eq_some {a b c : Fin n} : checkedAdd a b = some c ↔ a.val + b.val = c.val := by
  unfold checkedAdd
  split
  · simp [Fin.ext_iff]
  · simp only [reduceCtorEq, false_iff]
    omega

theorem checkedSub_eq_some {a b c : Fin n} : checkedSub a b = some c ↔ a.val = c.val + b.val := by
  unfold checkedSub
  split
  · simp only [Option.some.injEq, Fin.ext_iff]
    omega
  · simp only [reduceCtorEq, false_iff]
    omega

theorem checkedMul_eq_some {a b c : Fin n} : checkedMul a b = some c ↔ a.val * b.val = c.val := by
  unfold checkedMul
  split
  · simp [Fin.ext_iff]
  · simp only [reduceCtorEq, false_iff]
    omega

theorem val_saturatingAdd : (saturatingAdd a b).val = min (a.val + b.val) (n - 1) := by
  unfold saturatingAdd
  split
  · exact (min_eq_left (by omega)).symm
  · exact (min_eq_right (by omega)).symm

@[simp] theorem val_saturatingSub : (saturatingSub a b).val = a.val - b.val := rfl

theorem val_saturatingMul : (saturatingMul a b).val = min (a.val * b.val) (n - 1) := by
  unfold saturatingMul
  split
  · exact (min_eq_left (by omega)).symm
  · exact (min_eq_right (by omega)).symm

theorem val_checkedDiv_getD {a b : Fin n} (default : Fin n) (nonzero : b.val ≠ 0) :
    ((checkedDiv a b).getD default).val = a.val / b.val := by
  rw [checkedDiv, if_neg nonzero, Option.getD_some]

end Foundation
