import StateChronicle.Foundation.Sorting

/-!
# Partition points

A binary search for the end of the leading elements with a property.  Where those elements come first, the search
finds how many there are; the search looks only at the elements it halves at.
-/

namespace Foundation.PartitionPoint

variable {α : Type} (holds : α → Bool) (xs : List α)

def holdsAt (position : ℕ) : Bool := xs[position]?.any holds

/-- Halves the window until it has one element. -/
def narrow (base size : ℕ) : ℕ :=
  if 1 < size then narrow (if holdsAt holds xs (base + size / 2) then base + size / 2 else base) (size - size / 2)
  else base
termination_by size

def partitionPoint : ℕ :=
  if xs.length = 0 then 0
  else
    let base := narrow holds xs 0 xs.length
    if holdsAt holds xs base then base + 1 else base

variable {holds xs} (partitioned : xs.Pairwise fun a b => holds b → holds a)

include partitioned

/-- In a partitioned list an element has the property exactly if it is among the leading ones. -/
theorem holdsAt_iff {position : ℕ} (inside : position < xs.length) :
    holdsAt holds xs position = true ↔ position < (xs.takeWhile holds).length := by
  induction xs generalizing position with
  | nil => exact absurd inside (Nat.not_lt_zero _)
  | cons x rest ih =>
    obtain ⟨first, others⟩ := List.pairwise_cons.mp partitioned
    cases own : holds x with
    | true =>
      rw [List.takeWhile_cons_of_pos own, List.length_cons]
      cases position with
      | zero => simp [holdsAt, own]
      | succ position =>
        rw [Nat.add_lt_add_iff_right]
        exact ih others (Nat.lt_of_succ_lt_succ inside)
    | false =>
      rw [List.takeWhile_cons_of_neg (by simp [own])]
      refine iff_of_false (fun has => ?_) (Nat.not_lt_zero _)
      cases position with
      | zero =>
        rw [holdsAt, List.getElem?_cons_zero, Option.any_some, own] at has
        cases has
      | succ position =>
        have here := Nat.lt_of_succ_lt_succ inside
        rw [holdsAt, List.getElem?_cons_succ, List.getElem?_eq_getElem here, Option.any_some] at has
        have leading := first _ (List.getElem_mem here) has
        rw [own] at leading
        cases leading

/-- A round keeps the end of the leading elements within the window or right behind it. -/
theorem narrow_bounds {base size : ℕ} (nonempty : 0 < size) (inside : base + size ≤ xs.length)
    (above : base ≤ (xs.takeWhile holds).length) (under : (xs.takeWhile holds).length ≤ base + size) :
    narrow holds xs base size ≤ (xs.takeWhile holds).length ∧
      (xs.takeWhile holds).length ≤ narrow holds xs base size + 1 ∧ narrow holds xs base size < xs.length := by
  fun_induction narrow holds xs base size with
  | case1 base size wide ih =>
    have middle := holdsAt_iff partitioned (show base + size / 2 < xs.length by omega)
    split_ifs at ih ⊢ with leading
    · have before := middle.mp leading
      exact ih (by omega) (by omega) (by omega) (by omega)
    · have behind := mt middle.mpr leading
      exact ih (by omega) (by omega) (by omega) (by omega)
  | case2 base size narrowed => omega

/-- The search counts the leading elements. -/
theorem partitionPoint_eq : partitionPoint holds xs = (xs.takeWhile holds).length := by
  unfold partitionPoint
  split_ifs with empty
  · rw [List.length_eq_zero_iff.mp empty]
    rfl
  · have short : (xs.takeWhile holds).length ≤ xs.length := (List.takeWhile_sublist _).length_le
    obtain ⟨above, under, inside⟩ := narrow_bounds partitioned (Nat.pos_of_ne_zero empty) (Nat.zero_add _).le
      (Nat.zero_le _) (by omega)
    have last := holdsAt_iff partitioned inside
    dsimp only
    split_ifs with leading
    · have before := last.mp leading
      omega
    · have behind := mt last.mpr leading
      omega

end Foundation.PartitionPoint
