import Mathlib.Data.List.Sort
import Mathlib.Order.Defs.LinearOrder

/-!
# Matching two sorted lists place by place

Two sorted lists are compared at equal positions.  The places where both have a key are the overlap of two intervals,
which is as large as it can be exactly when one of the intervals lies inside the other.
-/

namespace Foundation

variable {κ : Type} [LinearOrder κ] {xs ys : List κ} {key : κ}

def rankOf (key : κ) (xs : List κ) : Nat := xs.countP (· < key)

def copiesOf (key : κ) (xs : List κ) : Nat := xs.countP (· = key)

/-- How many places have the key in both lists. -/
def placesOf (key : κ) (xs ys : List κ) : Nat := (xs.zip ys).countP fun place => place.1 = key ∧ place.2 = key

theorem rankOf_eq_zero (above : ∀ x ∈ xs, key ≤ x) : rankOf key xs = 0 := by
  rw [rankOf, List.countP_eq_zero]
  intro x member
  simpa using above x member

theorem copiesOf_eq_zero (above : ∀ x ∈ xs, key < x) : copiesOf key xs = 0 := by
  rw [copiesOf, List.countP_eq_zero]
  intro x member
  simpa using (above x member).ne'

theorem copiesOf_pos_iff : 0 < copiesOf key xs ↔ key ∈ xs := by
  simp [copiesOf, List.countP_pos_iff]

/-- What the first element of a sorted list tells of a key: its run has not begun, begins here, or is over. -/
theorem sorted_cons_cases (key : κ) {x : κ} {rest : List κ} (sorted : (x :: rest).Pairwise (· ≤ ·)) :
    (x ≠ key ∧ rankOf key (x :: rest) = rankOf key rest + 1 ∧ copiesOf key (x :: rest) = copiesOf key rest) ∨
      (x = key ∧ rankOf key (x :: rest) = 0 ∧ rankOf key rest = 0 ∧ copiesOf key (x :: rest) = copiesOf key rest + 1) ∨
      (x ≠ key ∧ rankOf key (x :: rest) = 0 ∧ copiesOf key (x :: rest) = 0 ∧ copiesOf key rest = 0) := by
  obtain ⟨first, -⟩ := List.pairwise_cons.mp sorted
  rcases lt_trichotomy x key with below | rfl | beyond
  · exact .inl ⟨below.ne, by simp [rankOf, below], by simp [copiesOf, below.ne]⟩
  · refine .inr (.inl ⟨rfl, ?_, rankOf_eq_zero first, by simp [copiesOf]⟩)
    exact rankOf_eq_zero (List.forall_mem_cons.mpr ⟨le_rfl, first⟩)
  · have all : ∀ y ∈ x :: rest, key < y :=
      List.forall_mem_cons.mpr ⟨beyond, fun y member => beyond.trans_le (first y member)⟩
    refine .inr (.inr ⟨beyond.ne', rankOf_eq_zero fun y member => (all y member).le, copiesOf_eq_zero all, ?_⟩)
    exact copiesOf_eq_zero fun y member => all y (List.mem_cons_of_mem _ member)

/-- The places with a key in both lists are the overlap of its two runs. -/
theorem placesOf_eq (sorted : xs.Pairwise (· ≤ ·)) (sorted' : ys.Pairwise (· ≤ ·)) :
    placesOf key xs ys =
      min (rankOf key xs + copiesOf key xs) (rankOf key ys + copiesOf key ys) -
        max (rankOf key xs) (rankOf key ys) := by
  induction xs generalizing ys with
  | nil => simp [placesOf, rankOf, copiesOf]
  | cons x rest ih =>
    cases ys with
    | nil => simp [placesOf, rankOf, copiesOf]
    | cons y rest' =>
      have step : placesOf key (x :: rest) (y :: rest') =
          placesOf key rest rest' + if x = key ∧ y = key then 1 else 0 := by
        simp [placesOf, List.countP_cons]
      have continued := ih (List.pairwise_cons.mp sorted).2 (List.pairwise_cons.mp sorted').2
      -- the runs move on together, or one of them has not begun or is over
      rw [step, continued]
      rcases sorted_cons_cases key sorted with ⟨other, rank, count⟩ | ⟨own, rank, start, count⟩ |
        ⟨other, rank, count, past⟩
      · rw [if_neg fun both => other both.1, rank, count]
        rcases sorted_cons_cases key sorted' with ⟨-, rank', count'⟩ | ⟨-, rank', start', count'⟩ |
          ⟨-, rank', count', past'⟩ <;> omega
      · rcases sorted_cons_cases key sorted' with ⟨other', rank', count'⟩ | ⟨own', rank', start', count'⟩ |
          ⟨other', rank', count', past'⟩
        · rw [if_neg fun both => other' both.2]
          omega
        · rw [if_pos ⟨own, own'⟩]
          omega
        · rw [if_neg fun both => other' both.2]
          omega
      · rw [if_neg fun both => other both.1]
        omega

/-- The runs of a key: one lies inside the other, where both lists have the key. -/
def RunsNest (key : κ) (xs ys : List κ) : Prop :=
  key ∈ xs → key ∈ ys →
    (rankOf key xs ≤ rankOf key ys ∧ rankOf key ys + copiesOf key ys ≤ rankOf key xs + copiesOf key xs) ∨
      (rankOf key ys ≤ rankOf key xs ∧ rankOf key xs + copiesOf key xs ≤ rankOf key ys + copiesOf key ys)

/-- The rarer list's elements of a key are all met exactly when the runs of the key nest. -/
theorem placesOf_eq_min_iff (sorted : xs.Pairwise (· ≤ ·)) (sorted' : ys.Pairwise (· ≤ ·)) :
    placesOf key xs ys = min (copiesOf key xs) (copiesOf key ys) ↔ RunsNest key xs ys := by
  rw [placesOf_eq sorted sorted', RunsNest, ← copiesOf_pos_iff, ← copiesOf_pos_iff]
  omega

theorem copiesOf_congr (perm : xs.Perm ys) : copiesOf key xs = copiesOf key ys := perm.countP_eq _

theorem runsNest_congr {xs' ys' : List κ} (perm : xs.Perm xs') (perm' : ys.Perm ys') :
    RunsNest key xs ys ↔ RunsNest key xs' ys' := by
  simp only [RunsNest, rankOf, copiesOf, perm.mem_iff, perm'.mem_iff, perm.countP_eq, perm'.countP_eq]

theorem runsNest_of_perm (perm : xs.Perm ys) : RunsNest key xs ys := by
  have rank : rankOf key xs = rankOf key ys := perm.countP_eq _
  have copies : copiesOf key xs = copiesOf key ys := copiesOf_congr perm
  intro _ _
  omega

/-- What is picked from a zip and read off its second components is a part of the second list. -/
theorem filterMap_zip_sublist {α β γ : Type} {pick : α × β → Option γ} {read : β → γ}
    (reads : ∀ a b c, pick (a, b) = some c → c = read b) (xs : List α) (ys : List β) :
    ((xs.zip ys).filterMap pick).Sublist (ys.map read) := by
  induction xs generalizing ys with
  | nil => simp
  | cons x rest ih =>
    cases ys with
    | nil => simp
    | cons y rest' =>
      rw [List.zip_cons_cons, List.map_cons]
      cases picked : pick (x, y) with
      | none =>
        rw [List.filterMap_cons_none picked]
        exact (ih rest').cons _
      | some c =>
        rw [List.filterMap_cons_some picked, reads x y c picked]
        exact (ih rest').cons_cons _

end Foundation
