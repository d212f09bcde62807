import Mathlib.Data.List.Perm.Basic
import Mathlib.Data.List.Sort

/-!
# Comparing lists up to order

Sorting both sides by a key and comparing decides whether two lists carry the same keys with the same multiplicities;
removing matched elements one by one decides whether one is contained in the other.
-/

namespace Foundation

variable {α κ : Type} {xs : List α} {ys : List α} {position : Nat} {p : α → Bool}

section Sorting

variable [LinearOrder κ] (key : α → κ) (order : α → α → Prop) [DecidableRel order]
  (byKey : ∀ a b, order a b ↔ key a ≤ key b)

include byKey

theorem pairwise_map_insertionSort (xs : List α) : ((xs.insertionSort order).map key).Pairwise (· ≤ ·) := by
  have total : Std.Total order := ⟨fun a b => by
    simpa only [byKey] using le_total (key a) (key b)⟩
  have transitive : IsTrans α order := ⟨fun a b c first second => by
    rw [byKey] at *
    exact first.trans second⟩
  rw [List.pairwise_map]
  exact (List.pairwise_insertionSort order xs).imp fun {a b} => (byKey a b).mp

/-- Sorted lists have the same keys in the same order exactly when the lists have the same keys. -/
theorem map_insertionSort_eq_iff (xs ys : List α) :
    (xs.insertionSort order).map key = (ys.insertionSort order).map key ↔ (xs.map key).Perm (ys.map key) := by
  constructor
  · intro same
    exact ((List.perm_insertionSort order xs).map key).symm.trans
      (same ▸ (List.perm_insertionSort order ys).map key)
  · intro rearranged
    have sortedXs := pairwise_map_insertionSort key order byKey xs
    have sortedYs := pairwise_map_insertionSort key order byKey ys
    refine List.Perm.eq_of_pairwise (fun _ _ _ _ => le_antisymm) sortedXs sortedYs ?_
    exact ((List.perm_insertionSort order xs).map key).trans
      (rearranged.trans ((List.perm_insertionSort order ys).map key).symm)

/-- Lists of elements with distinct keys are sorted alike in whatever order they come. -/
theorem insertionSort_eq_of_perm (distinct : (xs.map key).Nodup) (rearranged : xs.Perm ys) :
    xs.insertionSort order = ys.insertionSort order := by
  have sorted (zs : List α) := List.pairwise_map.mp (pairwise_map_insertionSort key order byKey zs)
  have same : (xs.insertionSort order).Perm (ys.insertionSort order) :=
    (List.perm_insertionSort order xs).trans (rearranged.trans (List.perm_insertionSort order ys).symm)
  refine List.Perm.eq_of_pairwise (fun a b first second below above => ?_) (sorted xs) (sorted ys) same
  have first' := (List.perm_insertionSort order xs).subset first
  have second' := rearranged.symm.subset ((List.perm_insertionSort order ys).subset second)
  exact List.inj_on_of_nodup_map distinct first' second' (le_antisymm below above)

/-- Sorting by a key keeps elements of one key in their order. -/
theorem filter_insertionSort [DecidableEq κ] (k : κ) (xs : List α) :
    (xs.insertionSort order).filter (fun x => key x = k) = xs.filter fun x => key x = k := by
  have ordered : (xs.filter fun x => key x = k).Pairwise order := by
    refine List.pairwise_iff_forall_sublist.mpr fun {a b} inside => ?_
    have keyed : ∀ x ∈ xs.filter fun x => key x = k, key x = k := fun x member => by
      simpa using List.of_mem_filter member
    rw [byKey, keyed a (inside.subset (by simp)), keyed b (inside.subset (by simp))]
  have kept := (List.sublist_insertionSort ordered List.filter_sublist).filter fun x => decide (key x = k)
  rw [List.filter_filter] at kept
  simp only [Bool.and_self] at kept
  exact (kept.eq_of_length (((List.perm_insertionSort order xs).filter _).length_eq.symm)).symm

end Sorting

theorem find?_reverse_of_filter_eq (same : xs.filter p = ys.filter p) : xs.reverse.find? p = ys.reverse.find? p := by
  rw [← List.head?_filter, ← List.head?_filter, List.filter_reverse, List.filter_reverse, same]

/-! ## Partitioned lists -/

/-- In a list whose elements with a property come first, the leading ones are all of them. -/
theorem take_drop_of_partitioned {holds : α → Bool} (partitioned : xs.Pairwise fun a b => holds b → holds a) :
    xs.take (xs.takeWhile holds).length = xs.filter holds ∧
      xs.drop (xs.takeWhile holds).length = xs.filter fun x => !holds x := by
  induction xs with
  | nil => exact ⟨rfl, rfl⟩
  | cons x rest ih =>
    obtain ⟨first, others⟩ := List.pairwise_cons.mp partitioned
    cases own : holds x with
    | true =>
      obtain ⟨taken, dropped⟩ := ih others
      rw [List.takeWhile_cons_of_pos own, List.length_cons, List.take_succ_cons, List.drop_succ_cons,
        taken, dropped, List.filter_cons_of_pos own, List.filter_cons_of_neg (by simp [own])]
      exact ⟨rfl, rfl⟩
    | false =>
      have none : ∀ y ∈ rest, ¬ holds y := fun y member has =>
        absurd (first y member has) (Bool.eq_false_iff.mp own)
      have all : ∀ y ∈ x :: rest, !holds y :=
        List.forall_mem_cons.mpr ⟨by simp [own], fun y later => by simpa using none y later⟩
      rw [List.takeWhile_cons_of_neg (by simp [own]), List.filter_cons_of_neg (by simp [own]),
        List.filter_eq_nil_iff.mpr none, List.filter_eq_self.mpr all]
      exact ⟨rfl, rfl⟩

/-! ## Removing by position -/

/-- Removes the element at `position`, moving the last element into its place. -/
def swapRemove (xs : List α) (position : Nat) : List α :=
  match xs.getLast? with
  | none => []
  | some last => (xs.set position last).dropLast

theorem perm_cons_swapRemove (inside : position < xs.length) :
    xs.Perm (xs.get ⟨position, inside⟩ :: swapRemove xs position) := by
  obtain ⟨ys, last, rfl⟩ : ∃ ys last, xs = ys ++ [last] := by
    have nonempty : xs ≠ [] := by
      rintro rfl
      simp at inside
    exact ⟨xs.dropLast, xs.getLast nonempty, (List.dropLast_append_getLast nonempty).symm⟩
  simp only [swapRemove, List.getLast?_append, List.getLast?_singleton, Option.some_or]
  by_cases early : position < ys.length
  · have taken : (ys.get ⟨position, early⟩ :: ys.eraseIdx position).Perm ys :=
      List.getElem_cons_eraseIdx_perm early
    have moved : (ys.set position last).Perm (last :: ys.eraseIdx position) :=
      List.set_perm_cons_eraseIdx early last
    rw [List.set_append_left _ _ early, List.dropLast_concat]
    simp only [List.get_eq_getElem, List.getElem_append_left early] at taken ⊢
    exact (List.perm_append_singleton last ys).trans
      ((taken.symm.cons last).trans ((List.Perm.swap _ _ _).trans (moved.symm.cons _)))
  · have isLast : position = ys.length := by
      simp only [List.length_append, List.length_singleton] at inside
      omega
    subst isLast
    simp

/-- Taking out the first element that satisfies `p`. -/
theorem perm_cons_of_findIdx? (found : xs.findIdx? p = some position) :
    ∃ x, p x = true ∧ xs.Perm (x :: swapRemove xs position) := by
  obtain ⟨inside, holds, -⟩ := List.findIdx?_eq_some_iff_getElem.mp found
  exact ⟨xs.get ⟨position, inside⟩, holds, perm_cons_swapRemove inside⟩

end Foundation
