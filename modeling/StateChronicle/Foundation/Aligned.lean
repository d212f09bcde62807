import Mathlib.Data.List.Forall2
import Mathlib.Data.List.Perm.Basic

/-!
# Aligned lists

Lists that correspond element by element: members have partners, functions that agree on partners have the same image,
and lists with the same image up to order can be rearranged to be aligned.
-/

namespace Foundation

variable {α β γ : Type} {R : α → β → Prop} {xs : List α} {ys : List β} {x : α} {f : α → γ} {g : β → γ}

theorem Aligned.exists_left (aligned : List.Forall₂ R xs ys) {y : β} (member : y ∈ ys) : ∃ x ∈ xs, R x y := by
  induction aligned with
  | nil => cases member
  | cons first _ ih =>
    rcases List.mem_cons.mp member with rfl | later
    · exact ⟨_, List.mem_cons_self, first⟩
    · obtain ⟨x, there, related⟩ := ih later
      exact ⟨x, List.mem_cons_of_mem _ there, related⟩

theorem Aligned.exists_right (aligned : List.Forall₂ R xs ys) (member : x ∈ xs) : ∃ y ∈ ys, R x y := by
  have flipped : List.Forall₂ (flip R) ys xs := aligned.flip
  exact Aligned.exists_left flipped member

theorem Aligned.map_eq (aligned : List.Forall₂ R xs ys) (agree : ∀ x y, R x y → f x = g y) : xs.map f = ys.map g := by
  induction aligned with
  | nil => rfl
  | cons first _ ih =>
    rw [List.map_cons, List.map_cons, agree _ _ first, ih]

theorem eq_of_map_eq_map {xs ys : List α} (same : xs.map f = ys.map f) (apart : ∀ x ∈ xs, ∀ y ∈ ys, f x = f y → x = y) :
    xs = ys := by
  induction xs generalizing ys with
  | nil => exact (List.map_eq_nil_iff.mp same.symm).symm
  | cons x rest ih =>
    obtain ⟨y, others, rfl, first, later⟩ := List.map_eq_cons_iff.mp same.symm
    rw [apart x List.mem_cons_self y List.mem_cons_self first.symm,
      ih later.symm fun a inRest b inOthers =>
        apart a (List.mem_cons_of_mem _ inRest) b (List.mem_cons_of_mem _ inOthers)]

theorem Aligned.comp {S : β → γ → Prop} {T : α → γ → Prop} {zs : List γ} (first : List.Forall₂ R xs ys)
    (second : List.Forall₂ S ys zs) (compose : ∀ x y z, R x y → S y z → T x z) : List.Forall₂ T xs zs := by
  induction first generalizing zs with
  | nil =>
    cases second
    exact .nil
  | cons related _ ih =>
    cases second with
    | cons related' rest => exact .cons (compose _ _ _ related related') (ih rest)

/-- Partners that exist one by one can be listed. -/
theorem exists_aligned_of_forall_mem (partner : ∀ x ∈ xs, ∃ y, R x y) : ∃ ys, List.Forall₂ R xs ys := by
  induction xs with
  | nil => exact ⟨[], .nil⟩
  | cons x rest ih =>
    obtain ⟨y, related⟩ := partner x List.mem_cons_self
    obtain ⟨ys, aligned⟩ := ih fun z later => partner z (List.mem_cons_of_mem _ later)
    exact ⟨y :: ys, .cons related aligned⟩

theorem mem_unique_of_length_le_one (short : xs.length ≤ 1) {x' : α} (member : x ∈ xs) (member' : x' ∈ xs) :
    x = x' := by
  match xs, short, member, member' with
  | [only], _, member, member' => exact (List.mem_singleton.mp member).trans (List.mem_singleton.mp member').symm

/-- A list around one of its positions. -/
theorem exists_split_of_getElem? {position : ℕ} (found : xs[position]? = some x) :
    ∃ before after, xs = before ++ x :: after ∧ before.length = position := by
  obtain ⟨inside, rfl⟩ := List.getElem?_eq_some_iff.mp found
  exact ⟨xs.take position, xs.drop (position + 1), by simp, List.length_take_of_le (Nat.le_of_lt inside)⟩

/-- Lists with the same image up to order are aligned after rearranging one of them. -/
theorem exists_aligned_of_perm_map (rearranged : (xs.map f).Perm (ys.map g)) :
    ∃ ys', ys'.Perm ys ∧ List.Forall₂ (fun x y => f x = g y) xs ys' := by
  induction xs generalizing ys with
  | nil =>
    obtain rfl : ys = [] := by simpa using rearranged
    exact ⟨[], .nil, .nil⟩
  | cons x rest ih =>
    have there : f x ∈ ys.map g := rearranged.subset List.mem_cons_self
    obtain ⟨y, member, same⟩ := List.mem_map.mp there
    obtain ⟨before, after, rfl⟩ := List.append_of_mem member
    have moved : (before ++ y :: after).Perm (y :: (before ++ after)) := List.perm_middle
    -- Both images start with `f x` now; the rest is aligned by induction.
    have remaining : (rest.map f).Perm ((before ++ after).map g) := by
      have whole := rearranged.trans (moved.map g)
      rw [List.map_cons, List.map_cons, same] at whole
      exact whole.cons_inv
    obtain ⟨ys', reordered, aligned⟩ := ih remaining
    exact ⟨y :: ys', (reordered.cons y).trans moved.symm, .cons same.symm aligned⟩

/-- An image contained in another one, with multiplicities, is aligned with part of the list. -/
theorem exists_aligned_of_subperm_map (contained : (xs.map f).Subperm (ys.map g)) :
    ∃ ys', ys'.Subperm ys ∧ List.Forall₂ (fun x y => f x = g y) xs ys' := by
  obtain ⟨image, rearranged, inside⟩ := contained
  obtain ⟨part, partOf, rfl⟩ := List.sublist_map_iff.mp inside
  obtain ⟨ys', reordered, aligned⟩ := exists_aligned_of_perm_map rearranged.symm
  exact ⟨ys', reordered.subperm.trans partOf.subperm, aligned⟩

theorem Aligned.filter_left (aligned : List.Forall₂ R xs ys) (p : α → Bool) :
    ∃ ys', List.Sublist ys' ys ∧ List.Forall₂ R (xs.filter p) ys' := by
  induction aligned with
  | nil => exact ⟨[], .slnil, .nil⟩
  | @cons x y _ _ related _ ih =>
    obtain ⟨ys', inside, rest⟩ := ih
    by_cases selected : p x
    · rw [List.filter_cons_of_pos selected]
      exact ⟨y :: ys', inside.cons_cons y, .cons related rest⟩
    · rw [List.filter_cons_of_neg selected]
      exact ⟨ys', inside.cons y, rest⟩

end Foundation
