import Mathlib.Data.List.Induction
import Mathlib.Data.List.Nodup
import Mathlib.Data.List.Perm.Basic

/-!
# Lists with one element per key

A list whose elements have distinct keys is a map in any order: lookups by key do not depend on the
order, and replacing the element of a key leaves the others alone.
-/

namespace Foundation

variable {α κ : Type} [DecidableEq κ] {keyOf : α → κ}

theorem find?_key_eq_some {xs : List α} (unique : (xs.map keyOf).Nodup) {key : κ} {x : α} :
    xs.find? (fun x => keyOf x = key) = some x ↔ x ∈ xs ∧ keyOf x = key := by
  constructor
  · intro found
    exact ⟨List.mem_of_find?_eq_some found, by simpa using List.find?_some found⟩
  · rintro ⟨member, rfl⟩
    cases found : xs.find? (fun y => keyOf y = keyOf x) with
    | none => exact absurd (decide_eq_true rfl) (List.find?_eq_none.mp found x member)
    | some y =>
      have same : keyOf y = keyOf x := by simpa using List.find?_some found
      rw [List.inj_on_of_nodup_map unique (List.mem_of_find?_eq_some found) member same]

theorem find?_key_perm {xs ys : List α} (rearranged : xs.Perm ys) (unique : (xs.map keyOf).Nodup) (key : κ) :
    ys.find? (fun x => keyOf x = key) = xs.find? (fun x => keyOf x = key) := by
  have unique' : (ys.map keyOf).Nodup := (rearranged.map keyOf).nodup_iff.mp unique
  refine Option.ext fun x => ?_
  rw [find?_key_eq_some unique, find?_key_eq_some unique', rearranged.mem_iff]

/-- Updates the first element with a key, or adds an element for it. -/
def upsertKey (keyOf : α → κ) (key : κ) (update : α → α) (fresh : α) : List α → List α
  | [] => [fresh]
  | x :: rest => if keyOf x = key then update x :: rest else x :: upsertKey keyOf key update fresh rest

section

variable {key : κ} {update : α → α} {fresh : α} (keeps : ∀ x, keyOf (update x) = keyOf x) (own : keyOf fresh = key)

include keeps own

theorem find?_upsertKey (xs : List α) (k : κ) :
    (upsertKey keyOf key update fresh xs).find? (fun x => keyOf x = k) =
      if k = key then some ((xs.find? fun x => keyOf x = key).elim fresh update)
      else xs.find? fun x => keyOf x = k := by
  induction xs with
  | nil =>
    rw [upsertKey, List.find?_singleton, own]
    by_cases same : key = k <;> simp [same, eq_comm]
  | cons x rest ih =>
    rw [upsertKey]
    by_cases first : keyOf x = key
    · rw [if_pos first, List.find?_cons, List.find?_cons, List.find?_cons, keeps, first]
      by_cases same : key = k
      · simp [same]
      · simp [same, Ne.symm same]
    · rw [if_neg first, List.find?_cons, ih, List.find?_cons, List.find?_cons]
      by_cases same : k = key
      · simp [same, first]
      · simp [same]

theorem map_key_upsertKey (xs : List α) :
    (upsertKey keyOf key update fresh xs).map keyOf =
      if key ∈ xs.map keyOf then xs.map keyOf else xs.map keyOf ++ [key] := by
  induction xs with
  | nil => simp [upsertKey, own]
  | cons x rest ih =>
    rw [upsertKey]
    by_cases first : keyOf x = key
    · rw [if_pos first, List.map_cons, List.map_cons, keeps, if_pos (first ▸ List.mem_cons_self)]
    · rw [if_neg first, List.map_cons, List.map_cons, ih]
      by_cases later : key ∈ rest.map keyOf
      · rw [if_pos later, if_pos (List.mem_cons_of_mem _ later)]
      · have absent : key ∉ keyOf x :: rest.map keyOf := by
          simpa [List.mem_cons, Ne.symm first] using later
        rw [if_neg later, if_neg absent, List.cons_append]

theorem nodup_upsertKey {xs : List α} (unique : (xs.map keyOf).Nodup) :
    ((upsertKey keyOf key update fresh xs).map keyOf).Nodup := by
  rw [map_key_upsertKey keeps own]
  split
  · exact unique
  · next absent => exact List.nodup_append.mpr ⟨unique, List.nodup_singleton _, by simpa using absent⟩

end

/-! ## The first of each key -/

/-- The elements kept so far and the keys they were met under. -/
structure Collected (α κ : Type) where
  kept : List α
  seen : List κ

/-- Keeps an element unless its key was met before. -/
def collectStep (keyOf : α → κ) (collected : Collected α κ) (x : α) : Collected α κ :=
  if keyOf x ∈ collected.seen then collected else ⟨collected.kept ++ [x], collected.seen ++ [keyOf x]⟩

/-- A collecting loop keeps one element of every key it meets. -/
theorem foldl_collectStep (keyOf : α → κ) (xs : List α) :
    (xs.foldl (collectStep keyOf) ⟨[], []⟩).seen = (xs.foldl (collectStep keyOf) ⟨[], []⟩).kept.map keyOf ∧
      ((xs.foldl (collectStep keyOf) ⟨[], []⟩).kept.map keyOf).Nodup ∧
      ∀ key, key ∈ (xs.foldl (collectStep keyOf) ⟨[], []⟩).kept.map keyOf ↔ key ∈ xs.map keyOf := by
  induction xs using List.reverseRecOn with
  | nil => simp
  | append_singleton xs x ih =>
    obtain ⟨seen, distinct, listed⟩ := ih
    rw [List.foldl_append, List.foldl_cons, List.foldl_nil]
    generalize xs.foldl (collectStep keyOf) ⟨[], []⟩ = collected at seen distinct listed
    rw [collectStep, seen]
    split_ifs with met
    · refine ⟨seen, distinct, fun key => ?_⟩
      rw [listed, List.map_append, List.mem_append, List.map_singleton, List.mem_singleton]
      exact ⟨.inl, fun either => either.elim id fun own => own ▸ (listed _).mp met⟩
    · refine ⟨by simp, ?_, fun key => ?_⟩
      · rw [List.map_append, List.map_singleton]
        exact List.nodup_append.mpr ⟨distinct, List.nodup_singleton _, by simpa using met⟩
      · rw [List.map_append, List.map_append, List.mem_append, List.mem_append, listed]

end Foundation
