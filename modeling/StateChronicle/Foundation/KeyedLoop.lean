import StateChronicle.Foundation.Outcome
import StateChronicle.Foundation.SortedMap

/-!
# Loops over a keyed map

A loop whose every round replaces the value under one key by what it computes from the value that is there.  Seen from
one key, it is the loop over the elements with that key.
-/

namespace Foundation

variable {ε κ ν α : Type} [LinearOrder κ]

/-- Replaces the value under the element's key by what the element makes of it. -/
def updateAt (keyOf : α → κ) (update : α → Option ν → Except ε ν) (m : SortedMap κ ν) (x : α) :
    Except ε (SortedMap κ ν) := do
  let value ← update x (m.get? (keyOf x))
  return m.insert (keyOf x) value

/-- The value under one key, as the loop over the elements of that key sees it. -/
def valueStep (update : α → Option ν → Except ε ν) (value : Option ν) (x : α) : Except ε (Option ν) :=
  some <$> update x value

section

variable {keyOf : α → κ} {update : α → Option ν → Except ε ν} {m m' : SortedMap κ ν}

theorem valueStep_eq_ok {value value' : Option ν} {x : α} :
    valueStep update value x = .ok value' ↔ ∃ v, update x value = .ok v ∧ some v = value' := by
  unfold valueStep
  cases update x value with
  | ok v | error e => simp [Functor.map, Except.map]

theorem get?_updateAt {x : α} (ran : updateAt keyOf update m x = .ok m') (key : κ) :
    if keyOf x = key then valueStep update (m.get? key) x = .ok (m'.get? key) else m'.get? key = m.get? key := by
  obtain ⟨value, computed, inserted⟩ := Except.bind_eq_ok.mp ran
  obtain rfl := Except.pure_eq_ok.mp inserted
  rw [SortedMap.get?_insert]
  split_ifs with own other elsewhere
  · subst own
    exact valueStep_eq_ok.mpr ⟨value, computed, rfl⟩
  · exact absurd own.symm other
  · exact absurd elsewhere.symm own
  · rfl

/-- Seen from one key, a loop over a keyed map is the loop over the elements of the key. -/
theorem get?_foldlM_updateAt {xs : List α} (ran : xs.foldlM (updateAt keyOf update) m = .ok m') (key : κ) :
    (xs.filter fun x => keyOf x = key).foldlM (valueStep update) (m.get? key) = .ok (m'.get? key) := by
  induction xs generalizing m with
  | nil =>
    obtain rfl := Except.ok.inj ran
    rfl
  | cons x rest ih =>
    obtain ⟨next, first, others⟩ := Except.bind_eq_ok.mp ran
    have seen := get?_updateAt first key
    by_cases own : keyOf x = key
    · rw [if_pos own] at seen
      rw [List.filter_cons_of_pos (by simpa using own), List.foldlM_cons, seen]
      exact ih others
    · rw [if_neg own] at seen
      rw [List.filter_cons_of_neg (by simpa using own), ← seen]
      exact ih others

/-- A loop whose rounds succeed whatever they find succeeds on every map. -/
theorem exists_foldlM_updateAt (keyOf : α → κ) {xs : List α} (succeeds : ∀ x ∈ xs, ∀ value, ∃ v, update x value = .ok v)
    (m : SortedMap κ ν) : ∃ m', xs.foldlM (updateAt keyOf update) m = .ok m' := by
  induction xs generalizing m with
  | nil => exact ⟨m, rfl⟩
  | cons x rest ih =>
    obtain ⟨v, computed⟩ := succeeds x List.mem_cons_self (m.get? (keyOf x))
    obtain ⟨m', others⟩ := ih (fun y member => succeeds y (List.mem_cons_of_mem _ member))
      (m.insert (keyOf x) v)
    refine ⟨m', ?_⟩
    rw [List.foldlM_cons, Except.bind_eq_ok]
    exact ⟨_, Except.bind_eq_ok.mpr ⟨v, computed, rfl⟩, others⟩

end

/-- The same for a loop that cannot fail. -/
theorem get?_foldl_insert_at (keyOf : α → κ) (update : α → Option ν → ν) (xs : List α) (m : SortedMap κ ν) (key : κ) :
    (xs.foldl (fun m x => m.insert (keyOf x) (update x (m.get? (keyOf x)))) m).get? key =
      (xs.filter fun x => keyOf x = key).foldl (fun value x => some (update x value)) (m.get? key) := by
  induction xs generalizing m with
  | nil => rfl
  | cons x rest ih =>
    rw [List.foldl_cons, ih, SortedMap.get?_insert]
    by_cases own : keyOf x = key
    · rw [if_pos own.symm, List.filter_cons_of_pos (by simpa using own), List.foldl_cons, own]
    · rw [if_neg (Ne.symm own), List.filter_cons_of_neg (by simpa using own)]

end Foundation
