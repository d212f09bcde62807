import Mathlib.Data.Set.Function

/-!
# Paths of joined values

A value climbs level by level, joined with the value beside it.  Where the joins do not collide, climbs along the same
sides that meet at the top have started from the same value and met the same siblings.
-/

namespace Foundation.HashPath

variable {η : Type} {θ : Type} {height : ℕ}

/-- The pair formed at a level: the climbing value is on the right when `side` holds. -/
def paired (side : Bool) (sibling value : η) : η × η :=
  if side then (sibling, value) else (value, sibling)

/-- The value reached from `start` after a number of levels. -/
def climb (join : η → η → η) (side : ℕ → Bool) (sibling : ℕ → η) (start : η) : ℕ → η
  | 0 => start
  | level + 1 =>
    let pair := paired (side level) (sibling level) (climb join side sibling start level)
    join pair.1 pair.2

/-- The pairs joined on the way. -/
def joins (join : η → η → η) (side : ℕ → Bool) (sibling : ℕ → η) (start : η) (height : ℕ) : List (η × η) :=
  (List.range height).map fun level =>
    paired (side level) (sibling level) (climb join side sibling start level)

variable {join : η → η → η} {side : ℕ → Bool} {sibling sibling' : ℕ → η} {start start' : η}

theorem paired_inj {value value' other other' : η} {right : Bool}
    (same : paired right other value = paired right other' value') : other = other' ∧ value = value' := by
  cases right with
  | false => exact ⟨(Prod.mk.inj same).2, (Prod.mk.inj same).1⟩
  | true => exact ⟨(Prod.mk.inj same).1, (Prod.mk.inj same).2⟩

theorem map_paired (f : η → θ) (right : Bool) (other value : η) :
    Prod.map f f (paired right other value) = paired right (f other) (f value) := by
  cases right <;> rfl

theorem map_climb {join' : θ → θ → θ} (f : η → θ) (joined : ∀ a b, f (join a b) = join' (f a) (f b)) (level : ℕ) :
    f (climb join side sibling start level) = climb join' side (fun lower => f (sibling lower)) (f start) level := by
  induction level with
  | zero => rfl
  | succ level ih =>
    rw [climb, climb, joined, ← ih, ← map_paired]
    rfl

theorem mem_joins {pair : η × η} : pair ∈ joins join side sibling start height ↔
      ∃ level < height, pair = paired (side level) (sibling level) (climb join side sibling start level) := by
  simp [joins, eq_comm]

theorem climb_congr (agree : ∀ level < height, sibling level = sibling' level) :
    climb join side sibling start height = climb join side sibling' start height := by
  induction height with
  | zero => rfl
  | succ level ih =>
    rw [climb, climb, ih fun lower below => agree lower (below.trans (Nat.lt_succ_self _)),
      agree level (Nat.lt_succ_self _)]

theorem joins_congr (agree : ∀ level < height, sibling level = sibling' level) :
    joins join side sibling start height = joins join side sibling' start height := by
  refine List.map_congr_left fun level listed => ?_
  have inside := List.mem_range.mp listed
  rw [agree level inside, climb_congr fun lower below => agree lower (below.trans inside)]

/-- Climbs along the same sides that meet have the same start and the same siblings. -/
theorem climb_binds {pairs : Set (η × η)} (injective : Set.InjOn (Function.uncurry join) pairs)
    (made : ∀ pair ∈ joins join side sibling start height, pair ∈ pairs)
    (made' : ∀ pair ∈ joins join side sibling' start' height, pair ∈ pairs)
    (meet : climb join side sibling start height = climb join side sibling' start' height) :
    start = start' ∧ ∀ level < height, sibling level = sibling' level := by
  induction height with
  | zero => exact ⟨meet, fun level below => absurd below (Nat.not_lt_zero _)⟩
  | succ level ih =>
    have top : ∀ lower < level, lower < level + 1 := fun lower below => below.trans (Nat.lt_succ_self _)
    -- The joins at the top are the same pair, so the climbs have met one level below.
    have same := injective (made _ (mem_joins.mpr ⟨level, Nat.lt_succ_self _, rfl⟩))
      (made' _ (mem_joins.mpr ⟨level, Nat.lt_succ_self _, rfl⟩)) meet
    obtain ⟨siblings, values⟩ := paired_inj same
    obtain ⟨starts, lower⟩ := ih
      (fun pair member => by
        obtain ⟨below, inside, rfl⟩ := mem_joins.mp member
        exact made _ (mem_joins.mpr ⟨below, top below inside, rfl⟩))
      (fun pair member => by
        obtain ⟨below, inside, rfl⟩ := mem_joins.mp member
        exact made' _ (mem_joins.mpr ⟨below, top below inside, rfl⟩))
      values
    refine ⟨starts, fun reached inside => ?_⟩
    rcases Nat.lt_succ_iff_lt_or_eq.mp inside with below | rfl
    · exact lower reached below
    · exact siblings

end Foundation.HashPath
