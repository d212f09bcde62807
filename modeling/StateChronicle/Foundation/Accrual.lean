import Mathlib.Algebra.BigOperators.Group.List.Basic
import Mathlib.Data.List.Pairwise
import Mathlib.Data.Nat.ModEq

/-!
# Levels that accrue with time

A level grows with the time since its stamp, in whole units, and draws take from it.  Whatever the times of the draws,
those in a window take no more than a full level, the growth over the window, and one unit.
-/

namespace Foundation.Accrual

variable {draws : List (ℕ × ℕ)}

/-- Growth in whole units over a span of time. -/
structure Growth (grow : ℕ → ℕ) : Prop where
  splits : ∀ a b, grow a + grow b ≤ grow (a + b)
  rounds : ∀ a b, grow (a + b) ≤ grow a + grow b + 1

/-- The whole units of a rate per `unit` of time. -/
theorem growth_div {unit : ℕ} (positive : 0 < unit) (rate : ℕ) : Growth fun span => rate * span / unit where
  splits a b := by
    rw [Nat.mul_add, Nat.add_div positive]
    omega
  rounds a b := by
    rw [Nat.mul_add, Nat.add_div positive]
    split <;> omega

/-- A level and the time it was last brought up to date. -/
structure Level where
  amount : ℕ
  stamp : ℕ

/-- A draw at a time: nothing at all; from a level that has not grown, which keeps its stamp; or from one that has
grown, up to a cap, and is stamped with the time. -/
inductive Draw (grow : ℕ → ℕ) (cap now : ℕ) (level : Level) (drawn : ℕ) (level' : Level) : Prop
  | idle (nothing : drawn = 0) (same : level' = level)
  | settled (still : grow (now - level.stamp) = 0) (stamp : level'.stamp = level.stamp)
      (taken : level'.amount + drawn ≤ level.amount)
  | grown (forward : level.stamp ≤ now) (stamp : level'.stamp = now)
      (taken : level'.amount + drawn ≤ level.amount + grow (now - level.stamp))
      (capped : level'.amount + drawn ≤ cap)

inductive Draws (grow : ℕ → ℕ) (cap : ℕ) : Level → List (ℕ × ℕ) → Prop
  | nil {level : Level} : Draws grow cap level []
  | cons {level level' : Level} {now drawn : ℕ} {rest : List (ℕ × ℕ)} (draw : Draw grow cap now level drawn level')
      (others : Draws grow cap level' rest) : Draws grow cap level ((now, drawn) :: rest)

def drawnWithin (first last : ℕ) (draws : List (ℕ × ℕ)) : ℕ :=
  (draws.map fun draw => if first ≤ draw.1 ∧ draw.1 ≤ last then draw.2 else 0).sum

theorem drawnWithin_cons (first last now drawn : ℕ) (rest : List (ℕ × ℕ)) :
    drawnWithin first last ((now, drawn) :: rest) =
      (if first ≤ now ∧ now ≤ last then drawn else 0) + drawnWithin first last rest := by
  simp [drawnWithin]

theorem drawnWithin_eq_zero {first last : ℕ} (late : ∀ draw ∈ draws, last < draw.1) :
    drawnWithin first last draws = 0 := by
  induction draws with
  | nil => rfl
  | cons draw rest ih =>
    obtain ⟨after, others⟩ := List.forall_mem_cons.mp late
    obtain ⟨now, drawn⟩ := draw
    have outside : ¬ (first ≤ now ∧ now ≤ last) := fun inside => absurd after (by simpa using inside.2)
    rw [drawnWithin_cons, ih others, if_neg outside]

theorem Draw.amount_le {grow : ℕ → ℕ} {cap now drawn : ℕ} {level level' : Level}
    (draw : Draw grow cap now level drawn level') (full : level.amount ≤ cap) : level'.amount ≤ cap := by
  cases draw with
  | idle nothing same => exact same ▸ full
  | settled still stamp taken | grown forward stamp taken capped => omega

variable {grow : ℕ → ℕ} {cap : ℕ} (growth : Growth grow)

include growth

theorem Growth.mono {a b : ℕ} (below : a ≤ b) : grow a ≤ grow b := by
  obtain ⟨rest, rfl⟩ := Nat.exists_eq_add_of_le below
  exact (Nat.le_add_right _ _).trans (growth.splits a rest)

variable {level : Level} (drawn : Draws grow cap level draws)

include drawn

/-- What is drawn up to a time is at most the level and its growth until then. -/
theorem drawnWithin_le_level (ordered : draws.Pairwise fun earlier later => earlier.1 ≤ later.1) (first last : ℕ) :
    drawnWithin first last draws ≤ level.amount + grow (last - level.stamp) := by
  induction drawn with
  | nil => exact Nat.zero_le _
  | @cons level level' now amount rest draw others ih =>
    obtain ⟨sooner, orderedRest⟩ := List.pairwise_cons.mp ordered
    by_cases after : last < now
    · -- this draw and all later ones are beyond the window
      have nothing : drawnWithin first last ((now, amount) :: rest) = 0 :=
        drawnWithin_eq_zero (List.forall_mem_cons.mpr
          ⟨after, fun later member => after.trans_le (sooner later member)⟩)
      rw [nothing]
      exact Nat.zero_le _
    · have later := ih orderedRest
      have head : (if first ≤ now ∧ now ≤ last then amount else 0) ≤ amount := by split <;> omega
      rw [drawnWithin_cons]
      cases draw with
      | idle nothing same =>
        subst same
        omega
      | settled still stamp taken =>
        rw [stamp] at later
        omega
      | grown forward stamp taken capped =>
        -- the growth before and after this draw is within the growth of the whole span
        have both := growth.splits (now - level.stamp) (last - now)
        have span : now - level.stamp + (last - now) = last - level.stamp := by omega
        rw [span] at both
        rw [stamp] at later
        omega

/-- The draws of a window take at most a full level, the growth over the window, and the unit that was under way
when the window began. -/
theorem drawnWithin_le (full : level.amount ≤ cap) (ordered : draws.Pairwise fun earlier later => earlier.1 ≤ later.1)
    (first last : ℕ) :
    drawnWithin first last draws ≤ cap + grow (last - first) + 1 := by
  induction drawn with
  | nil => exact Nat.zero_le _
  | @cons level level' now amount rest draw others ih =>
    obtain ⟨sooner, orderedRest⟩ := List.pairwise_cons.mp ordered
    have later := ih (draw.amount_le full) orderedRest
    by_cases before : now < first
    · rw [drawnWithin_cons, if_neg (by omega), Nat.zero_add]
      exact later
    · -- the first draw of the window: what follows is bounded by the level it leaves
      have whole := drawnWithin_le_level growth (.cons draw others) ordered first last
      have rest := drawnWithin_le_level growth others orderedRest first last
      rw [drawnWithin_cons] at whole ⊢
      cases draw with
      | idle nothing same => split <;> omega
      | settled still stamp taken =>
        have still : grow (first - level.stamp) = 0 :=
          Nat.le_zero.mp (still ▸ growth.mono (Nat.sub_le_sub_right (not_lt.mp before) _))
        have rounds := growth.rounds (first - level.stamp) (last - first)
        have within := growth.mono (a := last - level.stamp) (b := first - level.stamp + (last - first))
          (by omega)
        omega
      | grown forward stamp taken capped =>
        have within := growth.mono (a := last - level'.stamp) (b := last - first) (by omega)
        split <;> omega

end Foundation.Accrual
