import StateChronicle.Foundation.Outcome

/-!
# Recorded calls

A component that is called from outside can be replaced by one that notes each call and whether it succeeded.
`Leaves` relates how a computation ends to the calls it adds to such a record; `Mirrors` says that recording changes
nothing else.  The calls of a transaction that is undone when one of them fails follow a script.
-/

namespace Foundation

variable {ε δ κ α β σ : Type}

/-- A state beside the calls made so far, each with whether it succeeded. -/
structure Traced (κ σ : Type) where
  calls : List (κ × Bool)
  state : σ

namespace Traced

def recording (label : κ) (call : σ → Except δ α × σ) (s : Traced κ σ) : Except δ α × Traced κ σ :=
  ((call s.state).1, ⟨s.calls ++ [(label, (call s.state).1.isOk)], (call s.state).2⟩)

/-- Makes a call to a component that is not recorded. -/
def unrecorded (call : σ → α × σ) (s : Traced κ σ) : α × Traced κ σ := ((call s.state).1, ⟨s.calls, (call s.state).2⟩)

def succeeding (labels : List κ) : List (κ × Bool) := labels.map fun label => (label, true)

@[simp] theorem succeeding_append (xs ys : List κ) : succeeding (xs ++ ys) = succeeding xs ++ succeeding ys :=
  List.map_append

theorem mem_succeeding {labels : List κ} {entry : κ × Bool} :
    entry ∈ succeeding labels ↔ entry.1 ∈ labels ∧ entry.2 = true := by
  obtain ⟨label, answer⟩ := entry
  rw [succeeding, List.mem_map]
  constructor
  · rintro ⟨label', member, same⟩
    cases same
    exact ⟨member, rfl⟩
  · rintro ⟨member, success⟩
    exact ⟨label, member, by rw [← success]⟩

end Traced

open Traced

/-! ## What a computation records -/

/-- How a run ended, without the state it ended in. -/
def outcome : EStateM.Result ε σ α → Except ε α
  | .ok a _ => .ok a
  | .error e _ => .error e

/-- However `x` ends, it adds calls that fit its outcome. -/
def Leaves (spec : Except ε α → List (κ × Bool) → Prop) (x : EStateM ε (Traced κ σ) α) : Prop :=
  ∀ s, ∃ added, (finalState (x s)).calls = s.calls ++ added ∧ spec (outcome (x s)) added

namespace Leaves

variable {spec spec' : Except ε α → List (κ × Bool) → Prop} {x : EStateM ε (Traced κ σ) α}

theorem mono (leaves : Leaves spec x) (weaker : ∀ r added, spec r added → spec' r added) : Leaves spec' x := by
  intro s
  obtain ⟨added, calls, holds⟩ := leaves s
  exact ⟨added, calls, weaker _ _ holds⟩

theorem pure {a : α} (holds : spec (.ok a) []) : Leaves (σ := σ) spec (Pure.pure a) :=
  fun _ => ⟨[], (List.append_nil _).symm, holds⟩

theorem throw {e : ε} (holds : spec (.error e) []) : Leaves (σ := σ) spec (throw e) :=
  fun _ => ⟨[], (List.append_nil _).symm, holds⟩

theorem after {s : Traced κ σ} {start : List (κ × Bool)} (before : List (κ × Bool))
    (leaves : Leaves (fun r later => spec r (before ++ later)) x) (calls : s.calls = start ++ before) :
    ∃ added, (finalState (x s)).calls = start ++ added ∧ spec (outcome (x s)) added := by
  obtain ⟨later, made, holds⟩ := leaves s
  exact ⟨before ++ later, by rw [made, calls, List.append_assoc], holds⟩

section Sequences

variable {f : α → EStateM ε (Traced κ σ) β} {spec : Except ε β → List (κ × Bool) → Prop} {label : κ}
  {call : σ → Except δ α × σ} {first : Except ε α → List (κ × Bool) → Prop}

/-- The calls of a first computation stand before those of the second; an error ends the sequence. -/
theorem bind (leaves : Leaves first x) (failed : ∀ e before, first (.error e) before → spec (.error e) before)
    (second : ∀ a before, first (.ok a) before → Leaves (fun r later => spec r (before ++ later)) (f a)) :
    Leaves spec (x >>= f) := by
  intro s
  obtain ⟨before, calls, holds⟩ := leaves s
  cases ran : x s with
  | error e s₁ =>
    rw [ran] at calls holds
    rw [EStateM.bind_apply_of_error ran]
    exact ⟨before, calls, failed e before holds⟩
  | ok a s₁ =>
    rw [ran] at calls holds
    rw [EStateM.bind_apply_of_ok ran]
    exact (second a before holds).after before calls

theorem liftExcept_bind {call : Except ε α} (failed : ∀ e, spec (.error e) []) (second : ∀ a, Leaves spec (f a)) :
    Leaves spec (liftExcept call >>= f) := by
  cases call with
  | ok a => exact second a
  | error e => exact throw (failed e)

theorem perform_bind {f : Except δ α → EStateM ε (Traced κ σ) β}
    (second : ∀ answer, Leaves (fun r later => spec r ((label, answer.isOk) :: later)) (f answer)) :
    Leaves spec (perform (recording label call) >>= f) := by
  intro s
  obtain ⟨later, made, holds⟩ := second (call s.state).1 (recording label call s).2
  exact ⟨_ :: later, made.trans (List.append_assoc _ _ _), holds⟩

theorem request_bind {onError : δ → ε} (failed : ∀ e, spec (.error e) [(label, false)])
    (second : ∀ a, Leaves (fun r later => spec r ((label, true) :: later)) (f a)) :
    Leaves spec (request (recording label call) onError >>= f) := by
  intro s
  cases answered : (call s.state).1 with
  | ok a =>
    have ran : request (recording label call) onError s = .ok a ⟨s.calls ++ [(label, true)], (call s.state).2⟩ :=
      request_eq_ok.mpr (by rw [recording, answered]; rfl)
    rw [EStateM.bind_apply_of_ok ran]
    exact (second a).after [_] rfl
  | error e =>
    have ran : request (recording label call) onError s =
        .error (onError e) ⟨s.calls ++ [(label, false)], (call s.state).2⟩ := by
      rw [request, recording, answered]
      rfl
    rw [EStateM.bind_apply_of_error ran]
    exact ⟨_, rfl, failed _⟩

theorem unrecorded_bind {call : σ → α × σ} (second : ∀ a, Leaves spec (f a)) :
    Leaves spec (perform (unrecorded call) >>= f) :=
  fun s => second (call s.state).1 ⟨s.calls, (call s.state).2⟩

theorem attempt_bind {f : Except ε α → EStateM ε (Traced κ σ) β} (leaves : Leaves first x)
    (second : ∀ answer before, first answer before → Leaves (fun r later => spec r (before ++ later)) (f answer)) :
    Leaves spec (attempt x >>= f) := by
  intro s
  obtain ⟨before, calls, holds⟩ := leaves s
  have ran : attempt x s = (.ok (outcome (x s)) (finalState (x s)) : EStateM.Result ε _ _) := by
    rw [attempt]
    cases x s <;> rfl
  rw [EStateM.bind_apply_of_ok ran]
  exact (second _ before holds).after before calls

end Sequences

end Leaves

/-! ## Transactions -/

/-- Undoes the transaction after a failed call and reports the failure; whether that succeeds is not asked. -/
def undoFailed (undo : σ → Except δ Unit × σ) (onError : δ → ε) : Except δ α → EStateM ε σ α
  | .ok a => pure a
  | .error e => do
    let _ ← perform undo
    throw (onError e)

/-- Makes a call; should it fail, the transaction is undone before the error is reported. -/
def orUndo (undo : σ → Except δ Unit × σ) (onError : δ → ε) (call : σ → Except δ α × σ) : EStateM ε σ α := do
  let answer ← perform call
  undoFailed undo onError answer

/-- All calls of the script succeeded; or one failed, the ones before it having succeeded, and `undo` was called
last. -/
def FollowsScript (undo : κ) (script : List κ) : Except ε α → List (κ × Bool) → Prop
  | .ok _, added => added = succeeding script
  | .error _, added => ∃ done failed answer, done ++ [failed] <+: script ∧
      added = succeeding done ++ [(failed, false), (undo, answer)]

namespace Leaves

variable {undo : κ}

theorem orUndo (label : κ) (rollback : σ → Except δ Unit × σ) (onError : δ → ε) (call : σ → Except δ α × σ) :
    Leaves (FollowsScript undo [label]) (orUndo (recording undo rollback) onError (recording label call)) := by
  refine .perform_bind fun answer => ?_
  cases answer with
  | ok a => exact .pure rfl
  | error d => exact .perform_bind fun undone => .throw ⟨[], label, undone.isOk, List.prefix_rfl, rfl⟩

theorem script_bind {xs ys : List κ} {x : EStateM ε (Traced κ σ) α} {f : α → EStateM ε (Traced κ σ) β}
    (first : Leaves (FollowsScript undo xs) x) (second : ∀ a, Leaves (FollowsScript undo ys) (f a)) :
    Leaves (FollowsScript undo (xs ++ ys)) (x >>= f) := by
  refine first.bind (fun e before failed => ?_) fun a before done => (second a).mono fun r later follows => ?_
  · obtain ⟨done, failed, answer, within, rfl⟩ := failed
    exact ⟨done, failed, answer, within.trans (List.prefix_append _ _), rfl⟩
  · obtain rfl : before = succeeding xs := done
    cases r with
    | ok b =>
      rw [show later = succeeding ys from follows]
      exact (succeeding_append xs ys).symm
    | error e =>
      obtain ⟨done, failed, answer, within, rfl⟩ := follows
      refine ⟨xs ++ done, failed, answer, ?_, ?_⟩
      · rw [List.append_assoc]
        exact (List.prefix_append_right_inj xs).mpr within
      · rw [succeeding_append, List.append_assoc]

theorem script_forM {label : β → κ} {step : β → EStateM ε (Traced κ σ) Unit}
    (each : ∀ b, Leaves (FollowsScript undo [label b]) (step b)) (items : List β) :
    Leaves (FollowsScript undo (items.map label)) (items.forM step) := by
  induction items with
  | nil => exact .pure rfl
  | cons b rest ih => exact script_bind (each b) fun _ => ih

end Leaves

/-! ## Recording is invisible -/

def forget : EStateM.Result ε (Traced κ σ) α → EStateM.Result ε σ α
  | .ok a s => .ok a s.state
  | .error e s => .error e s.state

/-- `x` does what `y` does, beside its record. -/
def Mirrors (x : EStateM ε (Traced κ σ) α) (y : EStateM ε σ α) : Prop := ∀ s, forget (x s) = y s.state

namespace Mirrors

variable {x : EStateM ε (Traced κ σ) α} {y : EStateM ε σ α}

theorem outcome_eq (mirrors : Mirrors x y) (s : Traced κ σ) : outcome (x s) = outcome (y s.state) := by
  rw [← mirrors s]
  cases x s <;> rfl

theorem pure (a : α) : Mirrors (κ := κ) (σ := σ) (ε := ε) (Pure.pure a) (Pure.pure a) := fun _ => rfl

theorem throw (e : ε) : Mirrors (MonadExcept.throw e : EStateM ε (Traced κ σ) α) (MonadExcept.throw e) := fun _ => rfl

theorem liftExcept (call : Except ε α) : Mirrors (κ := κ) (σ := σ) (liftExcept call) (liftExcept call) := by
  intro s
  cases call <;> rfl

theorem request_recording (label : κ) (call : σ → Except δ α × σ) (onError : δ → ε) :
    Mirrors (request (recording label call) onError) (request call onError) := by
  intro s
  unfold Foundation.request recording
  cases call s.state with
  | mk answer after => cases answer <;> rfl

theorem request_unrecorded (call : σ → Except δ α × σ) (onError : δ → ε) :
    Mirrors (κ := κ) (request (unrecorded call) onError) (request call onError) := by
  intro s
  unfold Foundation.request unrecorded
  cases call s.state with
  | mk answer after => cases answer <;> rfl

theorem perform_recording (label : κ) (call : σ → Except δ α × σ) :
    Mirrors (ε := ε) (perform (recording label call)) (perform call) :=
  fun _ => rfl

theorem perform_unrecorded (call : σ → α × σ) : Mirrors (κ := κ) (ε := ε) (perform (unrecorded call)) (perform call) :=
  fun _ => rfl

theorem attempt (mirrors : Mirrors x y) : Mirrors (attempt x) (attempt y) := by
  intro s
  have same := mirrors s
  unfold Foundation.attempt
  rw [← same]
  cases x s <;> rfl

theorem bind {f : α → EStateM ε (Traced κ σ) β} {g : α → EStateM ε σ β} (first : Mirrors x y)
    (second : ∀ a, Mirrors (f a) (g a)) : Mirrors (x >>= f) (y >>= g) := by
  intro s
  have same := first s
  cases ran : x s with
  | ok a s₁ =>
    rw [ran] at same
    rw [EStateM.bind_apply_of_ok ran, EStateM.bind_apply_of_ok same.symm]
    exact second a s₁
  | error e s₁ =>
    rw [ran] at same
    rw [EStateM.bind_apply_of_error ran, EStateM.bind_apply_of_error same.symm]
    rfl

theorem orUndo (undo label : κ) (rollback : σ → Except δ Unit × σ) (onError : δ → ε) (call : σ → Except δ α × σ) :
    Mirrors (orUndo (recording undo rollback) onError (recording label call)) (orUndo rollback onError call) := by
  refine .bind (perform_recording label call) fun answer => ?_
  cases answer with
  | ok a => exact .pure a
  | error e => exact .bind (perform_recording undo rollback) fun _ => .throw _

theorem foldlM {step : α → β → EStateM ε (Traced κ σ) α} {plain : α → β → EStateM ε σ α}
    (each : ∀ a b, Mirrors (step a b) (plain a b)) (items : List β) (a : α) :
    Mirrors (items.foldlM step a) (items.foldlM plain a) := by
  induction items generalizing a with
  | nil => exact .pure a
  | cons b rest ih =>
    rw [List.foldlM_cons, List.foldlM_cons]
    exact .bind (each a b) ih

theorem forM {step : β → EStateM ε (Traced κ σ) Unit} {plain : β → EStateM ε σ Unit}
    (each : ∀ b, Mirrors (step b) (plain b)) (items : List β) : Mirrors (items.forM step) (items.forM plain) := by
  induction items with
  | nil => exact .pure ()
  | cons b rest ih => exact .bind (each b) fun _ => ih

end Mirrors

end Foundation
