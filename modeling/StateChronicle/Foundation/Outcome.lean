import Mathlib.Data.List.Forall2
import Mathlib.Logic.Basic

/-!
# Fallible and stateful computations

Inversion and invariant rules for `Except` and `EStateM`.  A computation that succeeded is peeled apart with
`Except.bind_eq_ok`, `EStateM.bind_eq_ok` and their relatives; what all its results have in common is derived with
`Yields`, and that it leaves part of its state alone with `Frames`.
-/

namespace Foundation

variable {ε δ α β σ : Type} {ys : List β} {κ : Type} {u : Unit} {b : β} {onError : δ → ε} {error : ε}

/-! ## Guards -/

variable {xs : List α} {a : α} {e : ε} {condition : Prop}

def rejectIf (condition : Prop) [Decidable condition] (error : ε) : Except ε Unit :=
  if condition then .error error else .ok ()

def okOr (value : Option α) (error : ε) : Except ε α :=
  match value with
  | some a => .ok a
  | none => .error error

@[simp] theorem rejectIf_eq_ok [Decidable condition] : rejectIf condition error = .ok u ↔ ¬ condition := by
  unfold rejectIf
  split <;> simp_all

@[simp] theorem rejectIf_eq_error [Decidable condition] :
    rejectIf condition error = .error e ↔ condition ∧ error = e := by
  unfold rejectIf
  split <;> simp_all

@[simp] theorem okOr_eq_ok {value : Option α} : okOr value error = .ok a ↔ value = some a := by
  cases value <;> simp [okOr]

@[simp] theorem okOr_some (a : α) (error : ε) : okOr (some a) error = .ok a := rfl

/-! ## `Except` -/

theorem Except.bind_eq_ok {x : Except ε α} {f : α → Except ε β} : (x >>= f) = .ok b ↔ ∃ a, x = .ok a ∧ f a = .ok b := by
  cases x <;> simp [bind, Except.bind]

@[simp] theorem Except.pure_eq_ok {b : α} : (pure a : Except ε α) = .ok b ↔ a = b := by
  simp [pure, Except.pure]

@[simp] theorem Except.throw_ne_ok : (throw e : Except ε α) = .ok a ↔ False := by
  simp [throw, throwThe, MonadExceptOf.throw]

theorem Except.ite_eq_ok [Decidable condition] {x y : Except ε α} :
    (if condition then x else y) = .ok a ↔ condition ∧ x = .ok a ∨ ¬ condition ∧ y = .ok a := by
  by_cases holds : condition <;> simp [holds]

theorem Except.mapError_eq_ok {ε' : Type} {x : Except ε α} {f : ε → ε'} : x.mapError f = .ok a ↔ x = .ok a := by
  cases x <;> simp [Except.mapError]

theorem Except.forM_eq_ok {check : α → Except ε Unit} : xs.forM check = .ok u ↔ ∀ x ∈ xs, check x = .ok () := by
  induction xs with
  | nil => simp [List.forM, pure, Except.pure]
  | cons x rest ih =>
    simp only [List.forM, Except.bind_eq_ok, ih, List.mem_cons, forall_eq_or_imp]
    constructor
    · rintro ⟨⟨⟩, first, others⟩
      exact ⟨first, others⟩
    · rintro ⟨first, others⟩
      exact ⟨(), first, others⟩

/-- A successful traversal lines its results up with its inputs. -/
theorem Except.mapM_eq_ok {f : α → Except ε β} : xs.mapM f = .ok ys ↔ List.Forall₂ (fun x y => f x = .ok y) xs ys := by
  induction xs generalizing ys with
  | nil => cases ys <;> simp [List.mapM_nil, pure, Except.pure]
  | cons x rest ih =>
    simp only [List.mapM_cons, Except.bind_eq_ok, Except.pure_eq_ok, ih]
    constructor
    · rintro ⟨y, first, ys', others, rfl⟩
      exact .cons first others
    · intro aligned
      cases aligned with
      | cons first others => exact ⟨_, first, _, others, rfl⟩

theorem Except.mapM_congr {f g : α → Except ε β} (agree : ∀ x ∈ xs, f x = g x) : xs.mapM f = xs.mapM g := by
  induction xs with
  | nil => rfl
  | cons x rest ih =>
    rw [List.mapM_cons, List.mapM_cons, agree x List.mem_cons_self,
      ih fun y member => agree y (List.mem_cons_of_mem _ member)]

theorem Except.foldlM_concat {f : β → α → Except ε β} {x : α} {mid last : β} (first : xs.foldlM f b = .ok mid)
    (next : f mid x = .ok last) : (xs ++ [x]).foldlM f b = .ok last := by
  rw [List.foldlM_append, first, Except.bind_eq_ok]
  exact ⟨mid, rfl, Except.bind_eq_ok.mpr ⟨last, next, rfl⟩⟩

/-- What every step of a successful loop keeps, given what was processed before it, holds at its end. -/
theorem Except.foldlM_induct {f : β → α → Except ε β} (motive : List α → β → Prop)
    (step : ∀ done x b b', motive done b → f b x = .ok b' → motive (done ++ [x]) b') {b' : β} (start : motive [] b)
    (returns : xs.foldlM f b = .ok b') : motive xs b' := by
  have continued : ∀ (done : List α) (b : β), motive done b → xs.foldlM f b = .ok b' → motive (done ++ xs) b' := by
    clear start returns
    induction xs with
    | nil =>
      intro done b holds returns
      rw [List.append_nil, ← Except.ok.inj returns]
      exact holds
    | cons x rest ih =>
      intro done b holds returns
      obtain ⟨next, first, others⟩ := Except.bind_eq_ok.mp returns
      have result := ih (done ++ [x]) next (step done x b next holds first) others
      rwa [List.append_assoc, List.singleton_append] at result
  exact continued [] b start returns

/-- No key comes twice, and none that was met before comes again. -/
def Unmet {κ : Type} (seen keys : List κ) : Prop := keys.Nodup ∧ ∀ key ∈ keys, key ∉ seen

theorem unmet_nil {keys : List κ} : Unmet [] keys ↔ keys.Nodup := by
  simp [Unmet]

theorem unmet_cons {seen keys : List κ} {key : κ} :
    Unmet seen (key :: keys) ↔ key ∉ seen ∧ Unmet (key :: seen) keys := by
  simp only [Unmet, List.nodup_cons, List.mem_cons, forall_eq_or_imp, not_or]
  constructor
  · rintro ⟨⟨first, distinct⟩, unmet, apart⟩
    exact ⟨unmet, distinct, fun other member => ⟨fun same => first (same ▸ member), apart other member⟩⟩
  · rintro ⟨unmet, distinct, apart⟩
    exact ⟨⟨fun member => (apart key member).1 rfl, distinct⟩, unmet, fun other member => (apart other member).2⟩

/-- A loop that checks every item and refuses a key it has met passes exactly when every check passes and no key
comes twice. -/
theorem Except.foldlM_distinct (key : α → κ) (check : α → Except ε Unit) {f : List κ → α → Except ε (List κ)}
    (round : ∀ seen x seen', f seen x = .ok seen' ↔ check x = .ok () ∧ key x ∉ seen ∧ seen' = key x :: seen)
    {seen : List κ} :
    (∃ seen', xs.foldlM f seen = .ok seen') ↔ (∀ x ∈ xs, check x = .ok ()) ∧ Unmet seen (xs.map key) := by
  induction xs generalizing seen with
  | nil => simp [pure, Except.pure, Unmet]
  | cons x rest ih =>
    have unfolded : (∃ seen', (x :: rest).foldlM f seen = .ok seen') ↔
        check x = .ok () ∧ key x ∉ seen ∧ ∃ seen', rest.foldlM f (key x :: seen) = .ok seen' := by
      simp only [List.foldlM_cons, Except.bind_eq_ok, round]
      constructor
      · rintro ⟨last, _, ⟨checked, unmet, rfl⟩, others⟩
        exact ⟨checked, unmet, last, others⟩
      · rintro ⟨checked, unmet, last, others⟩
        exact ⟨last, _, ⟨checked, unmet, rfl⟩, others⟩
    rw [unfolded, ih, List.map_cons, unmet_cons, List.forall_mem_cons]
    constructor
    · rintro ⟨checked, unmet, others, apart⟩
      exact ⟨⟨checked, others⟩, unmet, apart⟩
    · rintro ⟨⟨checked, others⟩, unmet, apart⟩
      exact ⟨checked, unmet, others, apart⟩

/-- Every success of the computation satisfies `property`. -/
def Yields (property : α → Prop) (x : Except ε α) : Prop := ∀ a, x = .ok a → property a

namespace Yields

variable {property : α → Prop}

theorem ok (holds : property a) : Yields property (.ok a : Except ε α) := fun _ same => Except.ok.inj same ▸ holds

theorem throw (e : ε) : Yields property (throw e : Except ε α) := fun _ same => (Except.throw_ne_ok.mp same).elim

theorem cases [Decidable condition] {x y : Except ε α} (positive : condition → Yields property x)
    (negative : Yields property y) : Yields property (if condition then x else y) := by
  split
  case isTrue holds => exact positive holds
  case isFalse => exact negative

theorem ite [Decidable condition] {x y : Except ε α} (positive : Yields property x) (negative : Yields property y) :
    Yields property (if condition then x else y) :=
  cases (fun _ => positive) negative

variable {x : Except ε β} {f : β → Except ε α}

theorem bindFrom (rest : ∀ b, x = .ok b → Yields property (f b)) :
    Yields property (x >>= f) := by
  intro a returns
  obtain ⟨b, first, continued⟩ := Except.bind_eq_ok.mp returns
  exact rest b first a continued

/-- What the rest of a computation yields whatever it continues from. -/
theorem bind (rest : ∀ b, Yields property (f b)) : Yields property (x >>= f) :=
  bindFrom fun b _ => rest b

end Yields

variable {s s' : σ}
  {x : EStateM ε σ α} {step : α → EStateM ε σ (List β)} {f : α → EStateM ε σ β} {call : σ → Except δ α × σ}

/-- Runs a computation without state inside a stateful one. -/
def liftExcept (x : Except ε α) : EStateM ε σ α :=
  fun s => match x with
    | .ok a => .ok a s
    | .error e => .error e s

instance monadLiftExcept : MonadLift (Except ε) (EStateM ε σ) := ⟨liftExcept⟩

/-- Runs a computation and hands its error back as a value, keeping the state it left. -/
def attempt (x : EStateM ε σ α) : EStateM ε σ (Except ε α) :=
  fun s => match x s with
    | .ok a s' => .ok (.ok a) s'
    | .error e s' => .ok (.error e) s'

/-- Asks an outside component and translates its failure. -/
def request (call : σ → Except δ α × σ) (onError : δ → ε) : EStateM ε σ α :=
  fun s => match call s with
    | (.ok a, s') => .ok a s'
    | (.error e, s') => .error (onError e) s'

/-- Asks an outside component that cannot fail. -/
def perform (call : σ → α × σ) : EStateM ε σ α := fun s => .ok (call s).1 (call s).2

theorem EStateM.bind_eq_ok : (x >>= f) s = .ok b s' ↔ ∃ a middle, x s = .ok a middle ∧ f a middle = .ok b s' := by
  change EStateM.bind x f s = _ ↔ _
  unfold EStateM.bind
  cases x s <;> simp

theorem EStateM.bind_eq_error :
    (x >>= f) s = .error e s' ↔ x s = .error e s' ∨ ∃ a middle, x s = .ok a middle ∧ f a middle = .error e s' := by
  change EStateM.bind x f s = _ ↔ _
  unfold EStateM.bind
  cases x s <;> simp

@[simp] theorem EStateM.pure_apply (a : α) : (pure a : EStateM ε σ α) s = .ok a s := rfl

@[simp] theorem EStateM.throw_apply (e : ε) : (throw e : EStateM ε σ α) s = .error e s := rfl

theorem EStateM.bind_apply_of_ok (returns : x s = .ok a s') : (x >>= f) s = f a s' := by
  change EStateM.bind x f s = _
  simp [EStateM.bind, returns]

theorem EStateM.bind_pure_eq_ok {f : α → β} :
    (do return f (← x) : EStateM ε σ β) s = .ok b s' ↔ ∃ a, x s = .ok a s' ∧ f a = b := by
  rw [EStateM.bind_eq_ok]
  constructor
  · rintro ⟨a, middle, returns, same⟩
    cases same
    exact ⟨a, returns, rfl⟩
  · rintro ⟨a, returns, rfl⟩
    exact ⟨a, s', returns, rfl⟩

theorem EStateM.bind_apply_of_error (fails : x s = .error e s') : (x >>= f) s = .error e s' := by
  change EStateM.bind x f s = _
  simp [EStateM.bind, fails]

@[simp] theorem liftExcept_eq_ok {x : Except ε α} : liftExcept x s = .ok a s' ↔ x = .ok a ∧ s = s' := by
  cases x <;> simp [liftExcept]

@[simp] theorem liftExcept_eq_error {x : Except ε α} : liftExcept x s = .error e s' ↔ x = .error e ∧ s = s' := by
  cases x <;> simp [liftExcept]

@[simp] theorem liftM_eq_liftExcept (x : Except ε α) :
    (liftM x : EStateM ε σ α) = liftExcept x := rfl

theorem request_eq_ok : request call onError s = .ok a s' ↔ call s = (.ok a, s') := by
  unfold request
  split <;> simp_all

theorem request_eq_error : request call onError s = .error e s' ↔ ∃ d, call s = (.error d, s') ∧ onError d = e := by
  unfold request
  split <;> simp_all [and_comm]

theorem perform_eq_ok {call : σ → α × σ} : (perform call : EStateM ε σ α) s = .ok a s' ↔ call s = (a, s') := by
  simp [perform, Prod.ext_iff]

theorem attempt_eq_ok {r : Except ε α} :
    attempt x s = .ok r s' ↔ (∃ a, r = .ok a ∧ x s = .ok a s') ∨ (∃ e, r = .error e ∧ x s = .error e s') := by
  unfold attempt
  cases x s <;> cases r <;> simp [eq_comm]

/-! ### Frames -/

/-- The state a run ends in, whether it succeeded or failed. -/
def finalState : EStateM.Result ε σ α → σ
  | .ok _ s => s
  | .error _ s => s

/-- However `x` ends, what `observe` sees of the state is as before. -/
def Frames {γ : Type} (observe : σ → γ) (x : EStateM ε σ α) : Prop := ∀ s, observe (finalState (x s)) = observe s

def isError : EStateM.Result ε σ α → Bool
  | .ok _ _ => false
  | .error _ _ => true

theorem eq_error_of_isError {result : EStateM.Result ε σ α} (failed : isError result) :
    ∃ e, result = .error e (finalState result) := by
  cases result with
  | ok a s => cases failed
  | error e s => exact ⟨e, rfl⟩

variable {γ : Type} {observe : σ → γ}

theorem Frames.of_ok (frames : Frames observe x) (returns : x s = .ok a s') : observe s' = observe s := by
  simpa [returns, finalState] using frames s

theorem Frames.of_error (frames : Frames observe x) (fails : x s = .error e s') : observe s' = observe s := by
  simpa [fails, finalState] using frames s

/-- An observer that sees nothing. -/
theorem Frames.blind (x : EStateM ε σ α) : Frames (fun _ => ()) x := fun _ => rfl

theorem Frames.pure (a : α) : Frames observe (Pure.pure a : EStateM ε σ α) := fun _ => rfl

theorem Frames.liftExcept (x : Except ε α) : Frames observe (liftExcept x : EStateM ε σ α) := by
  intro s
  cases x <;> rfl

theorem Frames.request (keeps : ∀ s, observe (call s).2 = observe s) : Frames observe (request call onError) := by
  intro s
  have kept := keeps s
  unfold Foundation.request
  split <;> simp_all [finalState]

theorem Frames.perform {call : σ → α × σ} (keeps : ∀ s, observe (call s).2 = observe s) :
    Frames observe (perform call : EStateM ε σ α) :=
  keeps

theorem Frames.bind (first : Frames observe x) (second : ∀ a, Frames observe (f a)) : Frames observe (x >>= f) := by
  intro s
  cases ran : x s with
  | ok a s' =>
    rw [EStateM.bind_apply_of_ok ran]
    exact (second a s').trans (first.of_ok ran)
  | error e s' =>
    rw [EStateM.bind_apply_of_error ran]
    exact first.of_error ran

theorem Frames.map (frames : Frames observe x) (f : α → β) : Frames observe (f <$> x) := by
  rw [map_eq_pure_bind]
  exact .bind frames fun _ => .pure _

/-! ### Loops that collect -/

/-- Runs a step over a list and concatenates what the steps produce. -/
def collect (step : α → EStateM ε σ (List β)) : List α → EStateM ε σ (List β)
  | [] => Pure.pure []
  | a :: rest => do
    let produced ← step a
    let others ← collect step rest
    return produced ++ others

/-- A loop that finished ran every step, each from a state the observer cannot tell from the
first one. -/
theorem collect_eq_ok (frames : ∀ a, Frames observe (step a)) (returns : collect step xs s = .ok ys s') :
    ∃ outputs, List.Forall₂ (fun a output => ∃ s₁ s₂, observe s₁ = observe s ∧
      step a s₁ = .ok output s₂) xs outputs ∧ ys = outputs.flatten := by
  induction xs generalizing s s' ys with
  | nil =>
    cases returns
    exact ⟨[], .nil, rfl⟩
  | cons a rest ih =>
    simp only [collect, EStateM.bind_eq_ok, EStateM.pure_apply, EStateM.Result.ok.injEq] at returns
    obtain ⟨produced, s₁, first, others, s₂, continued, rfl, -⟩ := returns
    obtain ⟨outputs, aligned, rfl⟩ := ih continued
    have kept := (frames a).of_ok first
    refine ⟨produced :: outputs, .cons ⟨s, s₁, rfl, first⟩ (aligned.imp ?_), rfl⟩
    rintro b output ⟨s₃, s₄, same, ran⟩
    exact ⟨s₃, s₄, same.trans kept, ran⟩

theorem collect_append (xs ys : List α) : collect step (xs ++ ys) =
    collect step xs >>= fun zs => collect step ys >>= fun ws => Pure.pure (zs ++ ws) := by
  induction xs with
  | nil => simp [collect]
  | cons a rest ih => simp only [List.cons_append, collect, ih, bind_assoc, pure_bind, List.append_assoc]

theorem Frames.collect (frames : ∀ a, Frames observe (step a)) (xs : List α) :
    Frames observe (Foundation.collect step xs) := by
  induction xs with
  | nil => exact .pure _
  | cons a rest ih =>
    exact .bind (frames a) fun _ => .bind ih fun _ => .pure _

end Foundation
