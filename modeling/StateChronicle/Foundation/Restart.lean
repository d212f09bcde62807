import StateChronicle.Foundation.Outcome

/-!
# Computations that crash and are restarted

A computation over a state that outlives it may fail at any of its calls, with or without the effect of the call.
`Ends` says how it may end; restarted after every failure it returns at last, if failures use up a number of pending
crashes.
-/

namespace Foundation

variable {ε δ σ α β : Type} {xs : List α} {call : σ → Except δ α × σ} {crashed' : σ → Prop} {crashes : σ → ℕ}

/-- Started in `s`, the computation returns with `returned`, or fails in a state with `crashed`. -/
def Ends (x : EStateM ε σ α) (s : σ) (returned : α → σ → Prop) (crashed : σ → Prop) : Prop :=
  (∃ a s', x s = .ok a s' ∧ returned a s') ∨ ∃ e s', x s = .error e s' ∧ crashed s'

namespace Ends

variable {x : EStateM ε σ α} {s : σ} {returned : α → σ → Prop} {crashed : σ → Prop}

theorem pure {a : α} (holds : returned a s) : Ends (Pure.pure a : EStateM ε σ α) s returned crashed :=
  .inl ⟨a, s, rfl, holds⟩

theorem mono {returned' : α → σ → Prop} (ends : Ends x s returned crashed)
    (weaker : ∀ a s', returned a s' → returned' a s') (weaker' : ∀ s', crashed s' → crashed' s') :
    Ends x s returned' crashed' := by
  rcases ends with ⟨a, s', ran, holds⟩ | ⟨e, s', ran, holds⟩
  · exact .inl ⟨a, s', ran, weaker a s' holds⟩
  · exact .inr ⟨e, s', ran, weaker' s' holds⟩

theorem mono_crashed (ends : Ends x s returned crashed) (weaker : ∀ s', crashed s' → crashed' s') :
    Ends x s returned crashed' :=
  ends.mono (fun _ _ => id) weaker

section

variable {f : α → EStateM ε σ β} {final : β → σ → Prop}

theorem bind_returns {a : α} {s' : σ} (ran : x s = .ok a s') (rest : Ends (f a) s' final crashed) :
    Ends (x >>= f) s final crashed := by
  unfold Ends
  rwa [EStateM.bind_apply_of_ok ran]

theorem bind (ends : Ends x s returned crashed) (rest : ∀ a s', returned a s' → Ends (f a) s' final crashed) :
    Ends (x >>= f) s final crashed := by
  rcases ends with ⟨a, s', ran, holds⟩ | ⟨e, s', ran, holds⟩
  · exact bind_returns ran (rest a s' holds)
  · exact .inr ⟨e, s', EStateM.bind_apply_of_error ran, holds⟩

theorem bind_ok {y : Except ε α} {a : α} (succeeds : y = .ok a) (rest : Ends (f a) s final crashed) :
    Ends (liftExcept y >>= f) s final crashed := by
  subst succeeds
  exact rest

end

theorem liftExcept (y : Except ε α) (holds : crashed s) :
    Ends (Foundation.liftExcept y) s (fun _ s' => s' = s) crashed := by
  cases y with
  | ok a => exact .inl ⟨a, s, rfl, rfl⟩
  | error e => exact .inr ⟨e, s, rfl, holds⟩

theorem perform (call : σ → α × σ) :
    Ends (Foundation.perform call : EStateM ε σ α) s (fun a s' => call s = (a, s')) crashed :=
  .inl ⟨_, _, rfl, rfl⟩

theorem request {onError : δ → ε} (answered : ∀ a s', call s = (.ok a, s') → returned a s')
    (failed : ∀ e s', call s = (.error e, s') → crashed s') : Ends (request call onError) s returned crashed := by
  rcases ran : call s with ⟨e | a, s'⟩
  · exact .inr ⟨onError e, s', request_eq_error.mpr ⟨e, ran, rfl⟩, failed e s' ran⟩
  · exact .inl ⟨a, s', request_eq_ok.mpr ran, answered a s' ran⟩

theorem of_error {e : ε} {s' : σ} (ends : Ends x s returned crashed) (fails : x s = .error e s') : crashed s' := by
  rcases ends with ⟨a, s₁, ran, -⟩ | ⟨e₁, s₁, ran, holds⟩ <;> rw [ran] at fails <;> cases fails
  exact holds

/-- What is known of a computation with a mapped result is known of the computation. -/
theorem of_map {f : α → β} {final : β → σ → Prop} (ends : Ends (x >>= fun a => Pure.pure (f a)) s final crashed) :
    Ends x s (fun a => final (f a)) crashed := by
  cases ran : x s with
  | ok a s' =>
    unfold Ends at ends
    rw [EStateM.bind_apply_of_ok ran] at ends
    rcases ends with ⟨b, _, same, holds⟩ | ⟨_, _, same, -⟩ <;> cases same
    exact .inl ⟨a, s', ran, holds⟩
  | error e s' => exact .inr ⟨e, s', ran, ends.of_error (EStateM.bind_apply_of_error ran)⟩

theorem attempt (ends : Ends x s returned crashed) :
    Ends (Foundation.attempt x) s (fun result s' => (∃ a, result = .ok a ∧ returned a s') ∨
      (∃ e, result = .error e) ∧ crashed s') crashed := by
  rcases ends with ⟨a, s', ran, holds⟩ | ⟨e, s', ran, holds⟩
  · exact .inl ⟨_, s', attempt_eq_ok.mpr (.inl ⟨a, rfl, ran⟩), .inl ⟨a, rfl, holds⟩⟩
  · exact .inl ⟨_, s', attempt_eq_ok.mpr (.inr ⟨e, rfl, ran⟩), .inr ⟨⟨e, rfl⟩, holds⟩⟩

theorem collect {step : α → EStateM ε σ (List β)} (kept : σ → Prop)
    (each : ∀ a ∈ xs, ∀ s, kept s → Ends (step a) s (fun _ => kept) crashed) (start : kept s) :
    Ends (Foundation.collect step xs) s (fun _ => kept) crashed := by
  induction xs generalizing s with
  | nil => exact pure start
  | cons a rest ih =>
    refine bind (each a List.mem_cons_self s start) fun _ s₁ holds => ?_
    exact bind (ih (fun b later => each b (List.mem_cons_of_mem _ later)) holds) fun _ _ last => pure last

/-- A loop keeps what each of its steps keeps, and establishes what each of its steps establishes for its item. -/
theorem forM {step : α → EStateM ε σ Unit} (kept : List α → σ → Prop)
    (each : ∀ done a s, a ∈ xs → kept done s → Ends (step a) s (fun _ => kept (done ++ [a])) crashed)
    (start : kept [] s) : Ends (xs.forM step) s (fun _ => kept xs) crashed := by
  have continued : ∀ (rest done : List α) (s : σ), done ++ rest = xs → kept done s →
      Ends (rest.forM step) s (fun _ => kept xs) crashed := by
    intro rest
    induction rest with
    | nil =>
      intro done s whole holds
      rw [List.append_nil] at whole
      exact .inl ⟨(), s, rfl, whole ▸ holds⟩
    | cons a rest ih =>
      intro done s whole holds
      refine bind (each done a s (whole ▸ by simp) holds) fun _ s' holds' => ?_
      exact ih (done ++ [a]) s' (by rw [← whole]; simp) holds'
  exact continued xs [] s rfl start

end Ends

/-! ## Calls -/

/-- A call takes effect when it returns; when it crashes it may have taken effect or not, and there is one crash
less to come. -/
structure Crashable (crashes : σ → ℕ) (unchanged effect : σ → σ → Prop) (call : σ → Except δ α × σ) : Prop where
  returned : ∀ s a s', call s = (.ok a, s') → effect s s' ∧ crashes s' ≤ crashes s
  crashed : ∀ s e s', call s = (.error e, s') → (unchanged s s' ∨ effect s s') ∧ crashes s' < crashes s

theorem Crashable.request_ends {unchanged effect : σ → σ → Prop} (crashable : Crashable crashes unchanged effect call)
    (onError : δ → ε) (s : σ) :
    Ends (request call onError) s (fun a s' => call s = (.ok a, s') ∧ effect s s' ∧ crashes s' ≤ crashes s)
      fun s' => (unchanged s s' ∨ effect s s') ∧ crashes s' < crashes s := by
  exact .request (fun a s' answered => ⟨answered, crashable.returned s a s' answered⟩)
    fun e s' answered => crashable.crashed s e s' answered

/-! ## Restarts -/

/-- The computation, restarted in the state each failure left, until it returns. -/
inductive Restarted (x : EStateM ε σ α) : σ → α → σ → Prop
  | returns {s : σ} {a : α} {s' : σ} (ran : x s = .ok a s') : Restarted x s a s'
  | restarts {s : σ} {e : ε} {middle : σ} {a : α} {s' : σ} (failed : x s = .error e middle)
      (again : Restarted x middle a s') : Restarted x s a s'

variable {x : EStateM ε σ α} {returned : α → σ → Prop} {kept : σ → Prop} {s s' : σ} {a : α}

/-- Whatever the computation returns with from states it keeps to, it returns with after restarts. -/
theorem Restarted.result {crashed : σ → σ → Prop} (each : ∀ s, kept s → Ends x s returned (crashed s))
    (keeps : ∀ s s', crashed s s' → kept s') (restarted : Restarted x s a s') (start : kept s) : returned a s' := by
  induction restarted with
  | returns ran =>
    rcases each _ start with ⟨b, t, ran', holds⟩ | ⟨e, t, ran', -⟩
    · rw [ran] at ran'
      cases ran'
      exact holds
    · rw [ran] at ran'
      cases ran'
  | restarts failed _ ih =>
    rcases each _ start with ⟨b, t, ran', -⟩ | ⟨e, t, ran', holds⟩
    · rw [failed] at ran'
      cases ran'
    · rw [failed] at ran'
      cases ran'
      exact ih (keeps _ _ holds)

/-- A computation whose failures use up the pending crashes returns at last. -/
theorem exists_restarted (each : ∀ s, kept s → Ends x s returned fun s' => kept s' ∧ crashes s' < crashes s)
    (start : kept s) : ∃ a s', Restarted x s a s' := by
  -- strong induction on the crashes to come
  induction pending : crashes s using Nat.strongRecOn generalizing s with
  | ind count ih =>
    rcases each s start with ⟨a, s', ran, -⟩ | ⟨e, middle, failed, holds, fewer⟩
    · exact ⟨a, s', .returns ran⟩
    · obtain ⟨a, s', again⟩ := ih _ (pending ▸ fewer) holds rfl
      exact ⟨a, s', .restarts failed again⟩

end Foundation
