import Mathlib.Logic.Relation
import StateChronicle.Foundation.Restart
import StateChronicle.Ports.Outbox

/-!
# Consuming deliveries

Rows are delivered at least once.  A consumer that claims a delivery before it applies it, and whose effect and mark are
one transaction, applies it once.
-/

namespace StateChronicle.Verified

open Foundation Outbox

variable {W : Type} {dedup : ConsumerDedupStore W} {consumer : OutboxConsumer W} {seen : W → String → Bool × ℕ}
  {w w' : W}

/-- What is `seen` of a delivery is whether it is recorded as applied, and how often it has had its effect.  A claim
answers from the record; the effect lasts if the mark that follows it succeeds, and is rolled back otherwise. -/
structure Dedups (dedup : ConsumerDedupStore W) (consumer : OutboxConsumer W) (seen : W → String → Bool × ℕ) :
    Prop where
  claim : ∀ key lease answer w w', dedup.claimDelivery key lease w = (answer, w') → seen w' = seen w ∧
    (answer = .ok .alreadyApplied → (seen w key).1 = true) ∧
    ∀ attemptId, answer = .ok (.new attemptId) → (seen w key).1 = false
  failed : ∀ key payload error w w', consumer.apply key payload w = (.error error, w') → seen w' = seen w
  release : ∀ key attemptId error answer w w', dedup.releaseDelivery key attemptId error w = (answer, w') →
    seen w' = seen w
  marked : ∀ key payload attemptId w w₁ w', consumer.apply key payload w = (.ok (), w₁) →
    dedup.markDeliveryApplied key attemptId w₁ = (.ok (), w') →
    seen w' = Function.update (seen w) key (true, (seen w key).2 + 1)
  unmarked : ∀ key payload attemptId error w w₁ w', consumer.apply key payload w = (.ok (), w₁) →
    dedup.markDeliveryApplied key attemptId w₁ = (.error error, w') → seen w' = seen w

/-- A delivery is handed to the consumer, whatever comes of it. -/
def Redelivers (dedup : ConsumerDedupStore W) (consumer : OutboxConsumer W) (w w' : W) : Prop :=
  ∃ now key payload lease, w' = finalState (consumeOnce dedup consumer now key payload lease w)

/-- A call applies and marks a new delivery, acknowledges one that was applied before, or fails; only the first changes
what is seen. -/
theorem consumeOnce_ends (dedups : Dedups dedup consumer seen) (now : ℤ) (key : String) (payload : OutboxPayload)
    (lease : ℤ) (w : W) :
    Ends (consumeOnce dedup consumer now key payload lease) w
      (fun fresh w' => (seen w key).1 = !fresh ∧
        seen w' = if fresh then Function.update (seen w) key (true, (seen w key).2 + 1) else seen w)
      (fun w' => seen w' = seen w) := by
  unfold consumeOnce
  refine .bind (.liftExcept _ rfl) fun _ _ here => ?_
  subst here
  refine .bind (.liftExcept _ rfl) fun _ _ here => ?_
  subst here
  refine .bind (.request (fun _ _ => id) fun _ _ failed => (dedups.claim _ _ _ _ _ failed).1) fun claim w₁ claimed => ?_
  obtain ⟨same, old, new⟩ := dedups.claim _ _ _ _ _ claimed
  cases claim with
  | alreadyApplied => exact .pure ⟨old rfl, same⟩
  | inProgress => exact .inr ⟨_, w₁, rfl, same⟩
  | new attemptId =>
    rw [← same]
    refine .bind (.perform _) fun answer w₂ applied => ?_
    cases answer with
    | error error =>
      -- a failed callback is released before its error is raised
      have kept := dedups.failed _ _ _ _ _ applied
      refine .bind (.request (fun _ _ => id) fun _ _ failed => ?_) fun _ w' released => .inr ⟨_, w', rfl, ?_⟩
      · exact (dedups.release _ _ _ _ _ _ failed).trans kept
      · exact (dedups.release _ _ _ _ _ _ released).trans kept
    | ok =>
      refine .bind (.request (fun _ _ => id) fun _ _ failed => dedups.unmarked _ _ _ _ _ _ _ applied failed)
        fun _ w' marked => .pure ⟨?_, dedups.marked _ _ _ _ _ _ applied marked⟩
      rw [same]
      exact new attemptId rfl

theorem counted_redelivers (dedups : Dedups dedup consumer seen)
    (counted : ∀ key, (seen w key).2 = (seen w key).1.toNat)
    (step : Redelivers dedup consumer w w') (key : String) : (seen w' key).2 = (seen w' key).1.toNat := by
  obtain ⟨now, delivered, payload, lease, rfl⟩ := step
  rcases consumeOnce_ends dedups now delivered payload lease w with ⟨fresh, w', ran, new, after⟩ | ⟨_, w', ran, after⟩
  · rw [ran, finalState, after]
    cases fresh with
    | false => exact counted key
    | true =>
      have unapplied : (seen w delivered).2 = 0 := by simp [counted, new]
      by_cases same : key = delivered
      · simp [same, unapplied]
      · simp [same, counted]
  · rw [ran, finalState, after]
    exact counted key

/-- However often and in whatever order deliveries are repeated, and whichever calls fail, no delivery has its effect
twice.  A call that returns leaves its delivery with one effect, had now or before as the call says; one that fails
leaves every delivery as it was. -/
theorem consumed_exactly_once {first : W} (dedups : Dedups dedup consumer seen)
    (start : ∀ key, seen first key = (false, 0)) (reached : Relation.ReflTransGen (Redelivers dedup consumer) first w) :
    (∀ key, (seen w key).2 ≤ 1) ∧ ∀ now key payload lease,
      Ends (consumeOnce dedup consumer now key payload lease) w
        (fun fresh w' => (seen w' key).2 = 1 ∧ (seen w key).2 = (!fresh).toNat) (fun w' => seen w' = seen w) := by
  have counted : ∀ key, (seen w key).2 = (seen w key).1.toNat := by
    induction reached with
    | refl => simp [start]
    | tail _ step ih => exact counted_redelivers dedups ih step
  refine ⟨fun key => (counted key).trans_le (Bool.toNat_le _), fun now key payload lease => ?_⟩
  refine (consumeOnce_ends dedups now key payload lease w).mono (fun fresh w' ⟨old, after⟩ => ?_) fun _ => id
  rw [after, counted, old]
  cases fresh with
  | false => simp [counted, old]
  | true => simp

/-- A store and a consumer over the log of the effects. -/
def logDedup : ConsumerDedupStore (List String) where
  claimDelivery := fun key _ log => (.ok (if key ∈ log then .alreadyApplied else .new "attempt"), log)
  markDeliveryApplied := fun _ _ log => (.ok (), log)
  releaseDelivery := fun _ _ _ log => (.ok (), log)

def logConsumer : OutboxConsumer (List String) := ⟨fun key _ log => (.ok (), key :: log)⟩

theorem logDedup_dedups : Dedups logDedup logConsumer fun log key => (decide (key ∈ log), log.count key) where
  claim := by
    rintro key lease answer log _ ⟨⟩
    by_cases known : key ∈ log <;> simp [known]
  failed := by simp [logConsumer]
  release := by simp [logDedup]
  marked := by
    rintro key payload attemptId log _ _ ⟨⟩ ⟨⟩
    funext other
    by_cases same : other = key
    · simp [same]
    · simp [same, Ne.symm same]
  unmarked := by simp [logDedup]

def anOrder : OutboxPayload := ⟨⟨"acme"⟩, ⟨"cmt_1"⟩, ⟨.replicate 32 0⟩, []⟩

theorem log_consumed_once : Ends (consumeOnce logDedup logConsumer 0 "order" anOrder 60) ["order"]
    (fun fresh log => log.count "order" = 1 ∧ 1 = (!fresh).toNat) fun _ => True := by
  have step : Redelivers logDedup logConsumer [] ["order"] := ⟨0, "order", anOrder, 60, rfl⟩
  exact ((consumed_exactly_once logDedup_dedups (by simp) (.single step)).2 0 "order" anOrder 60).mono
    (fun _ _ => id) fun _ _ => trivial

end StateChronicle.Verified
