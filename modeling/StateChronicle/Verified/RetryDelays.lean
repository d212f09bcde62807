import StateChronicle.Core.KeyedRateLimit

/-!
# Advertised retry delays

A refused call brings its buckets up to date and advertises how long the missing tokens take, rounded up, so the same
call then succeeds, whatever happens to other keys meanwhile.
-/

namespace StateChronicle.Verified

open Foundation
open Domain (U64)
open Core.RateLimit

variable {limiter : KeyedRateLimiter} {keys : List String} {tokens now : U64} {state : BucketState}
  {calls : List KeyedRateLimiter.Call} {later rate : U64}

/-- A call for tokens on a bucket state in which neither the time since the stamp nor the advertised delay
saturates. -/
structure Unsaturated (state : BucketState) (now rate capacity tokens : U64) : Prop where
  elapsed : state.stamp ≤ now
  delay : (saturatingSub tokens (refillState state now rate capacity).tokens).val * 1000 + (rate.val - 1) < 2 ^ 64

theorem refillState_stamp_le (past : state.stamp ≤ now) (rate capacity : U64) :
    (refillState state now rate capacity).stamp ≤ now := by
  unfold refillState
  split
  · exact le_refl _
  · exact past

/-- After the delay the tokens are there; further saturation does no harm. -/
theorem enough_after_delay {capacity delay : U64} (positive : 0 < rate.val) (within : state.tokens ≤ capacity)
    (possible : tokens ≤ capacity) (unsaturated : Unsaturated state now rate capacity tokens)
    (longEnough : retryAfterMs (saturatingSub tokens (refillState state now rate capacity).tokens) rate ≤ delay)
    (time : later.val = now.val + delay.val) :
    tokens ≤ (refillState (refillState state now rate capacity) later rate capacity).tokens := by
  have withinNow := refillState_tokens_le within now rate
  have stamp : (refillState state now rate capacity).stamp.val ≤ now.val :=
    refillState_stamp_le unsaturated.elapsed rate capacity
  have accrues := deficit_le_delay positive unsaturated.delay
  have exact := unsaturated.delay
  -- from here on only the state that the refused call left matters
  generalize refillState state now rate capacity = state' at *
  rw [val_saturatingSub] at accrues exact
  have longer : rate.val * (retryAfterMs (saturatingSub tokens state'.tokens) rate).val ≤
      rate.val * (later.val - state'.stamp.val) := by
    refine Nat.mul_le_mul_left _ (le_trans (show _ ≤ delay.val from longEnough) ?_)
    omega
  rw [Fin.le_def] at possible ⊢
  rw [val_refillState_tokens withinNow, val_refill]
  omega

theorem allowed_after_delay {bucket : TokenBucket} (sound : bucket.Sound) (possible : tokens ≤ bucket.capacity)
    (denied : (bucket.tryAcquireN now tokens).1.allowed = false)
    (unsaturated : Unsaturated bucket.state now bucket.refillPerSecond bucket.capacity tokens)
    (time : later.val = now.val + (bucket.tryAcquireN now tokens).1.retryAfterMs.val) :
    ((bucket.tryAcquireN now tokens).2.tryAcquireN later tokens).1.allowed = true := by
  cases bucket.tryAcquireN_served now tokens with
  | unasked nothing allowed same =>
    rw [allowed] at denied
    cases denied
  | impossible excess denied same => exact absurd possible (not_le.mpr excess)
  | locked poisoned denied same =>
    rw [sound.unpoisoned] at poisoned
    cases poisoned
  | granted asked fits unpoisoned enough allowed taken =>
    rw [allowed] at denied
    cases denied
  | refused fits unpoisoned missing denied kept =>
    rw [denied] at time
    rw [kept, TokenBucket.allowed_iff]
    exact .inr ⟨possible, sound.unpoisoned,
      enough_after_delay bucket.refill_pos sound.within possible unsaturated (le_refl _) time⟩

/-! ## Several keys -/

theorem retryAfterMs_le_delayFor (positive : 0 < rate.val) (tokens : U64) (state : BucketState) :
    retryAfterMs (saturatingSub tokens state.tokens) rate ≤ KeyedRateLimiter.delayFor rate tokens state := by
  unfold KeyedRateLimiter.delayFor
  split_ifs with missing
  · exact le_refl _
  · -- nothing is missing, and nothing takes no time
    have none : (saturatingSub tokens state.tokens).val = 0 := Nat.sub_eq_zero_of_le (not_lt.mp missing)
    refine Nat.le_zero.mpr ?_
    rw [val_retryAfterMs _ positive, none]
    exact Nat.div_eq_of_lt (by omega)

/-- What a refused request on several keys leaves under each of them. -/
theorem refused_many (sound : limiter.Sound) (admissible : limiter.Admissible keys tokens)
    (denied : (limiter.tryAcquireMany keys now tokens).1.allowed = false) :
    (∀ key ∈ keys, KeyedRateLimiter.delayFor limiter.refillPerSecond tokens (limiter.refilledAt now key) ≤
        (limiter.tryAcquireMany keys now tokens).1.retryAfterMs) ∧
      limiter.Touched keys (fun key => (limiter.bucketAt key).withState (limiter.refilledAt now key))
        (limiter.tryAcquireMany keys now tokens).2 := by
  rcases KeyedRateLimiter.tryAcquireMany_served sound keys now tokens with ⟨reason, -⟩ | answered
  · exact absurd admissible (reason denied)
  cases answered with
  | granted enough allowed charged =>
    rw [allowed] at denied
    cases denied
  | refused missing denied delays kept => exact ⟨delays, kept⟩

theorem allowed_many (sound : limiter.Sound) (admissible : limiter.Admissible keys tokens)
    (enough : ∀ key ∈ keys, tokens ≤ (limiter.refilledAt now key).tokens) :
    (limiter.tryAcquireMany keys now tokens).1.allowed = true := by
  rcases KeyedRateLimiter.tryAcquireMany_served sound keys now tokens with ⟨reason, -⟩ | answered
  · by_contra denied
    exact reason (Bool.eq_false_iff.mpr denied) admissible
  cases answered with
  | granted enough allowed charged => exact allowed
  | refused missing denied delays kept => exact absurd enough missing

theorem admissible_of_known {limiter' : KeyedRateLimiter} (admissible : limiter.Admissible keys tokens)
    (sound : limiter'.Sound) (capacity : limiter'.capacity = limiter.capacity)
    (known : ∀ key ∈ keys, limiter'.buckets.get? key ≠ none) :
    limiter'.Admissible keys tokens where
  named := admissible.named
  usable := admissible.usable
  possible := admissible.possible.trans_eq capacity.symm
  room := by
    have none : (KeyedRateLimiter.uniqueKeys keys).filter (fun key => limiter'.buckets.get? key = none) = [] := by
      refine List.filter_eq_nil_iff.mpr fun key member => ?_
      simpa using known key (KeyedRateLimiter.mem_uniqueKeys.mp member)
    rw [none]
    exact sound.counted

/-- Whatever calls on other keys come after a refused request, under its keys there is still what it left. -/
theorem kept_after_refused {refused : KeyedRateLimiter} (sound : refused.Sound)
    (kept : limiter.Touched keys (fun key => (limiter.bucketAt key).withState (limiter.refilledAt now key)) refused)
    (elsewhere : ∀ call ∈ calls, ∀ key ∈ keys, key ∉ call.keys) {key : String} (member : key ∈ keys) :
    (refused.serve calls).capacity = limiter.capacity ∧
      (refused.serve calls).refillPerSecond = limiter.refillPerSecond ∧
      (refused.serve calls).buckets.get? key =
        some ((limiter.bucketAt key).withState (limiter.refilledAt now key)) := by
  obtain ⟨capacity, refill, bucket⟩ :=
    KeyedRateLimiter.serve_frame sound fun call other => elsewhere call other key member
  rw [kept.buckets, if_pos member] at bucket
  exact ⟨capacity.trans kept.capacity, refill.trans kept.refill, bucket⟩

theorem many_allowed_after_delay (sound : limiter.Sound) (admissible : limiter.Admissible keys tokens)
    (denied : (limiter.tryAcquireMany keys now tokens).1.allowed = false)
    (unsaturated : ∀ key ∈ keys, Unsaturated (limiter.bucketAt key).state now limiter.refillPerSecond limiter.capacity
      tokens)
    (time : later.val = now.val + (limiter.tryAcquireMany keys now tokens).1.retryAfterMs.val)
    (elsewhere : ∀ call ∈ calls, ∀ key ∈ keys, key ∉ call.keys) :
    (((limiter.tryAcquireMany keys now tokens).2.serve calls).tryAcquireMany keys later tokens).1.allowed = true := by
  obtain ⟨delays, kept⟩ := refused_many sound admissible denied
  have soundAfter : (limiter.tryAcquireMany keys now tokens).2.Sound := sound.step (.many keys now tokens)
  have still := fun key (member : key ∈ keys) => kept_after_refused soundAfter kept elsewhere member
  have soundLater := soundAfter.serve calls
  generalize (limiter.tryAcquireMany keys now tokens).2.serve calls = limiter' at *
  obtain ⟨someKey, itsMember⟩ := List.exists_mem_of_ne_nil keys admissible.named
  obtain ⟨capacity, refill, -⟩ := still someKey itsMember
  have known : ∀ key ∈ keys, limiter'.buckets.get? key ≠ none := by
    intro key member
    rw [(still key member).2.2]
    exact Option.some_ne_none _
  refine allowed_many soundLater (admissible_of_known admissible soundLater capacity known) fun key member => ?_
  have owned := sound.owned_bucketAt key
  have state : (limiter'.bucketAt key).state = limiter.refilledAt now key := by
    rw [KeyedRateLimiter.bucketAt, (still key member).2.2]
    rfl
  rw [KeyedRateLimiter.refilledAt, state, capacity, refill]
  refine enough_after_delay limiter.refill_pos (owned.sound.within.trans_eq owned.capacity) admissible.possible
    (unsaturated key member) ?_ time
  exact (retryAfterMs_le_delayFor limiter.refill_pos tokens _).trans (delays key member)

/-- The advertised delay suffices: a refused call for at most the capacity is allowed when it is repeated after the
delay, if nothing saturates; for several keys whatever calls on other keys come between. -/
theorem retry_delay_suffices :
    (∀ bucket : TokenBucket, bucket.Reachable → ∀ now later tokens : U64, tokens ≤ bucket.capacity →
      (bucket.tryAcquireN now tokens).1.allowed = false →
      Unsaturated bucket.state now bucket.refillPerSecond bucket.capacity tokens →
      later.val = now.val + (bucket.tryAcquireN now tokens).1.retryAfterMs.val →
      ((bucket.tryAcquireN now tokens).2.tryAcquireN later tokens).1.allowed = true) ∧
    (∀ limiter : KeyedRateLimiter, limiter.Reachable → ∀ (keys : List String) (now later tokens : U64),
      limiter.Admissible keys tokens →
      (limiter.tryAcquireMany keys now tokens).1.allowed = false →
      (∀ key ∈ keys, Unsaturated (limiter.bucketAt key).state now limiter.refillPerSecond limiter.capacity tokens) →
      later.val = now.val + (limiter.tryAcquireMany keys now tokens).1.retryAfterMs.val →
      ∀ calls : List KeyedRateLimiter.Call, (∀ call ∈ calls, ∀ key ∈ keys, key ∉ call.keys) →
        (((limiter.tryAcquireMany keys now tokens).2.serve calls).tryAcquireMany keys later tokens).1.allowed =
          true) :=
  ⟨fun _ reached _ _ _ possible denied unsaturated time =>
      allowed_after_delay reached.sound possible denied unsaturated time,
    fun _ reached _ _ _ _ admissible denied unsaturated time _ elsewhere =>
      many_allowed_after_delay reached.sound admissible denied unsaturated time elsewhere⟩

def takenFrom : TokenBucket := ((TokenBucket.new 3 10).serve [⟨0, 2⟩]).2

def accountCharged : KeyedRateLimiter := (KeyedRateLimiter.new 2 1 4).serve [.one "account" 0 1]

theorem repeated_calls_allowed :
    ((takenFrom.tryAcquireN 0 2).1 = ⟨false, 1, 100⟩ ∧
      ((takenFrom.tryAcquireN 0 2).2.tryAcquireN 100 2).1.allowed = true) ∧
    ((accountCharged.tryAcquireMany ["account", "trade"] 0 2).1 = ⟨false, 1, 1000⟩ ∧
      (((accountCharged.tryAcquireMany ["account", "trade"] 0 2).2.serve [.one "other" 500 1]).tryAcquireMany
        ["account", "trade"] 1000 2).1.allowed = true) :=
  ⟨⟨by decide, retry_delay_suffices.1 takenFrom ⟨3, 10, [⟨0, 2⟩], rfl⟩ 0 100 2 (by decide) (by decide)
      ⟨by decide, by decide⟩ (by decide)⟩,
    ⟨by decide, retry_delay_suffices.2 accountCharged ⟨2, 1, 4, [.one "account" 0 1], rfl⟩ ["account", "trade"] 0 1000 2
      ⟨by decide, by decide, by decide, by decide⟩ (by decide)
      (by
        intro key member
        simp only [List.mem_cons, List.not_mem_nil, or_false] at member
        rcases member with rfl | rfl
        · exact ⟨by decide, by decide⟩
        · exact ⟨by decide, by decide⟩)
      (by decide) [.one "other" 500 1] (by decide)⟩⟩

end StateChronicle.Verified
