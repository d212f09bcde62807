import StateChronicle.Core.RateLimit

/-!
# What token buckets grant over time

A bucket is an accruing level, so the tokens granted in a window are bounded by the capacity and the rate.  A refused
call draws nothing, but it moves the stamp, and with it drops the part of a token that had accrued.
-/

namespace StateChronicle.Verified

open Foundation
open Domain (U64)
open Core.RateLimit Core.RateLimit.TokenBucket

/-! ## Buckets as accruing levels -/

variable {bucket : TokenBucket}

/-- The level a bucket stands at. -/
def levelOf (state : BucketState) : Accrual.Level := ⟨state.tokens.val, state.stamp.val⟩

def granted (answer : Call × RateLimitDecision) : ℕ := if answer.2.allowed then answer.1.tokens.val else 0

theorem draw_of_refilled (sound : bucket.Sound) (now : U64) {drawn : ℕ} {state : BucketState}
    (stamp : state.stamp = (bucket.refilled now).stamp)
    (taken : state.tokens.val + drawn = (bucket.refilled now).tokens.val) :
    Accrual.Draw (accrued bucket.refillPerSecond) bucket.capacity.val now.val (levelOf bucket.state) drawn
      (levelOf state) := by
  have tokens := val_refillState_tokens sound.within now bucket.refillPerSecond
  have grows := refill_le_accrued bucket.state now bucket.refillPerSecond
  have zero := refill_eq_zero_iff bucket.state now bucket.refillPerSecond
  rw [refilled] at stamp taken
  rw [tokens] at taken
  by_cases still : (refill bucket.state now bucket.refillPerSecond).val = 0
  · -- no whole token has accrued, and the stamp stays
    rw [refillState_still still] at stamp
    refine .settled (zero.mp still) (congrArg Fin.val stamp) ?_
    change state.tokens.val + drawn ≤ bucket.state.tokens.val
    omega
  · -- the tokens that have accrued are added, up to the capacity, and the bucket is stamped
    rw [refillState_grown still] at stamp
    refine .grown (stamp_le_of_refill still) (congrArg Fin.val stamp) ?_ ?_
    · change state.tokens.val + drawn ≤ bucket.state.tokens.val + accrued _ (now.val - bucket.state.stamp.val)
      omega
    · change state.tokens.val + drawn ≤ bucket.capacity.val
      omega

theorem draw_tryAcquireN (sound : bucket.Sound) (call : Call) :
    Accrual.Draw (accrued bucket.refillPerSecond) bucket.capacity.val call.now.val (levelOf bucket.state)
      (granted (call, (bucket.tryAcquireN call.now call.tokens).1))
      (levelOf (bucket.tryAcquireN call.now call.tokens).2.state) := by
  unfold granted
  cases bucket.tryAcquireN_served call.now call.tokens with
  | unasked nothing allowed same =>
    rw [allowed, same]
    exact .idle (congrArg Fin.val nothing) rfl
  | impossible excess denied same | locked poisoned denied same =>
    rw [denied, same]
    exact .idle rfl rfl
  | granted asked fits unpoisoned enough allowed taken =>
    rw [allowed, taken]
    exact draw_of_refilled sound call.now rfl (Nat.sub_add_cancel enough)
  | refused fits unpoisoned missing denied kept =>
    rw [denied, kept]
    exact draw_of_refilled sound call.now rfl rfl

theorem draws_serve (sound : bucket.Sound) (calls : List Call) :
    Accrual.Draws (accrued bucket.refillPerSecond) bucket.capacity.val (levelOf bucket.state)
      ((bucket.serve calls).1.map fun answer => (answer.1.now.val, granted answer)) := by
  induction calls generalizing bucket with
  | nil => exact .nil
  | cons call rest ih =>
    have others := ih (sound.tryAcquireN call.now call.tokens)
    obtain ⟨capacity, rate⟩ := configuration_tryAcquireN bucket call.now call.tokens
    rw [capacity, rate] at others
    exact .cons (draw_tryAcquireN sound call) others

theorem serve_calls (bucket : TokenBucket) (calls : List Call) : (bucket.serve calls).1.map Prod.fst = calls := by
  induction calls generalizing bucket with
  | nil => rfl
  | cons call rest ih => exact congrArg (call :: ·) (ih _)

theorem grantedWithin_eq (first last : U64) (answers : List (Call × RateLimitDecision)) :
    grantedWithin first last answers =
      Accrual.drawnWithin first.val last.val (answers.map fun answer => (answer.1.now.val, granted answer)) := by
  induction answers with
  | nil => rfl
  | cons answer rest ih =>
    rw [List.map_cons, Accrual.drawnWithin_cons, ← ih]
    unfold grantedWithin granted
    by_cases inside : first ≤ answer.1.now ∧ answer.1.now ≤ last
    · by_cases allowed : answer.2.allowed = true <;> simp [inside, allowed]
    · simp [inside]

/-- Over any window, a bucket grants at most its capacity, what accrues over the window, and one token more. -/
theorem granted_within_rate {bucket : TokenBucket} (reached : bucket.Reachable) {calls : List Call}
    (ordered : calls.Pairwise fun earlier later => earlier.now ≤ later.now) (first last : U64) :
    grantedWithin first last (bucket.serve calls).1 ≤
      bucket.capacity.val + bucket.refillPerSecond.val * (last.val - first.val) / 1000 + 1 := by
  have draws := draws_serve reached.sound calls
  have times : ((bucket.serve calls).1.map fun answer => (answer.1.now.val, granted answer)).Pairwise
      fun earlier later => earlier.1 ≤ later.1 := by
    rw [← serve_calls bucket calls, List.pairwise_map] at ordered
    exact List.pairwise_map.mpr ordered
  rw [grantedWithin_eq]
  exact Accrual.drawnWithin_le (growth_accrued bucket.refillPerSecond) draws reached.sound.within times first.val
    last.val

/-- The bound is met: two tokens just before the first one has accrued, and that one right after. -/
theorem granted_within_rate_met :
    grantedWithin 999 1000 ((TokenBucket.new 2 1).serve [⟨999, 2⟩, ⟨1000, 1⟩]).1 = 3 ∧
      grantedWithin 999 1000 ((TokenBucket.new 2 1).serve [⟨999, 2⟩, ⟨1000, 1⟩]).1 ≤ 2 + 1 * (1000 - 999) / 1000 + 1 :=
  ⟨by decide, granted_within_rate ⟨2, 1, [], rfl⟩ (by simp) 999 1000⟩

/-! ## Refused calls -/

/-- The part of a token that a refused call at `first` drops is the one that, together with what accrues until
`second`, completes the last token a call for `wanted` needs. -/
structure DropsLastToken (bucket : TokenBucket) (first second refused wanted : U64) : Prop where
  possible : refused ≤ bucket.capacity
  within : wanted ≤ bucket.capacity
  stamped : 1000 ≤ bucket.refillPerSecond.val * (first.val - bucket.state.stamp.val)
  completed : 1000 ≤ bucket.refillPerSecond.val * (first.val - bucket.state.stamp.val) % 1000 +
    bucket.refillPerSecond.val * (second.val - first.val) % 1000
  last : wanted.val = bucket.state.tokens.val + accrued bucket.refillPerSecond (first.val - bucket.state.stamp.val) +
    accrued bucket.refillPerSecond (second.val - first.val) + 1
  counted : accrued bucket.refillPerSecond (second.val - bucket.state.stamp.val) ≤ (2 ^ 64 - 1) / 1000

theorem allowed_of_sound (sound : bucket.Sound) (now tokens : U64) :
    (bucket.tryAcquireN now tokens).1.allowed = true ↔
      tokens.val ≤ bucket.state.tokens.val + (refill bucket.state now bucket.refillPerSecond).val ∧
        tokens ≤ bucket.capacity := by
  have refilled : (bucket.refilled now).tokens.val = _ :=
    val_refillState_tokens sound.within now bucket.refillPerSecond
  have zero : (0 : U64).val = 0 := rfl
  simp only [allowed_iff, sound.unpoisoned, true_and, Fin.ext_iff, Fin.le_def, refilled, zero]
  omega

/-- After a refused call that moved the stamp, what accrued before and after it counts separately. -/
theorem allowed_after_refused (sound : bucket.Sound) {first refused : U64} (fits : refused ≤ bucket.capacity)
    (missing : (bucket.refilled first).tokens < refused)
    (grown : (refill bucket.state first bucket.refillPerSecond).val ≠ 0) (second wanted : U64) :
    ((bucket.withState (bucket.refilled first)).tryAcquireN second wanted).1.allowed = true ↔
      wanted.val ≤ bucket.state.tokens.val + (refill bucket.state first bucket.refillPerSecond).val +
          (refill ⟨0, first⟩ second bucket.refillPerSecond).val ∧
        wanted ≤ bucket.capacity := by
  have soundAfter : (bucket.withState (bucket.refilled first)).Sound :=
    ⟨sound.unpoisoned, sound.refilled first⟩
  have tokens : (bucket.refilled first).tokens.val = _ :=
    val_refillState_tokens sound.within first bucket.refillPerSecond
  have stamp : (bucket.refilled first).stamp = first := by
    rw [refilled, refillState_grown grown]
  have below : bucket.state.tokens.val + (refill bucket.state first bucket.refillPerSecond).val <
      bucket.capacity.val := by
    rw [Fin.lt_def, tokens] at missing
    rw [Fin.le_def] at fits
    omega
  rw [allowed_of_sound soundAfter, val_refill ⟨0, first⟩]
  change wanted.val ≤ (bucket.refilled first).tokens.val +
    (refill (bucket.refilled first) second bucket.refillPerSecond).val ∧ wanted ≤ bucket.capacity ↔ _
  rw [val_refill (bucket.refilled first), tokens, stamp, min_eq_left below.le]

/-- Rounding two spans separately loses a unit when their fractions add up to one. -/
theorem rounding_loses_iff (a b held wanted most : ℕ) :
    (wanted ≤ held + min (a + b) most / 1000 → wanted ≤ held + min a most / 1000 + min b most / 1000) ↔
      ¬ (1000 ≤ a % 1000 + b % 1000 ∧ wanted = held + a / 1000 + b / 1000 + 1 ∧
        (a + b) / 1000 ≤ most / 1000) := by
  omega

/-- A refill adds a token exactly when a whole one has accrued. -/
theorem refill_ne_zero_iff (state : BucketState) (now rate : U64) :
    (refill state now rate).val ≠ 0 ↔ 1000 ≤ rate.val * (now.val - state.stamp.val) := by
  rw [Ne, refill_eq_zero_iff, accrued]
  omega

/-- Where the refused call moves the stamp, it harms exactly by the part of a token that it drops. -/
theorem harmless_iff_of_stamped (sound : bucket.Sound) {first second refused : U64} (ordered : first ≤ second)
    (fits : refused ≤ bucket.capacity) (missing : (bucket.refilled first).tokens < refused)
    (grown : (refill bucket.state first bucket.refillPerSecond).val ≠ 0) (wanted : U64) :
    ((bucket.tryAcquireN second wanted).1.allowed = true →
        ((bucket.withState (bucket.refilled first)).tryAcquireN second wanted).1.allowed = true) ↔
      ¬ DropsLastToken bucket first second refused wanted := by
  have past := stamp_le_of_refill grown
  have times : first.val ≤ second.val := ordered
  have span : second.val - bucket.state.stamp.val =
      (first.val - bucket.state.stamp.val) + (second.val - first.val) := by omega
  have rounding := rounding_loses_iff (bucket.refillPerSecond.val * (first.val - bucket.state.stamp.val))
    (bucket.refillPerSecond.val * (second.val - first.val)) bucket.state.tokens.val wanted.val (2 ^ 64 - 1)
  have together : accrued bucket.refillPerSecond (second.val - bucket.state.stamp.val) =
      (bucket.refillPerSecond.val * (first.val - bucket.state.stamp.val) +
        bucket.refillPerSecond.val * (second.val - first.val)) / 1000 := by
    rw [span, accrued, Nat.mul_add]
  rw [allowed_of_sound sound, allowed_after_refused sound fits missing grown, val_refill, val_refill, val_refill, span,
    Nat.mul_add]
  constructor
  · intro harmless drops
    have counted := together ▸ drops.counted
    exact rounding.mp (fun enough => (harmless ⟨enough, drops.within⟩).1) ⟨drops.completed, drops.last, counted⟩
  · rintro keeps ⟨enough, within⟩
    refine ⟨rounding.mpr (fun lost => keeps ?_) enough, within⟩
    obtain ⟨completed, last, counted⟩ := lost
    exact ⟨fits, within, (refill_ne_zero_iff _ _ _).mp grown, completed, last, together ▸ counted⟩

/-- A refused call harms a later one exactly when it drops the part of a token that the later one needs. -/
theorem refused_call_harmless_iff {bucket : TokenBucket} (reached : bucket.Reachable) {first second refused : U64}
    (ordered : first ≤ second) (denied : (bucket.tryAcquireN first refused).1.allowed = false) (wanted : U64) :
    ((bucket.tryAcquireN second wanted).1.allowed = true →
        ((bucket.tryAcquireN first refused).2.tryAcquireN second wanted).1.allowed = true) ↔
      ¬ DropsLastToken bucket first second refused wanted := by
  have sound := reached.sound
  cases bucket.tryAcquireN_served first refused with
  | unasked nothing allowed same | granted asked fits unpoisoned enough allowed taken =>
    rw [allowed] at denied
    cases denied
  | locked poisoned denied same =>
    rw [sound.unpoisoned] at poisoned
    cases poisoned
  | impossible excess denied same =>
    rw [same]
    exact iff_of_true id fun drops => absurd drops.possible (not_le.mpr excess)
  | refused fits unpoisoned missing denied kept =>
    rw [kept]
    by_cases still : (refill bucket.state first bucket.refillPerSecond).val = 0
    · -- no whole token had accrued, so the stamp stays where it was
      have same : bucket.withState (bucket.refilled first) = bucket := by
        rw [refilled, refillState_still still]
        rfl
      rw [same]
      exact iff_of_true id fun drops => (refill_ne_zero_iff _ _ _).mpr drops.stamped still
    · exact harmless_iff_of_stamped sound ordered fits missing still wanted

def drained : TokenBucket := ((TokenBucket.new 10 1).serve [⟨0, 10⟩]).2

/-- A refused call after a second and a half costs the call after two seconds its second token. -/
theorem refused_call_drops_half_token :
    drained.Reachable ∧ (drained.tryAcquireN 1500 5).1.allowed = false ∧
      (drained.tryAcquireN 2000 2).1.allowed = true ∧
      ((drained.tryAcquireN 1500 5).2.tryAcquireN 2000 2).1.allowed = false :=
  ⟨⟨10, 1, [⟨0, 10⟩], rfl⟩, by decide⟩

/-- Half a second later, the same refused call costs nothing. -/
theorem refused_call_harmless_two_seconds :
    (drained.tryAcquireN 2000 5).1.allowed = false ∧
      ((drained.tryAcquireN 2000 2).1.allowed = true →
        ((drained.tryAcquireN 2000 5).2.tryAcquireN 2000 2).1.allowed = true) := by
  refine ⟨by decide, (refused_call_harmless_iff ⟨10, 1, [⟨0, 10⟩], rfl⟩ (le_refl _) (by decide) 2).mpr ?_⟩
  intro drops
  exact absurd drops.completed (by decide)

end StateChronicle.Verified
