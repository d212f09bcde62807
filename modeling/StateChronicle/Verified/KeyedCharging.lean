import StateChronicle.Core.KeyedRateLimit

/-!
# Charging several keys at once

A request on several keys is allowed exactly when its new keys fit and every bucket alone would grant it; then every
bucket pays, and otherwise none does.
-/

namespace StateChronicle.Verified

open Domain (U64)
open Core.RateLimit

namespace KeyedCharging

/-- The keys of a request that have no bucket yet, each once. -/
def newKeys (limiter : KeyedRateLimiter) (keys : List String) : List String :=
  (KeyedRateLimiter.uniqueKeys keys).filter fun key => limiter.buckets.get? key = none

/-- A request that is well formed: some keys, all of them usable, and a possible number of tokens. -/
structure WellFormed (limiter : KeyedRateLimiter) (keys : List String) (tokens : U64) : Prop where
  named : keys ≠ []
  usable : ∀ key ∈ keys, KeyedRateLimiter.unusable key = false
  asked : 1 ≤ tokens
  possible : tokens ≤ limiter.capacity

section Request

variable {limiter : KeyedRateLimiter} {keys : List String} {now tokens : U64}

theorem WellFormed.ne_zero (wellFormed : WellFormed limiter keys tokens) : tokens ≠ 0 := by
  intro nothing
  have asked : (1 : U64) ≤ tokens := wellFormed.asked
  rw [nothing] at asked
  exact absurd asked (by decide)

theorem WellFormed.admissible_iff (wellFormed : WellFormed limiter keys tokens) :
    limiter.Admissible keys tokens ↔ limiter.buckets.entries.length + (newKeys limiter keys).length ≤ limiter.maxKeys :=
  ⟨fun admissible => admissible.room, fun room => ⟨wellFormed.named, wellFormed.usable, wellFormed.possible, room⟩⟩

theorem refilled_bucketAt (sound : limiter.Sound) (now : U64) (key : String) :
    (limiter.bucketAt key).refilled now = limiter.refilledAt now key := by
  have owned := sound.owned_bucketAt key
  rw [TokenBucket.refilled, KeyedRateLimiter.refilledAt, owned.capacity, owned.refill]

/-- A bucket alone grants what it has after its refill. -/
theorem bucketAt_allowed_iff (sound : limiter.Sound) (wellFormed : WellFormed limiter keys tokens) (key : String) :
    ((limiter.bucketAt key).tryAcquireN now tokens).1.allowed = true ↔
      tokens ≤ (limiter.refilledAt now key).tokens := by
  have owned := sound.owned_bucketAt key
  have possible : tokens ≤ (limiter.bucketAt key).capacity := wellFormed.possible.trans_eq owned.capacity.symm
  rw [TokenBucket.allowed_iff, refilled_bucketAt sound]
  constructor
  · rintro (nothing | ⟨-, -, enough⟩)
    · exact absurd nothing wellFormed.ne_zero
    · exact enough
  · intro enough
    exact .inr ⟨possible, owned.sound.unpoisoned, enough⟩

theorem tokens_le_refilledAt (sound : limiter.Sound) (now : U64) (key : String) :
    (limiter.bucketAt key).state.tokens ≤ (limiter.refilledAt now key).tokens := by
  have owned := sound.owned_bucketAt key
  have within : (limiter.bucketAt key).state.tokens ≤ limiter.capacity :=
    owned.sound.within.trans_eq owned.capacity
  rw [Fin.le_def, KeyedRateLimiter.refilledAt, val_refillState_tokens within]
  have bound : (limiter.bucketAt key).state.tokens.val ≤ limiter.capacity.val := within
  omega

variable (sound : limiter.Sound) (wellFormed : WellFormed limiter keys tokens)

include sound wellFormed

theorem many_allowed_iff :
    (limiter.tryAcquireMany keys now tokens).1.allowed = true ↔
      limiter.buckets.entries.length + (newKeys limiter keys).length ≤ limiter.maxKeys ∧
        ∀ key ∈ keys, ((limiter.bucketAt key).tryAcquireN now tokens).1.allowed = true := by
  rw [← wellFormed.admissible_iff]
  simp only [bucketAt_allowed_iff sound wellFormed]
  by_cases admissible : limiter.Admissible keys tokens
  · cases KeyedRateLimiter.tryAcquireMany_admissible sound admissible wellFormed.ne_zero now with
    | granted enough allowed charged => exact iff_of_true allowed ⟨admissible, enough⟩
    | refused missing denied delays kept =>
      exact iff_of_false (Bool.eq_false_iff.mp denied) fun both => missing both.2
  · refine iff_of_false (fun allowed => ?_) fun both => admissible both.1
    exact wellFormed.ne_zero ((KeyedRateLimiter.tryAcquireMany_inadmissible admissible now).1 allowed)

theorem charged_of_allowed (allowed : (limiter.tryAcquireMany keys now tokens).1.allowed = true) {key : String}
    (member : key ∈ keys) :
    ∃ bucket, (limiter.tryAcquireMany keys now tokens).2.buckets.get? key = some bucket ∧
      bucket.state.tokens.val + tokens.val = ((limiter.bucketAt key).refilled now).tokens.val := by
  have admissible := wellFormed.admissible_iff.mpr ((many_allowed_iff sound wellFormed).mp allowed).1
  cases KeyedRateLimiter.tryAcquireMany_admissible sound admissible wellFormed.ne_zero now with
  | granted enough allowed charged =>
    refine ⟨_, (charged.buckets key).trans (if_pos member), ?_⟩
    have paid : tokens.val ≤ (limiter.refilledAt now key).tokens.val := enough key member
    rw [refilled_bucketAt sound]
    exact Nat.sub_add_cancel paid
  | refused missing denied delays kept => exact absurd allowed (Bool.eq_false_iff.mp denied)

theorem kept_of_denied (denied : (limiter.tryAcquireMany keys now tokens).1.allowed = false) {key : String}
    {bucket : TokenBucket} (held : limiter.buckets.get? key = some bucket) :
    ∃ bucket', (limiter.tryAcquireMany keys now tokens).2.buckets.get? key = some bucket' ∧
      bucket.state.tokens ≤ bucket'.state.tokens := by
  by_cases admissible : limiter.Admissible keys tokens
  · cases KeyedRateLimiter.tryAcquireMany_admissible sound admissible wellFormed.ne_zero now with
    | granted enough allowed charged => exact absurd allowed (Bool.eq_false_iff.mp denied)
    | refused missing denied delays kept =>
      rw [kept.buckets]
      split_ifs with member
      · have known : limiter.bucketAt key = bucket := by rw [KeyedRateLimiter.bucketAt, held, Option.getD_some]
        refine ⟨_, rfl, ?_⟩
        rw [← known]
        exact tokens_le_refilledAt sound now key
      · exact ⟨bucket, held, le_refl _⟩
  · rw [(KeyedRateLimiter.tryAcquireMany_inadmissible admissible now).2]
    exact ⟨bucket, held, le_refl _⟩

end Request

theorem maxKeys_serve {limiter : KeyedRateLimiter} (sound : limiter.Sound) (calls : List KeyedRateLimiter.Call) :
    (limiter.serve calls).maxKeys = limiter.maxKeys := by
  induction calls generalizing limiter with
  | nil => rfl
  | cons call rest ih =>
    refine (ih (sound.step call)).trans ?_
    rcases KeyedRateLimiter.step_touches sound call with same | ⟨bucketOf, owned, touched⟩
    · rw [same]
    · exact touched.maxKeys

theorem keyCount_serve {limiter : KeyedRateLimiter} (reached : limiter.Reachable)
    (calls : List KeyedRateLimiter.Call) : (limiter.serve calls).keyCount ≤ limiter.maxKeys := by
  have sound := reached.sound.serve calls
  rw [KeyedRateLimiter.keyCount, sound.unpoisoned, ← maxKeys_serve reached.sound calls]
  exact sound.counted

end KeyedCharging

open KeyedCharging

/-- Charging several keys is atomic: it is allowed exactly when the new keys fit and every bucket alone would allow
it, and then every key pays; otherwise no balance drops.  Other keys are untouched, and the bound on the keys holds
after any calls. -/
theorem many_keys_charged_atomically {limiter : KeyedRateLimiter} (reached : limiter.Reachable) {keys : List String}
    {tokens : U64} (wellFormed : WellFormed limiter keys tokens) (now : U64) :
    ((limiter.tryAcquireMany keys now tokens).1.allowed = true ↔
      limiter.buckets.entries.length + (newKeys limiter keys).length ≤ limiter.maxKeys ∧
        ∀ key ∈ keys, ((limiter.bucketAt key).tryAcquireN now tokens).1.allowed = true) ∧
    ((limiter.tryAcquireMany keys now tokens).1.allowed = true → ∀ key ∈ keys,
      ∃ bucket, (limiter.tryAcquireMany keys now tokens).2.buckets.get? key = some bucket ∧
        bucket.state.tokens.val + tokens.val = ((limiter.bucketAt key).refilled now).tokens.val) ∧
    ((limiter.tryAcquireMany keys now tokens).1.allowed = false →
      ∀ key bucket, limiter.buckets.get? key = some bucket →
        ∃ bucket', (limiter.tryAcquireMany keys now tokens).2.buckets.get? key = some bucket' ∧
          bucket.state.tokens ≤ bucket'.state.tokens) ∧
    (∀ key ∉ keys, (limiter.tryAcquireMany keys now tokens).2.buckets.get? key = limiter.buckets.get? key) ∧
    ∀ calls, (limiter.serve calls).keyCount ≤ limiter.maxKeys := by
  have sound := reached.sound
  refine ⟨many_allowed_iff sound wellFormed,
    fun allowed key member => charged_of_allowed sound wellFormed allowed member,
    fun denied key bucket held => kept_of_denied sound wellFormed denied held, fun key other => ?_,
    keyCount_serve reached⟩
  -- the request is a run of one call
  have elsewhere : ∀ call ∈ [KeyedRateLimiter.Call.many keys now tokens], key ∉ call.keys := by
    intro call member
    rw [List.mem_singleton.mp member]
    exact other
  exact (KeyedRateLimiter.serve_frame sound elsewhere).2.2

def onePaid : KeyedRateLimiter := (KeyedRateLimiter.new 2 1 2).serve [.one "account" 0 1]

theorem account_and_trade_charged :
    (onePaid.tryAcquireMany ["trade", "account", "trade"] 0 1).1 = ⟨true, 0, 0⟩ ∧
      (∀ key ∈ ["trade", "account", "trade"],
        ∃ bucket, (onePaid.tryAcquireMany ["trade", "account", "trade"] 0 1).2.buckets.get? key = some bucket ∧
          bucket.state.tokens.val + (1 : U64).val = ((onePaid.bucketAt key).refilled 0).tokens.val) ∧
      (onePaid.tryAcquireMany ["trade", "account", "trade"] 0 2).1 = ⟨false, 1, 1000⟩ := by
  refine ⟨by decide, ?_, by decide⟩
  exact (many_keys_charged_atomically ⟨2, 1, 2, [.one "account" 0 1], rfl⟩
    ⟨by decide, by decide, by decide, by decide⟩ 0).2.1 (by decide)

end StateChronicle.Verified
