import StateChronicle.Domain.State
import StateChronicle.Foundation.Accrual
import StateChronicle.Foundation.SortedMap

/-!
# Token buckets

Token buckets whose clock is supplied by the caller.  The lock is held for a whole call, so a call is one step of the
state; a lock may be poisoned.
-/

namespace StateChronicle.Core.RateLimit

open Foundation
open Domain (U64)

variable {rate : U64} {capacity deficit : U64}

def maxU64 : U64 := ⟨2 ^ 64 - 1, by decide⟩

def maxQuotaKeyBytes : Nat := 512

structure RateLimitDecision where
  allowed : Bool
  remaining : U64
  retryAfterMs : U64
deriving DecidableEq, Repr

/-- The decision where a lock is poisoned, a key is unusable or there is no room for it. -/
def RateLimitDecision.unavailable : RateLimitDecision := ⟨false, 0, 1000⟩

structure BucketState where
  tokens : U64
  stamp : U64
deriving DecidableEq, Repr

/-! ## Refill and delay -/

def refill (state : BucketState) (now refillPerSecond : U64) : U64 :=
  (checkedDiv (saturatingMul (saturatingSub now state.stamp) refillPerSecond) 1000).getD maxU64

def refillState (state : BucketState) (now refillPerSecond capacity : U64) : BucketState :=
  if 0 < refill state now refillPerSecond then
    ⟨min (saturatingAdd state.tokens (refill state now refillPerSecond)) capacity, now⟩
  -- less than a token: the stamp stays, so that frequent calls do not lose it
  else state

def retryAfterMs (deficit refillPerSecond : U64) : U64 :=
  (checkedDiv (saturatingAdd (saturatingMul deficit 1000) (saturatingSub refillPerSecond 1)) refillPerSecond).getD
    1000

theorem val_refill (state : BucketState) (now rate : U64) :
    (refill state now rate).val = min (rate.val * (now.val - state.stamp.val)) (2 ^ 64 - 1) / 1000 := by
  have thousand : (1000 : U64).val = 1000 := rfl
  rw [refill, val_checkedDiv_getD _ (by rw [thousand]; decide), val_saturatingMul, val_saturatingSub, thousand,
    Nat.mul_comm]

/-- The whole tokens that accrue over a span of milliseconds. -/
def accrued (rate : U64) (span : ℕ) : ℕ := rate.val * span / 1000

theorem refill_le_accrued (state : BucketState) (now rate : U64) :
    (refill state now rate).val ≤ accrued rate (now.val - state.stamp.val) := by
  rw [val_refill, accrued]
  exact Nat.div_le_div_right (min_le_left _ _)

theorem refill_eq_zero_iff (state : BucketState) (now rate : U64) :
    (refill state now rate).val = 0 ↔ accrued rate (now.val - state.stamp.val) = 0 := by
  rw [val_refill, accrued]
  omega

theorem growth_accrued (rate : U64) : Accrual.Growth (accrued rate) := Accrual.growth_div (by decide) rate.val

variable {state : BucketState}

theorem stamp_le_of_refill {now : U64} (grown : (refill state now rate).val ≠ 0) : state.stamp.val ≤ now.val := by
  by_contra future
  rw [val_refill, Nat.sub_eq_zero_of_le (not_le.mp future).le, Nat.mul_zero] at grown
  exact grown rfl

theorem refillState_still {now : U64} (still : (refill state now rate).val = 0) (capacity : U64) :
    refillState state now rate capacity = state :=
  if_neg (not_lt.mpr (Nat.le_zero.mpr still))

theorem refillState_grown {now : U64} (grown : (refill state now rate).val ≠ 0) (capacity : U64) :
    refillState state now rate capacity = ⟨min (saturatingAdd state.tokens (refill state now rate)) capacity, now⟩ :=
  if_pos (Nat.pos_of_ne_zero grown)

theorem refillState_tokens_le (within : state.tokens ≤ capacity) (now rate : U64) :
    (refillState state now rate capacity).tokens ≤ capacity := by
  unfold refillState
  split
  · exact min_le_right _ _
  · exact within

theorem val_refillState_tokens (within : state.tokens ≤ capacity) (now rate : U64) :
    (refillState state now rate capacity).tokens.val =
      min (state.tokens.val + (refill state now rate).val) capacity.val := by
  have room : state.tokens.val ≤ capacity.val := within
  have bound := capacity.isLt
  by_cases still : (refill state now rate).val = 0
  · rw [refillState_still still]
    omega
  · rw [refillState_grown still, Fin.coe_min, val_saturatingAdd]
    omega

theorem val_retryAfterMs (deficit : U64) (positive : 0 < rate.val) :
    (retryAfterMs deficit rate).val =
      min (min (deficit.val * 1000) (2 ^ 64 - 1) + (rate.val - 1)) (2 ^ 64 - 1) / rate.val := by
  have thousand : (1000 : U64).val = 1000 := rfl
  have one : (1 : U64).val = 1 := rfl
  rw [retryAfterMs, val_checkedDiv_getD _ (Nat.pos_iff_ne_zero.mp positive), val_saturatingAdd, val_saturatingMul,
    val_saturatingSub, thousand, one]

theorem retryAfterMs_pos (positive : 0 < rate.val) (missing : 0 < deficit.val) :
    0 < (retryAfterMs deficit rate).val := by
  rw [val_retryAfterMs deficit positive]
  refine Nat.div_pos ?_ positive
  omega

theorem deficit_le_delay (positive : 0 < rate.val) (exact : deficit.val * 1000 + (rate.val - 1) < 2 ^ 64) :
    deficit.val * 1000 ≤ rate.val * (retryAfterMs deficit rate).val := by
  have rounded := Nat.div_add_mod (deficit.val * 1000 + (rate.val - 1)) rate.val
  have rest := Nat.mod_lt (deficit.val * 1000 + (rate.val - 1)) positive
  rw [val_retryAfterMs deficit positive, min_eq_left (by omega : deficit.val * 1000 ≤ _), min_eq_left (by omega)]
  omega

/-! ## One bucket -/

/-- A bucket with its configuration, which is clamped to at least one. -/
structure TokenBucket where
  capacity : U64
  refillPerSecond : U64
  state : BucketState
  poisoned : Bool
  capacity_pos : 0 < capacity.val
  refill_pos : 0 < refillPerSecond.val
deriving DecidableEq, Repr

namespace TokenBucket

theorem clamped_pos (a : U64) : 0 < (max a 1).val :=
  lt_of_lt_of_le Nat.one_pos (show (1 : U64) ≤ max a 1 from le_max_right a 1)

def new (capacity refillPerSecond : U64) : TokenBucket where
  capacity := max capacity 1
  refillPerSecond := max refillPerSecond 1
  state := ⟨max capacity 1, 0⟩
  poisoned := false
  capacity_pos := clamped_pos capacity
  refill_pos := clamped_pos refillPerSecond

variable (bucket : TokenBucket) (now tokens : U64)

def available : U64 :=
  if bucket.poisoned then 0
  else min (saturatingAdd bucket.state.tokens (refill bucket.state now bucket.refillPerSecond)) bucket.capacity

def refilled : BucketState :=
  refillState bucket.state now bucket.refillPerSecond bucket.capacity

def withState (state : BucketState) : TokenBucket := { bucket with state := state }

def tryAcquireN : RateLimitDecision × TokenBucket :=
  if tokens = 0 then (⟨true, bucket.available now, 0⟩, bucket)
  else if bucket.capacity < tokens then (⟨false, bucket.capacity, maxU64⟩, bucket)
  else if bucket.poisoned then (.unavailable, bucket)
  else
    -- the refill and its stamp stay even when the call is refused
    let state := bucket.refilled now
    if tokens ≤ state.tokens then
      let left := saturatingSub state.tokens tokens
      (⟨true, left, 0⟩, bucket.withState ⟨left, state.stamp⟩)
    else
      let deficit := saturatingSub tokens state.tokens
      (⟨false, state.tokens, retryAfterMs deficit bucket.refillPerSecond⟩, bucket.withState state)

def tryAcquire : RateLimitDecision × TokenBucket := bucket.tryAcquireN now 1

/-- What a call can do: nothing, take the tokens it asks for, or bring the bucket up to date and refuse. -/
inductive Served (bucket : TokenBucket) (now tokens : U64) (decision : RateLimitDecision) (bucket' : TokenBucket) :
    Prop
  | unasked (nothing : tokens = 0) (allowed : decision.allowed = true) (same : bucket' = bucket)
  | impossible (excess : bucket.capacity < tokens) (denied : decision.allowed = false) (same : bucket' = bucket)
  | locked (poisoned : bucket.poisoned = true) (denied : decision.allowed = false) (same : bucket' = bucket)
  | granted (asked : tokens ≠ 0) (fits : tokens ≤ bucket.capacity) (unpoisoned : bucket.poisoned = false)
      (enough : tokens ≤ (bucket.refilled now).tokens) (allowed : decision.allowed = true)
      (taken : bucket' =
        bucket.withState ⟨saturatingSub (bucket.refilled now).tokens tokens, (bucket.refilled now).stamp⟩)
  | refused (fits : tokens ≤ bucket.capacity) (unpoisoned : bucket.poisoned = false)
      (missing : (bucket.refilled now).tokens < tokens)
      (denied : decision = ⟨false, (bucket.refilled now).tokens,
        retryAfterMs (saturatingSub tokens (bucket.refilled now).tokens) bucket.refillPerSecond⟩)
      (kept : bucket' = bucket.withState (bucket.refilled now))

theorem tryAcquireN_served :
    Served bucket now tokens (bucket.tryAcquireN now tokens).1 (bucket.tryAcquireN now tokens).2 := by
  unfold tryAcquireN
  dsimp only
  split_ifs with nothing excess poisoned enough
  · exact .unasked nothing rfl rfl
  · exact .impossible excess rfl rfl
  · exact .locked poisoned rfl rfl
  · exact .granted nothing (not_lt.mp excess) (Bool.eq_false_iff.mpr poisoned) enough rfl rfl
  · exact .refused (not_lt.mp excess) (Bool.eq_false_iff.mpr poisoned) (not_le.mp enough) rfl rfl

/-- A call is allowed when nothing is asked for, or what is asked for is there. -/
theorem allowed_iff :
    (bucket.tryAcquireN now tokens).1.allowed = true ↔
      tokens = 0 ∨ tokens ≤ bucket.capacity ∧ bucket.poisoned = false ∧ tokens ≤ (bucket.refilled now).tokens := by
  unfold tryAcquireN
  dsimp only
  split_ifs with nothing excess poisoned enough
  · simp [nothing]
  · simp [nothing, not_le.mpr excess]
  · simp [nothing, poisoned, RateLimitDecision.unavailable]
  · simp [nothing, not_lt.mp excess, poisoned, enough]
  · simp [nothing, enough]

theorem configuration_tryAcquireN :
    (bucket.tryAcquireN now tokens).2.capacity = bucket.capacity ∧
      (bucket.tryAcquireN now tokens).2.refillPerSecond = bucket.refillPerSecond := by
  unfold tryAcquireN
  dsimp only
  split_ifs <;> exact ⟨rfl, rfl⟩

/-! ### Whole runs -/

structure Call where
  now : U64
  tokens : U64
deriving DecidableEq, Repr

/-- Serves calls one after the other, listing each with its decision. -/
def serve (bucket : TokenBucket) : List Call → List (Call × RateLimitDecision) × TokenBucket
  | [] => ([], bucket)
  | call :: rest =>
    let (decision, next) := bucket.tryAcquireN call.now call.tokens
    let (others, last) := next.serve rest
    ((call, decision) :: others, last)

/-- A bucket that calls have brought about from a new one. -/
def Reachable : Prop :=
  ∃ capacity refillPerSecond calls, bucket = ((new capacity refillPerSecond).serve calls).2

def grantedWithin (first last : U64) (answers : List (Call × RateLimitDecision)) : ℕ :=
  ((answers.filter fun answer => answer.2.allowed ∧ first ≤ answer.1.now ∧ answer.1.now ≤ last).map
    fun answer => answer.1.tokens.val).sum

/-- What holds of every reachable bucket: nobody panicked under its lock, and it is not over its capacity. -/
structure Sound : Prop where
  unpoisoned : bucket.poisoned = false
  within : bucket.state.tokens ≤ bucket.capacity

theorem sound_new (capacity refillPerSecond : U64) : (new capacity refillPerSecond).Sound := ⟨rfl, le_refl _⟩

theorem Sound.refilled {bucket : TokenBucket} (sound : bucket.Sound) (now : U64) :
    (bucket.refilled now).tokens ≤ bucket.capacity :=
  refillState_tokens_le sound.within now bucket.refillPerSecond

variable {bucket}

theorem Sound.tryAcquireN (sound : bucket.Sound) (now tokens : U64) : (bucket.tryAcquireN now tokens).2.Sound := by
  have within := sound.refilled now
  cases bucket.tryAcquireN_served now tokens with
  | unasked nothing allowed same | impossible excess denied same | locked poisoned denied same =>
    rw [same]
    exact sound
  | granted asked fits unpoisoned enough allowed taken =>
    rw [taken]
    exact ⟨unpoisoned, le_trans (Nat.sub_le _ _ : (_ : ℕ) ≤ _) within⟩
  | refused fits unpoisoned missing denied kept =>
    rw [kept]
    exact ⟨unpoisoned, within⟩

theorem Sound.serve (sound : bucket.Sound) (calls : List Call) : (bucket.serve calls).2.Sound := by
  induction calls generalizing bucket with
  | nil => exact sound
  | cons call rest ih => exact ih (sound.tryAcquireN call.now call.tokens)

theorem Reachable.sound (reached : bucket.Reachable) : bucket.Sound := by
  obtain ⟨capacity, refillPerSecond, calls, rfl⟩ := reached
  exact (sound_new capacity refillPerSecond).serve calls

end TokenBucket

end StateChronicle.Core.RateLimit
