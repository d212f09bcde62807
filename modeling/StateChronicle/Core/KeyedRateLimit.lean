import Mathlib.Data.List.Dedup
import StateChronicle.Core.RateLimit

/-!
# Keyed token buckets

One bucket a key, opened when the key is first charged, with a hard bound on the number of keys.  A call may charge
several keys at once: every bucket is brought up to date and looked at before any is charged.
-/

namespace StateChronicle.Core.RateLimit

open Foundation
open Domain (U64)

variable {key : String} {tokens : U64}

/-- The configuration is clamped to at least one. -/
structure KeyedRateLimiter where
  capacity : U64
  refillPerSecond : U64
  maxKeys : ℕ
  buckets : SortedMap String TokenBucket
  poisoned : Bool
  capacity_pos : 0 < capacity.val
  refill_pos : 0 < refillPerSecond.val

namespace KeyedRateLimiter

def new (capacity refillPerSecond : U64) (maxKeys : ℕ) : KeyedRateLimiter where
  capacity := max capacity 1
  refillPerSecond := max refillPerSecond 1
  maxKeys := max maxKeys 1
  buckets := .empty
  poisoned := false
  capacity_pos := TokenBucket.clamped_pos capacity
  refill_pos := TokenBucket.clamped_pos refillPerSecond

variable (limiter : KeyedRateLimiter)

def keyCount : ℕ := if limiter.poisoned then 0 else limiter.buckets.entries.length

def unusable (key : String) : Bool := key.isEmpty || decide (maxQuotaKeyBytes < key.utf8ByteSize)

def newBucket : TokenBucket := .new limiter.capacity limiter.refillPerSecond

def tryAcquireN (key : String) (now tokens : U64) : RateLimitDecision × KeyedRateLimiter :=
  if unusable key then (.unavailable, limiter)
  else if tokens = 0 then (⟨true, limiter.capacity, 0⟩, limiter)
  else if limiter.capacity < tokens then (⟨false, limiter.capacity, maxU64⟩, limiter)
  else if limiter.poisoned then (.unavailable, limiter)
  else if limiter.buckets.get? key = none ∧ limiter.maxKeys ≤ limiter.buckets.entries.length then
    (.unavailable, limiter)
  else
    let buckets := if limiter.buckets.get? key = none then limiter.buckets.insert key limiter.newBucket
      else limiter.buckets
    match buckets.get? key with
    | none => (.unavailable, { limiter with buckets := buckets })
    | some bucket =>
      let (decision, charged) := bucket.tryAcquireN now tokens
      (decision, { limiter with buckets := buckets.insert key charged })

def tryAcquire (key : String) (now : U64) : RateLimitDecision × KeyedRateLimiter :=
  limiter.tryAcquireN key now 1

/-! ## Several keys at once -/

def uniqueKeys (keys : List String) : List String := keys.dedup.insertionSort (· ≤ ·)

variable (fresh : TokenBucket)

/-- Opens a bucket for every key that has none. -/
def openBuckets (keys : List String) (buckets : SortedMap String TokenBucket) : SortedMap String TokenBucket :=
  keys.foldl (fun buckets key => buckets.upsert key fun bucket => bucket.getD fresh) buckets

/-- What looking at the buckets has found so far. -/
structure Preflight where
  minimumRemaining : U64
  maximumRetry : U64
deriving DecidableEq, Repr

variable (found : Preflight) (rate : U64)

/-- One bucket's contribution: its tokens, and how long the missing ones take. -/
def Preflight.add (tokens : U64) (state : BucketState) : Preflight :=
  ⟨min found.minimumRemaining state.tokens,
    if state.tokens < tokens then
      max found.maximumRetry (retryAfterMs (saturatingSub tokens state.tokens) rate)
    else found.maximumRetry⟩

/-- Brings the buckets of the keys up to date and looks at them; a bucket that is missing or poisoned ends the call
there. -/
def preflight (rate capacity now tokens : U64) :
    List String → Preflight → SortedMap String TokenBucket → Option Preflight × SortedMap String TokenBucket
  | [], found, buckets => (some found, buckets)
  | key :: rest, found, buckets =>
    match buckets.get? key with
    | none => (none, buckets)
    | some bucket =>
      if bucket.poisoned then (none, buckets)
      else
        let state := refillState bucket.state now rate capacity
        preflight rate capacity now tokens rest (found.add rate tokens state)
          (buckets.insert key (bucket.withState state))

def consume (tokens : U64) (keys : List String) (buckets : SortedMap String TokenBucket) :
    SortedMap String TokenBucket :=
  keys.foldl
    (fun buckets key =>
      match buckets.get? key with
      | none => buckets
      | some bucket =>
        if bucket.poisoned then buckets
        else buckets.insert key
          (bucket.withState ⟨saturatingSub bucket.state.tokens tokens, bucket.state.stamp⟩))
    buckets

def tryAcquireMany (keys : List String) (now tokens : U64) : RateLimitDecision × KeyedRateLimiter :=
  if keys.isEmpty || keys.any unusable then (.unavailable, limiter)
  else if tokens = 0 then (⟨true, limiter.capacity, 0⟩, limiter)
  else if limiter.capacity < tokens then (⟨false, limiter.capacity, maxU64⟩, limiter)
  else if limiter.poisoned then (.unavailable, limiter)
  else
    -- the new keys are counted before any bucket is opened
    let unique := uniqueKeys keys
    let newKeys := (unique.filter fun key => limiter.buckets.get? key = none).length
    if limiter.maxKeys < limiter.buckets.entries.length + newKeys then (.unavailable, limiter)
    else
      let opened := openBuckets limiter.newBucket unique limiter.buckets
      match preflight limiter.refillPerSecond limiter.capacity now tokens unique ⟨maxU64, 0⟩ opened with
      | (none, buckets) => (.unavailable, { limiter with buckets := buckets })
      | (some found, buckets) =>
        -- no bucket is charged unless all have the tokens
        if found.maximumRetry ≠ 0 then
          (⟨false, found.minimumRemaining, found.maximumRetry⟩, { limiter with buckets := buckets })
        else
          (⟨true, saturatingSub found.minimumRemaining tokens, 0⟩,
            { limiter with buckets := consume tokens unique buckets })

/-! ## Runs of calls -/

/-- A call of a limiter, on one key or on several. -/
inductive Call where
  | one (key : String) (now tokens : U64)
  | many (keys : List String) (now tokens : U64)
deriving DecidableEq, Repr

def Call.keys : Call → List String
  | .one key _ _ => [key]
  | .many keys _ _ => keys

def step (limiter : KeyedRateLimiter) : Call → KeyedRateLimiter
  | .one key now tokens => (limiter.tryAcquireN key now tokens).2
  | .many keys now tokens => (limiter.tryAcquireMany keys now tokens).2

def serve (calls : List Call) : KeyedRateLimiter := calls.foldl step limiter

/-- A limiter that calls have brought about from a new one. -/
def Reachable : Prop :=
  ∃ capacity refillPerSecond maxKeys calls, limiter = (new capacity refillPerSecond maxKeys).serve calls

/-! ## What the loops do -/

/-- A bucket of a limiter: with its configuration, and sound. -/
structure Owned (bucket : TokenBucket) : Prop where
  sound : bucket.Sound
  capacity : bucket.capacity = limiter.capacity
  refill : bucket.refillPerSecond = limiter.refillPerSecond

/-- What holds of every reachable limiter. -/
structure Sound : Prop where
  unpoisoned : limiter.poisoned = false
  owned : ∀ key bucket, limiter.buckets.get? key = some bucket → limiter.Owned bucket
  counted : limiter.buckets.entries.length ≤ limiter.maxKeys

theorem mem_uniqueKeys {keys : List String} : key ∈ uniqueKeys keys ↔ key ∈ keys := by
  rw [uniqueKeys, List.mem_insertionSort, List.mem_dedup]

theorem nodup_uniqueKeys (keys : List String) : (uniqueKeys keys).Nodup :=
  (List.perm_insertionSort _ _).nodup_iff.mpr keys.nodup_dedup

theorem max_one_eq {a : U64} (positive : 0 < a.val) : max a 1 = a := max_eq_left positive

theorem owned_newBucket : limiter.Owned limiter.newBucket :=
  ⟨TokenBucket.sound_new _ _, max_one_eq limiter.capacity_pos, max_one_eq limiter.refill_pos⟩

theorem get?_openBuckets (keys : List String) (buckets : SortedMap String TokenBucket) (key : String) :
    (openBuckets fresh keys buckets).get? key =
      if key ∈ keys then some ((buckets.get? key).getD fresh) else buckets.get? key := by
  induction keys generalizing buckets with
  | nil => rfl
  | cons first rest ih =>
    change (openBuckets fresh rest (buckets.upsert first _)).get? key = _
    rw [ih, SortedMap.get?_upsert]
    by_cases same : key = first
    · simp [same]
    · simp [same]

/-- Opening buckets takes room for the keys that have none. -/
theorem length_openBuckets {keys : List String} (distinct : keys.Nodup) (buckets : SortedMap String TokenBucket) :
    (openBuckets fresh keys buckets).entries.length =
      buckets.entries.length + (keys.filter fun key => buckets.get? key = none).length := by
  induction keys generalizing buckets with
  | nil => rfl
  | cons first rest ih =>
    obtain ⟨absent, distinct⟩ := List.nodup_cons.mp distinct
    -- the first key does not occur again, so opening its bucket changes nothing for the others
    have others : (rest.filter fun key => (buckets.upsert first fun bucket => bucket.getD fresh).get? key = none) =
        rest.filter fun key => buckets.get? key = none := by
      refine List.filter_congr fun key member => ?_
      have different : key ≠ first := fun same => absent (same ▸ member)
      rw [SortedMap.get?_upsert, if_neg different]
    change (openBuckets fresh rest (buckets.upsert first _)).entries.length = _
    rw [ih distinct, others, SortedMap.length_upsert]
    by_cases new : buckets.get? first = none
    · simp [new]
      omega
    · simp [new]

/-- The delay a bucket asks for: none when the tokens are there. -/
def delayFor (tokens : U64) (state : BucketState) : U64 :=
  if state.tokens < tokens then retryAfterMs (saturatingSub tokens state.tokens) rate else 0

theorem maximumRetry_add (tokens : U64) (state : BucketState) :
    (found.add rate tokens state).maximumRetry = max found.maximumRetry (delayFor rate tokens state) := by
  unfold Preflight.add delayFor
  split
  · rfl
  · exact (max_eq_left (Fin.zero_le _)).symm

theorem maximumRetry_foldl_le {α : Type} (tokens : U64) (stateOf : α → BucketState) (found : Preflight) (xs : List α)
    (bound : U64) :
    (xs.foldl (fun found x => found.add rate tokens (stateOf x)) found).maximumRetry ≤ bound ↔
      found.maximumRetry ≤ bound ∧ ∀ x ∈ xs, delayFor rate tokens (stateOf x) ≤ bound := by
  induction xs generalizing found with
  | nil => simp
  | cons x rest ih =>
    rw [List.foldl_cons, ih, maximumRetry_add, max_le_iff, List.forall_mem_cons, and_assoc]

section Loops

variable {keys : List String} {buckets : SortedMap String TokenBucket} {bucketOf : String → TokenBucket}

/-- The buckets of the keys are as given, and none is poisoned. -/
structure Held (keys : List String) (bucketOf : String → TokenBucket) (buckets : SortedMap String TokenBucket) :
    Prop where
  present : ∀ key ∈ keys, buckets.get? key = some (bucketOf key)
  unpoisoned : ∀ key ∈ keys, (bucketOf key).poisoned = false

/-- Replacing the bucket of the first of distinct keys leaves the others as they are. -/
theorem Held.insert {first : String} {rest : List String} (held : Held (first :: rest) bucketOf buckets)
    (absent : first ∉ rest) (bucket : TokenBucket) : Held rest bucketOf (buckets.insert first bucket) where
  present key member := by
    have different : key ≠ first := fun same => absent (same ▸ member)
    rw [SortedMap.get?_insert, if_neg different]
    exact held.present key (List.mem_cons_of_mem _ member)
  unpoisoned key member := held.unpoisoned key (List.mem_cons_of_mem _ member)

theorem Held.length_insert (held : Held keys bucketOf buckets) (member : key ∈ keys) (bucket : TokenBucket) :
    (buckets.insert key bucket).entries.length = buckets.entries.length := by
  rw [SortedMap.insert, SortedMap.length_upsert, held.present key member]
  rfl

theorem preflight_held (capacity now tokens : U64) (distinct : keys.Nodup) (found : Preflight)
    (held : Held keys bucketOf buckets) :
    ∃ buckets', preflight rate capacity now tokens keys found buckets =
        (some (keys.foldl (fun found key =>
          found.add rate tokens (refillState (bucketOf key).state now rate capacity)) found), buckets') ∧
      (∀ key, buckets'.get? key =
        if key ∈ keys then
          some ((bucketOf key).withState (refillState (bucketOf key).state now rate capacity))
        else buckets.get? key) ∧
      buckets'.entries.length = buckets.entries.length := by
  induction keys generalizing buckets found with
  | nil => exact ⟨buckets, rfl, fun key => rfl, rfl⟩
  | cons first rest ih =>
    obtain ⟨absent, distinct⟩ := List.nodup_cons.mp distinct
    have present := held.present first List.mem_cons_self
    have unpoisoned := held.unpoisoned first List.mem_cons_self
    obtain ⟨buckets', looked, lookup, length⟩ := ih distinct
      (found.add rate tokens (refillState (bucketOf first).state now rate capacity))
      (held.insert absent ((bucketOf first).withState (refillState (bucketOf first).state now rate capacity)))
    refine ⟨buckets', ?_, fun key => ?_, ?_⟩
    · rw [preflight, present]
      simp only [unpoisoned, Bool.false_eq_true, if_false]
      exact looked
    · rw [lookup, SortedMap.get?_insert]
      by_cases same : key = first
      · simp [same, absent]
      · simp [same]
    · rw [length, held.length_insert List.mem_cons_self]

theorem consume_held (tokens : U64) (distinct : keys.Nodup) (held : Held keys bucketOf buckets) :
    (∀ key, (consume tokens keys buckets).get? key =
      if key ∈ keys then
        some ((bucketOf key).withState
          ⟨saturatingSub (bucketOf key).state.tokens tokens, (bucketOf key).state.stamp⟩)
      else buckets.get? key) ∧
    (consume tokens keys buckets).entries.length = buckets.entries.length := by
  induction keys generalizing buckets with
  | nil => exact ⟨fun key => rfl, rfl⟩
  | cons first rest ih =>
    obtain ⟨absent, distinct⟩ := List.nodup_cons.mp distinct
    have present := held.present first List.mem_cons_self
    have unpoisoned := held.unpoisoned first List.mem_cons_self
    obtain ⟨lookup, length⟩ := ih distinct
      (held.insert absent ((bucketOf first).withState
        ⟨saturatingSub (bucketOf first).state.tokens tokens, (bucketOf first).state.stamp⟩))
    have charged : consume tokens (first :: rest) buckets = consume tokens rest (buckets.insert first
        ((bucketOf first).withState
          ⟨saturatingSub (bucketOf first).state.tokens tokens, (bucketOf first).state.stamp⟩)) := by
      simp only [consume, List.foldl_cons, present, unpoisoned, Bool.false_eq_true, if_false]
    rw [charged]
    refine ⟨fun key => ?_, ?_⟩
    · rw [lookup, SortedMap.get?_insert]
      by_cases same : key = first
      · simp [same, absent]
      · simp [same]
    · rw [length, held.length_insert List.mem_cons_self]

end Loops

/-! ## What a call can do -/

/-- The bucket of a key, the one it starts with included. -/
def bucketAt (key : String) : TokenBucket :=
  (limiter.buckets.get? key).getD limiter.newBucket

/-- The state a call at a time finds under a key. -/
def refilledAt (now : U64) (key : String) : BucketState :=
  refillState (limiter.bucketAt key).state now limiter.refillPerSecond limiter.capacity

/-- A request that nothing but missing tokens can refuse. -/
structure Admissible (keys : List String) (tokens : U64) : Prop where
  named : keys ≠ []
  usable : ∀ key ∈ keys, unusable key = false
  possible : tokens ≤ limiter.capacity
  room : limiter.buckets.entries.length +
    ((uniqueKeys keys).filter fun key => limiter.buckets.get? key = none).length ≤ limiter.maxKeys

/-- Only the buckets of the keys have changed, to the ones given. -/
structure Touched (keys : List String) (bucketOf : String → TokenBucket) (limiter' : KeyedRateLimiter) : Prop where
  capacity : limiter'.capacity = limiter.capacity
  refill : limiter'.refillPerSecond = limiter.refillPerSecond
  maxKeys : limiter'.maxKeys = limiter.maxKeys
  unpoisoned : limiter'.poisoned = false
  buckets : ∀ key, limiter'.buckets.get? key = if key ∈ keys then some (bucketOf key) else limiter.buckets.get? key
  counted : limiter'.buckets.entries.length ≤ limiter.maxKeys

variable {limiter}

theorem Sound.owned_bucketAt (sound : limiter.Sound) (key : String) : limiter.Owned (limiter.bucketAt key) := by
  unfold bucketAt
  cases found : limiter.buckets.get? key with
  | none => exact limiter.owned_newBucket
  | some bucket => exact sound.owned key bucket found

theorem delayFor_eq_zero_iff {rate : U64} (positive : 0 < rate.val) (tokens : U64) (state : BucketState) :
    delayFor rate tokens state ≤ 0 ↔ tokens ≤ state.tokens := by
  unfold delayFor
  split_ifs with missing
  · refine iff_of_false (fun none => ?_) (not_le.mpr missing)
    have deficit : 0 < (saturatingSub tokens state.tokens).val := Nat.sub_pos_of_lt missing
    exact absurd none (not_le.mpr (retryAfterMs_pos positive deficit))
  · exact iff_of_true (le_refl _) (not_lt.mp missing)

/-- Looking at the buckets of a request: all are found, opened where they were missing, and brought up to date. -/
theorem preflight_opened (sound : limiter.Sound) (keys : List String) (now tokens : U64) :
    ∃ looked, preflight limiter.refillPerSecond limiter.capacity now tokens (uniqueKeys keys) ⟨maxU64, 0⟩
        (openBuckets limiter.newBucket (uniqueKeys keys) limiter.buckets) =
        (some ((uniqueKeys keys).foldl (fun found key =>
          found.add limiter.refillPerSecond tokens (limiter.refilledAt now key)) ⟨maxU64, 0⟩), looked) ∧
      (∀ key, looked.get? key = if key ∈ keys then some ((limiter.bucketAt key).withState (limiter.refilledAt now key))
        else limiter.buckets.get? key) ∧
      looked.entries.length = limiter.buckets.entries.length +
        ((uniqueKeys keys).filter fun key => limiter.buckets.get? key = none).length := by
  have held : Held (uniqueKeys keys) limiter.bucketAt
      (openBuckets limiter.newBucket (uniqueKeys keys) limiter.buckets) :=
    ⟨fun key member => (get?_openBuckets _ _ _ key).trans (if_pos member),
      fun key _ => (sound.owned_bucketAt key).sound.unpoisoned⟩
  obtain ⟨looked, preflighted, lookup, length⟩ := preflight_held limiter.refillPerSecond limiter.capacity now tokens
    (nodup_uniqueKeys keys) ⟨maxU64, 0⟩ held
  refine ⟨looked, preflighted, fun key => ?_, length.trans (length_openBuckets _ (nodup_uniqueKeys keys) _)⟩
  rw [lookup, get?_openBuckets]
  simp only [mem_uniqueKeys]
  split_ifs
  · rfl
  · rfl

theorem consume_looked (sound : limiter.Sound) (keys : List String) (now tokens : U64)
    {looked : SortedMap String TokenBucket} (buckets : ∀ key, looked.get? key =
      if key ∈ keys then some ((limiter.bucketAt key).withState (limiter.refilledAt now key))
      else limiter.buckets.get? key) :
    (∀ key, (consume tokens (uniqueKeys keys) looked).get? key =
      if key ∈ keys then
        some ((limiter.bucketAt key).withState
          ⟨saturatingSub (limiter.refilledAt now key).tokens tokens, (limiter.refilledAt now key).stamp⟩)
      else limiter.buckets.get? key) ∧
    (consume tokens (uniqueKeys keys) looked).entries.length = looked.entries.length := by
  have held : Held (uniqueKeys keys)
      (fun key => (limiter.bucketAt key).withState (limiter.refilledAt now key)) looked :=
    ⟨fun key member => (buckets key).trans (if_pos (mem_uniqueKeys.mp member)),
      fun key _ => (sound.owned_bucketAt key).sound.unpoisoned⟩
  obtain ⟨charged, same⟩ := consume_held tokens (nodup_uniqueKeys keys) held
  refine ⟨fun key => ?_, same⟩
  rw [charged, buckets]
  simp only [mem_uniqueKeys]
  split_ifs
  · rfl
  · rfl

/-- The answer to a request that nothing but missing tokens can refuse: all keys are charged, or none. -/
inductive Answered (limiter : KeyedRateLimiter) (keys : List String) (now tokens : U64)
    (decision : RateLimitDecision) (limiter' : KeyedRateLimiter) : Prop
  | granted (enough : ∀ key ∈ keys, tokens ≤ (limiter.refilledAt now key).tokens) (allowed : decision.allowed = true)
      (charged : limiter.Touched keys (fun key => (limiter.bucketAt key).withState
        ⟨saturatingSub (limiter.refilledAt now key).tokens tokens, (limiter.refilledAt now key).stamp⟩) limiter')
  | refused (missing : ¬ ∀ key ∈ keys, tokens ≤ (limiter.refilledAt now key).tokens)
      (denied : decision.allowed = false)
      (delays : ∀ key ∈ keys,
        delayFor limiter.refillPerSecond tokens (limiter.refilledAt now key) ≤ decision.retryAfterMs)
      (kept : limiter.Touched keys (fun key => (limiter.bucketAt key).withState (limiter.refilledAt now key))
        limiter')

theorem Admissible.valid {keys : List String} (admissible : limiter.Admissible keys tokens) :
    ¬ (keys.isEmpty || keys.any unusable) = true := by
  rw [Bool.or_eq_true, List.isEmpty_iff, List.any_eq_true]
  rintro (none | ⟨key, member, bad⟩)
  · exact admissible.named none
  · rw [admissible.usable key member] at bad
    cases bad

theorem tryAcquireMany_admissible (sound : limiter.Sound) {keys : List String}
    (admissible : limiter.Admissible keys tokens) (asked : tokens ≠ 0) (now : U64) :
    Answered limiter keys now tokens (limiter.tryAcquireMany keys now tokens).1
      (limiter.tryAcquireMany keys now tokens).2 := by
  obtain ⟨looked, preflighted, buckets, length⟩ := preflight_opened sound keys now tokens
  have counted : looked.entries.length ≤ limiter.maxKeys := length.trans_le admissible.room
  have unpoisoned : ¬ limiter.poisoned = true := Bool.eq_false_iff.mp sound.unpoisoned
  have longest := maximumRetry_foldl_le limiter.refillPerSecond tokens (limiter.refilledAt now) ⟨maxU64, 0⟩
    (uniqueKeys keys)
  -- the longest delay is none exactly when every key has the tokens
  have enough_iff := longest 0
  simp only [Fin.le_zero_iff, true_and, mem_uniqueKeys] at enough_iff
  unfold tryAcquireMany
  dsimp only
  rw [if_neg admissible.valid, if_neg asked, if_neg (not_lt.mpr admissible.possible), if_neg unpoisoned,
    if_neg (not_lt.mpr admissible.room), preflighted]
  dsimp only
  split_ifs with short
  · refine .refused (fun enough => short (enough_iff.mpr fun key member => ?_)) rfl (fun key member => ?_)
      ⟨rfl, rfl, rfl, sound.unpoisoned, buckets, counted⟩
    · exact Fin.le_zero_iff.mp ((delayFor_eq_zero_iff limiter.refill_pos tokens _).mpr (enough key member))
    · exact ((longest _).mp (le_refl _)).2 key (mem_uniqueKeys.mpr member)
  · obtain ⟨charged, same⟩ := consume_looked sound keys now tokens buckets
    refine .granted (fun key member => ?_) rfl ⟨rfl, rfl, rfl, sound.unpoisoned, charged, same.trans_le counted⟩
    refine (delayFor_eq_zero_iff limiter.refill_pos tokens _).mp (Fin.le_zero_iff.mpr ?_)
    exact enough_iff.mp (not_not.mp short) key member

/-- A request that is not admissible changes nothing, and is refused if it asks for anything. -/
theorem tryAcquireMany_inadmissible {keys : List String} (inadmissible : ¬ limiter.Admissible keys tokens) (now : U64) :
    ((limiter.tryAcquireMany keys now tokens).1.allowed = true → tokens = 0) ∧
      (limiter.tryAcquireMany keys now tokens).2 = limiter := by
  unfold tryAcquireMany
  dsimp only
  split_ifs with invalid nothing excess poisoned full
  · exact ⟨Bool.false_ne_true.elim, rfl⟩
  · exact ⟨fun _ => nothing, rfl⟩
  · exact ⟨False.elim, rfl⟩
  · exact ⟨Bool.false_ne_true.elim, rfl⟩
  · exact ⟨Bool.false_ne_true.elim, rfl⟩
  · simp only [Bool.or_eq_true, List.isEmpty_iff, List.any_eq_true, not_or, not_exists, not_and,
      Bool.not_eq_true] at invalid
    exact absurd ⟨invalid.1, invalid.2, not_lt.mp excess, not_lt.mp full⟩ inadmissible

/-- What a call on several keys can do: nothing, or answer for all of them. -/
theorem tryAcquireMany_served (sound : limiter.Sound) (keys : List String) (now tokens : U64) :
    (((limiter.tryAcquireMany keys now tokens).1.allowed = false → ¬ limiter.Admissible keys tokens) ∧
        (limiter.tryAcquireMany keys now tokens).2 = limiter) ∨
      Answered limiter keys now tokens (limiter.tryAcquireMany keys now tokens).1
        (limiter.tryAcquireMany keys now tokens).2 := by
  by_cases admissible : limiter.Admissible keys tokens
  · by_cases nothing : tokens = 0
    · have unasked : limiter.tryAcquireMany keys now tokens = (⟨true, limiter.capacity, 0⟩, limiter) := by
        unfold tryAcquireMany
        rw [if_neg admissible.valid, if_pos nothing]
      rw [unasked]
      exact .inl ⟨fun denied => Bool.false_ne_true.elim denied.symm, rfl⟩
    · exact .inr (tryAcquireMany_admissible sound admissible nothing now)
  · exact .inl ⟨fun _ => admissible, (tryAcquireMany_inadmissible admissible now).2⟩

/-- A call on one key leaves the limiter as it is or touches that key. -/
theorem tryAcquireN_touches (sound : limiter.Sound) (key : String) (now tokens : U64) :
    (limiter.tryAcquireN key now tokens).2 = limiter ∨
      ∃ bucket, limiter.Owned bucket ∧
        limiter.Touched [key] (fun _ => bucket) (limiter.tryAcquireN key now tokens).2 := by
  have owned := sound.owned_bucketAt key
  have charged : limiter.Owned ((limiter.bucketAt key).tryAcquireN now tokens).2 := by
    obtain ⟨capacity, refill⟩ := (limiter.bucketAt key).configuration_tryAcquireN now tokens
    exact ⟨owned.sound.tryAcquireN now tokens, capacity.trans owned.capacity, refill.trans owned.refill⟩
  generalize answered : limiter.tryAcquireN key now tokens = answer
  unfold tryAcquireN at answered
  dsimp only at answered
  split_ifs at answered with invalid nothing excess poisoned full new
  · exact .inl (answered ▸ rfl)
  · exact .inl (answered ▸ rfl)
  · exact .inl (answered ▸ rfl)
  · exact .inl (answered ▸ rfl)
  · exact .inl (answered ▸ rfl)
  · -- a new key: its bucket is opened and charged
    have room : limiter.buckets.entries.length < limiter.maxKeys := not_le.mp fun reached => full ⟨new, reached⟩
    rw [SortedMap.get?_insert, if_pos rfl] at answered
    subst answered
    have opened : limiter.bucketAt key = limiter.newBucket := by rw [bucketAt, new, Option.getD_none]
    rw [opened] at charged
    refine .inr ⟨_, charged, rfl, rfl, rfl, sound.unpoisoned, fun other => ?_, ?_⟩
    · simp only [SortedMap.get?_insert, List.mem_singleton]
      split_ifs
      · rfl
      · rfl
    · simp only [SortedMap.insert, SortedMap.length_upsert, SortedMap.get?_upsert, new, if_true]
      exact room
  · obtain ⟨bucket, found⟩ := Option.ne_none_iff_exists'.mp new
    rw [found] at answered
    subst answered
    have known : limiter.bucketAt key = bucket := by rw [bucketAt, found, Option.getD_some]
    rw [known] at charged
    refine .inr ⟨_, charged, rfl, rfl, rfl, sound.unpoisoned, fun other => ?_, ?_⟩
    · simp only [SortedMap.get?_insert, List.mem_singleton]
    · simp only [SortedMap.insert, SortedMap.length_upsert, found]
      exact sound.counted

theorem Owned.withState {bucket : TokenBucket} (owned : limiter.Owned bucket) {state : BucketState}
    (within : state.tokens ≤ limiter.capacity) : limiter.Owned (bucket.withState state) :=
  ⟨⟨owned.sound.unpoisoned, within.trans_eq owned.capacity.symm⟩, owned.capacity, owned.refill⟩

theorem Sound.refilledAt_le (sound : limiter.Sound) (now : U64) (key : String) :
    (limiter.refilledAt now key).tokens ≤ limiter.capacity := by
  have owned := sound.owned_bucketAt key
  exact refillState_tokens_le (owned.sound.within.trans_eq owned.capacity) now limiter.refillPerSecond

/-- A call leaves the limiter as it is, or changes the buckets of its own keys to sound ones. -/
theorem step_touches (sound : limiter.Sound) (call : Call) :
    limiter.step call = limiter ∨
      ∃ bucketOf, (∀ key ∈ call.keys, limiter.Owned (bucketOf key)) ∧
        limiter.Touched call.keys bucketOf (limiter.step call) := by
  cases call with
  | one key now tokens =>
    rcases tryAcquireN_touches sound key now tokens with same | ⟨bucket, owned, touched⟩
    · exact .inl same
    · exact .inr ⟨fun _ => bucket, fun _ _ => owned, touched⟩
  | many keys now tokens =>
    rcases tryAcquireMany_served sound keys now tokens with ⟨-, same⟩ | answered
    · exact .inl same
    cases answered with
    | granted enough allowed charged =>
      refine .inr ⟨_, fun key _ => (sound.owned_bucketAt key).withState ?_, charged⟩
      exact le_trans (Nat.sub_le _ _ : (_ : ℕ) ≤ _) (sound.refilledAt_le now key)
    | refused missing denied delays kept =>
      exact .inr ⟨_, fun key _ => (sound.owned_bucketAt key).withState (sound.refilledAt_le now key), kept⟩

theorem sound_new (capacity refillPerSecond : U64) (maxKeys : ℕ) : (new capacity refillPerSecond maxKeys).Sound :=
  ⟨rfl, fun key bucket found => absurd found (by simp [new]), Nat.zero_le _⟩

theorem Sound.step {limiter : KeyedRateLimiter} (sound : limiter.Sound) (call : Call) : (limiter.step call).Sound := by
  rcases step_touches sound call with same | ⟨bucketOf, owned, touched⟩
  · rw [same]
    exact sound
  · refine ⟨touched.unpoisoned, fun key bucket found => ?_, touched.counted.trans_eq touched.maxKeys.symm⟩
    have ownedBefore : limiter.Owned bucket := by
      rw [touched.buckets] at found
      split_ifs at found with member
      · obtain rfl := Option.some.inj found
        exact owned key member
      · exact sound.owned key bucket found
    exact ⟨ownedBefore.sound, ownedBefore.capacity.trans touched.capacity.symm,
      ownedBefore.refill.trans touched.refill.symm⟩

theorem Sound.serve (sound : limiter.Sound) (calls : List Call) : (limiter.serve calls).Sound := by
  induction calls generalizing limiter with
  | nil => exact sound
  | cons call rest ih => exact ih (sound.step call)

theorem Reachable.sound (reached : limiter.Reachable) : limiter.Sound := by
  obtain ⟨capacity, refillPerSecond, maxKeys, calls, rfl⟩ := reached
  exact (sound_new capacity refillPerSecond maxKeys).serve calls

/-- Calls on other keys change neither the configuration nor the bucket of a key. -/
theorem serve_frame (sound : limiter.Sound) {calls : List Call} (elsewhere : ∀ call ∈ calls, key ∉ call.keys) :
    (limiter.serve calls).capacity = limiter.capacity ∧
      (limiter.serve calls).refillPerSecond = limiter.refillPerSecond ∧
      (limiter.serve calls).buckets.get? key = limiter.buckets.get? key := by
  induction calls generalizing limiter with
  | nil => exact ⟨rfl, rfl, rfl⟩
  | cons call rest ih =>
    obtain ⟨first, others⟩ := List.forall_mem_cons.mp elsewhere
    have later := ih (sound.step call) others
    have first_then : limiter.serve (call :: rest) = (limiter.step call).serve rest := rfl
    rw [first_then]
    obtain ⟨capacity, refill, bucket⟩ := later
    rcases step_touches sound call with same | ⟨bucketOf, owned, touched⟩
    · rw [same] at capacity refill bucket ⊢
      exact ⟨capacity, refill, bucket⟩
    · rw [touched.buckets, if_neg first] at bucket
      exact ⟨capacity.trans touched.capacity, refill.trans touched.refill, bucket⟩

end KeyedRateLimiter

end StateChronicle.Core.RateLimit
