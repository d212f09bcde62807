import StateChronicle.Execution.Harness

/-!
# Replaying an accepted intent

A call that meets its own claim answers without events, and one with another body under the claimed id is rejected.
The expiry of an intent is looked at before its claim is, so the answer changes once it has expired.
-/

namespace StateChronicle.Verified

open StateChronicle.Core Domain Execution Foundation

variable {W γ : Type}

/-- What later calls for the id of an accepted intent do, as far as `observe` can tell. -/
structure ReplaySafe (executor : Executor W) (observe : W → γ) (accepted : Intent) (w : W) : Prop where
  replay : ∀ signature, ∃ w', executor.execute ⟨accepted, signature⟩ w = .ok [] w' ∧ observe w' = observe w
  conflict : ∀ other : ValidatedIntent, other.intent.tenantId = accepted.tenantId →
    other.intent.intentId = accepted.intentId → other.intent ≠ accepted →
    ∃ error w', executor.execute other w = .error error w' ∧ observe w' = observe w

/-- The worlds a run leads to: `execute` is called with any intents, and between the calls anything may happen
that leaves the recorded claims alone. -/
inductive Calls (executor : Executor W) (claims : W → Claims) (start : W) : W → Prop
  | start : Calls executor claims start start
  | execute {w : W} (earlier : Calls executor claims start w) (validated : ValidatedIntent) :
      Calls executor claims start (finalState (executor.execute validated w))
  | between {w w' : W} (earlier : Calls executor claims start w) (kept : claims w' = claims w) :
      Calls executor claims start w'

/-- The expiry of the intent is not after `now`. -/
def Expired (intent : Intent) (now : Timestamp) : Prop := intent.expiresAt.any fun expiry => expiry ≤ now

instance (intent : Intent) (now : Timestamp) : Decidable (Expired intent now) :=
  inferInstanceAs (Decidable (intent.expiresAt.any _ = true))

/-- The intent store is within reach. -/
def Executor.AnswersClaims (executor : Executor W) : Prop :=
  ∀ tenant intentId w, ∃ found w', executor.ports.getIntent tenant intentId w = (.ok found, w')

section Replay

variable {executor : Executor W} {claims : W → Claims} {observe : W → γ} {validated : ValidatedIntent}
  {existing : Intent} {w w' : W}

/-! ## Claims last -/

variable {events : List Event}

section Lasting

variable (stores : executor.StoresClaims claims)

include stores

theorem claim_kept_of_calls {tenant : TenantId} {intentId : IntentId}
    (claimed : claims w tenant intentId = some existing) (run : Calls executor claims w w') :
    claims w' tenant intentId = some existing := by
  induction run with
  | start => exact claimed
  | execute _ _ ih => exact Executor.claim_kept stores ih
  | between _ kept ih => rw [kept, ih]

end Lasting

/-! ## Calls that meet a claim -/

/-- What is checked of an intent before its claim is looked up, other than its expiry. -/
theorem encoded_of_execute (accepted : executor.execute validated w = .ok events w') :
    ∃ bytes, canonicalize (executor.codec.intentBytes validated.intent) = .ok bytes ∧
      checkSize "intent" maxIntentBytes bytes.length = .ok () := by
  simp only [Executor.execute, Executor.executeInner, Executor.checkBody, EStateM.bind_eq_ok, liftM_eq_liftExcept,
    liftExcept_eq_ok, Except.mapError_eq_ok] at accepted
  obtain ⟨-, -, ⟨bytes, -, ⟨encoded, -⟩, ⟨⟩, -, ⟨short, -⟩, -⟩, -⟩ := accepted
  exact ⟨bytes, encoded, short⟩

theorem not_expired_of_execute (accepted : executor.execute validated w = .ok events w') :
    ¬ Expired validated.intent (executor.now w).1 := by
  simp only [Executor.execute, Executor.executeInner, Executor.checkBody, EStateM.bind_eq_ok, liftM_eq_liftExcept,
    liftExcept_eq_ok, perform_eq_ok, checkExpiry, rejectIf_eq_ok] at accepted
  obtain ⟨-, -, ⟨-, w₁, ⟨-, rfl⟩, -, w₂, ⟨-, rfl⟩, now, w₃, told, -, -, ⟨unexpired, -⟩, -⟩, -⟩ := accepted
  rw [told]
  exact unexpired

section Claimed

variable (stores : executor.StoresClaims claims) (claimed : (claims w).of validated.intent = some existing)

include stores claimed

theorem existing_of_findClaim {bytes : List UInt8} {w₁ w₂ : W} {found : Option Intent}
    (body : executor.checkBody validated.intent w = .ok bytes w₁)
    (lookup : executor.findClaim validated.intent w₁ = .ok found w₂) : found = some existing := by
  have same := (Executor.frames_checkBody stores.toRecordsClaims validated.intent).of_ok body
  rw [stores.get _ _ _ _ _ (request_eq_ok.mp lookup), same]
  exact claimed

/-- Beyond the clock and the intent store, a call that meets a claim asks nobody. -/
theorem observe_of_claimed (clock : ∀ w, observe (executor.now w).2 = observe w)
    (lookups : ∀ tenant intentId w, observe (executor.ports.getIntent tenant intentId w).2 = observe w) :
    observe (finalState (executor.execute validated w)) = observe w := by
  have body : Frames observe (executor.checkBody validated.intent) :=
    .bind (.liftExcept _) fun _ => .bind (.liftExcept _) fun _ => .bind (.perform clock) fun _ =>
      .bind (.liftExcept _) fun _ => .pure _
  have find : Frames observe (executor.findClaim validated.intent) := .request (lookups _ _)
  have answer (bytes : List UInt8) :
      Frames observe (executor.executeUnlessClaimed validated bytes false true (some existing)) :=
    .bind (.liftExcept _) fun _ => .pure _
  rw [Executor.execute, Executor.executeInner]
  cases ranBody : executor.checkBody validated.intent w with
  | error error w₁ => rw [EStateM.bind_apply_of_error ranBody, finalState, body.of_error ranBody]
  | ok bytes w₁ =>
    rw [EStateM.bind_apply_of_ok ranBody]
    cases ranFind : executor.findClaim validated.intent w₁ with
    | error error w₂ =>
      rw [EStateM.bind_apply_of_error ranFind, finalState, find.of_error ranFind, body.of_ok ranBody]
    | ok found w₂ =>
      obtain rfl := existing_of_findClaim stores claimed ranBody ranFind
      rw [EStateM.bind_apply_of_ok ranFind, answer bytes w₂, find.of_ok ranFind, body.of_ok ranBody]

theorem rejected_of_conflict (different : validated.intent ≠ existing) : isError (executor.execute validated w) := by
  cases ran : executor.execute validated w with
  | error error w₁ => rfl
  | ok events w₁ =>
    rcases Executor.claims_of_executeInner stores.toRecordsClaims ran with ⟨-, own, -⟩ | ⟨-, unclaimed, -⟩
    · rw [claimed] at own
      exact absurd (Option.some.inj own).symm different
    · rw [claimed] at unclaimed
      cases unclaimed

end Claimed

/-- A call that meets its own claim before the intent has expired. -/
theorem answered_of_claimed (stores : executor.StoresClaims claims) (answers : Executor.AnswersClaims executor)
    {bytes : List UInt8} (encoded : canonicalize (executor.codec.intentBytes validated.intent) = .ok bytes)
    (short : checkSize "intent" maxIntentBytes bytes.length = .ok ())
    (claimed : (claims w).of validated.intent = some validated.intent)
    (unexpired : ¬ Expired validated.intent (executor.now w).1) : ∃ w', executor.execute validated w = .ok [] w' := by
  have body : executor.checkBody validated.intent w = .ok bytes (executor.now w).2 := by
    simp only [Executor.checkBody, EStateM.bind_eq_ok, liftM_eq_liftExcept, liftExcept_eq_ok, Except.mapError_eq_ok,
      perform_eq_ok, checkExpiry, rejectIf_eq_ok, EStateM.pure_apply, EStateM.Result.ok.injEq]
    exact ⟨bytes, w, ⟨encoded, rfl⟩, (), w, ⟨short, rfl⟩, _, _, rfl, (), _, ⟨unexpired, rfl⟩, rfl, rfl⟩
  obtain ⟨found, w', lookup⟩ := answers validated.intent.tenantId validated.intent.intentId (executor.now w).2
  have find : executor.findClaim validated.intent (executor.now w).2 = .ok found w' := request_eq_ok.mpr lookup
  obtain rfl := existing_of_findClaim stores claimed body find
  refine ⟨w', ?_⟩
  rw [Executor.execute, Executor.executeInner, EStateM.bind_apply_of_ok body, EStateM.bind_apply_of_ok find]
  simp only [Executor.executeUnlessClaimed, checkIdempotencyExisting, EStateM.bind_eq_ok, liftM_eq_liftExcept,
    liftExcept_eq_ok, rejectIf_eq_ok, EStateM.pure_apply, EStateM.Result.ok.injEq]
  exact ⟨(), w', ⟨not_not.mpr rfl, rfl⟩, trivial, rfl⟩

/-! ## Later calls -/

/-- After an intent has been accepted, and whatever is executed in between, a call for it answers without events
and changes nothing exactly when the intent has not expired by then; any other body under its id is rejected. -/
theorem replay_safe_iff_unexpired (stores : executor.StoresClaims claims) (answers : Executor.AnswersClaims executor)
    (clock : ∀ w, observe (executor.now w).2 = observe w)
    (lookups : ∀ tenant intentId w, observe (executor.ports.getIntent tenant intentId w).2 = observe w)
    {events : List Event} {later : W} (accepted : executor.execute validated w = .ok events w')
    (run : Calls executor claims w' later) :
    ReplaySafe executor observe validated.intent later ↔ ¬ Expired validated.intent (executor.now later).1 := by
  have claimed : (claims later).of validated.intent = some validated.intent :=
    claim_kept_of_calls stores (Executor.claimed_of_executeInner stores.toRecordsClaims accepted) run
  constructor
  · intro safe
    obtain ⟨_, returns, -⟩ := safe.replay validated.signature
    exact not_expired_of_execute returns
  · intro unexpired
    obtain ⟨bytes, encoded, short⟩ := encoded_of_execute accepted
    refine ⟨fun signature => ?_, fun other sameTenant sameId different => ?_⟩
    · obtain ⟨w₁, returns⟩ := @answered_of_claimed W executor claims ⟨validated.intent, signature⟩ later stores answers
        bytes encoded short claimed unexpired
      have kept := @observe_of_claimed W γ executor claims observe ⟨validated.intent, signature⟩ validated.intent later
        stores claimed clock lookups
      rw [returns] at kept
      exact ⟨w₁, returns, kept⟩
    · have taken : (claims later).of other.intent = some validated.intent := by
        rw [Claims.of, sameTenant, sameId]
        exact claimed
      obtain ⟨error, failed⟩ := eq_error_of_isError (rejected_of_conflict stores taken different)
      exact ⟨error, _, failed, observe_of_claimed stores taken clock lookups⟩

end Replay

open Harness

def advancing : Executor Memory := clocked (fun memory => fixedNow + memory.nextEvent) .baseline ∅

theorem advancing_storesClaims : advancing.StoresClaims Memory.claimed := clocked_storesClaims _ _ _

theorem advancing_answersClaims : Executor.AnswersClaims advancing := fun _ _ _ => ⟨_, _, rfl⟩

def mintUntil (seconds : Option Nat) : ValidatedIntent :=
  let minted := intent "int_mint" "asset.mint" "alice" sword .uniqueAsset 0 [("to_owner", "alice")]
  { minted with intent := { minted.intent with expiresAt := seconds.map fun after => fixedNow + after } }

def afterMint (seconds : Option Nat) : Memory := remaining (advancing.execute (mintUntil seconds) .fresh)

theorem mint_replay_safe :
    ReplaySafe advancing (fun memory => memory) (mintUntil none).intent (afterMint none) := by
  have fresh : emitted (advancing.execute (mintUntil none) .fresh) ≠ [] := by decide +kernel
  obtain ⟨memory, returns⟩ := ok_of_emitted_ne_nil fresh
  have left : afterMint none = memory := congrArg remaining returns
  rw [left]
  exact (replay_safe_iff_unexpired advancing_storesClaims advancing_answersClaims (fun _ => rfl)
    (fun _ _ _ => rfl) returns .start).mpr (by simp [Expired, mintUntil])

def refusal : EStateM.Result ExecutorError Memory (List Event) → Option String
  | .ok _ _ => none
  | .error error _ => some error.toString

/-- The mint is accepted in its last second; a second later its replay is refused as expired before
acceptance. -/
theorem accepted_mint_replay_expired :
    emitted (advancing.execute (mintUntil (some 2)) .fresh) ≠ [] ∧
      Calls advancing Memory.claimed (afterMint (some 2)) (afterMint (some 2)) ∧
      (advancing.now .fresh).1 ≤ (advancing.now (afterMint (some 2))).1 ∧
      refusal (advancing.execute (mintUntil (some 2)) (afterMint (some 2))) =
        some "intent `int_mint` expired before acceptance" ∧
      ¬ ReplaySafe advancing (fun memory => memory) (mintUntil (some 2)).intent (afterMint (some 2)) := by
  have refused : emitted (advancing.execute (mintUntil (some 2)) .fresh) ≠ [] ∧
      (advancing.now .fresh).1 ≤ (advancing.now (afterMint (some 2))).1 ∧
      refusal (advancing.execute (mintUntil (some 2)) (afterMint (some 2))) =
        some "intent `int_mint` expired before acceptance" := by decide +kernel
  refine ⟨refused.1, .start, refused.2.1, refused.2.2, fun safe => ?_⟩
  obtain ⟨_, returns, -⟩ := safe.replay (mintUntil (some 2)).signature
  have answered : refusal (advancing.execute (mintUntil (some 2)) (afterMint (some 2))) = none :=
    congrArg refusal returns
  rw [refused.2.2] at answered
  cases answered

end StateChronicle.Verified
