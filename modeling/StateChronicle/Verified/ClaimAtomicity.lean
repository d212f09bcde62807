import StateChronicle.Execution.Harness
import StateChronicle.Foundation.Restart

/-!
# Claims of a failed call

A durable call claims each intent while it runs, before the batch is validated and handed to the sink.  A call that
fails leaves the store untouched exactly when a gate of the pipeline stops the first intent that has no claim, or the
store or the sink takes the claims back as it fails.
-/

namespace StateChronicle.Verified

open Commit Domain Execution Foundation Profiles
open Atomicity (TradeManifest)

variable {W : Type} {start : Claims} {rest : List ValidatedIntent}

/-! ## The durable routes -/

/-- A call of one of the four durable batch routes. -/
inductive DurableCall where
  | batch (intents : List ValidatedIntent)
  | settle (intents : List ValidatedIntent)
  | crossTenant (intents : List ValidatedIntent)
  | crossTenantTrade (intents : List ValidatedIntent) (manifest : TradeManifest)

namespace DurableCall

def Fails (self : Executor W) (sink : DurableBatchSink W) (w w' : W) : DurableCall → Prop
  | .batch intents => ∃ error, self.executeBatchDurable intents sink w = .error error w'
  | .settle intents => ∃ error, self.executeSettleDurable intents sink w = .error error w'
  | .crossTenant intents => ∃ error, self.executeCrossTenantDurable intents sink w = .error error w'
  | .crossTenantTrade intents manifest =>
    ∃ error, self.executeCrossTenantTradeDurable intents manifest sink w = .error error w'

def coordinated : DurableCall → Bool
  | .batch _ => false
  | .settle _ => true
  | .crossTenant _ => false
  | .crossTenantTrade _ _ => true

/-- The intents of two or more tenants, in the order of the tenants' names. -/
def tenantOrder (intents : List ValidatedIntent) : List ValidatedIntent :=
  if (Executor.byTenant intents).keys.length < 2 then []
  else (Executor.byTenant intents).entries.flatMap (·.2)

/-- The intents that are run, in their order.  A batch stops at a replay, so only its first intent counts. -/
def order : DurableCall → List ValidatedIntent
  | .batch intents => intents.take 1
  | .settle intents => intents
  | .crossTenant intents => tenantOrder intents
  | .crossTenantTrade intents _ => tenantOrder intents

end DurableCall

/-! ## Gates -/

variable {self : Executor W} {coordinated : Bool} {validated : ValidatedIntent} {w w' : W}

/-- The intent has no claim and passes every gate; the store is asked to claim it in `w'`. -/
def Asks (self : Executor W) (coordinated : Bool) (validated : ValidatedIntent) (w w' : W) : Prop :=
  ∃ bytes w₁ w₂, self.checkBody validated.intent w = .ok bytes w₁ ∧
    self.findClaim validated.intent w₁ = .ok none w₂ ∧ Nonempty (self.Passage validated bytes coordinated w₂ w')

/-- The intent is claimed already, with the same body. -/
def Replays (self : Executor W) (validated : ValidatedIntent) (w w' : W) : Prop :=
  ∃ bytes w₁, self.checkBody validated.intent w = .ok bytes w₁ ∧
    self.findClaim validated.intent w₁ = .ok (some validated.intent) w'

/-- The store refuses the intent and keeps its claims. -/
def Refuses (self : Executor W) (claims : W → Claims) (intent : Intent) (w : W) : Prop :=
  ∃ error w', self.ports.putIntent intent.tenantId intent w = (.error error, w') ∧ claims w' = claims w

/-- Replays are passed over, and the first intent after them is stopped by a gate, or refused. -/
def ClaimsNothing (self : Executor W) (claims : W → Claims) (coordinated : Bool) : List ValidatedIntent → W → Prop
  | [], _ => True
  | validated :: rest, w => (∀ w', Asks self coordinated validated w w' → Refuses self claims validated.intent w') ∧
      ∀ w', Replays self validated w w' → ClaimsNothing self claims coordinated rest w'

/-- The last call was a put or a persist that failed, and it turned other claims into those of the start. -/
def TakenBack (self : Executor W) (sink : DurableBatchSink W) (claims : W → Claims) (start : Claims) (w' : W) : Prop :=
  claims w' = start ∧ ∃ reached, claims reached ≠ start ∧
    ((∃ intent error, self.ports.putIntent intent.tenantId intent reached = (.error error, w')) ∨
      ∃ intents events error, sink.persistBatch intents events reached = (.error error, w'))

theorem asks_iff : Asks self coordinated validated w w' ↔
    ∃ events, events ≠ [] ∧ self.executeInner validated coordinated false w = .ok events w' := by
  simp only [Executor.executeInner_steps, Executor.executeFresh_eq_ok]
  constructor
  · rintro ⟨bytes, w₁, w₂, body, found, ⟨passage⟩⟩
    exact ⟨_, List.cons_ne_nil _ _, bytes, w₁, none, w₂, body, found, .inr ⟨rfl, w', ⟨passage, rfl⟩, rfl⟩⟩
  · rintro ⟨events, fresh, bytes, w₁, _, w₂, body, found, ⟨-, rfl, -⟩ | ⟨rfl, w₃, ⟨passage, -⟩, claimed⟩⟩
    · exact absurd rfl fresh
    · cases claimed
      exact ⟨bytes, w₁, w₂, body, found, ⟨passage⟩⟩

theorem replays_iff : Replays self validated w w' ↔ self.executeInner validated coordinated false w = .ok [] w' := by
  rw [Executor.executeInner_steps]
  constructor
  · rintro ⟨bytes, w₁, body, found⟩
    exact ⟨bytes, w₁, _, w', body, found, .inl ⟨rfl, rfl, rfl⟩⟩
  · rintro ⟨bytes, w₁, _, w₂, body, found, ⟨rfl, -, rfl⟩ | ⟨-, _, fresh, -⟩⟩
    · exact ⟨bytes, w₁, body, found⟩
    · obtain ⟨passage, nothing⟩ := Executor.executeFresh_eq_ok.mp fresh
      cases nothing

/-- The fail-closed loop rejects a replay. -/
theorem executeUnreplayed_ends {returned : List Event → W → Prop} {crashed : W → Prop}
    (ends : Ends (self.executeInner validated false true) w returned crashed)
    (replay : ∀ w', returned [] w' → crashed w') :
    Ends (self.executeUnreplayed true validated) w (fun events w' => events ≠ [] ∧ returned events w') crashed := by
  refine .bind ends fun events w₁ ended => ?_
  by_cases nothing : events = []
  · subst nothing
    exact .inr ⟨_, w₁, rfl, replay w₁ ended⟩
  · exact .bind_ok (a := ()) (rejectIf_eq_ok.mpr nothing) (.pure ⟨nothing, ended⟩)

/-- An id without a claim at the start of the call has one now. -/
def ClaimedSince (start now : Claims) : Prop := ∃ intent, start.of intent = none ∧ (now.of intent).isSome

theorem ClaimedSince.ne {now : Claims} (since : ClaimedSince start now) : now ≠ start := by
  rintro rfl
  obtain ⟨intent, free, claimed⟩ := since
  rw [free] at claimed
  cases claimed

/-! ## The routes -/

variable {α : Type} {claims : W → Claims} {sink : DurableBatchSink W} {intents : List ValidatedIntent}
  {error : ExecutorError}

/-- A durable batch fails where its run ends, or where the sink does after being handed events. -/
theorem transactional_ends {begin : W → Except TransactionManagerError (TransactionHandle W) × W}
    {events : α → List Event} {run : Run W α} {validate : α → Except ExecutorError Unit} {returned : α → W → Prop}
    {crashed : W → Prop} (ran : Ends run w returned crashed) (stands : ∀ output w', returned output w' → crashed w')
    (persists : ∀ output reached message w', returned output reached → events output ≠ [] →
      sink.persistBatch intents (events output) reached = (.error message, w') → crashed w') :
    Ends (transactional (some sink) begin intents events run validate) w (fun _ _ => True) crashed := by
  have begun : Ends (beginUnlessDurable (some sink) begin) w (fun handle w' => handle = none ∧ w' = w) crashed :=
    .pure ⟨rfl, rfl⟩
  refine .bind begun ?_
  rintro _ _ ⟨rfl, rfl⟩
  refine .bind (.attempt (.bind ran fun output w₁ ended => .bind (.liftExcept _ (stands output w₁ ended))
    fun _ w₂ same => .pure (same ▸ ended))) ?_
  rintro _ w₁ (⟨output, rfl, ended⟩ | ⟨⟨error, rfl⟩, failed⟩)
  · have persisted : Ends (persist (some sink) none intents (events output)) w₁ (fun _ _ => True) crashed := by
      unfold persist
      split
      case h_1 chosen kept =>
        obtain ⟨same, nonempty⟩ := Option.filter_eq_some_iff.mp kept
        cases same
        refine .bind (.perform _) fun answer w₂ answered => ?_
        cases answer with
        | ok => exact .pure trivial
        | error message => exact .inr ⟨_, w₂, rfl, persists output w₁ message w₂ ended (by simpa using nonempty)
          answered⟩
      case h_2 => exact .pure trivial
    exact .bind persisted fun _ _ _ => .pure trivial
  · exact .inr ⟨_, w₁, rfl, failed⟩

theorem claims_of_failed {begin : W → Except TransactionManagerError (TransactionHandle W) × W}
    {events : α → List Event} {run : Run W α} {validate : α → Except ExecutorError Unit} {nothing : Prop}
    (unclaimed : nothing → Ends run w (fun output w' => events output = [] ∧ claims w' = claims w)
      fun w' => claims w' = claims w)
    (claimed : ¬ nothing → Ends run w (fun _ w' => claims w' ≠ claims w)
      fun w' => claims w' = claims w → TakenBack self sink claims (claims w) w')
    (fails : transactional (some sink) begin intents events run validate w = .error error w') :
    claims w' = claims w ↔ nothing ∨ TakenBack self sink claims (claims w) w' := by
  by_cases holds : nothing
  · have kept := (transactional_ends (unclaimed holds) (fun _ _ ended => ended.2)
      fun _ _ _ _ ended some _ => absurd ended.1 some).of_error fails
    exact iff_of_true kept (.inl holds)
  · have back := (transactional_ends (claimed holds) (fun _ _ changed same => absurd same changed)
      fun _ reached _ _ changed _ answered same => ⟨same, reached, changed, .inr ⟨_, _, _, answered⟩⟩).of_error fails
    rw [or_iff_right holds]
    exact ⟨back, And.left⟩

/-- The legs run as one batch of all their intents. -/
theorem runCrossTenantLegs_events {persist : Bool} (legs : List (String × List ValidatedIntent)) :
    (self.runCrossTenantLegs coordinated persist legs >>= fun groups => pure (groups.flatMap (·.events))) =
      self.runBatch coordinated persist (legs.flatMap (·.2)) := by
  induction legs with
  | nil => simp [Executor.runCrossTenantLegs, collect, Executor.runBatch]
  | cons leg rest ih =>
    rw [List.flatMap_cons, Executor.runBatch, collect_append, ← Executor.runBatch, ← ih]
    simp [Executor.runCrossTenantLegs, collect, Executor.runLeg]

theorem runCrossTenantLegs_ends {persist : Bool} {legs : List (String × List ValidatedIntent)}
    {returned : List Event → W → Prop} {crashed : W → Prop}
    (ends : Ends (self.runBatch coordinated persist (legs.flatMap (·.2))) w returned crashed) :
    Ends (self.runCrossTenantLegs coordinated persist legs) w (fun groups => returned (groups.flatMap (·.events)))
      crashed :=
  .of_map (runCrossTenantLegs_events legs ▸ ends)

/-! ## Runs -/

section Runs

variable (records : self.RecordsClaims claims)

include records

/-- An intent that is stopped or refused if it is not a replay changes nothing. -/
theorem executeInner_ends_unclaimed
    (refused : ∀ w', Asks self coordinated validated w w' → Refuses self claims validated.intent w') :
    Ends (self.executeInner validated coordinated true) w
      (fun events w' => events = [] ∧ Replays self validated w w' ∧ claims w' = claims w)
      fun w' => claims w' = claims w := by
  have frames := Executor.frames_executeInner records validated coordinated
  rw [Executor.executeInner_true]
  cases ran : self.executeInner validated coordinated false w with
  | error error w₁ => exact .inr ⟨error, w₁, EStateM.bind_apply_of_error ran, frames.of_error ran⟩
  | ok events w₁ =>
    refine .bind_returns ran ?_
    split
    case isTrue nothing =>
      subst nothing
      exact .inl ⟨[], w₁, rfl, rfl, replays_iff.mpr ran, frames.of_ok ran⟩
    case isFalse fresh =>
      obtain ⟨error, w₂, put, same⟩ := refused w₁ (asks_iff.mpr ⟨events, fresh, ran⟩)
      exact .inr ⟨_, w₂, EStateM.bind_apply_of_error (request_eq_error.mpr ⟨error, put, rfl⟩),
        same.trans (frames.of_ok ran)⟩

/-- An intent for which the store is asked, and which it does not refuse, is claimed or leaves a trace. -/
theorem executeInner_ends_claimed {reached : W} (asks : Asks self coordinated validated w reached)
    (taken : ¬ Refuses self claims validated.intent reached) :
    Ends (self.executeInner validated coordinated true) w
      (fun events w' => events ≠ [] ∧ ClaimedSince (claims w) (claims w')) fun w' => claims w' ≠ claims w := by
  obtain ⟨events, fresh, ran⟩ := asks_iff.mp asks
  have same := (Executor.frames_executeInner records validated coordinated).of_ok ran
  have unclaimed : (claims w).of validated.intent = none := by
    rcases Executor.claims_of_executeInner records ran with ⟨nothing, -, -⟩ | ⟨-, unclaimed, -⟩
    · exact absurd nothing fresh
    · exact unclaimed
  have put : Ends (self.claim validated.intent true) reached (fun _ w' => ClaimedSince (claims w) (claims w'))
      fun w' => claims w' ≠ claims w := by
    refine .request (fun _ w' put => ⟨validated.intent, unclaimed, ?_⟩)
      fun error w' put kept => taken ⟨error, w', put, kept.trans same.symm⟩
    rw [records.put _ _ _ put, Claims.of, Claims.record, if_pos ⟨rfl, rfl⟩]
    rfl
  rw [Executor.executeInner_true]
  refine .bind_returns ran ?_
  rw [if_neg fresh]
  exact .bind put fun _ _ since => .pure ⟨fresh, since⟩

/-- A claim of the call stays while it runs, unless a put that fails takes it back. -/
theorem executeInner_ends_since (validated : ValidatedIntent) (since : ClaimedSince start (claims w)) :
    Ends (self.executeInner validated coordinated true) w (fun _ w' => ClaimedSince start (claims w'))
      fun w' => claims w' = start → TakenBack self sink claims start w' := by
  have frames := Executor.frames_executeInner records validated coordinated
  cases ran : self.executeInner validated coordinated true w with
  | ok events w₁ =>
    refine .inl ⟨events, w₁, ran, ?_⟩
    rcases Executor.claims_of_executeInner records ran with ⟨-, -, same⟩ | ⟨-, -, recorded⟩
    · rwa [same]
    · obtain ⟨intent, free, claimed⟩ := since
      refine ⟨intent, free, ?_⟩
      rw [recorded, if_pos rfl, Claims.of, Claims.record]
      split
      · rfl
      · exact claimed
  | error error w₁ =>
    refine .inr ⟨error, w₁, ran, fun same => ⟨same, ?_⟩⟩
    rw [Executor.executeInner_true, EStateM.bind_eq_error] at ran
    rcases ran with failed | ⟨events, w₂, ran, failed⟩
    · exact absurd ((frames.of_error failed).symm.trans same) since.ne
    · have reached : claims w₂ ≠ start := by
        rw [frames.of_ok ran]
        exact since.ne
      split at failed
      · cases failed
      · simp only [Executor.claim, if_true, EStateM.bind_eq_error, EStateM.pure_apply, reduceCtorEq, and_false,
          exists_false, or_false] at failed
        obtain ⟨storeError, put, -⟩ := request_eq_error.mp failed
        exact ⟨w₂, reached, .inl ⟨_, _, put⟩⟩

/-- A batch of which nothing can be claimed only replays. -/
theorem runBatch_ends_unclaimed {intents : List ValidatedIntent}
    (nothing : ClaimsNothing self claims coordinated intents w) :
    Ends (self.runBatch coordinated true intents) w (fun events w' => events = [] ∧ claims w' = claims w)
      fun w' => claims w' = claims w := by
  induction intents generalizing w with
  | nil => exact .pure ⟨rfl, rfl⟩
  | cons validated rest ih =>
    refine .bind (executeInner_ends_unclaimed records nothing.1) fun _ w₁ first => ?_
    obtain ⟨rfl, replays, same⟩ := first
    refine .bind ((ih (nothing.2 w₁ replays)).mono_crashed fun _ kept => kept.trans same) fun _ w₂ others => ?_
    exact .pure ⟨others.1, others.2.trans same⟩

theorem runBatch_ends_claimed {intents : List ValidatedIntent}
    (claiming : ¬ ClaimsNothing self claims coordinated intents w) :
    Ends (self.runBatch coordinated true intents) w (fun _ w' => claims w' ≠ claims w)
      fun w' => claims w' = claims w → TakenBack self sink claims (claims w) w' := by
  induction intents generalizing w with
  | nil => exact absurd trivial claiming
  | cons validated rest ih =>
    by_cases stopped : ∀ w', Asks self coordinated validated w w' → Refuses self claims validated.intent w'
    · -- The first intent is a replay, and a later one is claimed.
      obtain ⟨w₁, replays, later⟩ : ∃ w₁, Replays self validated w w₁ ∧
          ¬ ClaimsNothing self claims coordinated rest w₁ := by
        simpa [ClaimsNothing] using fun passed => claiming ⟨stopped, passed⟩
      have ran : self.executeInner validated coordinated false w = .ok [] w₁ := replays_iff.mp replays
      have first : self.executeInner validated coordinated true w = .ok [] w₁ := by
        rw [Executor.executeInner_true, EStateM.bind_apply_of_ok ran]
        rfl
      have same := (Executor.frames_executeInner records validated coordinated).of_ok ran
      have others := ih later
      rw [same] at others
      exact .bind_returns first (.bind others fun _ _ changed => .pure changed)
    · simp only [not_forall] at stopped
      obtain ⟨reached, asks, taken⟩ := stopped
      refine .bind ((executeInner_ends_claimed records asks taken).mono_crashed fun _ changed same =>
        absurd same changed) fun _ w₁ first => ?_
      exact .bind (.collect (fun w' => ClaimedSince (claims w) (claims w')) (fun other _ _ since =>
        executeInner_ends_since records other since) first.2) fun _ _ since => .pure since.ne

/-- It stops at a replay, so only its first intent counts. -/
theorem runBatchFailClosed_ends_unclaimed (nothing : ClaimsNothing self claims false [validated] w) :
    Ends (self.runBatchFailClosed true (validated :: rest)) w (fun events w' => events = [] ∧ claims w' = claims w)
      fun w' => claims w' = claims w := by
  refine .bind (executeUnreplayed_ends (executeInner_ends_unclaimed records nothing.1) fun _ ended => ended.2.2) ?_
  exact fun _ _ first => absurd first.2.1 first.1

theorem runBatchFailClosed_ends_claimed (claiming : ¬ ClaimsNothing self claims false [validated] w) :
    Ends (self.runBatchFailClosed true (validated :: rest)) w (fun _ w' => claims w' ≠ claims w)
      fun w' => claims w' = claims w → TakenBack self sink claims (claims w) w' := by
  obtain ⟨reached, asks, taken⟩ : ∃ reached, Asks self false validated w reached ∧
      ¬ Refuses self claims validated.intent reached := by
    simpa [ClaimsNothing] using claiming
  refine .bind ((executeUnreplayed_ends (executeInner_ends_claimed records asks taken) fun _ first =>
    first.2.ne).mono_crashed fun _ changed same => absurd same changed) fun _ w₁ first => ?_
  refine .bind (.collect (fun w' => ClaimedSince (claims w) (claims w')) (fun other _ w₂ since => ?_) first.2.2)
    fun _ _ since => .pure since.ne
  exact (executeUnreplayed_ends (executeInner_ends_since records other since) fun _ since same =>
    absurd same since.ne).mono (fun _ _ ended => ended.2) fun _ => id

theorem claims_of_failed_tenants {label : String}
    {validate : List Atomicity.TenantEventGroup → Except ProfileError Unit}
    (fails : self.executeTenants label coordinated validate intents (some sink) w = .error error w') :
    claims w' = claims w ↔ ClaimsNothing self claims coordinated (DurableCall.tenantOrder intents) w ∨
      TakenBack self sink claims (claims w) w' := by
  simp only [Executor.executeTenants, EStateM.bind_eq_error, liftM_eq_liftExcept, liftExcept_eq_error,
    liftExcept_eq_ok, rejectIf_eq_error, rejectIf_eq_ok] at fails
  rw [DurableCall.tenantOrder]
  rcases fails with ⟨⟨few, -⟩, rfl⟩ | ⟨-, _, ⟨enough, rfl⟩, failed⟩
  · rw [if_pos few]
    exact iff_of_true rfl (.inl trivial)
  · rw [if_neg enough]
    exact claims_of_failed (fun nothing => runCrossTenantLegs_ends (runBatch_ends_unclaimed records nothing))
      (fun claiming => runCrossTenantLegs_ends (runBatch_ends_claimed records claiming)) failed

end Runs

/-- A durable call that fails leaves the intent store as it was exactly when, behind the replays, the first intent is
stopped by a gate or refused by the store, or when the store or the sink takes the claims back as it fails. -/
theorem failed_call_keeps_claims_iff {self : Executor W} {claims : W → Claims}
    {sink : DurableBatchSink W} {call : DurableCall} {w w' : W} (records : self.RecordsClaims claims)
    (fails : call.Fails self sink w w') :
    claims w' = claims w ↔
      ClaimsNothing self claims call.coordinated call.order w ∨ TakenBack self sink claims (claims w) w' := by
  cases call with
  | batch intents =>
    obtain ⟨error, fails⟩ := fails
    cases intents with
    | nil =>
      cases fails
      exact iff_of_true rfl (.inl trivial)
    | cons first rest =>
      exact claims_of_failed (runBatchFailClosed_ends_unclaimed records) (runBatchFailClosed_ends_claimed records) fails
  | settle intents =>
    obtain ⟨error, fails⟩ := fails
    cases intents with
    | nil =>
      cases fails
      exact iff_of_true rfl (.inl trivial)
    | cons first rest =>
      exact claims_of_failed (runBatch_ends_unclaimed records) (runBatch_ends_claimed records) fails
  | crossTenant intents | crossTenantTrade intents manifest =>
    obtain ⟨error, fails⟩ := fails
    exact claims_of_failed_tenants records fails

open Harness

def payStale : ValidatedIntent :=
  intentIn beta "int_stale" "balance.transfer" "bob" gold .fungibleBalance 7
    (textInputs [("amount", "30"), ("to_subject", "alice")])

def failedBatch (intents : List ValidatedIntent) : EStateM.Result ExecutorError Memory (List Event) :=
  (executor .baseline swordTable).executeBatchDurable intents unavailableSink .fresh

theorem rejected_batch_keeps_claims :
    isError (failedBatch [payStale]) ∧
      (finalState (failedBatch [payStale])).claimed = Memory.fresh.claimed := by
  have failed : isError (failedBatch [payStale]) := by decide +kernel
  obtain ⟨error, fails⟩ := eq_error_of_isError failed
  have call : (DurableCall.batch [payStale]).Fails (executor .baseline swordTable) unavailableSink .fresh
      (finalState (failedBatch [payStale])) := ⟨error, fails⟩
  have stopped : isError ((executor .baseline swordTable).executeInner payStale false false .fresh) := by decide +kernel
  have records := (executor_storesClaims .baseline swordTable).toRecordsClaims
  refine ⟨failed, (failed_call_keeps_claims_iff records call).mpr (.inl ⟨fun memory asks => ?_, fun _ _ => trivial⟩)⟩
  obtain ⟨events, -, ran⟩ := asks_iff.mp asks
  cases stopped.symm.trans (congrArg isError ran)

/-- The sink is down, and the intent stays claimed. -/
theorem unpersisted_intent_stays_claimed :
    isError (failedBatch [payGold "int_pay"]) ∧
      (finalState (failedBatch [payGold "int_pay"])).claimed ≠ Memory.fresh.claimed := by
  refine ⟨by decide +kernel, fun same => ?_⟩
  have claimed : (finalState (failedBatch [payGold "int_pay"])).claimed beta ⟨"int_pay"⟩ ≠
      Memory.fresh.claimed beta ⟨"int_pay"⟩ := by decide +kernel
  exact claimed (congrFun (congrFun same beta) ⟨"int_pay"⟩)

end StateChronicle.Verified
