import StateChronicle.Execution.Harness

/-!
# The trade a cross-tenant trade settles

The manifest's trade id is never compared with the inputs of the settlements, so the assets belong to the declared
trade exactly when every settle intent that is not a replay names it.
-/

namespace StateChronicle.Verified

open Domain Execution Foundation Profiles
open Atomicity (TenantEventGroup TradeManifest)

variable {W : Type}

def heldTrade : ResourceState → Option String
  | .uniqueAsset asset => asset.tradeId
  | _ => none

/-- The version-zero state of a custom domain is a state of the domain. -/
def UnbornInDomain (registry : ProfileRegistry) : Prop :=
  ∀ rules ∈ registry.custom, ∀ after unborn,
    rules.executionPolicy.unbornState after = .ok unborn → unborn.stateType = .custom

theorem unbornInDomain_baseline : UnbornInDomain .baseline := by
  intro rules registered
  cases registered

section Settlements

variable {self : Executor W} {intent : Intent} {coordinated : Bool} (acceptance : self.Acceptance intent coordinated)

/-- A custom domain acts on states of its own, which are held for no trade. -/
theorem heldTrade_of_custom (inDomain : UnbornInDomain self.profiles)
    (custom : acceptance.stateType = .custom) : heldTrade acceptance.event.before.state = none := by
  have domain : acceptance.event.before.state.stateType = .custom := by
    cases present : acceptance.current with
    | some projection =>
      have names := acceptance.emitted.names
      rw [present] at names
      change acceptance.event.before = projection.commitment at names
      rw [names]
      exact (((admitted_of_checkLoaded acceptance.admitted).typed projection present).2).trans custom
    | none =>
      have began := (Executor.commitments_eq_ok acceptance.emitted.committed).1
      rw [present] at began
      simp only [Executor.beforeCommitment, Except.bind_eq_ok, Except.mapError_eq_ok, Except.pure_eq_ok] at began
      obtain ⟨unborn, started, _, -, same⟩ := began
      rw [← same]
      have registered : acceptance.rules ∈ self.profiles.custom := by
        rcases ProfileRegistry.resolve_cases acceptance.resolved with ⟨native, -⟩ | ⟨-, registered⟩
        · exact absurd custom native
        · exact registered
      exact inDomain _ registered _ _ started
  cases payload : acceptance.event.before.state <;> rw [payload] at domain <;>
    first | rfl | cases domain

variable (builtin : Builtin acceptance.stateType acceptance.rules)
  (settles : intent.operation = UniqueAsset.op.tradeSettle)

include builtin settles

/-- Only the unique-asset rule sets settle trades, and they check the trade the asset is held for. -/
theorem settle_of_builtin : acceptance.stateType = .uniqueAsset ∧
    UniqueAsset.checkTradeSettle acceptance.current intent.inputs = .ok () := by
  have checked := acceptance.checked
  rw [settles] at checked
  generalize acceptance.rules = rules at builtin checked
  generalize acceptance.stateType = stateType at builtin
  cases builtin with
  | uniqueAsset => exact ⟨rfl, checked⟩
  | paidUniqueAsset =>
    -- The overlay runs after the base rules have passed.
    obtain ⟨⟨⟩, settled, -⟩ := Except.bind_eq_ok.mp checked
    exact ⟨rfl, settled⟩
  | _ => cases checked

theorem companions_of_settle : acceptance.companions = [] :=
  acceptance.companions_of_other builtin (by rw [settles]; decide)

/-- The before-state of a settlement is held for the trade the intent names. -/
theorem heldTrade_of_settle :
    ∃ tradeId, heldTrade acceptance.event.before.state = some tradeId ∧
      intent.inputs.get? "trade_id" = some (.string tradeId) := by
  obtain ⟨-, checked⟩ := settle_of_builtin acceptance builtin settles
  obtain ⟨projection, asset, tradeId, present, isAsset, held, named⟩ :=
    UniqueAsset.settles_held_trade checked
  have names := acceptance.emitted.names
  rw [present] at names
  change acceptance.event.before = projection.commitment at names
  refine ⟨tradeId, ?_, named⟩
  rw [names]
  change heldTrade projection.state = _
  rw [isAsset]
  exact held

end Settlements

/-- A successful cross-tenant trade settles the manifest's trade exactly when every fresh settle
intent is a unique-asset settlement that names it. -/
theorem trade_settles_declared_trade_iff {self : Executor W} {claims : W → Claims}
    {intents : List ValidatedIntent} {manifest : TradeManifest} {groups : List TenantEventGroup}
    {w w' : W} (standard : self.profiles.Standard) (inDomain : UnbornInDomain self.profiles)
    (stores : self.StoresClaims claims)
    (accepted : self.executeCrossTenantTrade intents manifest w = .ok groups w') :
    (∀ group ∈ groups, ∀ event ∈ group.events, event.operation = UniqueAsset.op.tradeSettle →
      heldTrade event.before.state = some manifest.tradeId) ↔
    ∀ validated ∈ intents, validated.intent.operation = UniqueAsset.op.tradeSettle →
      (claims w).of validated.intent = none →
      validated.intent.stateType = some .uniqueAsset ∧
        validated.intent.inputs.get? "trade_id" = some (.string manifest.tradeId) := by
  obtain ⟨w₁, w₂, unchanged, ran, -⟩ := Executor.executeTenants_eq_ok (fun _ => .request (stores.beginMulti _)) accepted
  have assembled := Executor.runCrossTenantLegs_produces stores ran
  rw [unchanged] at assembled
  constructor
  · intro settlesDeclared validated supplied settles unclaimed
    obtain ⟨leg, known, member⟩ := Executor.exists_leg supplied
    obtain ⟨group, there, -, events⟩ := Aligned.exists_right assembled known
    obtain ⟨output, produced, inside⟩ := events.exists_output member
    cases produced with
    | replay claimed =>
      rw [unclaimed] at claimed
      cases claimed
    | fresh _ acceptance =>
      have declared := settlesDeclared group there acceptance.event (inside List.mem_cons_self)
        (acceptance.emitted.operation.trans settles)
      rcases ProfileRegistry.resolve_cases acceptance.resolved with ⟨-, served⟩ | ⟨custom, -⟩
      · have builtin := standard.builtin served
        obtain ⟨tradeId, held, named⟩ := heldTrade_of_settle acceptance builtin settles
        obtain rfl : tradeId = manifest.tradeId := Option.some.inj (held.symm.trans declared)
        exact ⟨(settle_of_builtin acceptance builtin settles).1 ▸ acceptance.typed, named⟩
      · rw [heldTrade_of_custom acceptance inDomain custom] at declared
        cases declared
  · intro namesDeclared group there event inside settles
    obtain ⟨leg, known, -, events⟩ := Aligned.exists_left assembled there
    obtain ⟨validated, member, output, produced, inside, -⟩ := events.exists_intent inside
    cases produced with
    | replay => cases inside
    | fresh unclaimed acceptance =>
      -- Every event of the acceptance has the intent's operation, so the intent settles.
      have operation := (acceptance.stamped inside).2.2
      rw [settles] at operation
      obtain ⟨asset, named⟩ := namesDeclared validated (Executor.mem_of_mem_leg known member)
        operation.symm unclaimed
      have builtin := acceptance.builtin standard (by rw [asset]; decide)
      obtain ⟨tradeId, held, named'⟩ := heldTrade_of_settle acceptance builtin operation.symm
      rw [Executor.Acceptance.events, companions_of_settle acceptance builtin operation.symm,
        List.mem_singleton] at inside
      rw [inside, held, Value.string.inj (Option.some.inj (named'.symm.trans named))]

open Harness

def settledUnder (tradeId : String) : List TenantEventGroup :=
  emitted ((executor .baseline swordTable).executeCrossTenantTrade
    [settleSword "int_settle" [], payGold "int_pay"]
    ⟨tradeId, [⟨sword, ⟨"int_settle"⟩⟩], [⟨gold, "30", ⟨"alice"⟩⟩]⟩ .fresh)

def heldTrades (groups : List TenantEventGroup) : List (Option String) :=
  (Atomicity.settleEvents (groups.flatMap (·.events))).map fun event => heldTrade event.before.state

theorem declared_trade_settled :
    heldTrades (settledUnder "trd_sword") = [some "trd_sword"] ∧
      ∀ group ∈ settledUnder "trd_sword", ∀ event ∈ group.events,
        event.operation = UniqueAsset.op.tradeSettle →
        heldTrade event.before.state = some "trd_sword" := by
  have one : heldTrades (settledUnder "trd_sword") = [some "trd_sword"] := by decide +kernel
  have fresh : settledUnder "trd_sword" ≠ [] := by
    intro none
    rw [none] at one
    cases one
  obtain ⟨memory, returns⟩ := ok_of_emitted_ne_nil fresh
  refine ⟨one, (trade_settles_declared_trade_iff ProfileRegistry.standard_baseline
    unbornInDomain_baseline (executor_storesClaims _ _) returns).mpr ?_⟩
  decide +kernel

/-- The sword of `trd_sword` settles under the manifest of another trade. -/
theorem other_trade_settled :
    heldTrades (settledUnder "trd_other") = [some "trd_sword"] ∧
      ¬ ∀ group ∈ settledUnder "trd_other", ∀ event ∈ group.events,
        event.operation = UniqueAsset.op.tradeSettle →
        heldTrade event.before.state = some "trd_other" := by
  decide +kernel

end StateChronicle.Verified
