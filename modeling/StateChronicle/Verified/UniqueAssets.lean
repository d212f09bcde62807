import StateChronicle.Execution.Harness
import StateChronicle.Profiles.AssetTable

/-!
# Unique assets along a run

Who owns an asset changes only where the present owner is named, under the plain and the paid rules alike.  The
statuses follow the documented table as long as no restriction names a status of its own.
-/

namespace StateChronicle.Verified

open Commit Domain Execution Profiles
open UniqueAsset (Reduces transitionTable restrictTarget)

variable {W : Type}

/-- The intent takes the asset from its owner: by a transfer, or by the settlement of the trade that holds it. -/
structure HandsOver (intent : Intent) (asset : UniqueAssetState) : Prop where
  operation : intent.operation = UniqueAsset.op.assetTransfer ∨ intent.operation = UniqueAsset.op.tradeSettle
  fromOwner : intent.inputs.get? "from_owner" = some (.string asset.owner.name)
  held : asset.status = UniqueAsset.status.tradeHeld → intent.operation = UniqueAsset.op.tradeSettle ∧
    ∃ tradeId, asset.tradeId = some tradeId ∧ intent.inputs.get? "trade_id" = some (.string tradeId)

/-- The owner of the asset at a resource is durable along the steps. -/
structure OwnershipDurable (tenant : TenantId) (resource : ResourceId) (steps : List (RunStep W)) : Prop where
  born : ∀ step ∈ steps, ∀ projection asset, step.table.read ⟨tenant, resource, none⟩ = none →
    step.result.read ⟨tenant, resource, none⟩ = some projection → projection.state = .uniqueAsset asset →
    step.intent.operation = UniqueAsset.op.assetMint
  minted : ∀ earlier step later, steps = earlier ++ step :: later → step.events ≠ [] →
    Addresses step.intent tenant resource → step.intent.operation = UniqueAsset.op.assetMint →
    ∀ prior ∈ earlier, prior.events ≠ [] → ¬ Addresses prior.intent tenant resource
  changed : ∀ step ∈ steps, ∀ projection asset, step.table.read ⟨tenant, resource, none⟩ = some projection →
    projection.state = .uniqueAsset asset →
    (∃ kept, step.result.read ⟨tenant, resource, none⟩ = some kept ∧ kept.state.owner = some asset.owner) ∨
      (Addresses step.intent tenant resource ∧ HandsOver step.intent asset)

section Acceptances

variable {self : Executor W} {intent : Intent} {coordinated : Bool} (acceptance : self.Acceptance intent coordinated)
  (standard : self.profiles.Standard)

include standard

section

variable (typed : acceptance.stateType = .uniqueAsset)

include typed

/-- The rules an intent for a unique asset has passed, and what its operation made of the asset. -/
theorem rules_of_uniqueAsset :
    (acceptance.rules = uniqueAssetRules ∨ acceptance.rules = paidUniqueAssetRules) ∧
      Reduces acceptance.current intent.inputs intent.operation acceptance.after := by
  have builtin := acceptance.builtin standard (by rw [acceptance.typed, typed]; decide)
  have reduced := acceptance.appliedTyped builtin
  rw [typed] at reduced builtin
  refine ⟨?_, UniqueAsset.reduces_of_applyUniqueAsset _ reduced⟩
  generalize acceptance.rules = rules at builtin
  cases builtin with
  | uniqueAsset => exact .inl rfl
  | paidUniqueAsset => exact .inr rfl

theorem plain_check (notDelete : intent.operation ≠ PaidUniqueAsset.op.assetHardDelete)
    (notRestore : intent.operation ≠ UniqueAsset.op.assetRestore) :
    UniqueAsset.check intent.operation acceptance.current intent.inputs = .ok () := by
  have checked := acceptance.checked
  rcases (rules_of_uniqueAsset acceptance standard typed).1 with plain | paid
  · rw [plain] at checked
    exact checked
  · rw [paid] at checked
    exact UniqueAsset.plain_of_paid checked notDelete notRestore

theorem mint_of_unborn (unborn : acceptance.current = none) : intent.operation = UniqueAsset.op.assetMint := by
  have checked := acceptance.checked
  by_cases plain : intent.operation ≠ PaidUniqueAsset.op.assetHardDelete ∧
      intent.operation ≠ UniqueAsset.op.assetRestore
  · by_contra notMint
    obtain ⟨_, present⟩ := UniqueAsset.exists_of_check (plain_check acceptance standard typed plain.1 plain.2) notMint
    cases present.symm.trans unborn
  · -- A hard delete and a restoration are refused without an asset, by either rule set.
    exfalso
    rw [unborn] at checked
    rw [not_and_or, not_not, not_not] at plain
    rcases (rules_of_uniqueAsset acceptance standard typed).1 with rules | rules <;>
      rcases plain with operation | operation <;> rw [rules, operation] at checked <;> cases checked

end

theorem unborn_of_mint (mints : intent.operation = UniqueAsset.op.assetMint) : acceptance.current = none := by
  have hint : intent.operation.stateTypeHint = some .uniqueAsset := by
    rw [mints]
    decide
  have builtin := acceptance.builtin_of_reserved standard (by rw [hint]; rfl)
  have typed := builtin.eq_of_stateTypeHint (builtin.mem_allowedOperations acceptance.checked) hint
  have checked := plain_check acceptance standard typed.symm (by rw [mints]; decide) (by rw [mints]; decide)
  rw [mints] at checked
  exact UniqueAsset.checkMint_eq_ok checked

omit standard in
/-- An intent for a unique asset has passed the rules in the slot of unique assets. -/
theorem checked_by_slot (typed : acceptance.stateType = .uniqueAsset) :
    self.profiles.uniqueAsset.check intent.operation acceptance.current intent.inputs = .ok () := by
  have checked := acceptance.checked
  rcases ProfileRegistry.resolve_cases acceptance.resolved with ⟨-, served⟩ | ⟨custom, -⟩
  · rw [typed] at served
    rwa [← Option.some.inj (served : some self.profiles.uniqueAsset = _)] at checked
  · rw [typed] at custom
    cases custom

section Present

variable {projection : StateProjection} {asset : UniqueAssetState} (present : acceptance.current = some projection)
  (isAsset : projection.state = .uniqueAsset asset)

include present isAsset

omit standard in
theorem uniqueAsset_of_current : acceptance.stateType = .uniqueAsset := by
  rw [← ((admitted_of_checkLoaded acceptance.admitted).typed projection present).2, isAsset]
  rfl

theorem hands_over_of_transfer (transfers : intent.operation = UniqueAsset.op.assetTransfer) :
    HandsOver intent asset := by
  have typed := uniqueAsset_of_current acceptance present isAsset
  have checked := plain_check acceptance standard typed (by rw [transfers]; decide) (by rw [transfers]; decide)
  rw [transfers] at checked
  obtain ⟨source, owner, allowed, recorded, named⟩ := UniqueAsset.owner_of_checkTransfer checked
  obtain rfl := Option.some.inj ((current_of_requireFrom allowed).symm.trans present)
  refine ⟨.inl transfers, ?_, fun held => ?_⟩
  · rw [UniqueAsset.owner_of_stateStr isAsset recorded]
    exact named
  · -- What is transferred is active, not held.
    obtain ⟨status, active, found⟩ := status_of_requireFrom allowed
    rw [isAsset] at found
    obtain rfl := Option.some.inj found
    rw [held] at active
    exact absurd active (by decide)

theorem hands_over_of_settle (settles : intent.operation = UniqueAsset.op.tradeSettle) : HandsOver intent asset := by
  have typed := uniqueAsset_of_current acceptance present isAsset
  have checked := plain_check acceptance standard typed (by rw [settles]; decide) (by rw [settles]; decide)
  rw [settles] at checked
  obtain ⟨source, owner, allowed, recorded, named⟩ := UniqueAsset.owner_of_checkTradeSettle checked
  obtain ⟨held, traded, tradeId, current, isTraded, stored, matching⟩ := UniqueAsset.settles_held_trade checked
  obtain rfl := Option.some.inj ((current_of_requireFrom allowed).symm.trans present)
  obtain rfl := Option.some.inj (current.symm.trans present)
  obtain rfl := ResourceState.uniqueAsset.inj (isTraded.symm.trans isAsset)
  refine ⟨.inr settles, ?_, fun _ => ⟨settles, tradeId, stored, matching⟩⟩
  rw [UniqueAsset.owner_of_stateStr isAsset recorded]
  exact named

/-- An accepted intent leaves the owner in place, or takes the asset over from them. -/
theorem keeps_or_hands_over : acceptance.after.owner = some asset.owner ∨ HandsOver intent asset := by
  have typed := uniqueAsset_of_current acceptance present isAsset
  obtain ⟨-, reduces⟩ := rules_of_uniqueAsset acceptance standard typed
  rw [present] at reduces
  generalize acceptance.after = after at reduces
  generalize operated : intent.operation = operation at reduces
  cases reduces with
  | handed hands named =>
    right
    simp only [UniqueAsset.handingOperations, List.mem_cons, List.not_mem_nil, or_false] at hands
    rcases hands with rfl | rfl | rfl
    · rw [unborn_of_mint acceptance standard operated] at present
      cases present
    · exact hands_over_of_transfer acceptance standard present isAsset operated
    · exact hands_over_of_settle acceptance standard present isAsset operated
  | moved row owned | restricted owned | held owned named =>
    rw [UniqueAsset.owner_of_ownerBefore isAsset owned]
    exact .inl rfl
  | kept content same =>
    obtain rfl : projection.state = _ := Option.some.inj same
    rw [isAsset]
    exact .inl rfl

end Present

end Acceptances

/-- Along every run, under the plain and the paid rules, an asset begins with a mint and changes hands only by a
transfer or a settlement that names its present owner, and by the settlement of its own trade while it is held. -/
theorem ownership_durable {start table : StateTable} {steps : List (RunStep W)} (run : Executed start steps table)
    (tenant : TenantId) (resource : ResourceId) : OwnershipDurable tenant resource steps := by
  refine ⟨fun step member projection asset unborn written isAsset => ?_, ?_,
    fun step member projection asset stored isAsset => ?_⟩
  · have accepted := (run.before member).1
    rcases accepted.resource_cases tenant resource with ⟨-, kept⟩ | ⟨acceptance, -, -, current, next, read, state⟩
    · rw [kept, unborn] at written
      cases written
    · obtain rfl := Option.some.inj (read.symm.trans written)
      have typed : acceptance.stateType = .uniqueAsset := by
        rw [← acceptance.after_stateType, ← state, isAsset]
        rfl
      exact mint_of_unborn acceptance accepted.standard typed (current.trans unborn)
  · rintro earlier step later rfl fresh addressed mints prior member priorFresh priorAddressed
    obtain ⟨ran, accepted, -⟩ := run.split
    have taken := ran.isSome_of_addressed member priorFresh priorAddressed
    rcases accepted.resource_cases tenant resource with ⟨replayed | elsewhere, -⟩ | ⟨acceptance, -, -, current, -⟩
    · exact absurd replayed fresh
    · exact absurd addressed elsewhere
    · rw [← current, unborn_of_mint acceptance accepted.standard mints] at taken
      cases taken
  · have accepted := (run.before member).1
    rcases accepted.resource_cases tenant resource with ⟨-, kept⟩ |
      ⟨acceptance, -, addressed, current, next, read, state⟩
    · exact .inl ⟨projection, kept.trans stored, by rw [isAsset]; rfl⟩
    · rcases keeps_or_hands_over acceptance accepted.standard (current.trans stored) isAsset with same | handed
      · exact .inl ⟨next, read, state ▸ same⟩
      · exact .inr ⟨addressed, handed⟩

/-! ## The transition table -/

/-- The intent is for the unique asset at a resource. -/
def OnAsset (intent : Intent) (tenant : TenantId) (resource : ResourceId) : Prop :=
  intent.tenantId = tenant ∧ intent.resourceId = resource ∧ intent.stateType = some .uniqueAsset

/-- The steps on an asset follow the documented table, and the states they reach have a status of the table and a
trade exactly while they are held for it. -/
structure FollowsTable (tenant : TenantId) (resource : ResourceId) (steps : List (RunStep W)) : Prop where
  moves : ∀ step ∈ steps, step.events ≠ [] → OnAsset step.intent tenant resource →
    ∃ row ∈ transitionTable, row.operation = step.intent.operation ∧
      row.Admits (step.table.read ⟨tenant, resource, none⟩) ∧
      ∃ projection, step.result.read ⟨tenant, resource, none⟩ = some projection ∧
        projection.state.status = some row.target
  reaches : ∀ step ∈ steps, ∀ projection asset, step.result.read ⟨tenant, resource, none⟩ = some projection →
    projection.state = .uniqueAsset asset →
    asset.status ∈ transitionTable.map (·.target) ∧ (asset.status = UniqueAsset.status.tradeHeld ↔ asset.tradeId.isSome)

/-- No restriction of the asset names another status than `restricted`. -/
def RestrictsPlainly (tenant : TenantId) (resource : ResourceId) (steps : List (RunStep W)) : Prop :=
  ∀ step ∈ steps, step.events ≠ [] → OnAsset step.intent tenant resource →
    step.intent.operation = UniqueAsset.op.assetRestrict →
    restrictTarget step.intent.inputs = UniqueAsset.status.restricted

section Table

variable {step : RunStep W} {tenant : TenantId} {resource : ResourceId}

theorem addresses_of_onAsset {intent : Intent} (onAsset : OnAsset intent tenant resource) :
    Addresses intent tenant resource :=
  ⟨onAsset.1, onAsset.2.1, _, onAsset.2.2, rfl⟩

/-- A fresh step on an asset under the plain rules: the row that admits it, and what it writes. -/
theorem step_on_asset (accepted : step.Accepted) (plain : step.executor.profiles.uniqueAsset = uniqueAssetRules)
    (fresh : step.events ≠ []) (onAsset : OnAsset step.intent tenant resource) :
    ∃ row ∈ transitionTable, row.operation = step.intent.operation ∧
      row.Admits (step.table.read ⟨tenant, resource, none⟩) ∧
      ∃ projection, step.result.read ⟨tenant, resource, none⟩ = some projection ∧
        Reduces (step.table.read ⟨tenant, resource, none⟩) step.intent.inputs step.intent.operation
          projection.state := by
  rcases accepted.resource_cases tenant resource with ⟨replayed | elsewhere, -⟩ |
    ⟨acceptance, -, -, current, projection, read, state⟩
  · exact absurd replayed fresh
  · exact absurd (addresses_of_onAsset onAsset) elsewhere
  · have typed : acceptance.stateType = .uniqueAsset :=
      Option.some.inj (acceptance.typed.symm.trans onAsset.2.2)
    obtain ⟨-, reduces⟩ := rules_of_uniqueAsset acceptance accepted.standard typed
    have checked := checked_by_slot acceptance typed
    rw [plain] at checked
    rw [current] at checked reduces
    obtain ⟨row, listed, named, admits⟩ := UniqueAsset.row_of_check checked
    exact ⟨row, listed, named, admits, projection, read, state ▸ reduces⟩

/-- The asset at a resource, if there is one, has a status of the table and a trade exactly while it is held. -/
def Orderly (tenant : TenantId) (resource : ResourceId) (table : StateTable) : Prop :=
  ∀ projection asset, table.read ⟨tenant, resource, none⟩ = some projection → projection.state = .uniqueAsset asset →
    asset.status ∈ transitionTable.map (·.target) ∧ (asset.status = UniqueAsset.status.tradeHeld ↔ asset.tradeId.isSome)

theorem orderly_step (accepted : step.Accepted) (plain : step.executor.profiles.uniqueAsset = uniqueAssetRules)
    (restricts : step.events ≠ [] → OnAsset step.intent tenant resource →
      step.intent.operation = UniqueAsset.op.assetRestrict →
      restrictTarget step.intent.inputs = UniqueAsset.status.restricted)
    (orderly : Orderly tenant resource step.table) : Orderly tenant resource step.result := by
  intro projection asset read isAsset
  rcases accepted.resource_cases tenant resource with ⟨-, kept⟩ |
    ⟨acceptance, emitted, ⟨sameTenant, sameResource, -⟩, -, written, readWritten, state⟩
  · exact orderly projection asset (kept ▸ read) isAsset
  · have fresh : step.events ≠ [] := emitted ▸ List.cons_ne_nil _ _
    have typed : step.intent.stateType = some .uniqueAsset := by
      obtain rfl := Option.some.inj (readWritten.symm.trans read)
      rw [acceptance.typed, ← acceptance.after_stateType, ← state, isAsset]
      rfl
    have onAsset : OnAsset step.intent tenant resource := ⟨sameTenant, sameResource, typed⟩
    obtain ⟨row, listed, named, admits, next, readNext, reduces⟩ := step_on_asset accepted plain fresh onAsset
    obtain rfl := Option.some.inj (readNext.symm.trans read)
    have plainly := restricts fresh onAsset
    rw [← named] at reduces plainly
    have reached := UniqueAsset.status_of_reduces reduces listed admits plainly
    rw [isAsset] at reached
    refine ⟨?_, ?_⟩
    · rw [Option.some.inj reached]
      exact List.mem_map_of_mem listed
    · refine UniqueAsset.tradeRecorded_of_reduces reduces (fun before stored kept wasAsset => ?_) plainly asset isAsset
      exact (orderly before kept stored wasAsset).2

end Table

/-- From an unborn asset, a run under the plain rules follows the documented table exactly when no restriction
names another status than `restricted`. -/
theorem follows_table_iff {start table : StateTable} {steps : List (RunStep W)} {tenant : TenantId}
    {resource : ResourceId} (run : Executed start steps table)
    (unborn : start.read ⟨tenant, resource, none⟩ = none)
    (plain : ∀ step ∈ steps, step.executor.profiles.uniqueAsset = uniqueAssetRules) :
    FollowsTable tenant resource steps ↔ RestrictsPlainly tenant resource steps := by
  constructor
  · intro follows step member fresh onAsset restricts
    have target : ∀ row ∈ transitionTable, row.operation = UniqueAsset.op.assetRestrict →
        row.target = UniqueAsset.status.restricted := by decide
    obtain ⟨row, listed, named, -, projection, read, reached⟩ := follows.moves step member fresh onAsset
    obtain ⟨-, -, -, -, written, readWritten, reduces⟩ :=
      step_on_asset (run.before member).1 (plain step member) fresh onAsset
    obtain rfl := Option.some.inj (readWritten.symm.trans read)
    rw [restricts] at reduces named
    rw [UniqueAsset.status_of_restricted reduces, target row listed named] at reached
    exact Option.some.inj reached
  · intro restricts
    have first : Orderly tenant resource start := by
      intro projection asset read
      rw [unborn] at read
      cases read
    have keeps : ∀ step ∈ steps, step.Accepted → Orderly tenant resource step.table →
        Orderly tenant resource step.result := fun step member accepted =>
      orderly_step accepted (plain step member) (restricts step member)
    refine ⟨fun step member fresh onAsset => ?_, fun step member => ?_⟩
    · obtain ⟨row, listed, named, admits, projection, read, reduces⟩ :=
        step_on_asset (run.before member).1 (plain step member) fresh onAsset
      have plainly := restricts step member fresh onAsset
      rw [← named] at reduces plainly
      exact ⟨row, listed, named, admits, projection, read,
        UniqueAsset.status_of_reduces reduces listed admits plainly⟩
    · exact keeps step member (run.before member).1 (run.invariant_at first keeps member)

open Harness

def mintSword : ValidatedIntent := intent "int_mint" "asset.mint" "alice" sword .uniqueAsset 0 [("to_owner", "alice")]

def tradeIntents : List ValidatedIntent :=
  [mintSword,
    intent "int_hold" "trade.lock" "alice" sword .uniqueAsset 1 [("from_owner", "alice"), ("trade_id", "trd_sword")],
    authorized (intent "int_settle" "trade.settle" "alice" sword .uniqueAsset 2
      [("from_owner", "alice"), ("to_owner", "bob"), ("trade_id", "trd_sword")])]

def swordTraded : List (RunStep Memory) := runOf .baseline ∅ .fresh tradeIntents

theorem swordTraded_executed : Executed ∅ swordTraded (tableAfter ∅ swordTraded) :=
  executed_baseline (by decide +kernel)

theorem sword_ownership_durable : OwnershipDurable tenant sword swordTraded :=
  ownership_durable swordTraded_executed tenant sword

theorem sword_follows_table : FollowsTable tenant sword swordTraded := by
  have unrestricted : ∀ validated ∈ tradeIntents,
      validated.intent.operation ≠ UniqueAsset.op.assetRestrict := by decide
  refine (follows_table_iff swordTraded_executed rfl fun step member => ?_).mpr fun step member _ _ restricts => ?_
  · rw [(mem_runOf member).1]
    rfl
  · exact absurd restricts (unrestricted _ (mem_runOf member).2)

def swordRestricted : List (RunStep Memory) :=
  runOf .baseline ∅ .fresh
    [mintSword, intent "int_restrict" "asset.restrict" "alice" sword .uniqueAsset 1 [("status", "trade_held")]]

/-- The sword is held for a trade that does not exist. -/
theorem restricted_sword_held :
    Executed ∅ swordRestricted (tableAfter ∅ swordRestricted) ∧
      ((tableAfter ∅ swordRestricted).read ⟨tenant, sword, none⟩).map (·.state) =
        some (.uniqueAsset ⟨⟨"alice"⟩, UniqueAsset.status.tradeHeld, none⟩) ∧
      ¬ FollowsTable tenant sword swordRestricted := by
  refine And.imp executed_baseline (fun held => ⟨held, fun follows => ?_⟩) (by decide +kernel)
  obtain ⟨projection, read, state⟩ := Option.map_eq_some_iff.mp held
  obtain ⟨last, final⟩ : ∃ step ∈ swordRestricted, step.result = tableAfter ∅ swordRestricted :=
    ⟨_, List.mem_cons_of_mem _ List.mem_cons_self, rfl⟩
  have coupled := (follows.reaches last final.1 projection _ (final.2 ▸ read) state).2
  exact absurd (coupled.mp rfl) Bool.false_ne_true

end StateChronicle.Verified
