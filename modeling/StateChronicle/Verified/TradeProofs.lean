import Mathlib.Data.List.Dedup
import StateChronicle.Proofs.Trade
import StateChronicle.Verified.StateProofs

/-!
# What an accepted trade proof covers

The verifier of trade proofs compares counts, and counts do not tell proofs apart, so an accepted proof may show one
asset twice and another never.  It covers what it declares when as many state proofs are wasted as the counts leave
over, and in the simplest case when none is.
-/

namespace StateChronicle.Verified

open Domain Foundation Proofs

variable {verifier : Verifier} {commitsById : SortedMap String (Signed Commit × VerifyingKey)} {proof : TradeProof}
  {side : TradeSide} {asset : ResourceId}

def stateProofs (proof : TradeProof) : List ResourceStateProof := proof.legs.flatMap (·.stateProofs)

/-- A verified state proof of the trade proof shows the asset settled on its side. -/
def Covers (verifier : Verifier) (commitsById : SortedMap String (Signed Commit × VerifyingKey))
    (proof : TradeProof) (side : TradeSide) (asset : ResourceId) : Prop :=
  ∃ stateProof ∈ stateProofs proof, verifier.verifyOwnCommit commitsById stateProof = .ok () ∧
    stateProof.tenantId = side.tenant ∧ stateProof.resourceId = asset ∧
    ownerOf stateProof.claimedState = .ok side.toOwner ∧
    stateProof.latestEvent.operation.name = "trade.settle"

def CoversAll (verifier : Verifier) (commitsById : SortedMap String (Signed Commit × VerifyingKey))
    (proof : TradeProof) : Prop :=
  ∀ side ∈ proof.summary.sides, ∀ asset ∈ side.settleAssets, Covers verifier commitsById proof side asset

/-- The tenant, the resource and the owner that a state proof shows. -/
def shows (stateProof : ResourceStateProof) : TenantId × ResourceId × Except ProofError String :=
  (stateProof.tenantId, stateProof.resourceId, ownerOf stateProof.claimedState)

def shown (proof : TradeProof) : List (TenantId × ResourceId × Except ProofError String) :=
  (stateProofs proof).map shows

/-- What the summary declares: each asset of a side, in the side's tenant and under its new owner. -/
def declared (proof : TradeProof) : List (TenantId × ResourceId × Except ProofError String) :=
  proof.summary.sides.flatMap fun side => side.settleAssets.map fun asset => (side.tenant, asset, .ok side.toOwner)

/-- The number of state proofs that add nothing: they show what is not declared, or what another one shows. -/
def wasted (proof : TradeProof) : ℕ :=
  (shown proof).length - ((shown proof).filter fun key => key ∈ declared proof).dedup.length

/-- The number of state proofs that the verifier counts on: for each leg, one for each asset of the leg's side. -/
def asked (proof : TradeProof) : ℕ :=
  (proof.legs.map fun leg => ((proof.summary.sides.find? fun side => side.tenant = leg.tenant).map
    (·.settleAssets.length)).getD 0).sum

/-- One leg for a tenant, one state proof for a resource of the leg, and each in the tenant of its leg.  The verifier
checks none of the three. -/
structure OneEach (proof : TradeProof) : Prop where
  legs : (proof.legs.map (·.tenant)).Nodup
  resources : ∀ leg ∈ proof.legs, (leg.stateProofs.map (·.resourceId)).Nodup
  tenants : ∀ leg ∈ proof.legs, ∀ stateProof ∈ leg.stateProofs, stateProof.tenantId = leg.tenant

/-- Every side is listed once and settles assets that are listed once, and no two sides settle an asset of the same
name for the same owner. -/
structure Separate (summary : TradeSummary) : Prop where
  sides : summary.sides.Nodup
  assets : ∀ side ∈ summary.sides, side.settleAssets ≠ [] ∧ side.settleAssets.Nodup
  apart : ∀ side ∈ summary.sides, ∀ side' ∈ summary.sides, ∀ asset ∈ side.settleAssets, asset ∈ side'.settleAssets →
    side.toOwner = side'.toOwner → side = side'

/-- A sublist up to repetition and order reaches every element once the counts agree. -/
theorem subset_iff_dedup_length_eq {α : Type} [DecidableEq α] {part whole : List α} (included : part ⊆ whole) :
    whole ⊆ part ↔ part.dedup.length = whole.dedup.length := by
  have subset : part.dedup ⊆ whole.dedup := fun a listed =>
    List.mem_dedup.mpr (included (List.mem_dedup.mp listed))
  have subperm := List.subperm_of_subset part.nodup_dedup subset
  constructor
  · intro reached
    have back : whole.dedup ⊆ part.dedup := fun a listed =>
      List.mem_dedup.mpr (reached (List.mem_dedup.mp listed))
    exact subperm.length_le.antisymm (List.subperm_of_subset whole.nodup_dedup back).length_le
  · intro count a listed
    have perm := subperm.perm_of_length_le count.ge
    exact List.mem_dedup.mp (perm.mem_iff.mpr (List.mem_dedup.mpr listed))

section Accepted

variable (accepted : verifier.verifyTradeProof proof commitsById = .ok ())

include accepted

/-- What acceptance says of a leg: its side, and each of its state proofs. -/
theorem settles_of_accepted {leg : TradeProofLeg} (listed : leg ∈ proof.legs) :
    ∃ side ∈ proof.summary.sides, (proof.summary.sides.find? fun side => side.tenant = leg.tenant) = some side ∧
      side.tenant = leg.tenant ∧ leg.stateProofs.length = side.settleAssets.length ∧
      ∀ stateProof ∈ leg.stateProofs, verifier.Settles commitsById side stateProof := by
  obtain ⟨_, _, _, legs⟩ := Verifier.verifyTradeProof_eq_ok.mp accepted
  obtain ⟨side, found, count, settles⟩ := legs leg listed
  have tenant : side.tenant = leg.tenant := by simpa using List.find?_some found
  exact ⟨side, List.mem_of_find?_eq_some found, found, tenant, count, settles⟩

/-- In an accepted proof, showing an asset is covering it. -/
theorem covers_iff_shown :
    Covers verifier commitsById proof side asset ↔ (side.tenant, asset, .ok side.toOwner) ∈ shown proof := by
  simp only [shown, shows, List.mem_map, Prod.mk.injEq]
  constructor
  · rintro ⟨stateProof, listed, _, tenant, resource, owned, _⟩
    exact ⟨stateProof, listed, tenant, resource, owned⟩
  · rintro ⟨stateProof, listed, tenant, resource, owned⟩
    obtain ⟨leg, legListed, inLeg⟩ := List.mem_flatMap.mp listed
    obtain ⟨_, _, _, _, _, settles⟩ := settles_of_accepted accepted legListed
    exact ⟨stateProof, listed, (settles stateProof inLeg).verified, tenant, resource, owned,
      (settles stateProof inLeg).settled⟩

theorem length_shown : (shown proof).length = asked proof := by
  rw [shown, List.length_map, stateProofs, List.length_flatMap, asked]
  refine congrArg List.sum (List.map_congr_left fun leg listed => ?_)
  obtain ⟨_, _, found, _, count, _⟩ := settles_of_accepted accepted listed
  rw [found, count]
  rfl

theorem coversAll_iff_wasted :
    CoversAll verifier commitsById proof ↔ wasted proof + (declared proof).dedup.length = asked proof := by
  have useful : (shown proof).filter (fun key => key ∈ declared proof) ⊆ declared proof := by
    intro key listed
    simpa using (List.mem_filter.mp listed).2
  have fewer := (List.dedup_sublist ((shown proof).filter fun key => key ∈ declared proof)).length_le.trans
    (List.length_filter_le _ (shown proof))
  have covered : CoversAll verifier commitsById proof ↔
      declared proof ⊆ (shown proof).filter (fun key => key ∈ declared proof) := by
    simp only [CoversAll, covers_iff_shown accepted, List.subset_def, declared, List.mem_filter, List.mem_flatMap,
      List.mem_map, decide_eq_true_eq]
    constructor
    · rintro covered _ ⟨side, listed, asset, settled, rfl⟩
      exact ⟨covered side listed asset settled, side, listed, asset, settled, rfl⟩
    · exact fun covered side listed asset settled => (covered ⟨side, listed, asset, settled, rfl⟩).1
  rw [covered, subset_iff_dedup_length_eq useful, ← length_shown accepted, wasted]
  omega

/-- With one leg for a tenant, every side has its own. -/
theorem exists_leg_of_oneEach (once : (proof.legs.map (·.tenant)).Nodup) :
    (proof.summary.sides.map (·.tenant)).Nodup ∧
      ∀ side ∈ proof.summary.sides, ∃ leg ∈ proof.legs, leg.tenant = side.tenant := by
  obtain ⟨_, _, count, _⟩ := Verifier.verifyTradeProof_eq_ok.mp accepted
  have subset : proof.legs.map (·.tenant) ⊆ proof.summary.sides.map (·.tenant) := by
    intro tenant member
    obtain ⟨leg, legListed, rfl⟩ := List.mem_map.mp member
    obtain ⟨side, sideListed, _, same, _⟩ := settles_of_accepted accepted legListed
    exact List.mem_map.mpr ⟨side, sideListed, same⟩
  have perm := (List.subperm_of_subset once subset).perm_of_length_le (by simp [count])
  exact ⟨perm.nodup_iff.mp once, fun side listed => List.mem_map.mp (perm.mem_iff.mpr (List.mem_map_of_mem listed))⟩

theorem coversAll_of_oneEach (once : OneEach proof) : CoversAll verifier commitsById proof := by
  intro side listed asset settled
  obtain ⟨sides, legs⟩ := exists_leg_of_oneEach accepted once.legs
  obtain ⟨leg, legListed, tenant⟩ := legs side listed
  obtain ⟨side', listed', _, same, count, settles⟩ := settles_of_accepted accepted legListed
  obtain rfl := List.inj_on_of_nodup_map sides listed' listed (same.trans tenant)
  have subset : leg.stateProofs.map (·.resourceId) ⊆ side'.settleAssets := by
    intro resource member
    obtain ⟨stateProof, inLeg, rfl⟩ := List.mem_map.mp member
    exact (settles stateProof inLeg).declared
  have perm := (List.subperm_of_subset (once.resources leg legListed) subset).perm_of_length_le (by simp [count])
  obtain ⟨stateProof, inLeg, rfl⟩ := List.mem_map.mp (perm.mem_iff.mpr settled)
  exact ⟨stateProof, List.mem_flatMap.mpr ⟨leg, legListed, inLeg⟩, (settles stateProof inLeg).verified,
    (once.tenants leg legListed stateProof inLeg).trans tenant, rfl, (settles stateProof inLeg).owned,
    (settles stateProof inLeg).settled⟩

section Separate

variable (separate : Separate proof.summary) (covered : CoversAll verifier commitsById proof)

include separate covered

/-- An asset and its new owner name the side, so the state proof that covers an asset is in a leg of the side. -/
theorem leg_of_covered (listed : side ∈ proof.summary.sides) (settled : asset ∈ side.settleAssets) :
    ∃ leg ∈ proof.legs, (proof.summary.sides.find? fun side => side.tenant = leg.tenant) = some side ∧
      leg.tenant = side.tenant ∧ ∃ stateProof ∈ leg.stateProofs, stateProof.resourceId = asset ∧
        stateProof.tenantId = side.tenant := by
  obtain ⟨stateProof, shown, _, tenant, resource, owned, _⟩ := covered side listed asset settled
  obtain ⟨leg, legListed, inLeg⟩ := List.mem_flatMap.mp shown
  obtain ⟨side', listed', found, same, _, settles⟩ := settles_of_accepted accepted legListed
  have owner : side'.toOwner = side.toOwner := by
    simpa [(settles stateProof inLeg).owned] using owned
  obtain rfl := separate.apart side' listed' side listed asset (resource ▸ (settles stateProof inLeg).declared) settled
    owner
  exact ⟨leg, legListed, found, same.symm, stateProof, inLeg, resource, tenant⟩

/-- Every side has a leg, and is the first of its tenant. -/
theorem exists_leg_of_covered (listed : side ∈ proof.summary.sides) : ∃ leg ∈ proof.legs, leg.tenant = side.tenant ∧
    (proof.summary.sides.find? fun other => other.tenant = side.tenant) = some side := by
  obtain ⟨asset, settled⟩ := List.exists_mem_of_ne_nil _ (separate.assets side listed).1
  obtain ⟨leg, legListed, found, tenant, _⟩ := leg_of_covered accepted separate covered listed settled
  exact ⟨leg, legListed, tenant, tenant ▸ found⟩

theorem nodup_legs_of_covered : (proof.legs.map (·.tenant)).Nodup := by
  obtain ⟨_, _, count, _⟩ := Verifier.verifyTradeProof_eq_ok.mp accepted
  have sides : (proof.summary.sides.map (·.tenant)).Nodup := by
    refine separate.sides.map_on fun side listed side' listed' same => ?_
    obtain ⟨_, _, _, found⟩ := exists_leg_of_covered accepted separate covered listed
    obtain ⟨_, _, _, found'⟩ := exists_leg_of_covered accepted separate covered listed'
    exact Option.some.inj (found.symm.trans (same ▸ found'))
  have subset : proof.summary.sides.map (·.tenant) ⊆ proof.legs.map (·.tenant) := by
    intro tenant member
    obtain ⟨side, listed, rfl⟩ := List.mem_map.mp member
    obtain ⟨leg, legListed, same, _⟩ := exists_leg_of_covered accepted separate covered listed
    exact List.mem_map.mpr ⟨leg, legListed, same⟩
  exact ((List.subperm_of_subset sides subset).perm_of_length_le (by simp [count])).nodup_iff.mp sides

/-- Each asset of a leg's side takes a state proof of the leg, of the leg's tenant, and none is left. -/
theorem proofs_of_covered {leg : TradeProofLeg} (legListed : leg ∈ proof.legs) :
    (leg.stateProofs.map (·.resourceId)).Nodup ∧
      ∀ stateProof ∈ leg.stateProofs, stateProof.tenantId = leg.tenant := by
  obtain ⟨side, listed, _, tenant, counted, _⟩ := settles_of_accepted accepted legListed
  have nodup := (separate.assets side listed).2
  have subset : side.settleAssets ⊆
      (leg.stateProofs.filter fun stateProof => stateProof.tenantId = leg.tenant).map (·.resourceId) := by
    intro asset settled
    obtain ⟨leg', legListed', _, same, stateProof, inLeg, resource, ofTenant⟩ :=
      leg_of_covered accepted separate covered listed settled
    obtain rfl := List.inj_on_of_nodup_map (nodup_legs_of_covered accepted separate covered) legListed' legListed
      (same.trans tenant)
    exact List.mem_map.mpr ⟨stateProof, List.mem_filter.mpr ⟨inLeg, by simp [ofTenant, tenant]⟩, resource⟩
  have fewer := (List.subperm_of_subset nodup subset).length_le
  rw [List.length_map, ← counted] at fewer
  have all := List.filter_eq_self.mp (List.filter_sublist.eq_of_length_le fewer)
  rw [List.filter_eq_self.mpr all] at subset
  exact ⟨((List.subperm_of_subset nodup subset).perm_of_length_le (by simp [counted])).nodup_iff.mp nodup,
    fun stateProof inLeg => by simpa using all stateProof inLeg⟩

theorem oneEach_of_coversAll : OneEach proof where
  legs := nodup_legs_of_covered accepted separate covered
  resources _ listed := (proofs_of_covered accepted separate covered listed).1
  tenants _ listed := (proofs_of_covered accepted separate covered listed).2

end Separate

end Accepted

/-- An accepted trade proof covers every settled asset exactly when its wasted state proofs are as many as the counts
of the verifier leave over.  One leg for each tenant, with one state proof of that tenant for each resource, is always
enough, and it is needed when the summary settles no asset twice for one owner. -/
theorem accepted_trade_proof_covers_iff (accepted : verifier.verifyTradeProof proof commitsById = .ok ()) :
    (CoversAll verifier commitsById proof ↔ wasted proof + (declared proof).dedup.length = asked proof) ∧
      (OneEach proof → CoversAll verifier commitsById proof) ∧
      (Separate proof.summary → (CoversAll verifier commitsById proof ↔ OneEach proof)) :=
  ⟨coversAll_iff_wasted accepted, coversAll_of_oneEach accepted, fun separate =>
    ⟨oneEach_of_coversAll accepted separate, coversAll_of_oneEach accepted⟩⟩

/-! ### The settlement of one asset -/

def swordSide (assets : List ResourceId) : TradeSide where
  tenant := ⟨"tenant:acme"⟩
  settleAssets := assets
  fromOwner := "account:player_123"
  toOwner := "account:player_456"
  settleCommit := swordReference
  settleCommitsByAsset := .ofList (assets.map fun asset => (asset, swordReference))
  settleEventIds := [swordProjection.lastEventId]

def swordTradeProof (assets : List ResourceId) (stateProofs : List ResourceStateProof) : TradeProof where
  schema := tradeProofSchema
  tradeId := "trade_001"
  summary := ⟨"trade_001", .settled, [swordSide assets], []⟩
  legs := [⟨⟨"tenant:acme"⟩, swordReference, stateProofs⟩]

def commitsOf (signed : Signed Commit) : SortedMap String (Signed Commit × VerifyingKey) :=
  SortedMap.empty.insert signed.body.commitId.name (signed, swordVerifyingKey)

theorem commitsOf_get? (signed : Signed Commit) :
    (commitsOf signed).get? signed.body.commitId.name = some (signed, swordVerifyingKey) := by
  rw [commitsOf, SortedMap.get?_insert]
  exact if_pos rfl

def swordCommits : SortedMap String (Signed Commit × VerifyingKey) := commitsOf swordCommit

def swordAsset : ResourceId := ⟨"asset:sword_001"⟩

def shieldAsset : ResourceId := ⟨"asset:shield_002"⟩

theorem swordProof_settles {assets : List ResourceId} (declared : swordAsset ∈ assets) :
    swordVerifier.Settles swordCommits (swordSide assets) (swordProof settleOperation) where
  verified := by
    have derived : deriveStateKey swordVerifier.sha256 (swordProof settleOperation) = .ok swordKey := by
      rw [← swordKey_eq]
      rfl
    exact Verifier.verifyOwnCommit_eq_ok.mpr
      ⟨swordCommit, swordVerifyingKey, swordKey, commitsOf_get? swordCommit, derived, swordProof_accepted (by decide)⟩
  declared := declared
  owned := rfl
  settled := rfl

theorem swordTradeProof_accepted {assets : List ResourceId} {stateProofs : List ResourceStateProof}
    (declared : swordAsset ∈ assets) (count : stateProofs.length = assets.length)
    (each : ∀ stateProof ∈ stateProofs, stateProof = swordProof settleOperation) :
    swordVerifier.verifyTradeProof (swordTradeProof assets stateProofs) swordCommits = .ok () := by
  refine Verifier.verifyTradeProof_eq_ok.mpr ⟨rfl, rfl, rfl, List.forall_mem_singleton.mpr ?_⟩
  refine ⟨swordSide assets, rfl, count, fun stateProof listed => ?_⟩
  rw [each stateProof listed]
  exact swordProof_settles declared

theorem sword_trade_covered :
    CoversAll swordVerifier swordCommits (swordTradeProof [swordAsset] [swordProof settleOperation]) := by
  have accepted := @swordTradeProof_accepted [swordAsset] [swordProof settleOperation]
    (List.mem_singleton_self _) rfl (fun _ listed => List.mem_singleton.mp listed)
  have separate : Separate (swordTradeProof [swordAsset] [swordProof settleOperation]).summary :=
    ⟨List.nodup_singleton _, List.forall_mem_singleton.mpr ⟨List.cons_ne_nil _ _, List.nodup_singleton _⟩,
      List.forall_mem_singleton.mpr (List.forall_mem_singleton.mpr fun _ _ _ _ => rfl)⟩
  refine ((accepted_trade_proof_covers_iff accepted).2.2 separate).mpr ⟨List.nodup_singleton _, ?_, ?_⟩
  · exact List.forall_mem_singleton.mpr (List.nodup_singleton _)
  · exact List.forall_mem_singleton.mpr (List.forall_mem_singleton.mpr rfl)

/-- The proof of one asset, sent twice, settles a trade of two. -/
theorem sword_proof_stands_for_shield :
    swordVerifier.verifyTradeProof (swordTradeProof [swordAsset, shieldAsset]
        [swordProof settleOperation, swordProof settleOperation]) swordCommits = .ok () ∧
      ¬ Covers swordVerifier swordCommits (swordTradeProof [swordAsset, shieldAsset]
        [swordProof settleOperation, swordProof settleOperation]) (swordSide [swordAsset, shieldAsset])
        shieldAsset := by
  constructor
  · refine swordTradeProof_accepted List.mem_cons_self rfl fun stateProof listed => ?_
    rcases List.mem_pair.mp listed with same | same <;> exact same
  · rintro ⟨stateProof, listed, _, _, resource, _⟩
    have same : stateProof = swordProof settleOperation := by
      rcases List.mem_pair.mp listed with same | same <;> exact same
    rw [same] at resource
    exact absurd resource (by decide)

end StateChronicle.Verified
