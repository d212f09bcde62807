import StateChronicle.Foundation.Aligned
import StateChronicle.Index.Build
import StateChronicle.Proofs.Trade

/-!
# Trade proofs of indexed trades

The service collects the state proof of every settled asset at the commit its record names and
assembles them.  Here are the assembly and what the verifier makes of it.
-/

namespace StateChronicle.Index

open Domain Foundation Proofs

inductive TradeServiceError where
  | index (error : IndexError)
  | tradeIndex (message : String)
  | proofIndex (message : String)
  | proof (error : ProofError)
deriving DecidableEq, Repr

abbrev ProofIndex : Type := TenantId → ResourceId → CommitId → Option ResourceStateProof

variable (index : ProofIndex) (record : TradeRecord) (side : TradeSide) (asset : ResourceId)

/-- The commit that settled the asset; records without one per asset fall back to the side's. -/
def settleCommitOf : CommitRef :=
  (side.settleCommitsByAsset.get? asset).getD side.settleCommit

def stateProofOf : Except TradeServiceError ResourceStateProof :=
  okOr (index side.tenant asset (settleCommitOf side asset).commitId)
    (.proofIndex ("no state proof stored for settle asset `" ++ asset.name ++ "` in tenant `"
      ++ side.tenant.name ++ "` at commit `" ++ (settleCommitOf side asset).commitId.name ++ "`"))

def sideProofs : Except TradeServiceError (TenantId × List ResourceStateProof) := do
  let stateProofs ← side.settleAssets.mapM (stateProofOf index side)
  return (side.tenant, stateProofs)

def gatherProofs : Except TradeServiceError (List (TenantId × List ResourceStateProof)) := do
  let groups ← record.sides.mapM (sideProofs index)
  return groups.filter fun group => !group.2.isEmpty

/-- The proof of a trade, before the service verifies it. -/
def assembleProof : Except TradeServiceError TradeProof := do
  let proofs ← gatherProofs index record
  (buildTradeProof record proofs).mapError .proof

/-! ## Assembled proofs -/

variable {index record}

/-- A leg carries the state proofs of its side's assets, in order. -/
def LegOf (index : ProofIndex) (side : TradeSide) (leg : TradeProofLeg) : Prop :=
  leg.tenant = side.tenant ∧
    List.Forall₂ (fun asset stateProof => stateProofOf index side asset = .ok stateProof) side.settleAssets
      leg.stateProofs

theorem sideProofs_eq_ok {side : TradeSide} {group : TenantId × List ResourceStateProof} :
    sideProofs index side = .ok group ↔ group.1 = side.tenant ∧
      List.Forall₂ (fun asset stateProof => stateProofOf index side asset = .ok stateProof) side.settleAssets
        group.2 := by
  simp only [sideProofs, Except.bind_eq_ok, Except.pure_eq_ok, Except.mapM_eq_ok]
  constructor
  · rintro ⟨stateProofs, aligned, rfl⟩
    exact ⟨rfl, aligned⟩
  · rintro ⟨tenant, aligned⟩
    exact ⟨group.2, aligned, by rw [← tenant]⟩

theorem exists_leg {side : TradeSide} (listed : side ∈ record.sides) (declares : side.settleAssets ≠ [])
    (stored : ∀ asset ∈ side.settleAssets, ∃ stateProof, stateProofOf index side asset = .ok stateProof) :
    ∃ group leg, sideProofs index side = .ok group ∧ group.2.isEmpty = false ∧
      tradeLeg record group = .ok [leg] ∧ LegOf index side leg := by
  obtain ⟨stateProofs, aligned⟩ := exists_aligned_of_forall_mem stored
  have known : record.sides.any (fun known => known.tenant = side.tenant) = true :=
    List.any_eq_true.mpr ⟨side, listed, decide_eq_true rfl⟩
  cases stateProofs with
  | nil => exact absurd (List.forall₂_nil_right_iff.mp aligned) declares
  | cons first others =>
    refine ⟨(side.tenant, first :: others), ⟨side.tenant, first.commit, first :: others⟩,
      sideProofs_eq_ok.mpr ⟨rfl, aligned⟩, rfl, ?_, rfl, aligned⟩
    simp only [tradeLeg, known, rejectIf, not_true_eq_false, if_false]
    rfl

/-- An assembled proof has one leg for each side, up to order. -/
structure Assembled (index : ProofIndex) (record : TradeRecord) (proof : TradeProof) : Prop where
  schema : proof.schema = tradeProofSchema
  trade : proof.tradeId = record.tradeId
  summary : proof.summary = ⟨record.tradeId, record.status, record.sides, record.valueLegs⟩
  legs : ∃ legs, proof.legs.Perm legs ∧ List.Forall₂ (LegOf index) record.sides legs

theorem exists_assembled (declares : ∀ side ∈ record.sides, side.settleAssets ≠ [])
    (stored : ∀ side ∈ record.sides, ∀ asset ∈ side.settleAssets,
      ∃ stateProof, stateProofOf index side asset = .ok stateProof) :
    ∃ proof, assembleProof index record = .ok proof ∧ Assembled index record proof := by
  have each : ∀ side ∈ record.sides, ∃ step : (TenantId × List ResourceStateProof) × TradeProofLeg,
      sideProofs index side = .ok step.1 ∧ step.1.2.isEmpty = false ∧
      tradeLeg record step.1 = .ok [step.2] ∧ LegOf index side step.2 := by
    intro side listed
    obtain ⟨group, leg, made⟩ := exists_leg listed (declares side listed) (stored side listed)
    exact ⟨(group, leg), made⟩
  obtain ⟨steps, aligned⟩ := exists_aligned_of_forall_mem each
  have gathered : record.sides.mapM (sideProofs index) = .ok (steps.map Prod.fst) :=
    Except.mapM_eq_ok.mpr (List.forall₂_map_right_iff.mpr (aligned.imp fun _ _ made => made.1))
  have kept : (steps.map Prod.fst).filter (fun group => !group.2.isEmpty) = steps.map Prod.fst := by
    refine List.filter_eq_self.mpr fun group member => ?_
    obtain ⟨step, there, rfl⟩ := List.mem_map.mp member
    obtain ⟨side, _, made⟩ := Aligned.exists_left aligned there
    rw [made.2.1]
    rfl
  have built : (steps.map Prod.fst).mapM (tradeLeg record) = .ok (steps.map fun step => [step.2]) := by
    refine Except.mapM_eq_ok.mpr (List.forall₂_map_left_iff.mpr (List.forall₂_map_right_iff.mpr ?_))
    refine List.forall₂_same.mpr fun step there => ?_
    obtain ⟨side, _, made⟩ := Aligned.exists_left aligned there
    exact made.2.2.1
  have joined : (steps.map fun step => [step.2]).flatten = steps.map Prod.snd := by
    rw [← List.flatMap_def, ← List.map_eq_flatMap]
  refine ⟨⟨tradeProofSchema, record.tradeId, ⟨record.tradeId, record.status, record.sides, record.valueLegs⟩,
    (steps.map Prod.snd).insertionSort legOrder⟩, ?_, rfl, rfl, rfl, steps.map Prod.snd,
    List.perm_insertionSort _ _, List.forall₂_map_right_iff.mpr (aligned.imp fun _ _ made => made.2.2.2)⟩
  have proofs : gatherProofs index record = .ok (steps.map Prod.fst) := by
    rw [gatherProofs, gathered]
    exact congrArg Except.ok kept
  rw [assembleProof, proofs]
  change (buildTradeProof record (steps.map Prod.fst)).mapError _ = _
  rw [buildTradeProof, built, ← joined]
  rfl

/-! ## Verification -/

/-- For a record with one side per tenant the verifier judges an assembled proof asset by asset. -/
theorem Assembled.verifyTradeProof_iff {verifier : Verifier}
    {commitsById : SortedMap String (Signed Commit × VerifyingKey)} {proof : TradeProof}
    (assembled : Assembled index record proof) (unique : (record.sides.map (·.tenant)).Nodup) :
    verifier.verifyTradeProof proof commitsById = .ok () ↔
      ∀ side ∈ record.sides, ∀ asset ∈ side.settleAssets, ∀ stateProof,
        stateProofOf index side asset = .ok stateProof → verifier.Settles commitsById side stateProof := by
  obtain ⟨legs, rearranged, aligned⟩ := assembled.legs
  rw [Verifier.verifyTradeProof_eq_ok, assembled.summary]
  constructor
  · rintro ⟨_, _, _, settles⟩ side listed asset declared stateProof stored
    obtain ⟨leg, legListed, tenant, proofs⟩ := Aligned.exists_right aligned listed
    obtain ⟨side', found, _, each⟩ := settles leg (rearranged.mem_iff.mpr legListed)
    rw [tenant, (find?_key_eq_some unique).mpr ⟨listed, rfl⟩] at found
    obtain rfl := Option.some.inj found
    obtain ⟨stateProof', inLeg, stored'⟩ := Aligned.exists_right proofs declared
    obtain rfl := Except.ok.inj (stored.symm.trans stored')
    exact each stateProof inLeg
  · intro settles
    refine ⟨assembled.schema, assembled.trade.symm, rearranged.length_eq.trans aligned.length_eq.symm, ?_⟩
    intro leg member
    obtain ⟨side, listed, tenant, proofs⟩ := Aligned.exists_left aligned (rearranged.mem_iff.mp member)
    refine ⟨side, ?_, proofs.length_eq.symm, fun stateProof inLeg => ?_⟩
    · rw [tenant]
      exact (find?_key_eq_some unique).mpr ⟨listed, rfl⟩
    · obtain ⟨asset, declared, stored⟩ := Aligned.exists_left proofs inLeg
      exact settles side listed asset declared stateProof stored

end StateChronicle.Index
