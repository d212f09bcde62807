import StateChronicle.Domain.Trade
import StateChronicle.Proofs.Verify

/-!
# Trade proofs

A trade proof is assembled from a record and the state proofs of its settled assets.  The verifier checks each state
proof against the commit it names and against the side that the summary declares for its leg.
-/

namespace StateChronicle.Proofs

open Domain Foundation

/-! ## Assembly -/

def tradeLeg (record : TradeRecord) (group : TenantId × List ResourceStateProof) :
    Except ProofError (List TradeProofLeg) := do
  rejectIf (¬ record.sides.any fun side => side.tenant = group.1) (.tradeMissingSide group.1.name)
  match group.2 with
  | [] => return []
  | first :: _ => return [⟨group.1, first.commit, group.2⟩]

def legOrder (left right : TradeProofLeg) : Prop := left.tenant.name ≤ right.tenant.name

instance : DecidableRel legOrder := fun left right =>
  inferInstanceAs (Decidable (left.tenant.name ≤ right.tenant.name))

def buildTradeProof (record : TradeRecord) (proofs : List (TenantId × List ResourceStateProof)) :
    Except ProofError TradeProof := do
  let legs ← proofs.mapM (tradeLeg record)
  return {
    schema := tradeProofSchema
    tradeId := record.tradeId
    summary := ⟨record.tradeId, record.status, record.sides, record.valueLegs⟩
    legs := legs.flatten.insertionSort legOrder }

/-! ## Verification -/

def sideOf (summary : TradeSummary) (tenant : TenantId) : Except ProofError TradeSide :=
  okOr (summary.sides.find? fun side => side.tenant = tenant) (.tradeMissingSide tenant.name)

/-- A leg carries as many state proofs as its side declares assets. -/
def checkLegCount (summary : TradeSummary) (leg : TradeProofLeg) : Except ProofError Unit := do
  let side ← sideOf summary leg.tenant
  rejectIf (leg.stateProofs.length ≠ side.settleAssets.length)
    (.tradeProofTruncated side.settleAssets.length leg.stateProofs.length)

namespace Verifier

variable (self : Verifier) (commitsById : SortedMap String (Signed Commit × VerifyingKey))

/-- Resolves a state proof against the commit its own reference names. -/
def verifyOwnCommit (stateProof : ResourceStateProof) : Except ProofError Unit := do
  let signed ← okOr (commitsById.get? stateProof.commit.commitId.name)
    (.keyNotFound stateProof.commit.commitId.name)
  let stateKey ← deriveStateKey self.sha256 stateProof
  self.verifyBundle stateProof signed.1 signed.2 stateKey

/-- A state proof proves one of the side's assets, in the hands of the new owner, last settled. -/
def verifySettled (side : TradeSide) (stateProof : ResourceStateProof) : Except ProofError Unit := do
  self.verifyOwnCommit commitsById stateProof
  rejectIf (¬ side.settleAssets.any fun asset => asset = stateProof.resourceId)
    (.resourceMismatch side.toOwner stateProof.resourceId.name)
  let owner ← ownerOf stateProof.claimedState
  rejectIf (owner ≠ side.toOwner) (.subjectMismatch side.toOwner owner)
  rejectIf (stateProof.latestEvent.operation.name ≠ "trade.settle")
    (.tradeOperation stateProof.latestEvent.operation.name)

def verifyLeg (summary : TradeSummary) (leg : TradeProofLeg) : Except ProofError Unit := do
  let side ← sideOf summary leg.tenant
  leg.stateProofs.forM (self.verifySettled commitsById side)

def verifyTradeProof (proof : TradeProof) (commitsById : SortedMap String (Signed Commit × VerifyingKey)) :
    Except ProofError Unit := do
  rejectIf (proof.schema ≠ tradeProofSchema) (.unsupportedSchema proof.schema)
  rejectIf (proof.summary.tradeId ≠ proof.tradeId) (.tradeIdMismatch proof.summary.tradeId proof.tradeId)
  proof.legs.forM (checkLegCount proof.summary)
  rejectIf (proof.legs.length ≠ proof.summary.sides.length)
    (.tradeProofTruncated proof.summary.sides.length proof.legs.length)
  proof.legs.forM (self.verifyLeg commitsById proof.summary)

end Verifier

namespace Verifier

variable {verifier : Verifier} {commitsById : SortedMap String (Signed Commit × VerifyingKey)}

theorem verifyOwnCommit_eq_ok {stateProof : ResourceStateProof} :
    verifier.verifyOwnCommit commitsById stateProof = .ok () ↔ ∃ signed verifyingKey stateKey,
      commitsById.get? stateProof.commit.commitId.name = some (signed, verifyingKey) ∧
      deriveStateKey verifier.sha256 stateProof = .ok stateKey ∧
      verifier.verifyBundle stateProof signed verifyingKey stateKey = .ok () := by
  simp only [verifyOwnCommit, Except.bind_eq_ok, okOr_eq_ok, Prod.exists]
  constructor
  · rintro ⟨signed, verifyingKey, known, stateKey, derived, verified⟩
    exact ⟨signed, verifyingKey, stateKey, known, derived, verified⟩
  · rintro ⟨signed, verifyingKey, stateKey, known, derived, verified⟩
    exact ⟨signed, verifyingKey, known, stateKey, derived, verified⟩

/-- What an accepted state proof of a side shows. -/
structure Settles (verifier : Verifier) (commitsById : SortedMap String (Signed Commit × VerifyingKey))
    (side : TradeSide) (stateProof : ResourceStateProof) : Prop where
  verified : verifier.verifyOwnCommit commitsById stateProof = .ok ()
  declared : stateProof.resourceId ∈ side.settleAssets
  owned : ownerOf stateProof.claimedState = .ok side.toOwner
  settled : stateProof.latestEvent.operation.name = "trade.settle"

theorem verifySettled_eq_ok {side : TradeSide} {stateProof : ResourceStateProof} :
    verifier.verifySettled commitsById side stateProof = .ok () ↔ verifier.Settles commitsById side stateProof := by
  simp only [verifySettled, Except.bind_eq_ok, rejectIf_eq_ok, not_not, exists_const, List.any_eq_true,
    decide_eq_true_eq, exists_eq_right]
  constructor
  · rintro ⟨⟨⟩, verified, declared, owner, owned, rfl, settled⟩
    exact ⟨verified, declared, owned, settled⟩
  · rintro ⟨verified, declared, owned, settled⟩
    exact ⟨(), verified, declared, side.toOwner, owned, rfl, settled⟩

/-- The legs of an accepted trade proof, each with the side found for its tenant. -/
def LegSettles (verifier : Verifier) (commitsById : SortedMap String (Signed Commit × VerifyingKey))
    (summary : TradeSummary) (leg : TradeProofLeg) : Prop :=
  ∃ side, summary.sides.find? (fun side => side.tenant = leg.tenant) = some side ∧
    leg.stateProofs.length = side.settleAssets.length ∧
    ∀ stateProof ∈ leg.stateProofs, verifier.Settles commitsById side stateProof

theorem verifyTradeProof_eq_ok {proof : TradeProof} :
    verifier.verifyTradeProof proof commitsById = .ok () ↔ proof.schema = tradeProofSchema ∧
      proof.summary.tradeId = proof.tradeId ∧ proof.legs.length = proof.summary.sides.length ∧
      ∀ leg ∈ proof.legs, verifier.LegSettles commitsById proof.summary leg := by
  simp only [verifyTradeProof, verifyLeg, checkLegCount, sideOf, Except.bind_eq_ok, rejectIf_eq_ok, not_not,
    exists_const, Except.forM_eq_ok, okOr_eq_ok, verifySettled_eq_ok, LegSettles]
  constructor
  · rintro ⟨schema, tradeId, counted, legs, settles⟩
    refine ⟨schema, tradeId, legs, fun leg member => ?_⟩
    obtain ⟨side, found, count⟩ := counted leg member
    obtain ⟨side', found', each⟩ := settles leg member
    obtain rfl := Option.some.inj (found.symm.trans found')
    exact ⟨side, found, count, each⟩
  · rintro ⟨schema, tradeId, legs, settles⟩
    refine ⟨schema, tradeId, fun leg member => ?_, legs, fun leg member => ?_⟩
    · obtain ⟨side, found, count, _⟩ := settles leg member
      exact ⟨side, found, count⟩
    · obtain ⟨side, found, _, each⟩ := settles leg member
      exact ⟨side, found, each⟩

end Verifier

end StateChronicle.Proofs
