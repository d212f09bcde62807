import StateChronicle.Proofs.Acceptance

/-!
# Assembling bundles

A bundle joins a projection, the commit that pins the state root and the path the tree gives for the
key.  Bundles assembled from the tree of the commit are accepted.
-/

namespace StateChronicle.Proofs

open StateChronicle.Core Accumulator Domain Foundation

variable {signedCommit : Signed Commit} {authority : Option AuthorityProof} {projection : StateProjection}
  {latestOperation : Operation} {proof : ResourceStateProof} {inclusion : InclusionProof} {sha256 : List UInt8 → Hash}

def commitRef (signedCommit : Signed Commit) : Except ProofError CommitRef := do
  let body := signedCommit.body
  rejectIf (body.scope.kind ≠ .tenant) (.commitScope Verifier.commitScopeText)
  let _ ← okOr body.scope.tenantId (ProofError.commitScope "tenant-scoped commit is missing its tenant id")
  return ⟨body.commitId, body.sequence, body.nextStateRoot, signedCommit.signature⟩

def buildStateProof (sha256 : List UInt8 → Hash) (projection : StateProjection) (signedCommit : Signed Commit)
    (inclusion : InclusionProof) (latestOperation : Operation) (authority : Option AuthorityProof)
    (key : StateKey) : Except ProofError ResourceStateProof := do
  rejectIf (inclusion.leafHash ≠ leafHash sha256 key projection.stateHash.bytes) ProofError.leafMismatch
  let commit ← commitRef signedCommit
  return .new projection.tenantId projection.resourceId projection.state commit
    (sparseProofFromInclusion inclusion) ⟨projection.lastEventId, latestOperation⟩ authority

def buildNonMembershipProof (tenant : TenantId) (resourceId : ResourceId) (key : StateKey)
    (signedCommit : Signed Commit) (nonMembership : NonMembershipProof) :
    Except ProofError NonMembershipProofBundle := do
  rejectIf (nonMembership.key ≠ key)
    (.keyMismatch (hexStr key.bytes.toList) (hexStr nonMembership.key.bytes.toList))
  rejectIf (nonMembership.leafHash ≠ emptyLeafHash) .nonMembershipLeafMismatch
  let commit ← commitRef signedCommit
  return .new tenant resourceId ⟨key.bytes⟩ commit (sparseProofFromNonMembership nonMembership)

/-! ## Bundles of a tree -/

theorem leadsTo_densePath (chain : DefaultChain sha256) (accumulator : StateAccumulator) (key : StateKey) :
    LeadsTo sha256 (accumulator.root sha256) key
      (.new (densePath (accumulator.collectSteps sha256 key)) ⟨slotHash sha256 key accumulator.leaves.entries⟩) := by
  rw [StateAccumulator.collectSteps_eq]
  refine ⟨rfl, length_densePath _, ?_⟩
  rw [HashPath.climb_congr fun level inside => wireSibling_densePath _ _ inside]
  exact accumulator.climb_eq_root chain key

theorem leadsTo_of_absent (chain : DefaultChain sha256) {accumulator : StateAccumulator} {key : StateKey}
    (absent : accumulator.leaves.get? key = none) : LeadsTo sha256 (accumulator.root sha256) key
      (.new (densePath (accumulator.collectSteps sha256 key)) ⟨emptyLeafHash⟩) := by
  have leads := leadsTo_densePath chain accumulator key
  rw [slotHash_eq, absent, Option.map_none, Option.getD_none, chain.bottom] at leads
  exact leads

theorem commitRef_eq_ok {reference : CommitRef} :
    commitRef signedCommit = .ok reference ↔ signedCommit.body.scope.kind = .tenant ∧
      signedCommit.body.scope.tenantId.isSome ∧
      reference = ⟨signedCommit.body.commitId, signedCommit.body.sequence, signedCommit.body.nextStateRoot,
        signedCommit.signature⟩ := by
  simp only [commitRef, Except.bind_eq_ok, rejectIf_eq_ok, not_not, exists_const, okOr_eq_ok,
    Except.pure_eq_ok, Option.isSome_iff_exists, eq_comm (a := reference)]
  constructor
  · rintro ⟨kind, tenant, named, same⟩
    exact ⟨kind, ⟨tenant, named⟩, same⟩
  · rintro ⟨kind, ⟨tenant, named⟩, same⟩
    exact ⟨kind, tenant, named, same⟩

theorem buildStateProof_eq_ok {key : StateKey} :
    buildStateProof sha256 projection signedCommit inclusion latestOperation authority key = .ok proof ↔
      inclusion.leafHash = leafHash sha256 key projection.stateHash.bytes ∧
      ∃ reference, commitRef signedCommit = .ok reference ∧
        .new projection.tenantId projection.resourceId projection.state reference
          (sparseProofFromInclusion inclusion) ⟨projection.lastEventId, latestOperation⟩ authority = proof := by
  simp only [buildStateProof, Except.bind_eq_ok, rejectIf_eq_ok, not_not, exists_const, Except.pure_eq_ok]

variable {verifier : Verifier} (chain : DefaultChain verifier.sha256) {accumulator : StateAccumulator} {key : StateKey}
  (hashed : canonicalizeAndDigest verifier.sha256 (verifier.stateBytes projection.state) = .ok projection.stateHash)
  (included : accumulator.proveInclusion verifier.sha256 key = some inclusion)
  (built : buildStateProof verifier.sha256 projection signedCommit inclusion latestOperation authority key = .ok proof)

include chain hashed included built

/-- A bundle built from the tree of its commit establishes its claimed state. -/
theorem establishes_of_buildStateProof : verifier.Establishes (accumulator.root verifier.sha256) key proof := by
  obtain ⟨digest, held, rfl⟩ := Option.map_eq_some_iff.mp included
  obtain ⟨bytes, serialized, same⟩ := canonicalizeAndDigest_eq_ok.mp hashed
  obtain ⟨leaf, reference, referenced, rfl⟩ := buildStateProof_eq_ok.mp built
  refine ⟨?_, bytes, serialized, ?_⟩
  · have slot : slotHash verifier.sha256 key accumulator.leaves.entries = leafHash verifier.sha256 key digest := by
      rw [slotHash_eq, held]
      rfl
    have leads := leadsTo_densePath chain accumulator key
    rw [slot] at leads
    exact leads
  · rw [← congrArg ContentDigest.bytes same] at leaf
    exact leaf

/-- The verifier accepts every bundle built from the tree behind a signed commit of its tenant. -/
theorem verifyBundle_of_buildStateProof {verifyingKey : VerifyingKey}
    (rooted : (accumulator.root verifier.sha256).bytes = signedCommit.body.nextStateRoot.bytes)
    (owned : signedCommit.body.scope.tenantId = some projection.tenantId)
    (signs : verifier.verifyCommitSignatureWithKey signedCommit verifyingKey = .ok ())
    (sized : Verifier.checkProofSize (verifier.proofBytes proof) = .ok ()) :
    verifier.verifyBundle proof signedCommit verifyingKey key = .ok () := by
  have established := establishes_of_buildStateProof chain hashed included built
  obtain ⟨_, reference, referenced, rfl⟩ := buildStateProof_eq_ok.mp built
  obtain ⟨_, _, rfl⟩ := commitRef_eq_ok.mp referenced
  refine Verifier.verifyBundle_eq_ok.mpr ⟨⟨sized, rfl, ?_⟩, ?_⟩
  · exact Verifier.verifyCommitEnvelope_eq_ok.mpr ⟨owned, rfl, rfl, rfl, signs⟩
  · rw [← rooted]
    exact established

end StateChronicle.Proofs
