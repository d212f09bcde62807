import StateChronicle.Accumulator.Authentication
import StateChronicle.Proofs.Verify

/-!
# What accepted bundles establish

A wire path is accepted when the climb through its siblings reaches the root.  An accepted proof of
state starts from the leaf of the claimed state, an accepted proof of absence from the empty leaf.
-/

namespace StateChronicle.Proofs

open StateChronicle.Core Accumulator Domain Foundation

/-! ## Wire paths -/

/-- The sibling that a wire path carries for a level. -/
def wireSibling (sparse : SparseMerkleProof) (level : ℕ) : Hash :=
  (sparse.path[level]?.map (·.bytes)).getD (defaultHash level)

/-- The wire path has the v0 form and leads from its leaf to the root. -/
def LeadsTo (sha256 : List UInt8 → Hash) (root : StateRoot) (key : StateKey) (sparse : SparseMerkleProof) : Prop :=
  sparse.kind = sparseMerkleV0 ∧ sparse.path.length = treeDepth ∧
    HashPath.climb (internalHash sha256) (routingBit key) (wireSibling sparse) sparse.leafHash.bytes treeDepth =
      root.bytes

theorem filterMap_zipIdx_denseStep (path : List ContentDigest) :
    path.zipIdx.filterMap denseStep = (List.range path.length).filterMap
      (sparseStep fun level => (path[level]?.map (·.bytes)).getD (defaultHash level)) := by
  induction path using List.reverseRecOn with
  | nil => rfl
  | append_singleton path last ih =>
    rw [List.zipIdx_append, List.filterMap_append, ih, List.length_append,
      List.length_singleton, List.range_succ, List.filterMap_append]
    congr 1
    · refine List.filterMap_congr fun level inside => ?_
      rw [sparseStep, sparseStep, List.getElem?_append_left (List.mem_range.mp inside)]
    · simp only [List.zipIdx_singleton, List.filterMap_cons, denseStep, sparseStep,
        List.getElem?_concat_length, Option.map_some, Option.getD_some, Nat.zero_add]
      rfl

theorem stepsFromSparseProof_eq_ok {sparse : SparseMerkleProof} {steps : List PathStep} :
    stepsFromSparseProof sparse = .ok steps ↔ sparse.kind = sparseMerkleV0 ∧
      sparse.path.length = treeDepth ∧ Accumulator.sparse (wireSibling sparse) = steps := by
  simp only [stepsFromSparseProof, Except.bind_eq_ok, rejectIf_eq_ok, not_not, Except.pure_eq_ok, exists_const]
  refine and_congr_right fun kind => and_congr_right fun length => ?_
  rw [filterMap_zipIdx_denseStep, length]
  rfl

theorem length_densePath (steps : List PathStep) : (densePath steps).length = treeDepth := by
  induction steps using List.reverseRecOn with
  | nil => simp [densePath]
  | append_singleton steps last ih =>
    rw [densePath, List.foldl_append]
    simpa [densePath] using ih

/-- A dense path carries at each level the sibling that the verifier would use for its steps. -/
theorem getElem?_densePath (steps : List PathStep) {level : ℕ} (inside : level < treeDepth) :
    (densePath steps)[level]? = some ⟨siblingAt steps level⟩ := by
  induction steps using List.reverseRecOn with
  | nil => simp [densePath, siblingAt, SortedMap.ofList, inside]
  | append_singleton steps last ih =>
    have written : densePath (steps ++ [last]) = (densePath steps).set last.level ⟨last.sibling⟩ := by
      rw [densePath, List.foldl_append]
      rfl
    rw [written, List.getElem?_set, siblingAt, List.map_append, List.map_singleton, SortedMap.ofList_concat,
      SortedMap.get?_insert]
    by_cases own : last.level = level
    · rw [if_pos own, if_pos (by rw [length_densePath, own]; exact inside), if_pos own.symm]
      rfl
    · rw [if_neg own, if_neg (Ne.symm own), ih]
      rfl

theorem wireSibling_densePath (sibling : ℕ → Hash) (leaf : ContentDigest) {level : ℕ} (inside : level < treeDepth) :
    wireSibling (.new (densePath (sparse sibling)) leaf) level = sibling level := by
  rw [wireSibling, SparseMerkleProof.new, getElem?_densePath _ inside, Option.map_some, Option.getD_some,
    siblingAt_sparse _ inside]

/-- The wire form of a sparse path gives back its steps. -/
theorem stepsFromSparseProof_densePath (sibling : ℕ → Hash) (leaf : ContentDigest) :
    stepsFromSparseProof (.new (densePath (sparse sibling)) leaf) = .ok (sparse sibling) := by
  exact stepsFromSparseProof_eq_ok.mpr
    ⟨rfl, length_densePath _, sparse_congr fun _ inside => wireSibling_densePath _ _ inside⟩

theorem verifyPath_sparse (sha256 : List UInt8 → Hash) (root : StateRoot) (key : StateKey) (leafHash : Hash)
    (sibling : ℕ → Hash) :
    verifyPath sha256 root key leafHash (sparse sibling) ↔
      HashPath.climb (internalHash sha256) (routingBit key) sibling leafHash treeDepth = root.bytes := by
  rw [verifyPath, decide_eq_true_iff, HashPath.climb_congr fun level inside => siblingAt_sparse sibling inside]

namespace Verifier

variable {self : Verifier}
  {key : StateKey} {verifyingKey : VerifyingKey} {proof : ResourceStateProof} {signed : Signed Commit}

theorem verifySparseMerkleV0_eq_ok {root : StateRoot} {sparse : SparseMerkleProof} {u : Unit} :
    self.verifySparseMerkleV0 root key sparse = .ok u ↔ LeadsTo self.sha256 root key sparse := by
  simp only [verifySparseMerkleV0, Except.bind_eq_ok, rejectIf_eq_ok, not_not, exists_const,
    stepsFromSparseProof_eq_ok, LeadsTo]
  constructor
  · rintro ⟨kind, steps, ⟨_, length, rfl⟩, verified⟩
    exact ⟨kind, length, (verifyPath_sparse ..).mp verified⟩
  · rintro ⟨kind, length, climbs⟩
    exact ⟨kind, _, ⟨kind, length, rfl⟩, (verifyPath_sparse ..).mpr climbs⟩

theorem verifyClaimedState_eq_ok :
    self.verifyClaimedState proof key = .ok () ↔ ∃ bytes, self.stateBytes proof.claimedState = some bytes ∧
      proof.stateInclusionProof.leafHash.bytes = self.sha256 (leafPreimage key (self.sha256 bytes)) := by
  simp only [verifyClaimedState, Except.bind_eq_ok, Except.mapError_eq_ok, canonicalizeAndDigest_eq_ok,
    rejectIf_eq_ok, not_not]
  constructor
  · rintro ⟨_, ⟨bytes, serialized, rfl⟩, leaf⟩
    exact ⟨bytes, serialized, leaf.symm⟩
  · rintro ⟨bytes, serialized, leaf⟩
    exact ⟨_, ⟨bytes, serialized, rfl⟩, leaf.symm⟩

/-- The proof's path leads to the root from the leaf that its claimed state has at the key. -/
def Establishes (self : Verifier) (root : StateRoot) (key : StateKey) (proof : ResourceStateProof) : Prop :=
  LeadsTo self.sha256 root key proof.stateInclusionProof ∧
    ∃ bytes, self.stateBytes proof.claimedState = some bytes ∧
      proof.stateInclusionProof.leafHash.bytes = self.sha256 (leafPreimage key (self.sha256 bytes))

theorem verifyProof_eq_ok {root : StateRoot} :
    self.verifyProof proof root key = .ok () ↔
      proof.schema = resourceStateProofSchema ∧ self.Establishes root key proof := by
  simp only [verifyProof, Except.bind_eq_ok, rejectIf_eq_ok, not_not, exists_const,
    verifySparseMerkleV0_eq_ok, verifyClaimedState_eq_ok, Establishes]

theorem checkProofSize_eq_ok {serialized : Option (List UInt8)} {u : Unit} :
    checkProofSize serialized = .ok u ↔ ∃ bytes, serialized = some bytes ∧ bytes.length ≤ maxProofBytes := by
  simp only [checkProofSize, Except.bind_eq_ok, okOr_eq_ok, rejectIf_eq_ok, gt_iff_lt, Nat.not_lt]

theorem verifyCommitSignatureWithKey_eq_ok {u : Unit} :
    self.verifyCommitSignatureWithKey signed verifyingKey = .ok u ↔ ∃ bytes,
      self.commitBytes signed.body = some bytes ∧
        self.verifySignature bytes verifyingKey signed.signature.sig = .ok u := by
  simp only [verifyCommitSignatureWithKey, canonicalize, Except.bind_eq_ok, Except.mapError_eq_ok, okOr_eq_ok]

theorem verifyCommitEnvelope_eq_ok {tenantId : TenantId} {commit : CommitRef} {u : Unit} :
    self.verifyCommitEnvelope tenantId commit signed verifyingKey = .ok u ↔
      signed.body.scope.tenantId = some tenantId ∧ commit.commitId = signed.body.commitId ∧
      commit.sequence = signed.body.sequence ∧ commit.stateRoot = signed.body.nextStateRoot ∧
      self.verifyCommitSignatureWithKey signed verifyingKey = .ok u := by
  simp only [verifyCommitEnvelope, Except.bind_eq_ok, okOr_eq_ok, rejectIf_eq_ok, not_not, exists_const]
  constructor
  · rintro ⟨tenant, named, rfl, rest⟩
    exact ⟨named, rest⟩
  · rintro ⟨named, rest⟩
    exact ⟨tenantId, named, rfl, rest⟩

/-- The checks of a bundle before its path: size, schema and commit envelope. -/
def Enveloped (self : Verifier) (signed : Signed Commit) (verifyingKey : VerifyingKey)
    (proof : ResourceStateProof) : Prop :=
  checkProofSize (self.proofBytes proof) = .ok () ∧ proof.schema = resourceStateProofSchema ∧
    self.verifyCommitEnvelope proof.tenantId proof.commit signed verifyingKey = .ok ()

theorem verifyBundle_eq_ok :
    self.verifyBundle proof signed verifyingKey key = .ok () ↔ self.Enveloped signed verifyingKey proof ∧
      self.Establishes ⟨signed.body.nextStateRoot.bytes⟩ key proof := by
  simp only [verifyBundle, Except.bind_eq_ok, rejectIf_eq_ok, not_not, exists_const,
    verifySparseMerkleV0_eq_ok, verifyClaimedState_eq_ok, Establishes, Enveloped]
  constructor
  · rintro ⟨⟨⟩, sized, schema, ⟨⟩, enveloped, leads, leaf⟩
    exact ⟨⟨sized, schema, enveloped⟩, leads, leaf⟩
  · rintro ⟨⟨sized, schema, enveloped⟩, leads, leaf⟩
    exact ⟨(), sized, schema, (), enveloped, leads, leaf⟩

theorem verifyNonMembership_eq_ok {bundle : NonMembershipProofBundle} {root : StateRoot} :
    self.verifyNonMembership bundle root key = .ok () ↔ checkProofSize (self.bundleBytes bundle) = .ok () ∧
      bundle.schema = nonMembershipProofSchema ∧ bundle.claimedKey.bytes = key.bytes ∧
      LeadsTo self.sha256 root key bundle.stateNonMembershipProof ∧
      bundle.stateNonMembershipProof.leafHash.bytes = emptyLeafHash := by
  simp only [verifyNonMembership, Except.bind_eq_ok, rejectIf_eq_ok, not_not, exists_const,
    stepsFromSparseProof_eq_ok, LeadsTo]
  constructor
  · rintro ⟨⟨⟩, sized, schema, claimed, kind, length, leaf, steps, ⟨_, _, rfl⟩, verified⟩
    exact ⟨sized, schema, claimed, ⟨kind, length, (verifyPath_sparse ..).mp verified⟩, leaf⟩
  · rintro ⟨sized, schema, claimed, ⟨kind, length, climbs⟩, leaf⟩
    exact ⟨(), sized, schema, claimed, kind, length, leaf, _, ⟨kind, length, rfl⟩, (verifyPath_sparse ..).mpr climbs⟩

end Verifier

end StateChronicle.Proofs
