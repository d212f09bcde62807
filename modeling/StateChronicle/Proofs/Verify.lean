import StateChronicle.Accumulator.SparseMerkle
import StateChronicle.Domain.Proof

/-!
# Verification of proof bundles

The verifier recomputes every commitment from the bundle: the commit a bundle pins, the path from the
leaf to the commit's state root, and the leaf of the claimed state.
-/

namespace StateChronicle.Proofs

open StateChronicle.Core Accumulator Domain Foundation

/-! ## Errors -/

inductive ProofError where
  | core (error : StateChronicleError)
  | sizeLimitExceeded (limit actual : Nat)
  | unsupportedSchema (schema : String)
  | unsupportedKind (kind : String)
  | invalidState (message : String)
  | commitSignature (message : String)
  | commitRefMismatch (expected actual : String)
  | commitScope (message : String)
  | keyNotFound (keyId : String)
  | tenantMismatch (expected actual : String)
  | resourceMismatch (expected actual : String)
  | subjectMismatch (expected actual : String)
  | inclusionMismatch
  | claimedStateMismatch
  | leafMismatch
  | invalidPathLength (expected actual : Nat)
  | keyMismatch (expected actual : String)
  | nonMembershipLeafMismatch
  | tradeIdMismatch (expected actual : String)
  | tradeMissingSide (tenant : String)
  | tradeOperation (operation : String)
  | tradeProofTruncated (expected actual : Nat)
deriving DecidableEq, Repr

def maxProofBytes : Nat := 2 * 1024 * 1024

/-! ## Wire paths -/

/-- The dense path of level-tagged steps: default hashes, overwritten at the level of each step. -/
def densePath (steps : List PathStep) : List ContentDigest :=
  steps.foldl (fun path step => path.set step.level ⟨step.sibling⟩)
    ((List.range treeDepth).map fun level => ⟨defaultHash level⟩)

def sparseProofFromInclusion (proof : InclusionProof) : SparseMerkleProof :=
  .new (densePath proof.steps) ⟨proof.leafHash⟩

def sparseProofFromNonMembership (proof : NonMembershipProof) : SparseMerkleProof :=
  .new (densePath proof.steps) ⟨proof.leafHash⟩

/-- The step of a level of a dense path, unless it carries the default hash. -/
def denseStep (entry : ContentDigest × Nat) : Option PathStep :=
  if entry.1.bytes = defaultHash entry.2 then none else some ⟨entry.2, entry.1.bytes⟩

def stepsFromSparseProof (sparse : SparseMerkleProof) : Except ProofError (List PathStep) := do
  rejectIf (sparse.kind ≠ sparseMerkleV0) (.unsupportedKind sparse.kind)
  rejectIf (sparse.path.length ≠ treeDepth) (.invalidPathLength treeDepth sparse.path.length)
  return sparse.path.zipIdx.filterMap denseStep

/-! ## Keys and owners -/

/-- The key of the proof's own tenant, resource and claimed subject. -/
def deriveStateKey (sha256 : List UInt8 → Hash) (proof : ResourceStateProof) : Except ProofError StateKey :=
  match proof.claimedState.subject with
  | some subject =>
    if subject.name = "" then .error (.invalidState "claimed state `subject` is empty")
    else .ok (.forSubjectHeld sha256 proof.tenantId.name proof.resourceId.name subject.name)
  | none => .ok (.forResource sha256 proof.tenantId.name proof.resourceId.name)

def ownerOf (state : ResourceState) : Except ProofError String := do
  let owner ← okOr state.owner (.invalidState "state is missing a string `owner`")
  rejectIf (owner.name = "") (.invalidState "state `owner` is empty")
  return owner.name

/-! ## Verification -/

structure VerifyingKey where
  bytes : Vector UInt8 32
deriving DecidableEq, Repr

/-- The primitives of a verifier: the hash, the canonical bytes of what it hashes or measures, and
strict Ed25519 verification. -/
structure Verifier where
  sha256 : List UInt8 → Hash
  stateBytes : ResourceState → Option (List UInt8)
  commitBytes : Commit → Option (List UInt8)
  proofBytes : ResourceStateProof → Option (List UInt8)
  bundleBytes : NonMembershipProofBundle → Option (List UInt8)
  verifySignature : List UInt8 → VerifyingKey → List UInt8 → Except StateChronicleError Unit

namespace Verifier

variable (self : Verifier) (proof : ResourceStateProof) (signed : Signed Commit) (verifyingKey : VerifyingKey)

def verifyCommitSignatureWithKey : Except ProofError Unit := do
  let canonical ← (canonicalize (self.commitBytes signed.body)).mapError ProofError.core
  (self.verifySignature canonical verifyingKey signed.signature.sig).mapError fun error =>
    .commitSignature ("commit signature failed strict Ed25519 verification: " ++ error.toString)

variable (root : StateRoot) (key : StateKey)

def verifySparseMerkleV0 (sparse : SparseMerkleProof) : Except ProofError Unit := do
  rejectIf (sparse.kind ≠ sparseMerkleV0) (.unsupportedKind sparse.kind)
  let steps ← stepsFromSparseProof sparse
  rejectIf (¬ StateAccumulator.verifyInclusion self.sha256 root ⟨key, sparse.leafHash.bytes, steps⟩)
    .inclusionMismatch

def verifyClaimedState : Except ProofError Unit := do
  let stateDigest ← (canonicalizeAndDigest self.sha256 (self.stateBytes proof.claimedState)).mapError
    ProofError.core
  rejectIf (leafHash self.sha256 key stateDigest.bytes ≠ proof.stateInclusionProof.leafHash.bytes)
    .claimedStateMismatch

def verifyProof : Except ProofError Unit := do
  rejectIf (proof.schema ≠ resourceStateProofSchema) (.unsupportedSchema proof.schema)
  self.verifySparseMerkleV0 root key proof.stateInclusionProof
  self.verifyClaimedState proof key

def checkProofSize (serialized : Option (List UInt8)) : Except ProofError Unit := do
  let bytes ← okOr serialized (.invalidState "proof serialization failed")
  rejectIf (bytes.length > maxProofBytes) (.sizeLimitExceeded maxProofBytes bytes.length)

def verifyOwnership (expectedSubject : String) : Except ProofError Unit := do
  let owner ← ownerOf proof.claimedState
  rejectIf (owner ≠ expectedSubject) (.subjectMismatch expectedSubject owner)

def commitScopeText : String :=
  "proof bundles pin tenant-scoped commits; global checkpoint commits carry tenant roots, not resource state"

/-- The tenant, the commit reference and the signature, in that order. -/
def verifyCommitEnvelope (tenantId : TenantId) (commit : CommitRef) (signed : Signed Commit)
    (verifyingKey : VerifyingKey) : Except ProofError Unit := do
  let commitTenant ← okOr signed.body.scope.tenantId (.commitScope commitScopeText)
  rejectIf (commitTenant ≠ tenantId) (.tenantMismatch commitTenant.name tenantId.name)
  rejectIf (commit.commitId ≠ signed.body.commitId)
    (.commitRefMismatch signed.body.commitId.name commit.commitId.name)
  rejectIf (commit.sequence ≠ signed.body.sequence)
    (.commitRefMismatch (toString signed.body.sequence) (toString commit.sequence))
  rejectIf (commit.stateRoot ≠ signed.body.nextStateRoot)
    (.commitRefMismatch signed.body.nextStateRoot.asStr commit.stateRoot.asStr)
  self.verifyCommitSignatureWithKey signed verifyingKey

def verifyBundle : Except ProofError Unit := do
  checkProofSize (self.proofBytes proof)
  rejectIf (proof.schema ≠ resourceStateProofSchema) (.unsupportedSchema proof.schema)
  self.verifyCommitEnvelope proof.tenantId proof.commit signed verifyingKey
  self.verifySparseMerkleV0 ⟨signed.body.nextStateRoot.bytes⟩ key proof.stateInclusionProof
  self.verifyClaimedState proof key

/-- A proof of absence: its leaf must be the empty one. -/
def verifyNonMembership (bundle : NonMembershipProofBundle) (root : StateRoot) (key : StateKey) :
    Except ProofError Unit := do
  checkProofSize (self.bundleBytes bundle)
  rejectIf (bundle.schema ≠ nonMembershipProofSchema) (.unsupportedSchema bundle.schema)
  rejectIf (bundle.claimedKey.bytes ≠ key.bytes)
    (.keyMismatch (hexStr key.bytes.toList) (hexStr bundle.claimedKey.bytes.toList))
  let sparse := bundle.stateNonMembershipProof
  rejectIf (sparse.kind ≠ sparseMerkleV0) (.unsupportedKind sparse.kind)
  rejectIf (sparse.path.length ≠ treeDepth) (.invalidPathLength treeDepth sparse.path.length)
  rejectIf (sparse.leafHash.bytes ≠ emptyLeafHash) .nonMembershipLeafMismatch
  let steps ← stepsFromSparseProof sparse
  rejectIf (¬ StateAccumulator.verifyNonMembership self.sha256 root ⟨key, sparse.leafHash.bytes, steps⟩)
    .inclusionMismatch

def verifyNonMembershipBundle (bundle : NonMembershipProofBundle) (signed : Signed Commit)
    (verifyingKey : VerifyingKey) (key : StateKey) : Except ProofError Unit := do
  rejectIf (bundle.schema ≠ nonMembershipProofSchema) (.unsupportedSchema bundle.schema)
  self.verifyCommitEnvelope bundle.tenantId bundle.commit signed verifyingKey
  self.verifyNonMembership bundle ⟨signed.body.nextStateRoot.bytes⟩ key

end Verifier

end StateChronicle.Proofs
