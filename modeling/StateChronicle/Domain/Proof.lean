import StateChronicle.Domain.Commit

/-!
# Proof bundles

What travels to a verifier: a claimed state with the commit that pins its root and the path from the
state's leaf to that root, or the same for a key that holds no state.
-/

namespace StateChronicle.Domain

open StateChronicle.Core

def resourceStateProofSchema : String := "statechronicle.proof.resource_state.v0"
def nonMembershipProofSchema : String := "statechronicle.proof.non_membership.v0"
def sparseMerkleV0 : String := "sparse_merkle_v0"

/-- The dense wire form of a path: one sibling per level, the lowest first. -/
structure SparseMerkleProof where
  kind : String
  path : List ContentDigest
  leafHash : ContentDigest
deriving DecidableEq, Repr

def SparseMerkleProof.new (path : List ContentDigest) (leafHash : ContentDigest) : SparseMerkleProof :=
  ⟨sparseMerkleV0, path, leafHash⟩

structure CommitRef where
  commitId : CommitId
  sequence : U64
  stateRoot : ContentDigest
  signature : SignatureBlock
deriving DecidableEq, Repr

structure EventRef where
  eventId : EventId
  operation : Operation
deriving DecidableEq, Repr

structure ResourceStateProof where
  schema : String
  tenantId : TenantId
  resourceId : ResourceId
  claimedState : ResourceState
  commit : CommitRef
  stateInclusionProof : SparseMerkleProof
  latestEvent : EventRef
  authority : Option AuthorityProof
deriving DecidableEq, Repr

def ResourceStateProof.new (tenantId : TenantId) (resourceId : ResourceId) (claimedState : ResourceState)
    (commit : CommitRef) (stateInclusionProof : SparseMerkleProof) (latestEvent : EventRef)
    (authority : Option AuthorityProof) : ResourceStateProof :=
  { schema := resourceStateProofSchema, tenantId, resourceId, claimedState, commit, stateInclusionProof,
    latestEvent, authority }

structure NonMembershipProofBundle where
  schema : String
  tenantId : TenantId
  resourceId : ResourceId
  claimedKey : ContentDigest
  commit : CommitRef
  stateNonMembershipProof : SparseMerkleProof
deriving DecidableEq, Repr

def NonMembershipProofBundle.new (tenantId : TenantId) (resourceId : ResourceId)
    (claimedKey : ContentDigest) (commit : CommitRef) (stateNonMembershipProof : SparseMerkleProof) :
    NonMembershipProofBundle :=
  { schema := nonMembershipProofSchema, tenantId, resourceId, claimedKey, commit, stateNonMembershipProof }

end StateChronicle.Domain
