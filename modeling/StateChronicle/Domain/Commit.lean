import StateChronicle.Domain.Event

/-!
# Commits

A commit groups events of one scope and pins the state root they lead to.  Its signature covers the
canonical bytes of the body and stands beside it.
-/

namespace StateChronicle.Domain

open StateChronicle.Core

/-! ## Signatures -/

inductive SignatureAlg where
  | ed25519
deriving DecidableEq, Repr

structure SignatureBlock where
  alg : SignatureAlg
  keyId : String
  sig : List UInt8
deriving DecidableEq, Repr

structure Signed (α : Type) where
  body : α
  signature : SignatureBlock
deriving DecidableEq, Repr

/-! ## Commits -/

def commitSchema : String := "statechronicle.commit.v0"

inductive ScopeKind where
  | tenant
  | globalCheckpoint
deriving DecidableEq, Repr

structure CommitScope where
  kind : ScopeKind
  tenantId : Option TenantId
deriving DecidableEq, Repr

def CommitScope.tenant (tenantId : TenantId) : CommitScope := ⟨.tenant, some tenantId⟩

def CommitScope.globalCheckpoint : CommitScope := ⟨.globalCheckpoint, none⟩

structure Commit where
  schema : String
  scope : CommitScope
  commitId : CommitId
  parentCommitId : Option CommitId
  sequence : U64
  eventCount : U64
  eventMerkleRoot : ContentDigest
  previousStateRoot : ContentDigest
  nextStateRoot : ContentDigest
  createdAt : Timestamp
  executor : SubjectId
  profile : ProfileId
deriving DecidableEq, Repr

def Commit.new (scope : CommitScope) (commitId : CommitId) (parentCommitId : Option CommitId)
    (sequence eventCount : U64) (eventMerkleRoot previousStateRoot nextStateRoot : ContentDigest)
    (createdAt : Timestamp) (executor : SubjectId) (profile : ProfileId) : Commit :=
  { schema := commitSchema, scope, commitId, parentCommitId, sequence, eventCount, eventMerkleRoot,
    previousStateRoot, nextStateRoot, createdAt, executor, profile }

end StateChronicle.Domain
