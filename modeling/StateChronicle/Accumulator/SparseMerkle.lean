import StateChronicle.Accumulator.DefaultHashes
import StateChronicle.Foundation.HashPath
import StateChronicle.Foundation.SortedMap

/-!
# The sparse Merkle tree

A tree of depth 256 over the state keys, held as its set of leaves.  Roots and authentication paths are computed from
the leaves in key order, where a subtree is a run.  A path lists only the siblings that differ from the hash of an
empty subtree.
-/

namespace StateChronicle.Accumulator

open Foundation

def treeDepth : ℕ := 256

def internalNodeTag : UInt8 := 0x10
def leafNodeTag : UInt8 := 0x11

/-! ## Nodes -/

def internalPreimage (left right : Hash) : List UInt8 := internalNodeTag :: (left.toList ++ right.toList)

def leafPreimage (key : StateKey) (stateDigest : Hash) : List UInt8 :=
  leafNodeTag :: (key.bytes.toList ++ stateDigest.toList)

def internalHash (sha256 : List UInt8 → Hash) (left right : Hash) : Hash := sha256 (internalPreimage left right)

def leafHash (sha256 : List UInt8 → Hash) (key : StateKey) (stateDigest : Hash) : Hash :=
  sha256 (leafPreimage key stateDigest)

structure StateRoot where
  bytes : Hash
deriving DecidableEq, Repr

def StateRoot.empty : StateRoot := ⟨defaultHash treeDepth⟩

structure StateUpdate where
  key : StateKey
  stateDigest : Hash
deriving DecidableEq, Repr

/-! ## Runs of entries -/

/-- The number of entries of a run that belong to the left half: those whose bit is clear, which
come first in key order. -/
def splitAt (entries : List (StateKey × Hash)) (bit : ℕ) : ℕ :=
  (entries.takeWhile fun entry => !entry.1.bitAt bit).length

/-- The hash of the subtree of a height over the run of its entries. -/
def nodeHash (sha256 : List UInt8 → Hash) : ℕ → List (StateKey × Hash) → Hash
  | height, [] => defaultHash height
  | 0, (key, digest) :: _ => leafHash sha256 key digest
  | height + 1, entry :: rest =>
    if treeDepth < height + 1 then defaultHash (height + 1)
    else
      let split := splitAt (entry :: rest) (treeDepth - (height + 1))
      internalHash sha256 (nodeHash sha256 height ((entry :: rest).take split))
        (nodeHash sha256 height ((entry :: rest).drop split))

/-! ## Paths -/

structure PathStep where
  level : ℕ
  sibling : Hash
deriving DecidableEq, Repr

structure InclusionProof where
  key : StateKey
  leafHash : Hash
  steps : List PathStep
deriving DecidableEq, Repr

structure NonMembershipProof where
  key : StateKey
  leafHash : Hash
  steps : List PathStep
deriving DecidableEq, Repr

/-- The step of one level: none for an empty sibling or one that hashes like an empty subtree. -/
def siblingStep (sha256 : List UInt8 → Hash) (height : ℕ) (sibling : List (StateKey × Hash)) : List PathStep :=
  if sibling ≠ [] ∧ nodeHash sha256 height sibling ≠ defaultHash height then
    [⟨height, nodeHash sha256 height sibling⟩]
  else []

/-- The steps from the top of a subtree down to the target, the highest level first. -/
def collectStepsInner (sha256 : List UInt8 → Hash) (target : StateKey) : ℕ → List (StateKey × Hash) → List PathStep
  | 0, _ => []
  | height + 1, entries =>
    if treeDepth < height + 1 then []
    else
      let bit := treeDepth - (height + 1)
      let split := splitAt entries bit
      if target.bitAt bit then
        siblingStep sha256 height (entries.take split) ++
          collectStepsInner sha256 target height (entries.drop split)
      else
        siblingStep sha256 height (entries.drop split) ++
          collectStepsInner sha256 target height (entries.take split)

/-- The sibling a verifier uses at a level: the one listed last for it, or the empty subtree. -/
def siblingAt (steps : List PathStep) (level : ℕ) : Hash :=
  ((SortedMap.ofList (steps.map fun step => (step.level, step.sibling))).get? level).getD
    (defaultHash level)

/-- The side of the climbing value at a level. -/
def routingBit (key : StateKey) (level : ℕ) : Bool := key.bitAt (treeDepth - 1 - level)

def verifyPath (sha256 : List UInt8 → Hash) (root : StateRoot) (key : StateKey) (leafHash : Hash)
    (steps : List PathStep) : Bool :=
  HashPath.climb (internalHash sha256) (routingBit key) (siblingAt steps) leafHash treeDepth = root.bytes

/-! ## The accumulator -/

/-- One tenant's tree: the leaves by key. -/
structure StateAccumulator where
  leaves : SortedMap StateKey Hash

namespace StateAccumulator

def empty : StateAccumulator := ⟨.empty⟩

variable (sha256 : List UInt8 → Hash) (self : StateAccumulator)

@[irreducible] def computeRoot : Hash := nodeHash sha256 treeDepth self.leaves.entries

def root : StateRoot := ⟨self.computeRoot sha256⟩

def insertBatch (updates : List StateUpdate) : StateAccumulator × StateRoot :=
  let inserted : StateAccumulator :=
    ⟨updates.foldl (fun leaves update => leaves.insert update.key update.stateDigest) self.leaves⟩
  (inserted, inserted.root sha256)

@[irreducible] def collectSteps (key : StateKey) : List PathStep :=
  (collectStepsInner sha256 key treeDepth self.leaves.entries).reverse

def proveInclusion (key : StateKey) : Option InclusionProof :=
  (self.leaves.get? key).map fun digest => ⟨key, leafHash sha256 key digest, self.collectSteps sha256 key⟩

def proveNonMembership (key : StateKey) : Option NonMembershipProof :=
  if (self.leaves.get? key).isSome then none
  else some ⟨key, emptyLeafHash, self.collectSteps sha256 key⟩

def verifyInclusion (root : StateRoot) (proof : InclusionProof) : Bool :=
  verifyPath sha256 root proof.key proof.leafHash proof.steps

def verifyNonMembership (root : StateRoot) (proof : NonMembershipProof) : Bool :=
  verifyPath sha256 root proof.key proof.leafHash proof.steps

end StateAccumulator

/-! ## The table as a chain -/

def zeroHash : Hash := .replicate 32 0

def zeroKey : StateKey := ⟨zeroHash⟩

/-- The table holds the hash of the empty leaf and, height by height, of two equal empty subtrees. -/
structure DefaultChain (sha256 : List UInt8 → Hash) : Prop where
  emptyLeaf : emptyLeafHash = leafHash sha256 zeroKey zeroHash
  bottom : defaultHash 0 = emptyLeafHash
  step : ∀ height < treeDepth, defaultHash (height + 1) = internalHash sha256 (defaultHash height) (defaultHash height)

end StateChronicle.Accumulator
