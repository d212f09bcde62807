import StateChronicle.Accumulator.SparseMerkle
import StateChronicle.Commit.StateTable
import StateChronicle.Foundation.MerkleTree

/-!
# Roots of a commit

A commit carries two roots: a Merkle root over its events, and the root of the state tree after its
updates.  The continuity check derives both state roots of a commit again from the updates.
-/

namespace StateChronicle.Commit

open StateChronicle.Core Accumulator Domain Foundation

variable (sha256 : List UInt8 → Hash)

/-! ## Events -/

def eventLeafPreimage (eventDigest : Hash) : List UInt8 := leafNodeTag :: eventDigest.toList

def eventLeafHash (eventDigest : Hash) : Hash := sha256 (eventLeafPreimage eventDigest)

def eventRoot (eventBytes : Event → Option (List UInt8)) (events : List Event) : Except CommitError ContentDigest := do
  rejectIf (events = []) .emptyBatch
  let level ← events.mapM fun event => do
    let digest ← (canonicalizeAndDigest sha256 (eventBytes event)).mapError CommitError.ofCore
    return eventLeafHash sha256 digest.bytes
  let root ← okOr (MerkleTree.collapse (internalHash sha256) level) .emptyBatch
  return ⟨root⟩

/-! ## States -/

def updateOrder (left right : StateUpdate) : Prop := left.key ≤ right.key

instance : DecidableRel updateOrder := fun left right => inferInstanceAs (Decidable (left.key ≤ right.key))

variable (updates : List StateUpdate)

def sortUpdates : List StateUpdate := updates.insertionSort updateOrder

def stateUpdate (event : Event) : Except CommitError StateUpdate := do
  let key ← inferStateKey sha256 event
  return ⟨key, event.after.stateHash.bytes⟩

def stateRootUpdates (events : List Event) : Except CommitError (List StateUpdate) := do
  rejectIf (events = []) .emptyBatch
  let updates ← events.mapM (stateUpdate sha256)
  return sortUpdates updates

def computeStateRoot : StateRoot :=
  let (accumulator, _) := StateAccumulator.empty.insertBatch sha256 updates
  accumulator.root sha256

/-- One of the two comparisons of the continuity check. -/
def checkStateRoot (declared : ContentDigest) : Except CommitError Unit :=
  let derived : ContentDigest := ⟨(computeStateRoot sha256 updates).bytes⟩
  rejectIf (derived ≠ declared) (.stateRootMismatch declared.asStr derived.asStr)

def verifyStateRootContinuity (previousStateRoot : ContentDigest) (priorUpdates currentUpdates : List StateUpdate)
    (declaredNextStateRoot : ContentDigest) : Except CommitError Unit := do
  checkStateRoot sha256 priorUpdates previousStateRoot
  checkStateRoot sha256 (sortUpdates (priorUpdates ++ currentUpdates)) declaredNextStateRoot

end StateChronicle.Commit
