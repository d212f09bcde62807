import StateChronicle.Accumulator.DefaultChain
import StateChronicle.Domain.Bcs
import StateChronicle.Proofs.Acceptance

/-!
# Roots and paths of the state tree

Every history of insertions has one root, which stands for the map it leaves behind, and the tree
answers for every key with a proof that its own verifier accepts.
-/

namespace StateChronicle.Verified

open Accumulator Domain Foundation Proofs

variable {accumulator' : StateAccumulator} {key : StateKey}

/-! ## Proofs for every key -/

variable {accumulator : StateAccumulator} {sha256 : List UInt8 → Hash}

theorem proveInclusion_eq_some {proof : InclusionProof} (proven : accumulator.proveInclusion sha256 key = some proof) :
    proof = ⟨key, slotHash sha256 key accumulator.leaves.entries,
      sparse (pathSibling sha256 key accumulator.leaves.entries)⟩ := by
  obtain ⟨digest, held, rfl⟩ := Option.map_eq_some_iff.mp proven
  rw [StateAccumulator.collectSteps_eq, slotHash_eq, held]
  rfl

theorem proveNonMembership_eq_some (chain : DefaultChain sha256) {proof : NonMembershipProof}
    (proven : accumulator.proveNonMembership sha256 key = some proof) :
    proof = ⟨key, slotHash sha256 key accumulator.leaves.entries,
      sparse (pathSibling sha256 key accumulator.leaves.entries)⟩ := by
  rw [StateAccumulator.proveNonMembership, Option.ite_none_left_eq_some] at proven
  obtain ⟨absent, held⟩ := proven
  obtain rfl := Option.some.inj held
  rw [Option.not_isSome_iff_eq_none] at absent
  rw [StateAccumulator.collectSteps_eq, slotHash_eq, absent, ← chain.bottom]
  rfl

theorem verifyPath_sparse_pathSibling (chain : DefaultChain sha256) (accumulator : StateAccumulator) (key : StateKey) :
    verifyPath sha256 (accumulator.root sha256) key (slotHash sha256 key accumulator.leaves.entries)
      (sparse (pathSibling sha256 key accumulator.leaves.entries)) :=
  accumulator.verifyPath_of_siblings chain key fun _ inside => siblingAt_sparse _ inside

/-- The tree proves presence for exactly the keys it holds and absence for exactly the others.  Its
proofs verify against its root, directly and after a round trip through the wire form. -/
theorem tree_proofs_complete {sha256 : List UInt8 → Hash} (chain : DefaultChain sha256)
    (accumulator : StateAccumulator) (key : StateKey) :
    ((accumulator.proveInclusion sha256 key).isSome ↔ (accumulator.leaves.get? key).isSome) ∧
    ((accumulator.proveNonMembership sha256 key).isSome ↔ accumulator.leaves.get? key = none) ∧
    (∀ proof, accumulator.proveInclusion sha256 key = some proof → proof.key = key ∧
      StateAccumulator.verifyInclusion sha256 (accumulator.root sha256) proof ∧
      (sparseProofFromInclusion proof).path.length = treeDepth ∧
      ∃ steps, stepsFromSparseProof (sparseProofFromInclusion proof) = .ok steps ∧ steps = proof.steps ∧
        StateAccumulator.verifyInclusion sha256 (accumulator.root sha256)
          ⟨key, (sparseProofFromInclusion proof).leafHash.bytes, steps⟩) ∧
    (∀ proof, accumulator.proveNonMembership sha256 key = some proof → proof.key = key ∧
      proof.leafHash = emptyLeafHash ∧
      StateAccumulator.verifyNonMembership sha256 (accumulator.root sha256) proof ∧
      (sparseProofFromNonMembership proof).path.length = treeDepth ∧
      ∃ steps, stepsFromSparseProof (sparseProofFromNonMembership proof) = .ok steps ∧
        steps = proof.steps ∧ StateAccumulator.verifyNonMembership sha256 (accumulator.root sha256)
          ⟨key, (sparseProofFromNonMembership proof).leafHash.bytes, steps⟩) := by
  have verified := verifyPath_sparse_pathSibling chain accumulator key
  refine ⟨?_, ?_, ?_, ?_⟩
  · rw [StateAccumulator.proveInclusion, Option.isSome_map]
  · rw [StateAccumulator.proveNonMembership]
    cases accumulator.leaves.get? key <;> simp
  · intro proof proven
    obtain rfl := proveInclusion_eq_some proven
    exact ⟨rfl, verified, length_densePath _, _, stepsFromSparseProof_densePath _ _, rfl, verified⟩
  · intro proof proven
    have leaf : proof.leafHash = emptyLeafHash := by
      rw [StateAccumulator.proveNonMembership, Option.ite_none_left_eq_some] at proven
      rw [← Option.some.inj proven.2]
    obtain rfl := proveNonMembership_eq_some chain proven
    exact ⟨rfl, leaf, verified, length_densePath _, _, stepsFromSparseProof_densePath _ _, rfl, verified⟩

/-! ### A ledger of one asset -/

def swordState : ResourceState := .uniqueAsset ⟨⟨"account:player_456"⟩, ⟨"active"⟩, none⟩

def swordKey : StateKey := ⟨hashOfNumber 0x0421c524d1c882a9eaa2f91e189a126e6c1b0cd2f66fb53beee2016ee8ddd14a⟩

def swordDigest : Hash := hashOfNumber 0x8ef4ada10e363b2d2e5d8034d69d0359de64bc9966e8bdebdc4b779adee79fc9

def swordTree : StateAccumulator := ⟨.insert .empty swordKey swordDigest⟩

theorem swordKey_eq : StateKey.forResource Sha256.sha256 "tenant:acme" "asset:sword_001" = swordKey := by
  decide +kernel

theorem swordDigest_eq : Sha256.sha256 (Bcs.state swordState) = swordDigest := by
  decide +kernel

theorem swordKey_ne_zeroKey : swordKey ≠ zeroKey := by
  intro same
  have first := congrArg (fun key : StateKey => key.bytes.toList.head?) same
  exact absurd first (by decide)

/-- The strings on the path of the only leaf. -/
def swordStrings : List (List UInt8) :=
  pathStrings Sha256.sha256 swordKey defaultHash (leafPreimage swordKey swordDigest)

theorem swordTree_treeStrings : swordTree.treeStrings Sha256.sha256 swordKey = swordStrings := by
  have siblings := pathSibling_lone Sha256.sha256 swordKey swordDigest
  have slot : swordTree.slotString swordKey = leafPreimage swordKey swordDigest := by
    rw [StateAccumulator.slotString, swordTree, SortedMap.get?_insert, if_pos rfl]
    rfl
  rw [StateAccumulator.treeStrings, slot, swordStrings, ← siblings]
  rfl

/-- The strings on the paths of the asset and of an empty tree do not collide. -/
theorem swordStrings_collisionFree : CollisionFree Sha256.sha256 (swordStrings ++ emptyStrings swordKey) := by
  have distinct : distinctResidues 14362 0 (climbNumbers nodeNumber (routingBit swordKey) defaultNumber
      treeDepth 0 (Hash.number (leafHash Sha256.sha256 swordKey swordDigest)) ++ defaultSubtreeNumbers) = true := by
    decide +kernel
  refine collisionFree_of_nodup ?_
  rw [List.map_append, List.map_append, numbers_emptyStrings, swordStrings, numbers_pathStrings]
  simp only [number_defaultHash]
  exact (nodup_of_distinctResidues distinct).1

theorem swordTree_get? : swordTree.leaves.get? swordKey = some swordDigest := by
  rw [swordTree, SortedMap.get?_insert, if_pos rfl]

theorem swordTree_get?_zeroKey : swordTree.leaves.get? zeroKey = none := by
  rw [swordTree, SortedMap.get?_insert, if_neg swordKey_ne_zeroKey.symm]
  rfl

theorem sword_proofs_verify :
    (∃ proof, swordTree.proveInclusion Sha256.sha256 swordKey = some proof ∧
      StateAccumulator.verifyInclusion Sha256.sha256 (swordTree.root Sha256.sha256) proof) ∧
    ∃ proof, swordTree.proveNonMembership Sha256.sha256 zeroKey = some proof ∧
      StateAccumulator.verifyNonMembership Sha256.sha256 (swordTree.root Sha256.sha256) proof := by
  obtain ⟨present, _, included, _⟩ := tree_proofs_complete defaultChain_sha256 swordTree swordKey
  obtain ⟨_, absent, _, excluded⟩ := tree_proofs_complete defaultChain_sha256 swordTree zeroKey
  obtain ⟨proof, proven⟩ := Option.isSome_iff_exists.mp (present.mpr (by rw [swordTree_get?]; rfl))
  obtain ⟨proof', proven'⟩ := Option.isSome_iff_exists.mp (absent.mpr swordTree_get?_zeroKey)
  exact ⟨⟨proof, proven, (included proof proven).2.1⟩, proof', proven', (excluded proof' proven').2.2.1⟩

/-! ## Histories of insertions -/

/-- The tree that a history of batches leaves behind. -/
def insertBatches (sha256 : List UInt8 → Hash) (history : List (List StateUpdate)) : StateAccumulator :=
  history.foldl (fun accumulator updates => (accumulator.insertBatch sha256 updates).1) .empty

/-- What the last update of a key wrote. -/
def lastWrite (history : List (List StateUpdate)) (key : StateKey) : Option Hash :=
  (history.flatten.reverse.find? fun update => update.key = key).map (·.stateDigest)

theorem get?_insertBatch (sha256 : List UInt8 → Hash) (accumulator : StateAccumulator)
    (updates : List StateUpdate) (key : StateKey) :
    (accumulator.insertBatch sha256 updates).1.leaves.get? key =
      ((updates.reverse.find? fun update => update.key = key).map (·.stateDigest)).or
        (accumulator.leaves.get? key) :=
  SortedMap.get?_foldl_insert StateUpdate.key StateUpdate.stateDigest updates accumulator.leaves
    fun _ => decide_eq_true_iff

theorem get?_insertBatches (sha256 : List UInt8 → Hash) (history : List (List StateUpdate)) (key : StateKey) :
    (insertBatches sha256 history).leaves.get? key = lastWrite history key := by
  induction history using List.reverseRecOn with
  | nil => rfl
  | append_singleton history updates ih =>
    rw [insertBatches, List.foldl_append, List.foldl_cons, List.foldl_nil, get?_insertBatch]
    rw [insertBatches] at ih
    rw [ih, lastWrite, lastWrite, List.flatten_append, List.flatten_singleton,
      List.reverse_append, List.find?_append, Option.map_or]

/-- The strings hashed on the paths of the keys that either tree holds. -/
def sharedStrings (sha256 : List UInt8 → Hash) (accumulator accumulator' : StateAccumulator) : List (List UInt8) :=
  (accumulator.leaves.keys ++ accumulator'.leaves.keys).flatMap fun key =>
    accumulator.treeStrings sha256 key ++ accumulator'.treeStrings sha256 key

/-- The string of a slot tells what the key is bound to, unless it is the empty leaf. -/
theorem get?_of_slotString_eq (filled : accumulator.leaves.get? zeroKey ≠ some zeroHash)
    (filled' : accumulator'.leaves.get? zeroKey ≠ some zeroHash)
    (same : accumulator.slotString key = accumulator'.slotString key) :
    accumulator.leaves.get? key = accumulator'.leaves.get? key := by
  rw [StateAccumulator.slotString, StateAccumulator.slotString] at same
  cases held : accumulator.leaves.get? key with
  | none =>
    cases held' : accumulator'.leaves.get? key with
    | none => rfl
    | some digest =>
      rw [held, held'] at same
      obtain ⟨rfl, rfl⟩ := leafPreimage_inj same
      exact absurd held' filled'
  | some digest =>
    cases held' : accumulator'.leaves.get? key with
    | none =>
      rw [held, held'] at same
      obtain ⟨rfl, rfl⟩ := leafPreimage_inj same
      exact absurd held filled
    | some digest' =>
      rw [held, held'] at same
      rw [(leafPreimage_inj same).2]

theorem leaves_eq_of_root_eq (chain : DefaultChain sha256)
    (collisionFree : CollisionFree sha256 (sharedStrings sha256 accumulator accumulator'))
    (filled : accumulator.leaves.get? zeroKey ≠ some zeroHash)
    (filled' : accumulator'.leaves.get? zeroKey ≠ some zeroHash)
    (same : accumulator.root sha256 = accumulator'.root sha256) (key : StateKey) :
    accumulator.leaves.get? key = accumulator'.leaves.get? key := by
  by_cases held : key ∈ accumulator.leaves.keys ++ accumulator'.leaves.keys
  · have along : CollisionFree sha256 (accumulator.treeStrings sha256 key ++ accumulator'.treeStrings sha256 key) :=
      collisionFree.mono fun string listed => List.mem_flatMap.mpr ⟨key, held, listed⟩
    refine get?_of_slotString_eq filled filled' (accumulator.slotString_eq_of_climb chain along ?_)
    rw [StateAccumulator.sha256_slotString chain, accumulator'.climb_eq_root chain, same]
  · rw [List.mem_append, SortedMap.mem_keys_iff, SortedMap.mem_keys_iff, not_or, not_exists, not_exists] at held
    rw [Option.eq_none_iff_forall_ne_some.mpr held.1, Option.eq_none_iff_forall_ne_some.mpr held.2]

/-- The root of a history depends on the last write of each key and on nothing else, and determines
it: collision freedom is only asked of the strings on the paths of the keys written. -/
theorem root_commits_to_last_writes {sha256 : List UInt8 → Hash} (history history' : List (List StateUpdate)) :
    (lastWrite history = lastWrite history' →
      (insertBatches sha256 history).root sha256 = (insertBatches sha256 history').root sha256) ∧
    (DefaultChain sha256 →
      CollisionFree sha256 (sharedStrings sha256 (insertBatches sha256 history) (insertBatches sha256 history')) →
      lastWrite history zeroKey ≠ some zeroHash → lastWrite history' zeroKey ≠ some zeroHash →
      (insertBatches sha256 history).root sha256 = (insertBatches sha256 history').root sha256 →
      lastWrite history = lastWrite history') := by
  constructor
  · intro same
    have leaves : (insertBatches sha256 history).leaves = (insertBatches sha256 history').leaves :=
      SortedMap.ext_get? fun key => by rw [get?_insertBatches, get?_insertBatches, same]
    rw [StateAccumulator.root, StateAccumulator.root, StateAccumulator.computeRoot,
      StateAccumulator.computeRoot, leaves]
  · intro chain collisionFree filled filled' same
    rw [← get?_insertBatches sha256] at filled filled'
    funext key
    rw [← get?_insertBatches sha256, ← get?_insertBatches sha256]
    exact leaves_eq_of_root_eq chain collisionFree filled filled' same key

/-- The asset written twice, and written once. -/
def rewrittenHistory : List (List StateUpdate) := [[⟨swordKey, zeroHash⟩], [⟨swordKey, swordDigest⟩]]

def plainHistory : List (List StateUpdate) := [[⟨swordKey, swordDigest⟩]]

theorem lastWrite_plainHistory (key : StateKey) : lastWrite plainHistory key = swordTree.leaves.get? key := by
  rw [swordTree, SortedMap.get?_insert]
  by_cases own : key = swordKey
  · simp [lastWrite, plainHistory, own]
  · simp [lastWrite, plainHistory, own, Ne.symm own]

theorem lastWrite_rewrittenHistory : lastWrite rewrittenHistory = lastWrite plainHistory := by
  funext key
  by_cases own : swordKey = key <;> simp [lastWrite, rewrittenHistory, plainHistory, own]

theorem insertBatches_eq_swordTree {history : List (List StateUpdate)}
    (same : lastWrite history = lastWrite plainHistory) : insertBatches Sha256.sha256 history = swordTree := by
  have leaves : (insertBatches Sha256.sha256 history).leaves = swordTree.leaves :=
    SortedMap.ext_get? fun key => by rw [get?_insertBatches, same, lastWrite_plainHistory]
  exact congrArg StateAccumulator.mk leaves

theorem rewritten_root_commits :
    (insertBatches Sha256.sha256 rewrittenHistory).root Sha256.sha256 =
        (insertBatches Sha256.sha256 plainHistory).root Sha256.sha256 ∧
      lastWrite rewrittenHistory = lastWrite plainHistory := by
  obtain ⟨sameRoot, sameWrites⟩ :=
    @root_commits_to_last_writes Sha256.sha256 rewrittenHistory plainHistory
  have roots := sameRoot lastWrite_rewrittenHistory
  have filled : lastWrite plainHistory zeroKey ≠ some zeroHash := by
    rw [lastWrite_plainHistory, swordTree_get?_zeroKey]
    exact (Option.some_ne_none _).symm
  have collisionFree : CollisionFree Sha256.sha256 (sharedStrings Sha256.sha256
      (insertBatches Sha256.sha256 rewrittenHistory) (insertBatches Sha256.sha256 plainHistory)) := by
    rw [insertBatches_eq_swordTree lastWrite_rewrittenHistory, insertBatches_eq_swordTree rfl]
    refine swordStrings_collisionFree.mono fun string listed => List.mem_append_left _ ?_
    obtain ⟨key, held, onPath⟩ := List.mem_flatMap.mp listed
    have keys : swordTree.leaves.keys = [swordKey] := rfl
    obtain rfl : key = swordKey := by simpa [keys] using held
    rw [swordTree_treeStrings] at onPath
    exact (List.mem_append.mp onPath).elim id id
  exact ⟨roots, sameWrites defaultChain_sha256 collisionFree (lastWrite_rewrittenHistory ▸ filled) filled roots⟩

end StateChronicle.Verified
