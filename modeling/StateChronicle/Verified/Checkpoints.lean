import StateChronicle.Accumulator.Checkpoint
import StateChronicle.Accumulator.Evaluation
import StateChronicle.Domain.BcsCodes

/-!
# Checkpoints

Every tenant of a checkpoint can prove its root, and nobody can prove anything else; the checkpoint root is a
function of the set of pairs, and determines it.
-/

namespace StateChronicle.Verified

open Accumulator Domain Foundation

variable {sha256 : List UInt8 → Hash}

/-! ## Hashed strings -/

def pairPreimage (pair : TenantRoot) : List UInt8 := checkpointLeafPreimage pair.1.name pair.2.bytes

def checkpointStrings (sha256 : List UInt8 → Hash) (tenantRoots : List TenantRoot) : List (List UInt8) :=
  MerkleTree.hashedStrings sha256 pairPreimage checkpointInternalPreimage (tenantRoots.insertionSort tenantOrder)

def namedPair (proof : TenantRootProof) : TenantRoot := (⟨proof.tenantId⟩, ⟨proof.tenantRoot⟩)

def tenantProofStrings (sha256 : List UInt8 → Hash) (proof : TenantRootProof) : List (List UInt8) :=
  pairPreimage (namedPair proof) ::
    (MerkleTree.walkedPairs (checkpointInternal sha256) proof.index (sha256 (pairPreimage (namedPair proof)))
      (proof.steps.map CheckpointStep.sibling)).map (Function.uncurry checkpointInternalPreimage)

theorem checkpointInternalPreimage_injective : Function.Injective (Function.uncurry checkpointInternalPreimage) := by
  rintro ⟨left, right⟩ ⟨left', right'⟩ same
  obtain ⟨lefts, rights⟩ := List.append_inj (List.cons.inj same).2 (by simp)
  exact Prod.ext (Vector.toList_inj.mp lefts) (Vector.toList_inj.mp rights)

theorem pairPreimage_ne_checkpointInternalPreimage (pair : TenantRoot) (left right : Hash) :
    pairPreimage pair ≠ checkpointInternalPreimage left right := by
  intro same
  exact absurd (List.cons.inj same).1 (by decide)

/-- The length prefix and the fixed width of the root delimit the tenant's name. -/
theorem pairPreimage_injective : Function.Injective pairPreimage := by
  rintro ⟨⟨tenant⟩, ⟨root⟩⟩ ⟨⟨tenant'⟩, ⟨root'⟩⟩ same
  obtain ⟨fields, roots⟩ := List.append_inj' same (by simp)
  obtain ⟨-, names⟩ := List.append_inj (List.cons.inj fields).2 (by simp [u64LenPrefix])
  have sameName : tenant = tenant' := Bcs.utf8_injective names
  have sameRoot : root = root' := Vector.toList_inj.mp roots
  rw [sameName, sameRoot]

section Accepted

variable {tenantRoots : List TenantRoot} {checkpoint : CheckpointRoot}
  (accepted : CheckpointRoot.fromTenantRoots sha256 tenantRoots = .ok checkpoint)

include accepted

theorem rootHash_of_accepted :
    MerkleTree.rootHash sha256 pairPreimage checkpointInternalPreimage (tenantRoots.insertionSort tenantOrder) =
      some checkpoint.root := by
  obtain ⟨entries, -, -, top⟩ := fromTenantRoots_eq_ok accepted
  rw [entries] at top
  exact top

theorem mem_entries {pair : TenantRoot} : pair ∈ checkpoint.entries ↔ pair ∈ tenantRoots := by
  rw [(fromTenantRoots_eq_ok accepted).1]
  exact (List.perm_insertionSort tenantOrder tenantRoots).mem_iff

theorem exists_proof_iff (tenant : TenantId) :
    (∃ proof, checkpoint.proveTenantRoot tenant = some proof) ↔ tenant ∈ tenantRoots.map Prod.fst := by
  have listed : tenant ∈ tenantRoots.map Prod.fst ↔ tenant ∈ checkpoint.entries.map Prod.fst := by
    simp only [List.mem_map, mem_entries accepted]
  rw [listed]
  simp only [CheckpointRoot.proveTenantRoot, Option.bind_eq_bind, Option.bind_eq_some_iff, Option.pure_def,
    Option.some.injEq]
  constructor
  · rintro ⟨proof, index, found, pair, -, -⟩
    obtain ⟨inside, same, -⟩ := List.findIdx?_eq_some_iff_getElem.mp found
    exact List.mem_map.mpr ⟨_, List.getElem_mem inside, by simpa using same⟩
  · intro member
    obtain ⟨pair, inside, rfl⟩ := List.mem_map.mp member
    cases found : checkpoint.entries.findIdx? fun entry => decide (entry.1 = pair.1) with
    | none =>
      have absent := List.findIdx?_eq_none_iff.mp found pair inside
      simp at absent
    | some index =>
      obtain ⟨small, -, -⟩ := List.findIdx?_eq_some_iff_getElem.mp found
      exact ⟨_, index, rfl, _, List.getElem?_eq_getElem small, rfl⟩

theorem verified_of_proveTenantRoot {tenant : TenantId} {proof : TenantRootProof}
    (proved : checkpoint.proveTenantRoot tenant = some proof) :
    proof.tenantId = tenant.name ∧ namedPair proof ∈ tenantRoots ∧
      CheckpointRoot.verifyTenantRoot sha256 checkpoint proof = true := by
  obtain ⟨entries, -, levels, top⟩ := fromTenantRoots_eq_ok accepted
  simp only [CheckpointRoot.proveTenantRoot, Option.bind_eq_bind, Option.bind_eq_some_iff, Option.pure_def,
    Option.some.injEq] at proved
  obtain ⟨index, found, pair, listed, rfl⟩ := proved
  obtain ⟨small, same, -⟩ := List.findIdx?_eq_some_iff_getElem.mp found
  have owner : pair.1 = tenant := by
    rw [List.getElem?_eq_getElem small] at listed
    rw [← Option.some.inj listed]
    exact of_decide_eq_true same
  have leaf : (CheckpointRoot.leaves sha256 checkpoint.entries)[index]? =
      some (checkpointLeaf sha256 tenant.name pair.2.bytes) := by
    rw [CheckpointRoot.leaves, List.getElem?_map, listed, Option.map_some, owner]
  refine ⟨rfl, ?_, ?_⟩
  · have member := (mem_entries accepted).mp (List.mem_of_getElem? listed)
    rwa [show pair = (tenant, pair.2) from Prod.ext owner rfl] at member
  · rw [CheckpointRoot.verifyTenantRoot, decide_eq_true_eq, map_sibling_pathSteps, levels]
    exact MerkleTree.walk_siblings leaf top

theorem mem_of_verified {proof : TenantRootProof}
    (collisionFree : CollisionFree sha256 (checkpointStrings sha256 tenantRoots ++ tenantProofStrings sha256 proof))
    (verified : CheckpointRoot.verifyTenantRoot sha256 checkpoint proof = true) : namedPair proof ∈ tenantRoots := by
  have reached := rootHash_of_accepted accepted
  rw [← of_decide_eq_true verified] at reached
  have inside := MerkleTree.mem_of_walk pairPreimage_ne_checkpointInternalPreimage pairPreimage_injective
    checkpointInternalPreimage_injective
    (fun a inTree b inPath => collisionFree a (List.mem_append_left _ inTree) b (List.mem_append_right _ inPath))
    reached
  exact (List.perm_insertionSort tenantOrder tenantRoots).mem_iff.mp inside

theorem nodup_names_of_accepted : (tenantRoots.map fun entry => entry.1.name).Nodup := by
  obtain ⟨entries, distinct, -⟩ := fromTenantRoots_eq_ok accepted
  rw [entries] at distinct
  exact ((List.perm_insertionSort tenantOrder tenantRoots).map _).nodup_iff.mp distinct

end Accepted

/-- Exactly the listed tenants have a proof, every such proof is accepted, and, where the hashed strings do not
collide, every accepted proof names a listed pair. -/
theorem checkpoint_proofs_complete_and_sound {tenantRoots : List TenantRoot} {checkpoint : CheckpointRoot}
    (accepted : CheckpointRoot.fromTenantRoots sha256 tenantRoots = .ok checkpoint) :
    (∀ tenant, (∃ proof, checkpoint.proveTenantRoot tenant = some proof) ↔ tenant ∈ tenantRoots.map Prod.fst) ∧
    (∀ tenant proof, checkpoint.proveTenantRoot tenant = some proof → proof.tenantId = tenant.name ∧
      namedPair proof ∈ tenantRoots ∧ CheckpointRoot.verifyTenantRoot sha256 checkpoint proof = true) ∧
    (∀ proof, CollisionFree sha256 (checkpointStrings sha256 tenantRoots ++ tenantProofStrings sha256 proof) →
      CheckpointRoot.verifyTenantRoot sha256 checkpoint proof = true → namedPair proof ∈ tenantRoots) :=
  ⟨exists_proof_iff accepted, fun _ _ => verified_of_proveTenantRoot accepted, fun _ => mem_of_verified accepted⟩

section Witnesses

def alphaRoot : TenantRoot := (⟨"acme.game.alpha"⟩, ⟨Sha256.sha256 (utf8 "alpha")⟩)

def betaRoot : TenantRoot := (⟨"acme.game.beta"⟩, ⟨Sha256.sha256 (utf8 "beta")⟩)

def twoTenantStrings : List (List UInt8) :=
  [checkpointInternalPreimage (Sha256.sha256 (pairPreimage alphaRoot)) (Sha256.sha256 (pairPreimage betaRoot)),
    pairPreimage alphaRoot, pairPreimage betaRoot]

theorem twoTenantStrings_collisionFree : CollisionFree Sha256.sha256 twoTenantStrings :=
  collisionFree_of_nodup (by decide +kernel)

theorem sorted_twoTenants : [betaRoot, alphaRoot].insertionSort tenantOrder = [alphaRoot, betaRoot] ∧
    [alphaRoot, betaRoot].insertionSort tenantOrder = [alphaRoot, betaRoot] := by
  have before : tenantOrder alphaRoot betaRoot := by decide
  have after : ¬ tenantOrder betaRoot alphaRoot := by decide
  simp [List.insertionSort, List.orderedInsert, before, after]

theorem checkpointStrings_twoTenants :
    checkpointStrings Sha256.sha256 [betaRoot, alphaRoot] = twoTenantStrings ∧
      checkpointStrings Sha256.sha256 [alphaRoot, betaRoot] = twoTenantStrings := by
  simp [checkpointStrings, sorted_twoTenants.1, sorted_twoTenants.2, MerkleTree.hashedStrings, MerkleTree.tree,
    MerkleTree.collapse, MerkleTree.pairUp, MerkleTree.Tree.strings, MerkleTree.Tree.digest, twoTenantStrings]

def alphaProof : TenantRootProof :=
  ⟨"acme.game.alpha", alphaRoot.2.bytes, 0, [⟨0, Sha256.sha256 (pairPreimage betaRoot)⟩]⟩

/-- It is accepted by a checkpoint of the two tenants, and the checkpoint holds what it names. -/
theorem alpha_root_proved : ∃ checkpoint,
    CheckpointRoot.fromTenantRoots Sha256.sha256 [betaRoot, alphaRoot] = .ok checkpoint ∧
      CheckpointRoot.verifyTenantRoot Sha256.sha256 checkpoint alphaProof = true ∧
      namedPair alphaProof ∈ [betaRoot, alphaRoot] := by
  obtain ⟨checkpoint, accepted⟩ := exists_fromTenantRoots Sha256.sha256 (List.cons_ne_nil betaRoot [alphaRoot])
    (by decide)
  have rooted := rootHash_of_accepted accepted
  rw [sorted_twoTenants.1] at rooted
  simp only [MerkleTree.rootHash, List.map_cons, List.map_nil, MerkleTree.collapse, MerkleTree.pairUp,
    Option.some.injEq] at rooted
  have verified : CheckpointRoot.verifyTenantRoot Sha256.sha256 checkpoint alphaProof = true := decide_eq_true rooted
  have collisionFree : CollisionFree Sha256.sha256
      (checkpointStrings Sha256.sha256 [betaRoot, alphaRoot] ++ tenantProofStrings Sha256.sha256 alphaProof) := by
    rw [checkpointStrings_twoTenants.1]
    refine twoTenantStrings_collisionFree.mono (List.append_subset.mpr ⟨List.Subset.refl _, ?_⟩)
    rintro string (_ | ⟨_, _ | ⟨_, none⟩⟩)
    · exact List.mem_cons_of_mem _ List.mem_cons_self
    · exact List.mem_cons_self
    · cases none
  exact ⟨checkpoint, accepted, verified,
    (checkpoint_proofs_complete_and_sound accepted).2.2 alphaProof collisionFree verified⟩

end Witnesses

/-! ## The root and the set of pairs -/

theorem fromTenantRoots_of_perm {xs ys : List TenantRoot} {checkpoint : CheckpointRoot}
    (accepted : CheckpointRoot.fromTenantRoots sha256 xs = .ok checkpoint) (rearranged : xs.Perm ys) :
    CheckpointRoot.fromTenantRoots sha256 ys = .ok checkpoint := by
  have sorted := insertionSort_eq_of_perm (fun entry : TenantRoot => entry.1.name) tenantOrder (fun _ _ => Iff.rfl)
    (nodup_names_of_accepted accepted) rearranged
  have nonempty : xs = [] ↔ ys = [] := by
    rw [← List.length_eq_zero_iff, ← List.length_eq_zero_iff, rearranged.length_eq]
  rw [← accepted]
  simp only [CheckpointRoot.fromTenantRoots, sorted, nonempty]

/-- The order of the pairs does not matter, and, where the hashed strings do not collide, checkpoints with one root
hold the same pairs. -/
theorem checkpoint_commits_to_pairs {xs ys : List TenantRoot} {first second : CheckpointRoot}
    (accepted : CheckpointRoot.fromTenantRoots sha256 xs = .ok first)
    (accepted' : CheckpointRoot.fromTenantRoots sha256 ys = .ok second) :
    (∀ zs, xs.Perm zs → ∃ third, CheckpointRoot.fromTenantRoots sha256 zs = .ok third ∧ third.root = first.root) ∧
    (CollisionFree sha256 (checkpointStrings sha256 xs ++ checkpointStrings sha256 ys) →
      first.root = second.root → ∀ pair, pair ∈ xs ↔ pair ∈ ys) := by
  refine ⟨fun zs rearranged => ⟨first, fromTenantRoots_of_perm accepted rearranged, rfl⟩, ?_⟩
  intro collisionFree same pair
  have rooted := rootHash_of_accepted accepted
  have rooted' := rootHash_of_accepted accepted'
  rw [← same] at rooted'
  have distinct {zs : List TenantRoot} {checkpoint : CheckpointRoot}
      (taken : CheckpointRoot.fromTenantRoots sha256 zs = .ok checkpoint) :
      (zs.insertionSort tenantOrder).Nodup :=
    (List.perm_insertionSort tenantOrder zs).nodup_iff.mpr (nodup_names_of_accepted taken).of_map
  have entries := MerkleTree.rootHash_injective pairPreimage_ne_checkpointInternalPreimage pairPreimage_injective
    checkpointInternalPreimage_injective (distinct accepted) (distinct accepted')
    (fun a inXs b inYs => collisionFree a (List.mem_append_left _ inXs) b (List.mem_append_right _ inYs))
    rooted rooted'
  rw [← (List.perm_insertionSort tenantOrder xs).mem_iff, entries]
  exact (List.perm_insertionSort tenantOrder ys).mem_iff

theorem two_orders_one_root : ∃ first second,
    CheckpointRoot.fromTenantRoots Sha256.sha256 [betaRoot, alphaRoot] = .ok first ∧
      CheckpointRoot.fromTenantRoots Sha256.sha256 [alphaRoot, betaRoot] = .ok second ∧ first.root = second.root ∧
      ∀ pair, pair ∈ [betaRoot, alphaRoot] ↔ pair ∈ [alphaRoot, betaRoot] := by
  obtain ⟨first, accepted⟩ := exists_fromTenantRoots Sha256.sha256 (List.cons_ne_nil betaRoot [alphaRoot])
    (by decide)
  have accepted' := fromTenantRoots_of_perm accepted (List.Perm.swap alphaRoot betaRoot [])
  have collisionFree : CollisionFree Sha256.sha256 (checkpointStrings Sha256.sha256 [betaRoot, alphaRoot] ++
      checkpointStrings Sha256.sha256 [alphaRoot, betaRoot]) := by
    rw [checkpointStrings_twoTenants.1, checkpointStrings_twoTenants.2]
    exact twoTenantStrings_collisionFree.mono
      (List.append_subset.mpr ⟨List.Subset.refl _, List.Subset.refl _⟩)
  exact ⟨first, first, accepted, accepted', rfl,
    (checkpoint_commits_to_pairs accepted accepted').2 collisionFree rfl⟩

end StateChronicle.Verified
