import StateChronicle.Accumulator.SparseMerkle
import StateChronicle.Foundation.MerkleTree
import StateChronicle.Foundation.Sorting

/-!
# Checkpoints

A checkpoint commits one state root for each tenant: a Merkle tree over the pairs in the order of the tenants.  A
tenant's root is proved by its position and the siblings on the way up.
-/

namespace StateChronicle.Accumulator

open Domain Foundation

variable (sha256 : List UInt8 → Hash) (tenantId : String) (root left right : Hash)

inductive AccumulatorError where
  | emptyTenantRoots
  | duplicateTenant (tenant : String)
deriving DecidableEq, Repr

def checkpointLeafTag : UInt8 := 0x12
def checkpointInternalTag : UInt8 := 0x13

/-! ## Nodes -/

def checkpointLeafPreimage : List UInt8 :=
  taggedField checkpointLeafTag tenantId ++ root.toList

def checkpointInternalPreimage : List UInt8 :=
  checkpointInternalTag :: (left.toList ++ right.toList)

def checkpointLeaf : Hash :=
  sha256 (checkpointLeafPreimage tenantId root)

def checkpointInternal : Hash :=
  sha256 (checkpointInternalPreimage left right)

def buildLevels (leaves : List Hash) : List (List Hash) :=
  MerkleTree.levels (checkpointInternal sha256) leaves

/-! ## Checkpoint roots -/

abbrev TenantRoot : Type := TenantId × StateRoot

structure CheckpointRoot where
  root : Hash
  entries : List TenantRoot
  levels : List (List Hash)
deriving DecidableEq, Repr

structure CheckpointStep where
  level : Nat
  sibling : Hash
deriving DecidableEq, Repr

structure TenantRootProof where
  tenantId : String
  tenantRoot : Hash
  index : Nat
  steps : List CheckpointStep
deriving DecidableEq, Repr

def tenantOrder (left right : TenantRoot) : Prop := left.1.name ≤ right.1.name

instance : DecidableRel tenantOrder := fun left right => inferInstanceAs (Decidable (left.1.name ≤ right.1.name))

def duplicateTenant : Option TenantId → List TenantRoot → Option TenantId
  | _, [] => none
  | previous, (tenant, _) :: rest =>
    if previous = some tenant then some tenant else duplicateTenant (some tenant) rest

def pathSteps : List (List Hash) → Nat → Nat → List CheckpointStep
  | [], _, _ => []
  | nodes :: above, level, nodeIndex =>
    if nodes.length ≤ 1 then []
    else
      match nodes[nodeIndex]? with
      | none => []
      | some pathNode =>
        ⟨level, MerkleTree.siblingOf nodes nodeIndex pathNode⟩ :: pathSteps above (level + 1) (nodeIndex / 2)

namespace CheckpointRoot

variable (sha256 : List UInt8 → Hash)

def leaves (entries : List TenantRoot) : List Hash :=
  entries.map fun entry => checkpointLeaf sha256 entry.1.name entry.2.bytes

def fromTenantRoots (tenantRoots : List TenantRoot) : Except AccumulatorError CheckpointRoot := do
  rejectIf (tenantRoots = []) .emptyTenantRoots
  let entries := tenantRoots.insertionSort tenantOrder
  (duplicateTenant none entries).toList.forM fun tenant => throw (.duplicateTenant tenant.name)
  let levels := buildLevels sha256 (leaves sha256 entries)
  let root ← okOr (levels.getLast?.bind List.head?) .emptyTenantRoots
  return ⟨root, entries, levels⟩

def tenantRoot (self : CheckpointRoot) (tenantId : TenantId) : Option StateRoot :=
  (self.entries.find? fun entry => entry.1 = tenantId).map Prod.snd

def proveTenantRoot (self : CheckpointRoot) (tenantId : TenantId) : Option TenantRootProof := do
  let index ← self.entries.findIdx? fun entry => entry.1 = tenantId
  let (_, tenantRoot) ← self.entries[index]?
  return ⟨tenantId.name, tenantRoot.bytes, index, pathSteps self.levels 0 index⟩

/-- The verifier takes the position and the number of steps as the proof gives them. -/
def verifyTenantRoot (root : CheckpointRoot) (proof : TenantRootProof) : Bool :=
  MerkleTree.walk (checkpointInternal sha256) proof.index (checkpointLeaf sha256 proof.tenantId proof.tenantRoot)
    (proof.steps.map CheckpointStep.sibling) = root.root

end CheckpointRoot

/-! ## What a checkpoint holds -/

theorem map_sibling_pathSteps (levels : List (List Hash)) (level nodeIndex : Nat) :
    (pathSteps levels level nodeIndex).map CheckpointStep.sibling = MerkleTree.siblings levels nodeIndex := by
  induction levels generalizing level nodeIndex with
  | nil => rfl
  | cons nodes above ih =>
    rw [pathSteps, MerkleTree.siblings]
    by_cases small : nodes.length ≤ 1
    · rw [if_pos small, if_pos small, List.map_nil]
    · rw [if_neg small, if_neg small]
      cases nodes[nodeIndex]? with
      | none => rfl
      | some pathNode =>
        rw [List.map_cons, ih]

variable {entries : List TenantRoot}

/-- Tenants in order, none of which follows itself, are in strict order. -/
theorem isChain_of_duplicateTenant {previous : TenantId}
    (sorted : ((previous.name :: entries.map fun entry => entry.1.name)).IsChain (· ≤ ·))
    (single : duplicateTenant (some previous) entries = none) :
    (previous.name :: entries.map fun entry => entry.1.name).IsChain (· < ·) := by
  induction entries generalizing previous with
  | nil => exact List.isChain_singleton _
  | cons entry rest ih =>
    obtain ⟨tenant, root⟩ := entry
    rw [List.map_cons, List.isChain_cons_cons] at sorted
    rw [duplicateTenant] at single
    split at single
    case isTrue => cases single
    case isFalse different =>
      have distinct : previous.name ≠ tenant.name :=
        fun same => different (congrArg some (TenantId.name_injective same))
      exact List.isChain_cons_cons.mpr ⟨lt_of_le_of_ne sorted.1 distinct, ih sorted.2 single⟩

theorem nodup_of_duplicateTenant (sorted : (entries.map fun entry => entry.1.name).Pairwise (· ≤ ·))
    (single : duplicateTenant none entries = none) : (entries.map fun entry => entry.1.name).Nodup := by
  cases entries with
  | nil => exact List.nodup_nil
  | cons entry rest =>
    have chain := isChain_of_duplicateTenant sorted.isChain single
    exact chain.pairwise.imp fun {a b} => ne_of_lt

theorem fromTenantRoots_eq_ok {sha256 : List UInt8 → Hash} {tenantRoots : List TenantRoot}
    {checkpoint : CheckpointRoot} (accepted : CheckpointRoot.fromTenantRoots sha256 tenantRoots = .ok checkpoint) :
    checkpoint.entries = tenantRoots.insertionSort tenantOrder ∧
      (checkpoint.entries.map fun entry => entry.1.name).Nodup ∧
      checkpoint.levels = buildLevels sha256 (CheckpointRoot.leaves sha256 checkpoint.entries) ∧
      MerkleTree.collapse (checkpointInternal sha256) (CheckpointRoot.leaves sha256 checkpoint.entries) =
        some checkpoint.root := by
  simp only [CheckpointRoot.fromTenantRoots, Except.bind_eq_ok, rejectIf_eq_ok, Except.forM_eq_ok, okOr_eq_ok,
    Except.pure_eq_ok] at accepted
  obtain ⟨-, -, -, single, root, top, rfl⟩ := accepted
  have sorted := pairwise_map_insertionSort (fun entry : TenantRoot => entry.1.name) tenantOrder
    (fun _ _ => Iff.rfl) tenantRoots
  have none : duplicateTenant none (tenantRoots.insertionSort tenantOrder) = none := by
    cases found : duplicateTenant none (tenantRoots.insertionSort tenantOrder) with
    | none => rfl
    | some tenant =>
      rw [found] at single
      exact absurd (single tenant List.mem_cons_self) (by simp)
  refine ⟨rfl, nodup_of_duplicateTenant sorted none, rfl, ?_⟩
  rw [← MerkleTree.getLast?_levels]
  exact top

theorem duplicateTenant_eq_none {previous : Option TenantId} (distinct : (entries.map fun entry => entry.1.name).Nodup)
    (fresh : ∀ tenant ∈ previous, tenant.name ∉ entries.map fun entry => entry.1.name) :
    duplicateTenant previous entries = none := by
  induction entries generalizing previous with
  | nil => rfl
  | cons entry rest ih =>
    rw [List.map_cons, List.nodup_cons] at distinct
    have different : previous ≠ some entry.1 := fun same => fresh _ same List.mem_cons_self
    rw [duplicateTenant, if_neg different]
    refine ih distinct.2 fun tenant same => ?_
    rw [← Option.some.inj same]
    exact distinct.1

theorem exists_fromTenantRoots (sha256 : List UInt8 → Hash) {tenantRoots : List TenantRoot}
    (nonempty : tenantRoots ≠ []) (distinct : (tenantRoots.map fun entry => entry.1.name).Nodup) :
    ∃ checkpoint, CheckpointRoot.fromTenantRoots sha256 tenantRoots = .ok checkpoint := by
  let entries := tenantRoots.insertionSort tenantOrder
  have rearranged := List.perm_insertionSort tenantOrder tenantRoots
  have single : duplicateTenant none entries = none :=
    duplicateTenant_eq_none ((rearranged.map _).nodup_iff.mpr distinct) fun _ none => by cases none
  have leaves : CheckpointRoot.leaves sha256 entries ≠ [] := by
    intro empty
    have none : tenantRoots.insertionSort tenantOrder = [] := List.map_eq_nil_iff.mp empty
    rw [none] at rearranged
    exact nonempty rearranged.nil_eq.symm
  obtain ⟨root, top⟩ := MerkleTree.exists_collapse (checkpointInternal sha256) leaves
  rw [← MerkleTree.getLast?_levels] at top
  refine ⟨⟨root, entries, buildLevels sha256 (CheckpointRoot.leaves sha256 entries)⟩, ?_⟩
  simp only [CheckpointRoot.fromTenantRoots, Except.bind_eq_ok, rejectIf_eq_ok, Except.forM_eq_ok, okOr_eq_ok,
    Except.pure_eq_ok]
  exact ⟨(), nonempty, (), by simp [entries, single], root, top, rfl⟩

end StateChronicle.Accumulator
