import StateChronicle.Accumulator.DefaultChain
import StateChronicle.Accumulator.Slices
import StateChronicle.Foundation.MerkleTree

/-!
# The compact tree and the full tree

The root computed from the entries alone is the root of the complete tree of depth 256 in which every key has a leaf.
-/

namespace StateChronicle.Verified

open Accumulator Foundation CompleteTree

variable {sha256 : List UInt8 → Hash} {entries : List (StateKey × Hash)}

/-- The hash at a position of the full tree: the leaf of the entry whose key it is, or the empty leaf. -/
def positionHash (sha256 : List UInt8 → Hash) (entries : List (StateKey × Hash)) (position : List Bool) : Hash :=
  match entries.find? fun entry => entry.1.bits = position with
  | some (key, digest) => leafHash sha256 key digest
  | none => emptyLeafHash

/-- The complete tree over all keys. -/
def fullTree (sha256 : List UInt8 → Hash) (entries : List (StateKey × Hash)) : MerkleTree.Tree Hash :=
  complete treeDepth (positionHash sha256 entries)

/-! ## Leaves -/

theorem leafAt_fullTree (key : StateKey) :
    leafAt (fullTree sha256 entries) key.bits = some (positionHash sha256 entries key.bits) :=
  leafAt_complete _ key.length_bits

section

variable (sorted : entries.Pairwise fun a b => a.1 < b.1) {key : StateKey} {digest : Hash}
  (member : (key, digest) ∈ entries)

include sorted member

theorem find?_bits : (entries.find? fun entry => entry.1.bits = key.bits) = some (key, digest) := by
  induction entries with
  | nil => cases member
  | cons entry rest ih =>
    obtain ⟨first, others⟩ := List.pairwise_cons.mp sorted
    rcases List.mem_cons.mp member with rfl | later
    · simp
    · have different : ¬ entry.1.bits = key.bits := fun same =>
        (first _ later).ne (StateKey.bits_injective same)
      rw [List.find?_cons_of_neg (by simpa using different)]
      exact ih others later

theorem leafAt_of_mem : leafAt (fullTree sha256 entries) key.bits = some (leafHash sha256 key digest) := by
  rw [leafAt_fullTree, positionHash, find?_bits sorted member]

end

theorem leafAt_of_absent {key : StateKey} (absent : ∀ digest, (key, digest) ∉ entries) :
    leafAt (fullTree sha256 entries) key.bits = some emptyLeafHash := by
  have nobody : (entries.find? fun entry => entry.1.bits = key.bits) = none := by
    rw [List.find?_eq_none]
    rintro ⟨other, digest⟩ member same
    have equal : other = key := StateKey.bits_injective (of_decide_eq_true same)
    exact absent digest (equal ▸ member)
  rw [leafAt_fullTree, positionHash, nobody]

/-! ## Nodes -/

/-- At full depth the run below a position has the entry of its key, if there is one. -/
theorem nodeHash_zero_below (chain : DefaultChain sha256) {path : List Bool} (full : path.length = treeDepth) :
    nodeHash sha256 0 (entries.filter (below path)) = positionHash sha256 entries path := by
  have exact : below path = fun entry => decide (entry.1.bits = path) := by
    funext entry
    rw [Bool.eq_iff_iff, bits_eq_of_below full, decide_eq_true_eq]
  rw [positionHash, ← List.head?_filter, exact]
  cases entries.filter fun entry => decide (entry.1.bits = path) with
  | nil => exact chain.bottom
  | cons entry rest => rfl

/-- The node over the entries below a position is the top of the complete tree there. -/
theorem nodeHash_below (chain : DefaultChain sha256) (sorted : entries.Pairwise fun a b => a.1 < b.1)
    {path : List Bool} {height : ℕ} (depth : path.length + height = treeDepth) :
    nodeHash sha256 height (entries.filter (below path)) =
      top (internalHash sha256) (complete height fun rest => positionHash sha256 entries (path ++ rest)) := by
  induction height generalizing path with
  | zero => rw [complete, top, List.append_nil, nodeHash_zero_below chain depth]
  | succ height ih =>
    have bit : treeDepth - 1 - height = path.length := by omega
    obtain ⟨taken, dropped⟩ := Slice.run_divided sorted (show path.length < treeDepth by omega)
    -- one turn more, and one level less
    have child (turn : Bool) := @ih (path ++ [turn]) (by
      rw [List.length_append, List.length_singleton]
      omega)
    simp only [List.append_assoc, List.singleton_append] at child
    rw [nodeHash_succ chain (by omega), bit]
    dsimp only
    rw [taken, dropped, child false, child true]
    rfl

/-- On the way down, the split separates the entries by the bit of the level. -/
theorem splitAt_separates (sorted : entries.Pairwise fun a b => a.1 < b.1) {start stop height : ℕ}
    (called : Slice.Called entries start stop (height + 1)) :
    start ≤ Slice.splitAt entries start stop (treeDepth - (height + 1)) ∧
    Slice.splitAt entries start stop (treeDepth - (height + 1)) ≤ stop ∧
    ∀ index entry, start ≤ index → index < stop → entries[index]? = some entry →
      (entry.1.bitAt (treeDepth - (height + 1)) = true ↔
        Slice.splitAt entries start stop (treeDepth - (height + 1)) ≤ index) := by
  obtain ⟨path, located⟩ := called.located sorted
  have bit : treeDepth - (height + 1) = path.length := Nat.sub_eq_of_eq_add located.depth.symm
  obtain ⟨left, right⟩ := located.divided sorted
  rw [bit]
  refine ⟨left.ordered, right.ordered, fun index entry first last found => ?_⟩
  by_cases before : index < Slice.splitAt entries start stop path.length
  · have turned := left.below_of_getElem? first before found
    rw [below_append_singleton located.deep, Bool.and_eq_true, beq_iff_eq] at turned
    rw [turned.2]
    exact iff_of_false Bool.false_ne_true (not_le.mpr before)
  · have turned := right.below_of_getElem? (not_lt.mp before) last found
    rw [below_append_singleton located.deep, Bool.and_eq_true, beq_iff_eq] at turned
    exact iff_of_true turned.2 (not_lt.mp before)

/-- The tree of an accumulator is computed over ranges of its entries in key order. -/
theorem computeRoot_eq_slices (accumulator : StateAccumulator) :
    accumulator.computeRoot sha256 = Slice.nodeHash sha256 accumulator.leaves.entries 0
      accumulator.leaves.entries.length treeDepth := by
  have all : accumulator.leaves.entries.filter (below []) = accumulator.leaves.entries :=
    List.filter_eq_self.mpr fun entry _ => below_nil entry
  rw [(Slice.located_top _).nodeHash_eq sha256 accumulator.leaves.sorted, all, StateAccumulator.computeRoot]

/-- The compact tree is the full tree: over entries in key order the node at the top is the root of the complete tree,
which has the leaf of every entry at the bits of its key and the empty leaf elsewhere; every split separates the
entries by the bit of its level. -/
theorem compact_tree_is_full (chain : DefaultChain sha256) (sorted : entries.Pairwise fun a b => a.1 < b.1) :
    Slice.nodeHash sha256 entries 0 entries.length treeDepth =
      top (internalHash sha256) (fullTree sha256 entries) ∧
    (∀ key digest, (key, digest) ∈ entries →
      leafAt (fullTree sha256 entries) key.bits = some (leafHash sha256 key digest)) ∧
    (∀ key, (∀ digest, (key, digest) ∉ entries) →
      leafAt (fullTree sha256 entries) key.bits = some emptyLeafHash) ∧
    ∀ start stop height, Slice.Called entries start stop (height + 1) →
      start ≤ Slice.splitAt entries start stop (treeDepth - (height + 1)) ∧
      Slice.splitAt entries start stop (treeDepth - (height + 1)) ≤ stop ∧
      ∀ index entry, start ≤ index → index < stop → entries[index]? = some entry →
        (entry.1.bitAt (treeDepth - (height + 1)) = true ↔
          Slice.splitAt entries start stop (treeDepth - (height + 1)) ≤ index) := by
  refine ⟨?_, fun key digest member => leafAt_of_mem sorted member, fun key absent => leafAt_of_absent absent,
    fun start stop height called => splitAt_separates sorted called⟩
  rw [(Slice.located_top entries).nodeHash_eq sha256 sorted, nodeHash_below chain sorted (Nat.zero_add _)]
  rfl

def farApart : List (StateKey × Hash) := [(zeroKey, zeroHash), (⟨.replicate 32 255⟩, .replicate 32 7)]

theorem farApart_full :
    Slice.nodeHash Sha256.sha256 farApart 0 2 treeDepth =
      top (internalHash Sha256.sha256) (fullTree Sha256.sha256 farApart) :=
  (compact_tree_is_full defaultChain_sha256 (by decide)).1

end StateChronicle.Verified
