import Mathlib.Tactic.IntervalCases
import StateChronicle.Accumulator.Evaluation

/-!
# The default table under SHA-256

The precomputed table is the chain of the hashes of empty subtrees.  So it lists what the strings on the path of a key
through an empty tree are hashed to.
-/

namespace StateChronicle.Accumulator

open Foundation Sha256

def defaultNumber (level : ℕ) : ℕ :=
  defaultSubtreeNumbers[level]?.getD 0x3abddd594d884ff661d24666372d9fe669a1ec9e616401db6bd2edeb3c397143

/-- The table has one number of 256 bits for each height, and the first is that of the empty leaf. -/
theorem defaultSubtreeNumbers_spec :
    (defaultSubtreeNumbers.length = treeDepth + 1 ∧ ∀ number ∈ defaultSubtreeNumbers, number < 2 ^ 256) ∧
      emptyLeafHash = leafHash sha256 zeroKey zeroHash ∧ defaultHash 0 = emptyLeafHash := by
  decide +kernel

/-- The table, evaluated in pieces: each number is that of a node over two copies of the one below. -/
theorem defaultNumber_piece {piece : ℕ} (inside : piece < 8) : ∀ level ∈ List.range' (32 * piece) 32,
    nodeNumber (defaultNumber level) (defaultNumber level) = defaultNumber (level + 1) := by
  interval_cases piece <;> decide +kernel

theorem length_defaultSubtreeNumbers : defaultSubtreeNumbers.length = treeDepth + 1 := defaultSubtreeNumbers_spec.1.1

theorem defaultHash_eq (level : ℕ) : defaultHash level = hashOfNumber (defaultNumber level) := by
  rw [defaultHash, defaultNumber, defaultSubtreeHashes, List.getElem?_map]
  cases defaultSubtreeNumbers[level]? <;> rfl

theorem number_defaultHash (level : ℕ) : (defaultHash level).number = defaultNumber level := by
  rw [defaultHash_eq, number_hashOfNumber]
  rw [defaultNumber]
  cases held : defaultSubtreeNumbers[level]? with
  | none => rw [Option.getD_none]; norm_num
  | some number => exact defaultSubtreeNumbers_spec.1.2 number (List.mem_of_getElem? held)

/-- The table is the chain of the hashes of empty subtrees. -/
theorem defaultChain_sha256 : DefaultChain sha256 where
  emptyLeaf := defaultSubtreeNumbers_spec.2.1
  bottom := defaultSubtreeNumbers_spec.2.2
  step := by
    intro height inside
    apply Hash.number_injective
    rw [number_internalHash, number_defaultHash, number_defaultHash]
    rw [treeDepth] at inside
    have own : height ∈ List.range' (32 * (height / 32)) 32 := List.mem_range'_1.mpr (by omega)
    exact (defaultNumber_piece (by omega) height own).symm

theorem map_defaultNumber : (List.range' 0 (treeDepth + 1)).map defaultNumber = defaultSubtreeNumbers := by
  rw [← length_defaultSubtreeNumbers, ← List.range_eq_range']
  refine List.ext_getElem (by simp) fun level inside inside' => ?_
  rw [List.getElem_map, List.getElem_range, defaultNumber, List.getElem?_eq_getElem inside', Option.getD_some]

/-! ## The path of an empty tree -/

/-- The strings hashed on the path of a key through an empty tree. -/
def emptyStrings (key : StateKey) : List (List UInt8) :=
  pathStrings sha256 key defaultHash (leafPreimage zeroKey zeroHash)

theorem climb_defaultNumber (side : ℕ → Bool) {level : ℕ} (inside : level ≤ treeDepth) :
    HashPath.climb nodeNumber side defaultNumber (defaultNumber 0) level = defaultNumber level := by
  induction level with
  | zero => rfl
  | succ level ih =>
    have step := congrArg Hash.number (defaultChain_sha256.step level inside)
    rw [number_internalHash, number_defaultHash, number_defaultHash] at step
    rw [HashPath.climb, ih (by omega), step]
    cases side level <;> rfl

theorem numbers_emptyStrings (key : StateKey) :
    ((emptyStrings key).map sha256).map Hash.number = defaultSubtreeNumbers := by
  have leaf : Hash.number (sha256 (leafPreimage zeroKey zeroHash)) = defaultNumber 0 := by
    rw [← number_defaultHash, defaultChain_sha256.bottom, defaultChain_sha256.emptyLeaf]
    rfl
  have passed := climbNumbers_eq nodeNumber (routingBit key) defaultNumber (defaultNumber 0) treeDepth 0
  rw [emptyStrings, numbers_pathStrings, leaf, ← map_defaultNumber]
  simp only [number_defaultHash]
  refine passed.trans (List.map_congr_left fun level inside => climb_defaultNumber _ ?_)
  have := List.mem_range'_1.mp inside
  omega

end StateChronicle.Accumulator
