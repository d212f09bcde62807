import StateChronicle.Accumulator.DefaultChain
import StateChronicle.Portable.Integrity

/-!
# Portable and host proof verification agree

The portable verifier walks the steps and the levels together and computes the default hashes on the way; the host
looks both up.  On ascending steps the two accept the same proofs.
-/

namespace StateChronicle.Verified

open Foundation Accumulator

variable {steps : List Portable.PathStep} {sha256 : List UInt8 → Hash} {level : ℕ}

def hostStep (step : Portable.PathStep) : PathStep := ⟨step.level.toNat, step.sibling⟩

/-- The levels of the steps ascend strictly. -/
def Ascending (steps : List Portable.PathStep) : Prop :=
  steps.Pairwise fun first second => first.level.toNat < second.level.toNat

theorem unordered_eq_false_iff (steps : List Portable.PathStep) :
    Portable.unordered steps = false ↔ Ascending steps := by
  induction steps with
  | nil => simp [Portable.unordered, Ascending]
  | cons first rest ih =>
    cases rest with
    | nil => simp [Portable.unordered, Ascending]
    | cons second rest =>
      have unfolded : Portable.unordered (first :: second :: rest) =
          (decide (second.level ≤ first.level) || Portable.unordered (second :: rest)) := rfl
      rw [unfolded, Bool.or_eq_false_iff, ih, decide_eq_false_iff_not, UInt8.le_iff_toNat_le, not_le]
      constructor
      · rintro ⟨below, ascending⟩
        refine List.pairwise_cons.mpr ⟨fun later member => ?_, ascending⟩
        rcases List.mem_cons.mp member with rfl | member
        · exact below
        · exact below.trans ((List.pairwise_cons.mp ascending).1 later member)
      · intro ascending
        obtain ⟨below, others⟩ := List.pairwise_cons.mp ascending
        exact ⟨below second List.mem_cons_self, others⟩

theorem Ascending.length_le (ascending : Ascending steps) : steps.length ≤ 256 := by
  have distinct : (steps.map fun step => step.level.toFin).Nodup := by
    refine List.pairwise_map.mpr (List.Pairwise.imp (fun below same => ?_) ascending)
    exact below.ne (congrArg Fin.val same)
  have count := distinct.length_le_card
  rw [List.length_map, Fintype.card_fin] at count
  exact count

/-- Where the walk stands at a level: behind the steps of lower levels. -/
structure StandsAt (sha256 : List UInt8 → Hash) (key leaf : Hash) (steps : List Portable.PathStep) (level : ℕ)
    (walk : Portable.Walk) : Prop where
  current : walk.current =
    HashPath.climb (internalHash sha256) (routingBit ⟨key⟩) (siblingAt (steps.map hostStep)) leaf level
  default : walk.default = defaultHash level
  path : ∃ passed, steps = passed ++ walk.path ∧ (∀ step ∈ passed, step.level.toNat < level) ∧
    ∀ step ∈ walk.path, level ≤ step.level.toNat

theorem siblingAt_hostStep (steps : List Portable.PathStep) (level : ℕ) :
    siblingAt (steps.map hostStep) level =
      ((steps.reverse.find? fun step => step.level.toNat = level).map (·.sibling)).getD (defaultHash level) := by
  rw [siblingAt, SortedMap.get?_ofList, ← List.map_reverse, ← List.map_reverse, List.find?_map, List.find?_map,
    Option.map_map, Option.map_map]
  rfl

theorem find?_level_none (elsewhere : ∀ step ∈ steps, step.level.toNat ≠ level) :
    steps.reverse.find? (fun step => step.level.toNat = level) = none := by
  rw [List.find?_eq_none]
  intro step member
  simpa using elsewhere step (List.mem_reverse.mp member)

/-- The walk's next sibling is the one the accumulator looks up, and the steps up to the level are passed. -/
theorem sibling_standsAt {key leaf : Hash} {walk : Portable.Walk} (stands : StandsAt sha256 key leaf steps level walk)
    (ascending : Ascending steps) :
    (walk.sibling level).1 = siblingAt (steps.map hostStep) level ∧
      ∃ passed, steps = passed ++ (walk.sibling level).2 ∧ (∀ step ∈ passed, step.level.toNat < level + 1) ∧
        ∀ step ∈ (walk.sibling level).2, level + 1 ≤ step.level.toNat := by
  obtain ⟨passed, split, behind, ahead⟩ := stands.path
  have passedElsewhere := find?_level_none fun step member => (behind step member).ne
  have passedLower : ∀ step ∈ passed, step.level.toNat < level + 1 :=
    fun step member => (behind step member).trans (Nat.lt_succ_self _)
  rw [siblingAt_hostStep]
  cases path : walk.path with
  | nil =>
    rw [path, List.append_nil] at split
    rw [Portable.Walk.sibling_nil path, split, passedElsewhere, stands.default]
    exact ⟨rfl, passed, (List.append_nil _).symm, passedLower, by simp⟩
  | cons step rest =>
    rw [path] at split ahead
    rw [split] at ascending
    obtain ⟨later, -⟩ := List.pairwise_cons.mp (List.pairwise_append.mp ascending).2.1
    have reached := ahead step List.mem_cons_self
    rw [Portable.Walk.sibling_cons path]
    by_cases here : step.level.toNat = level
    · -- the step of this level, the only one
      have restElsewhere := find?_level_none fun other member => (here ▸ later other member : level < _).ne'
      rw [if_pos here, split, List.reverse_append, List.reverse_cons, List.find?_append, List.find?_append,
        restElsewhere, List.find?_cons_of_pos (by simpa using here)]
      refine ⟨rfl, passed ++ [step], by simp, fun other member => ?_, fun other member => ?_⟩
      · rcases List.mem_append.mp member with member | member
        · exact passedLower other member
        · obtain rfl := List.mem_singleton.mp member
          omega
      · have := later other member
        omega
    · -- the next step is for a higher level
      have above : ∀ other ∈ step :: rest, level + 1 ≤ other.level.toNat := by
        intro other member
        rcases List.mem_cons.mp member with rfl | member
        · omega
        · have := later other member
          omega
      have pathElsewhere := find?_level_none fun other member =>
        ((Nat.lt_succ_self level).trans_le (above other member)).ne'
      rw [if_neg here, split, List.reverse_append, List.find?_append, pathElsewhere, passedElsewhere, stands.default]
      exact ⟨rfl, passed, rfl, passedLower, above⟩

theorem right_iff_routingBit (key : Hash) (inside : level < 256) :
    ∃ byte, key.toList[(255 - level) / 8]? = some byte ∧
      (byte.toNat >>> (level % 8) % 2 = 1 ↔ routingBit ⟨key⟩ level = true) := by
  have bound : (255 - level) / 8 < key.toList.length := by
    rw [Vector.length_toList]
    omega
  refine ⟨key.toList[(255 - level) / 8], List.getElem?_eq_getElem bound, ?_⟩
  have place : 7 - (255 - level) % 8 = level % 8 := by omega
  have position : treeDepth - 1 - level = 255 - level := rfl
  rw [routingBit, position, StateKey.bitAt]
  simp only [List.getElem?_eq_getElem bound, place, Nat.testBit_eq_decide_div_mod_eq, Nat.shiftRight_eq_div_pow,
    decide_eq_true_eq]

/-- One level up, the walk stands at the next level. -/
theorem StandsAt.climbLevel (chain : DefaultChain sha256) {key leaf : Hash} {walk : Portable.Walk}
    (stands : StandsAt sha256 key leaf steps level walk) (ascending : Ascending steps) (inside : level < 256) :
    ∃ walk', Portable.climbLevel sha256 key walk level = some walk' ∧
      StandsAt sha256 key leaf steps (level + 1) walk' := by
  obtain ⟨byte, found, side⟩ := right_iff_routingBit key inside
  obtain ⟨sibling, path⟩ := sibling_standsAt stands ascending
  refine ⟨_, by rw [Portable.climbLevel, found]; rfl, ?_, ?_, path⟩
  · rw [HashPath.climb, ← stands.current, ← sibling]
    by_cases right : routingBit ⟨key⟩ level = true
    · rw [right]
      exact if_pos (side.mpr right)
    · rw [Bool.eq_false_iff.mpr right]
      exact if_neg (mt side.mp right)
  · rw [chain.step level inside, ← stands.default]
    rfl

/-- From the leaf to the root, the walk stands at every level. -/
theorem walk_standsAt (chain : DefaultChain sha256) (key leaf : Hash) (ascending : Ascending steps) {height : ℕ}
    (inside : height ≤ 256) :
    ∃ walk, (List.range height).foldlM (Portable.climbLevel sha256 key) ⟨steps, leaf, Portable.emptyLeaf sha256⟩ =
        some walk ∧ StandsAt sha256 key leaf steps height walk := by
  induction height with
  | zero =>
    refine ⟨_, rfl, rfl, ?_, [], rfl, by simp, fun _ _ => Nat.zero_le _⟩
    rw [chain.bottom, chain.emptyLeaf]
    rfl
  | succ height ih =>
    obtain ⟨walk, climbed, stands⟩ := ih (Nat.le_of_succ_le inside)
    obtain ⟨walk', next, stands'⟩ := stands.climbLevel chain ascending inside
    refine ⟨walk', ?_, stands'⟩
    rw [List.range_succ, List.foldlM_append, climbed]
    simp [next]

/-- The portable verifier accepts what the accumulator accepts on ascending steps. -/
theorem portable_verifyPath_iff (chain : DefaultChain sha256) (root key leaf : Hash) (steps : List Portable.PathStep) :
    Portable.verifyPath sha256 root key leaf steps = true ↔
      Ascending steps ∧ verifyPath sha256 ⟨root⟩ ⟨key⟩ leaf (steps.map hostStep) = true := by
  unfold Portable.verifyPath
  by_cases ascending : Ascending steps
  · obtain ⟨walk, climbed, stands⟩ := walk_standsAt chain key leaf ascending (le_refl 256)
    -- no step is left at the top
    have used : walk.path = [] := by
      obtain ⟨passed, split, behind, ahead⟩ := stands.path
      refine List.eq_nil_iff_forall_not_mem.mpr fun step member => ?_
      have above := ahead step member
      have bound := step.level.toNat_lt
      omega
    have short : ¬ 256 < steps.length := not_lt.mpr ascending.length_le
    rw [(unordered_eq_false_iff steps).mpr ascending, climbed]
    simp only [short, decide_false, Bool.or_self, Bool.false_eq_true, if_false, used, List.isEmpty_nil, Bool.true_and,
      ascending, true_and, verifyPath, stands.current]
    rfl
  · have refused : Portable.unordered steps = true := by
      rw [← Bool.not_eq_false]
      exact mt (unordered_eq_false_iff steps).mp ascending
    simp [refused, ascending]

/-- With the table of default hashes that of the empty subtrees, the portable verifiers accept a proof exactly when its
levels ascend and the accumulator accepts the same steps, for the leaf of the state or for the empty leaf. -/
theorem portable_proofs_agree {sha256 : List UInt8 → Hash} (chain : DefaultChain sha256) (root key : Hash)
    (steps : List Portable.PathStep) :
    (∀ state : Hash, Portable.verifyInclusion sha256 root key state steps = true ↔
      Ascending steps ∧
        verifyPath sha256 ⟨root⟩ ⟨key⟩ (leafHash sha256 ⟨key⟩ state) (steps.map hostStep) = true) ∧
    (Portable.verifyNonMembership sha256 root key steps = true ↔
      Ascending steps ∧ verifyPath sha256 ⟨root⟩ ⟨key⟩ emptyLeafHash (steps.map hostStep) = true) := by
  refine ⟨fun state => portable_verifyPath_iff chain root key _ steps, ?_⟩
  rw [chain.emptyLeaf]
  exact portable_verifyPath_iff chain root key _ steps

/-! ### A tree with one key in its right half -/

def highKey : StateKey := ⟨.replicate 32 255⟩

def highTree : StateAccumulator := ⟨.insert .empty highKey zeroHash⟩

/-- The right half stands beside the path of the zero key. -/
def highStep : Portable.PathStep := ⟨255, nodeHash Sha256.sha256 255 highTree.leaves.entries⟩

theorem siblingAt_highStep {level : ℕ} (inside : level < treeDepth) :
    siblingAt ([highStep].map hostStep) level = pathSibling Sha256.sha256 zeroKey highTree.leaves.entries level := by
  have entries : highTree.leaves.entries = [(highKey, zeroHash)] := rfl
  have first : highKey.bitAt 0 ≠ zeroKey.bitAt 0 := by decide
  rw [siblingAt_hostStep, List.reverse_singleton, List.find?_singleton, pathSibling]
  rcases Nat.lt_or_eq_of_le (Nat.le_of_lt_succ (inside : level < 255 + 1)) with below | rfl
  · have apart : agrees zeroKey (treeDepth - 1 - level) highKey = false :=
      decide_eq_false fun same => first (same 0 (Nat.sub_pos_of_lt below))
    have lower : highStep.level.toNat ≠ level := below.ne'
    simp [siblingRun, run, entries, apart, nodeHash_nil, lower]
  · have alone : siblingRun zeroKey 0 highTree.leaves.entries = highTree.leaves.entries := by
      simp [siblingRun, run_zero, entries, first]
    have here : highStep.level.toNat = 255 := rfl
    rw [show treeDepth - 1 - 255 = 0 from rfl, alone, if_pos (decide_eq_true here), Option.map_some, Option.getD_some,
      highStep]

/-- One step shows that the zero key is absent. -/
theorem zero_key_absent :
    highTree.leaves.get? highKey = some zeroHash ∧
      Portable.verifyNonMembership Sha256.sha256 (highTree.root Sha256.sha256).bytes zeroHash [highStep] = true := by
  refine ⟨by decide, (portable_proofs_agree defaultChain_sha256 (highTree.root Sha256.sha256).bytes zeroHash
    [highStep]).2.mpr ⟨List.pairwise_singleton _ _, ?_⟩⟩
  have accepted := highTree.verifyPath_of_siblings defaultChain_sha256 zeroKey fun _ => siblingAt_highStep
  rw [slotHash_eq, show highTree.leaves.get? zeroKey = none by decide, Option.map_none, Option.getD_none,
    defaultChain_sha256.bottom] at accepted
  exact accepted

end StateChronicle.Verified
