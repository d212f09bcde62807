import StateChronicle.Accumulator.SparseMerkle
import StateChronicle.Foundation.Sorting

/-!
# Authentication paths

The run of a subtree on the path to a key is what the leaves have in common with the key so far.  Collecting the
siblings of those runs downwards and climbing through them upwards meet at the root.
-/

namespace StateChronicle.Accumulator

open Foundation

variable {leaf : List UInt8} {height : ℕ}

/-! ## Runs on the path to a key -/

variable {sibling sibling' : ℕ → Hash} {key : StateKey} (target : StateKey) (depth : ℕ)
  (entries : List (StateKey × Hash))

/-- The key agrees with the target on the first bits. -/
def agrees (key : StateKey) : Bool :=
  decide (∀ position < depth, key.bitAt position = target.bitAt position)

/-- The entries below the node that the target passes at a depth. -/
def run : List (StateKey × Hash) :=
  entries.filter fun entry => agrees target depth entry.1

/-- The entries beside the path: they leave it at this depth. -/
def siblingRun : List (StateKey × Hash) :=
  (run target depth entries).filter fun entry => entry.1.bitAt depth != target.bitAt depth

theorem agrees_succ (key : StateKey) :
    agrees target (depth + 1) key = (agrees target depth key && key.bitAt depth == target.bitAt depth) := by
  rw [Bool.eq_iff_iff]
  simp only [agrees, decide_eq_true_eq, Bool.and_eq_true, beq_iff_eq]
  constructor
  · intro all
    exact ⟨fun position below => all position (below.trans (Nat.lt_succ_self _)), all depth (Nat.lt_succ_self _)⟩
  · rintro ⟨lower, own⟩ position below
    rcases Nat.lt_succ_iff_lt_or_eq.mp below with earlier | rfl
    · exact lower position earlier
    · exact own

theorem run_zero : run target 0 entries = entries := by
  simp [run, agrees]

theorem run_succ :
    run target (depth + 1) entries =
      (run target depth entries).filter fun entry => entry.1.bitAt depth == target.bitAt depth := by
  rw [run, run, List.filter_filter]
  refine List.filter_congr fun entry _ => ?_
  rw [agrees_succ, Bool.and_comm]

section Sorted

variable {entries : List (StateKey × Hash)} (sorted : entries.Pairwise fun a b => a.1 < b.1)

include sorted

/-- Within a run the entries with a clear bit come first. -/
theorem partitioned_run (target : StateKey) {depth : ℕ} (inside : depth < treeDepth) :
    (run target depth entries).Pairwise fun a b => (!b.1.bitAt depth) → !a.1.bitAt depth := by
  refine (sorted.filter _).imp_of_mem ?_
  intro a b inA inB below clear
  have agreeA := of_decide_eq_true (List.mem_filter.mp inA).2
  have agreeB := of_decide_eq_true (List.mem_filter.mp inB).2
  simp only [Bool.not_eq_true', Bool.eq_false_iff] at clear ⊢
  intro high
  refine clear (StateKey.bitAt_of_lt below inside (fun earlier before => ?_) high)
  rw [agreeA earlier before, agreeB earlier before]

/-- The split of a run separates the path from what is beside it. -/
theorem split_run (target : StateKey) {depth : ℕ} (inside : depth < treeDepth) :
    let split := splitAt (run target depth entries) depth
    ((run target depth entries).take split, (run target depth entries).drop split) =
      HashPath.paired (target.bitAt depth) (siblingRun target depth entries)
        (run target (depth + 1) entries) := by
  obtain ⟨taken, dropped⟩ := take_drop_of_partitioned (partitioned_run sorted target inside)
  change (List.take (splitAt _ _) _, List.drop (splitAt _ _) _) = _
  rw [splitAt, taken, dropped, siblingRun, run_succ]
  cases target.bitAt depth <;> simp [HashPath.paired]

end Sorted

section Path

variable (sha256 : List UInt8 → Hash)

/-- The hash beside the path of a key at a level of the tree over the entries. -/
def pathSibling (target : StateKey) (entries : List (StateKey × Hash)) (level : ℕ) : Hash :=
  nodeHash sha256 level (siblingRun target (treeDepth - 1 - level) entries)

def slotHash (target : StateKey) (entries : List (StateKey × Hash)) : Hash :=
  nodeHash sha256 0 (run target treeDepth entries)

variable {sha256} (chain : DefaultChain sha256)

theorem nodeHash_nil (height : ℕ) : nodeHash sha256 height [] = defaultHash height := by
  cases height <;> rfl

/-- The halves of a node on the path are the halves of its run. -/
theorem paired_pathSibling {entries : List (StateKey × Hash)} (sorted : entries.Pairwise fun a b => a.1 < b.1)
    (target : StateKey) (inside : height < treeDepth) :
    HashPath.paired (routingBit target height) (pathSibling sha256 target entries height)
        (nodeHash sha256 height (run target (treeDepth - height) entries)) =
      let below := run target (treeDepth - 1 - height) entries
      let split := splitAt below (treeDepth - 1 - height)
      (nodeHash sha256 height (below.take split), nodeHash sha256 height (below.drop split)) := by
  have nodes := congrArg (Prod.map (nodeHash sha256 height) (nodeHash sha256 height))
    (split_run sorted target (show treeDepth - 1 - height < treeDepth by omega))
  rw [HashPath.map_paired, show treeDepth - 1 - height + 1 = treeDepth - height by omega] at nodes
  exact nodes.symm

include chain

/-- An empty subtree hashes like any other. -/
theorem nodeHash_succ (inside : height < treeDepth) (entries : List (StateKey × Hash)) :
    nodeHash sha256 (height + 1) entries = let split := splitAt entries (treeDepth - 1 - height)
      internalHash sha256 (nodeHash sha256 height (entries.take split))
        (nodeHash sha256 height (entries.drop split)) := by
  cases entries with
  | nil => simp only [List.take_nil, List.drop_nil, nodeHash_nil, chain.step height inside]
  | cons entry rest =>
    rw [nodeHash, if_neg (by omega), show treeDepth - (height + 1) = treeDepth - 1 - height by omega]

/-- Climbing from the slot of a key through its siblings follows the nodes of the tree. -/
theorem climb_pathSibling {entries : List (StateKey × Hash)} (sorted : entries.Pairwise fun a b => a.1 < b.1)
    (target : StateKey) (inside : height ≤ treeDepth) :
    HashPath.climb (internalHash sha256) (routingBit target) (pathSibling sha256 target entries)
        (slotHash sha256 target entries) height =
      nodeHash sha256 height (run target (treeDepth - height) entries) := by
  induction height with
  | zero => rfl
  | succ level ih =>
    have here : treeDepth - (level + 1) = treeDepth - 1 - level := by omega
    rw [HashPath.climb, ih (by omega), here, nodeHash_succ chain (by omega),
      paired_pathSibling sorted target (by omega)]

end Path

theorem pathSibling_nil (sha256 : List UInt8 → Hash) (key : StateKey) : pathSibling sha256 key [] = defaultHash := by
  funext level
  exact nodeHash_nil level

theorem pathSibling_lone (sha256 : List UInt8 → Hash) (key : StateKey) (digest : Hash) :
    pathSibling sha256 key [(key, digest)] = defaultHash := by
  funext level
  have nobody : siblingRun key (treeDepth - 1 - level) [(key, digest)] = [] := by
    simp [siblingRun, run]
  rw [pathSibling, nobody, nodeHash_nil]

/-! ## The slot of a key -/

theorem run_treeDepth (target : StateKey) (entries : List (StateKey × Hash)) :
    run target treeDepth entries = entries.filter fun entry => entry.1 = target := by
  refine List.filter_congr fun entry _ => ?_
  rw [agrees, decide_eq_decide]
  exact ⟨fun same => StateKey.eq_of_bitAt_eq same, fun same position _ => by rw [same]⟩

theorem slotHash_eq (sha256 : List UInt8 → Hash) (leaves : SortedMap StateKey Hash) (target : StateKey) :
    slotHash sha256 target leaves.entries =
      ((leaves.get? target).map (leafHash sha256 target)).getD (defaultHash 0) := by
  rw [slotHash, run_treeDepth]
  cases held : leaves.entries.filter fun entry => entry.1 = target with
  | nil =>
    have absent : leaves.get? target = none := by
      rw [Option.eq_none_iff_forall_not_mem]
      intro digest found
      exact List.filter_eq_nil_iff.mp held _ (SortedMap.mem_entries_iff.mpr found) (decide_eq_true rfl)
    rw [absent]
    rfl
  | cons entry rest =>
    have member := List.mem_filter.mp (held ▸ List.mem_cons_self : entry ∈ leaves.entries.filter _)
    obtain ⟨key, digest⟩ := entry
    obtain rfl : key = target := of_decide_eq_true member.2
    rw [SortedMap.mem_entries_iff.mp member.1]
    rfl

/-! ## Sparse paths -/

/-- The step of a level, unless the sibling is the empty subtree. -/
def sparseStep (sibling : ℕ → Hash) (level : ℕ) : Option PathStep :=
  if sibling level = defaultHash level then none else some ⟨level, sibling level⟩

/-- The steps of a full column of siblings, the lowest first. -/
def sparse (sibling : ℕ → Hash) : List PathStep := (List.range treeDepth).filterMap (sparseStep sibling)

theorem sparse_congr (same : ∀ level < treeDepth, sibling level = sibling' level) :
    sparse sibling = sparse sibling' := by
  refine List.filterMap_congr fun level inside => ?_
  rw [sparseStep, sparseStep, same level (List.mem_range.mp inside)]

theorem mem_sparse {step : PathStep} :
    step ∈ sparse sibling ↔ step.level < treeDepth ∧ step.sibling = sibling step.level ∧
      sibling step.level ≠ defaultHash step.level := by
  simp only [sparse, sparseStep, List.mem_filterMap, List.mem_range, Option.ite_none_left_eq_some, Option.some.injEq]
  constructor
  · rintro ⟨level, inside, other, rfl⟩
    exact ⟨inside, rfl, other⟩
  · rintro ⟨inside, same, other⟩
    refine ⟨step.level, inside, other, ?_⟩
    rw [← same]

/-- The verifier recovers the column from its steps. -/
theorem siblingAt_sparse (sibling : ℕ → Hash) {level : ℕ} (inside : level < treeDepth) :
    siblingAt (sparse sibling) level = sibling level := by
  rw [siblingAt]
  cases found : (SortedMap.ofList ((sparse sibling).map fun step => (step.level, step.sibling))).get? level with
  | some hash =>
    obtain ⟨step, listed, own⟩ := List.mem_map.mp (SortedMap.mem_of_get?_ofList found)
    obtain ⟨rfl, rfl⟩ := Prod.mk.inj own
    exact (mem_sparse.mp listed).2.1
  | none =>
    have absent := SortedMap.get?_ofList_eq_none.mp found (sibling level)
    by_contra other
    exact absent (List.mem_map.mpr ⟨⟨level, sibling level⟩, mem_sparse.mpr ⟨inside, rfl, Ne.symm other⟩, rfl⟩)

/-- An empty sibling hashes like the empty subtree, so only the hash decides about a step. -/
theorem siblingStep_siblingRun (sha256 : List UInt8 → Hash) (target : StateKey)
    (entries : List (StateKey × Hash)) (level : ℕ) :
    siblingStep sha256 level (siblingRun target (treeDepth - 1 - level) entries) =
      (sparseStep (pathSibling sha256 target entries) level).toList := by
  rw [siblingStep, sparseStep, pathSibling]
  by_cases empty : siblingRun target (treeDepth - 1 - level) entries = []
  · rw [empty, nodeHash_nil, if_neg (fun both => both.1 rfl), if_pos rfl]
    rfl
  · by_cases same : nodeHash sha256 level (siblingRun target (treeDepth - 1 - level) entries) = defaultHash level
    · rw [if_neg (fun both => both.2 same), if_pos same]
      rfl
    · rw [if_pos ⟨empty, same⟩, if_neg same]
      rfl

/-- The steps collected below a node are those of the levels under it. -/
theorem collectStepsInner_run (sha256 : List UInt8 → Hash) {entries : List (StateKey × Hash)}
    (sorted : entries.Pairwise fun a b => a.1 < b.1) (target : StateKey) (inside : height ≤ treeDepth) :
    collectStepsInner sha256 target height (run target (treeDepth - height) entries) =
      ((List.range height).filterMap (sparseStep (pathSibling sha256 target entries))).reverse := by
  induction height with
  | zero => rfl
  | succ level ih =>
    have depth : treeDepth - 1 - level + 1 = treeDepth - level := by omega
    have here : treeDepth - (level + 1) = treeDepth - 1 - level := by omega
    have split := split_run sorted target (show treeDepth - 1 - level < treeDepth by omega)
    rw [collectStepsInner, if_neg (by omega), here, List.range_succ, List.filterMap_append,
      List.reverse_append, ← ih (by omega), ← depth]
    have own : ([level].filterMap (sparseStep (pathSibling sha256 target entries))).reverse =
        siblingStep sha256 level (siblingRun target (treeDepth - 1 - level) entries) := by
      rw [siblingStep_siblingRun, List.filterMap_cons, List.filterMap_nil]
      cases sparseStep (pathSibling sha256 target entries) level <;> rfl
    rw [own]
    -- The target's bit says which half of the split is the path.
    cases side : target.bitAt (treeDepth - 1 - level) with
    | false =>
      rw [side] at split
      obtain ⟨path, sibling⟩ := Prod.mk.inj split
      simp only [side, Bool.false_eq_true, if_false, path, sibling]
    | true =>
      rw [side] at split
      obtain ⟨sibling, path⟩ := Prod.mk.inj split
      simp only [side, if_true, path, sibling]

namespace StateAccumulator

variable (sha256 : List UInt8 → Hash) (self : StateAccumulator)

theorem collectSteps_eq (key : StateKey) :
    self.collectSteps sha256 key = sparse (pathSibling sha256 key self.leaves.entries) := by
  have collected := collectStepsInner_run sha256 self.leaves.sorted key (Nat.le_refl treeDepth)
  rw [Nat.sub_self, run_zero] at collected
  rw [collectSteps, collected, List.reverse_reverse, sparse]

theorem climb_eq_root {sha256 : List UInt8 → Hash} (chain : DefaultChain sha256) (key : StateKey) :
    HashPath.climb (internalHash sha256) (routingBit key) (pathSibling sha256 key self.leaves.entries)
        (slotHash sha256 key self.leaves.entries) treeDepth = (self.root sha256).bytes := by
  rw [climb_pathSibling chain self.leaves.sorted key (Nat.le_refl _), Nat.sub_self, run_zero, root, computeRoot]

/-- Whatever steps give the siblings of a key's path are accepted for its slot. -/
theorem verifyPath_of_siblings {sha256 : List UInt8 → Hash} (chain : DefaultChain sha256) (key : StateKey)
    {steps : List PathStep}
    (siblings : ∀ level < treeDepth, siblingAt steps level = pathSibling sha256 key self.leaves.entries level) :
    verifyPath sha256 (self.root sha256) key (slotHash sha256 key self.leaves.entries) steps := by
  rw [verifyPath, HashPath.climb_congr siblings, climb_eq_root self chain, decide_eq_true_eq]

end StateAccumulator

/-! ## Collision freedom -/

/-- No two of the strings hash alike. -/
def CollisionFree (sha256 : List UInt8 → Hash) (strings : List (List UInt8)) : Prop :=
  ∀ a ∈ strings, ∀ b ∈ strings, sha256 a = sha256 b → a = b

theorem CollisionFree.mono {sha256 : List UInt8 → Hash} {strings strings' : List (List UInt8)}
    (collisionFree : CollisionFree sha256 strings) (inside : strings' ⊆ strings) : CollisionFree sha256 strings' :=
  fun a inA b inB same => collisionFree a (inside inA) b (inside inB) same

/-- The strings hashed on a climb: the leaf and, level by level, the node above. -/
def pathStrings (sha256 : List UInt8 → Hash) (key : StateKey) (sibling : ℕ → Hash) (leaf : List UInt8) :
    List (List UInt8) :=
  leaf :: (HashPath.joins (internalHash sha256) (routingBit key) sibling (sha256 leaf) treeDepth).map
    fun pair => internalPreimage pair.1 pair.2

theorem pathStrings_congr {sha256 : List UInt8 → Hash} (agree : ∀ level < treeDepth, sibling level = sibling' level)
    (leaf : List UInt8) : pathStrings sha256 key sibling leaf = pathStrings sha256 key sibling' leaf := by
  rw [pathStrings, HashPath.joins_congr agree, ← pathStrings]

theorem internalPreimage_injective : Function.Injective (Function.uncurry internalPreimage) := by
  rintro ⟨left, right⟩ ⟨left', right'⟩ same
  obtain ⟨lefts, rights⟩ := List.append_inj (List.cons.inj same).2 (by simp)
  exact Prod.ext (Vector.toList_inj.mp lefts) (Vector.toList_inj.mp rights)

theorem leafPreimage_inj {key' : StateKey} {digest digest' : Hash}
    (same : leafPreimage key digest = leafPreimage key' digest') : key = key' ∧ digest = digest' := by
  obtain ⟨keys, digests⟩ := List.append_inj (List.cons.inj same).2 (by simp)
  refine ⟨?_, Vector.toList_inj.mp digests⟩
  cases key
  cases key'
  exact congrArg StateKey.mk (Vector.toList_inj.mp keys)

/-- Paths of one key that meet at the root start from the same leaf. -/
theorem leaf_eq_of_climb_eq {sha256 : List UInt8 → Hash} {leaf' : List UInt8}
    (collisionFree : CollisionFree sha256
      (pathStrings sha256 key sibling leaf ++ pathStrings sha256 key sibling' leaf'))
    (meet : HashPath.climb (internalHash sha256) (routingBit key) sibling (sha256 leaf) treeDepth =
      HashPath.climb (internalHash sha256) (routingBit key) sibling' (sha256 leaf') treeDepth) :
    leaf = leaf' := by
  let hashed : Set (Hash × Hash) := fun pair => internalPreimage pair.1 pair.2 ∈
    pathStrings sha256 key sibling leaf ++ pathStrings sha256 key sibling' leaf'
  have injective : Set.InjOn (Function.uncurry (internalHash sha256)) hashed := by
    intro pair inside pair' inside' same
    exact internalPreimage_injective (collisionFree _ inside _ inside' same)
  have made : ∀ pair ∈ HashPath.joins (internalHash sha256) (routingBit key) sibling (sha256 leaf) treeDepth,
      pair ∈ hashed := fun pair joined =>
    List.mem_append_left _ (List.mem_cons_of_mem _ (List.mem_map_of_mem joined))
  have made' : ∀ pair ∈ HashPath.joins (internalHash sha256) (routingBit key) sibling' (sha256 leaf') treeDepth,
      pair ∈ hashed := fun pair joined =>
    List.mem_append_right _ (List.mem_cons_of_mem _ (List.mem_map_of_mem joined))
  have starts := (HashPath.climb_binds injective made made' meet).1
  exact collisionFree _ (List.mem_append_left _ List.mem_cons_self) _
    (List.mem_append_right _ List.mem_cons_self) starts

namespace StateAccumulator

/-- The string whose hash stands in the slot of a key. -/
def slotString (self : StateAccumulator) (key : StateKey) : List UInt8 :=
  ((self.leaves.get? key).map (leafPreimage key)).getD (leafPreimage zeroKey zeroHash)

/-- The strings hashed from the slot of a key up to the root. -/
def treeStrings (sha256 : List UInt8 → Hash) (self : StateAccumulator) (key : StateKey) : List (List UInt8) :=
  pathStrings sha256 key (pathSibling sha256 key self.leaves.entries) (self.slotString key)

/-- The string hashed for the node over a run. -/
def nodeString (sha256 : List UInt8 → Hash) (level : ℕ) (below : List (StateKey × Hash)) : List UInt8 :=
  let split := splitAt below (treeDepth - 1 - level)
  internalPreimage (nodeHash sha256 level (below.take split)) (nodeHash sha256 level (below.drop split))

variable {sha256 : List UInt8 → Hash} (chain : DefaultChain sha256) (self : StateAccumulator)

include chain

theorem sha256_slotString (key : StateKey) :
    sha256 (self.slotString key) = slotHash sha256 key self.leaves.entries := by
  rw [slotHash_eq, slotString]
  cases self.leaves.get? key with
  | some digest => rfl
  | none => exact (chain.bottom.trans chain.emptyLeaf).symm

/-- The strings of the nodes on the path, by their runs. -/
theorem treeStrings_eq (key : StateKey) :
    self.treeStrings sha256 key = self.slotString key :: (List.range treeDepth).map fun level =>
      nodeString sha256 level (run key (treeDepth - 1 - level) self.leaves.entries) := by
  rw [treeStrings, pathStrings, HashPath.joins, List.map_map, sha256_slotString chain]
  refine congrArg _ (List.map_congr_left fun level listed => ?_)
  have inside := List.mem_range.mp listed
  rw [Function.comp_apply, climb_pathSibling chain self.leaves.sorted key inside.le,
    paired_pathSibling self.leaves.sorted key inside]
  rfl

/-- A path that leads to the root of the tree starts from the string in the key's slot. -/
theorem slotString_eq_of_climb
    (collisionFree : CollisionFree sha256 (self.treeStrings sha256 key ++ pathStrings sha256 key sibling leaf))
    (leads : HashPath.climb (internalHash sha256) (routingBit key) sibling (sha256 leaf) treeDepth =
      (self.root sha256).bytes) :
    self.slotString key = leaf := by
  refine leaf_eq_of_climb_eq collisionFree ?_
  rw [sha256_slotString chain, climb_eq_root self chain, leads]

end StateAccumulator

end StateChronicle.Accumulator
