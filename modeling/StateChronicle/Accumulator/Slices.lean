import StateChronicle.Accumulator.SparseMerkle
import StateChronicle.Foundation.PartitionPoint

/-!
# Nodes over index ranges

The tree is computed over one array of entries in key order: a subtree is a range of indices, and a binary search
finds where the range divides.
-/

namespace StateChronicle.Accumulator

open Foundation PartitionPoint

namespace Slice

/-- The entries of a range, where the range lies inside. -/
def get? {α : Type} (entries : List α) (start stop : ℕ) : Option (List α) :=
  if start ≤ stop ∧ stop ≤ entries.length then some ((entries.drop start).take (stop - start)) else none

def splitAt (entries : List (StateKey × Hash)) (start stop bit : ℕ) : ℕ :=
  match get? entries start stop with
  | none => start
  | some slice => start + partitionPoint (fun entry => !entry.1.bitAt bit) slice

def nodeHash (sha256 : List UInt8 → Hash) (entries : List (StateKey × Hash)) : (start stop height : ℕ) → Hash
  | start, stop, 0 =>
    if stop ≤ start then defaultHash 0
    else
      -- keys are unique, so the range has one entry
      match entries[start]? with
      | none => defaultHash 0
      | some (key, digest) => leafHash sha256 key digest
  | start, stop, height + 1 =>
    if stop ≤ start then defaultHash (height + 1)
    else if treeDepth < height + 1 then defaultHash (height + 1)
    else
      let split := splitAt entries start stop (treeDepth - (height + 1))
      internalHash sha256 (nodeHash sha256 entries start split height) (nodeHash sha256 entries split stop height)

/-- The calls that computing a root makes. -/
inductive Called (entries : List (StateKey × Hash)) : (start stop height : ℕ) → Prop
  | top : Called entries 0 entries.length treeDepth
  | left {start stop height : ℕ} (caller : Called entries start stop (height + 1)) (nonempty : start < stop) :
      Called entries start (splitAt entries start stop (treeDepth - (height + 1))) height
  | right {start stop height : ℕ} (caller : Called entries start stop (height + 1)) (nonempty : start < stop) :
      Called entries (splitAt entries start stop (treeDepth - (height + 1))) stop height

end Slice

/-! ## Positions -/

/-- The position of a key in the tree: its bits, the most significant first. -/
def StateKey.bits (key : StateKey) : List Bool := (List.range treeDepth).map key.bitAt

theorem StateKey.length_bits (key : StateKey) : key.bits.length = treeDepth := by
  rw [bits, List.length_map, List.length_range]

theorem StateKey.getElem?_bits (key : StateKey) {position : ℕ} (inside : position < treeDepth) :
    key.bits[position]? = some (key.bitAt position) := by
  rw [bits, List.getElem?_map, List.getElem?_range inside, Option.map_some]

theorem StateKey.bits_injective : Function.Injective bits := by
  intro key key' same
  refine eq_of_bitAt_eq fun position inside => ?_
  have read := congrArg (fun bits => bits[position]?) same
  rw [getElem?_bits key inside, getElem?_bits key' inside] at read
  exact Option.some.inj read

/-- The entry lies below a position of the tree. -/
def below (path : List Bool) (entry : StateKey × Hash) : Bool := entry.1.bits.take path.length = path

theorem below_nil (entry : StateKey × Hash) : below [] entry = true := by simp [below]

variable {entry : StateKey × Hash}

/-- The bits of an entry below a position are the turns to the position. -/
theorem getElem?_of_below {path : List Bool} (under : below path entry = true) {position : ℕ}
    (inside : position < path.length) : entry.1.bits[position]? = path[position]? := by
  have taken := of_decide_eq_true under
  rw [← taken, List.getElem?_take_of_lt inside]

/-- Below a child lie the entries below the node that have its turn. -/
theorem below_append_singleton {path : List Bool} (inside : path.length < treeDepth) (turn : Bool)
    (entry : StateKey × Hash) :
    below (path ++ [turn]) entry = (below path entry && entry.1.bitAt path.length == turn) := by
  rw [Bool.eq_iff_iff]
  simp only [below, Bool.and_eq_true, decide_eq_true_eq, beq_iff_eq, List.length_append, List.length_singleton,
    List.take_add_one, entry.1.getElem?_bits inside, Option.toList_some]
  constructor
  · intro same
    obtain ⟨first, last⟩ := List.append_inj' same rfl
    exact ⟨first, List.singleton_inj.mp last⟩
  · rintro ⟨first, last⟩
    rw [first, last]

theorem bits_eq_of_below {path : List Bool} (full : path.length = treeDepth) :
    below path entry = true ↔ entry.1.bits = path := by
  rw [below, decide_eq_true_eq, full, ← entry.1.length_bits, List.take_length]

namespace Slice

/-- The range holds the entries below a position. -/
structure Located (entries : List (StateKey × Hash)) (path : List Bool) (start stop height : ℕ) : Prop where
  ordered : start ≤ stop
  inside : stop ≤ entries.length
  depth : path.length + height = treeDepth
  slice : (entries.drop start).take (stop - start) = entries.filter (below path)

variable {entries : List (StateKey × Hash)} {path : List Bool} {start stop height : ℕ}

theorem located_top (entries : List (StateKey × Hash)) : Located entries [] 0 entries.length treeDepth := by
  refine ⟨Nat.zero_le _, le_refl _, Nat.zero_add _, ?_⟩
  rw [List.drop_zero, Nat.sub_zero, List.take_length]
  exact (List.filter_eq_self.mpr fun entry _ => below_nil entry).symm

theorem Located.get?_eq (located : Located entries path start stop height) :
    get? entries start stop = some (entries.filter (below path)) := by
  rw [get?, if_pos ⟨located.ordered, located.inside⟩, located.slice]

theorem partitioned_below (sorted : entries.Pairwise fun a b => a.1 < b.1) (inside : path.length < treeDepth) :
    (entries.filter (below path)).Pairwise fun a b => (!b.1.bitAt path.length) → !a.1.bitAt path.length := by
  refine (sorted.filter _).imp_of_mem ?_
  intro a b inA inB order clear
  have underA := (List.mem_filter.mp inA).2
  have underB := (List.mem_filter.mp inB).2
  simp only [Bool.not_eq_true', Bool.eq_false_iff] at clear ⊢
  intro high
  refine clear (StateKey.bitAt_of_lt order inside (fun earlier before => ?_) high)
  have same := (getElem?_of_below underA before).trans (getElem?_of_below underB before).symm
  rw [a.1.getElem?_bits (before.trans inside), b.1.getElem?_bits (before.trans inside)] at same
  exact Option.some.inj same

theorem filter_below_filter (inside : path.length < treeDepth) (turn : Bool) :
    (entries.filter (below path)).filter (fun entry => entry.1.bitAt path.length == turn) =
      entries.filter (below (path ++ [turn])) := by
  rw [List.filter_filter]
  refine List.filter_congr fun entry _ => ?_
  rw [below_append_singleton inside, Bool.and_comm]

/-- In key order the run below a node is divided into the runs below its children. -/
theorem run_divided (sorted : entries.Pairwise fun a b => a.1 < b.1) (inside : path.length < treeDepth) :
    let run := entries.filter (below path)
    run.take (Accumulator.splitAt run path.length) = entries.filter (below (path ++ [false])) ∧
      run.drop (Accumulator.splitAt run path.length) = entries.filter (below (path ++ [true])) := by
  obtain ⟨taken, dropped⟩ := take_drop_of_partitioned (partitioned_below sorted inside)
  constructor
  · refine taken.trans (Eq.trans (List.filter_congr fun entry _ => ?_) (filter_below_filter inside false))
    cases entry.1.bitAt path.length <;> rfl
  · refine dropped.trans (Eq.trans (List.filter_congr fun entry _ => ?_) (filter_below_filter inside true))
    cases entry.1.bitAt path.length <;> rfl

theorem slice_divided {α : Type} (entries : List α) {start stop count : ℕ} (short : start + count ≤ stop) :
    (entries.drop start).take (start + count - start) = ((entries.drop start).take (stop - start)).take count ∧
      (entries.drop (start + count)).take (stop - (start + count)) =
        ((entries.drop start).take (stop - start)).drop count := by
  constructor
  · rw [List.take_take, Nat.add_sub_cancel_left, min_eq_left (by omega)]
  · rw [List.drop_take, List.drop_drop, Nat.sub_sub]

/-- What a split leaves on either side. -/
structure Divided (entries : List (StateKey × Hash)) (path : List Bool) (start split stop height : ℕ) : Prop where
  left : Located entries (path ++ [false]) start split height
  right : Located entries (path ++ [true]) split stop height

theorem Located.deep (located : Located entries path start stop (height + 1)) : path.length < treeDepth := by
  have depth := located.depth
  omega

theorem Located.length_slice (located : Located entries path start stop height) :
    (entries.filter (below path)).length = stop - start := by
  have ordered := located.ordered
  have inside := located.inside
  rw [← located.slice, List.length_take, List.length_drop]
  omega

section

variable (sorted : entries.Pairwise fun a b => a.1 < b.1) (located : Located entries path start stop (height + 1))

include sorted located

/-- The search finds the end of the entries that turn left. -/
theorem Located.splitAt_eq :
    splitAt entries start stop path.length = start + Accumulator.splitAt (entries.filter (below path)) path.length := by
  rw [splitAt, located.get?_eq]
  dsimp only
  rw [partitionPoint_eq (partitioned_below sorted located.deep)]
  rfl

/-- The split divides the range of a node into the ranges of its children. -/
theorem Located.divided : Divided entries path start (splitAt entries start stop path.length) stop height := by
  have depth := located.depth
  have ordered := located.ordered
  have inside := located.inside
  obtain ⟨taken, dropped⟩ := run_divided sorted located.deep
  have leading : Accumulator.splitAt (entries.filter (below path)) path.length ≤ stop - start :=
    (List.takeWhile_sublist _).length_le.trans_eq located.length_slice
  rw [located.splitAt_eq sorted]
  generalize Accumulator.splitAt (entries.filter (below path)) path.length = count at *
  obtain ⟨left, right⟩ := slice_divided entries (show start + count ≤ stop by omega)
  rw [located.slice] at left right
  refine ⟨⟨by omega, by omega, ?_, left.trans taken⟩, ⟨by omega, inside, ?_, right.trans dropped⟩⟩
  · rw [List.length_append, List.length_singleton]
    omega
  · rw [List.length_append, List.length_singleton]
    omega

end

theorem Called.located (sorted : entries.Pairwise fun a b => a.1 < b.1) (called : Called entries start stop height) :
    ∃ path, Located entries path start stop height := by
  induction called with
  | top => exact ⟨[], located_top entries⟩
  | @left start stop height caller nonempty ih =>
    obtain ⟨path, located⟩ := ih
    have bit : treeDepth - (height + 1) = path.length := Nat.sub_eq_of_eq_add located.depth.symm
    rw [bit]
    exact ⟨_, (located.divided sorted).left⟩
  | @right start stop height caller nonempty ih =>
    obtain ⟨path, located⟩ := ih
    have bit : treeDepth - (height + 1) = path.length := Nat.sub_eq_of_eq_add located.depth.symm
    rw [bit]
    exact ⟨_, (located.divided sorted).right⟩

theorem Located.below_of_getElem? (located : Located entries path start stop height) {index : ℕ}
    (first : start ≤ index) (last : index < stop) (found : entries[index]? = some entry) : below path entry = true := by
  have member : entry ∈ (entries.drop start).take (stop - start) := by
    refine List.mem_of_getElem? (i := index - start) ?_
    rw [List.getElem?_take_of_lt (by omega), List.getElem?_drop, Nat.add_sub_cancel' first, found]
  rw [located.slice] at member
  exact (List.mem_filter.mp member).2

/-! ## Ranges and runs -/

theorem Located.nodeHash_eq (sha256 : List UInt8 → Hash) (sorted : entries.Pairwise fun a b => a.1 < b.1)
    (located : Located entries path start stop height) :
    nodeHash sha256 entries start stop height = Accumulator.nodeHash sha256 height (entries.filter (below path)) := by
  induction height generalizing path start stop with
  | zero =>
    have count := located.length_slice
    cases run : entries.filter (below path) with
    | nil =>
      rw [run, List.length_nil] at count
      rw [nodeHash, if_pos (by omega)]
      rfl
    | cons entry rest =>
      rw [run, List.length_cons] at count
      have first : entries[start]? = some entry := by
        have head := congrArg List.head? (located.slice.trans run)
        rwa [List.head?_cons, List.head?_take, if_neg (by omega), List.head?_drop] at head
      rw [nodeHash, if_neg (by omega), first]
      rfl
  | succ height ih =>
    have count := located.length_slice
    have depth := located.depth
    have bit : treeDepth - (height + 1) = path.length := by omega
    obtain ⟨taken, dropped⟩ := run_divided sorted located.deep
    obtain ⟨left, right⟩ := located.divided sorted
    cases run : entries.filter (below path) with
    | nil =>
      rw [run, List.length_nil] at count
      rw [nodeHash, if_pos (by omega)]
      rfl
    | cons entry rest =>
      rw [run, List.length_cons] at count
      rw [run] at taken dropped
      rw [nodeHash, if_neg (by omega), if_neg (by omega), Accumulator.nodeHash, if_neg (by omega), bit]
      dsimp only
      rw [taken, dropped, ih left, ih right]

end Slice

end StateChronicle.Accumulator
