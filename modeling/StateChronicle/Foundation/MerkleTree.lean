import Mathlib.Data.List.Nodup
import Mathlib.Data.Set.Function

/-!
# Merkle trees over lists

A level of nodes is joined pairwise, a last node without a neighbour with itself, until one is left.  The padding
repeats leaves, so a list without repetitions is read back from its tree.  Where the hashed strings do not collide,
the root hash determines the tree, and every walk that reaches it starts from a leaf.
-/

namespace Foundation.MerkleTree

variable {α β : Type}

/-! ## Rounds -/

def pairUp (join : α → α → α) : List α → List α
  | [] => []
  | [last] => [join last last]
  | left :: right :: rest => join left right :: pairUp join rest

theorem length_pairUp (join : α → α → α) (level : List α) : (pairUp join level).length = (level.length + 1) / 2 := by
  fun_induction pairUp join level with
  | case1 | case2 last => simp
  | case3 left right rest ih =>
    simp only [List.length_cons, ih]
    omega

/-- Rounds until one node is left. -/
def collapse (join : α → α → α) : List α → Option α
  | [] => none
  | [root] => some root
  | left :: right :: rest => collapse join (pairUp join (left :: right :: rest))
termination_by level => level.length
decreasing_by
  rw [length_pairUp]
  simp only [List.length_cons]
  omega

theorem exists_collapse (join : α → α → α) {level : List α} (nonempty : level ≠ []) :
    ∃ root, collapse join level = some root := by
  fun_induction collapse join level with
  | case1 => exact absurd rfl nonempty
  | case2 root => exact ⟨root, rfl⟩
  | case3 left right rest ih => exact ih (by simp [pairUp])

/-! ## Levels and paths -/

def levels (join : α → α → α) : List α → List (List α)
  | [] => [[]]
  | [root] => [[root]]
  | left :: right :: rest => (left :: right :: rest) :: levels join (pairUp join (left :: right :: rest))
termination_by level => level.length
decreasing_by
  rw [length_pairUp]
  simp only [List.length_cons]
  omega

theorem levels_ne_nil (join : α → α → α) (level : List α) : levels join level ≠ [] := by
  fun_cases levels join level <;> simp

/-- The last level holds the root. -/
theorem getLast?_levels (join : α → α → α) (level : List α) :
    (levels join level).getLast?.bind List.head? = collapse join level := by
  fun_induction levels join level with
  | case1 | case2 root => simp [collapse]
  | case3 left right rest ih =>
    rw [collapse, ← ih, List.getLast?_cons_of_ne_nil (levels_ne_nil _ _)]

/-- The pair of a node and its sibling, by the parity of the node's position. -/
def beside (index : ℕ) (node sibling : α) : α × α := if index % 2 = 0 then (node, sibling) else (sibling, node)

/-- The neighbour of a node; the last node of an odd level is its own. -/
def siblingOf (nodes : List α) (index : ℕ) (node : α) : α :=
  if index % 2 = 0 then (nodes[index + 1]?).getD node else (nodes[index - 1]?).getD node

/-- The siblings on the way from a position to the root. -/
def siblings : List (List α) → ℕ → List α
  | [], _ => []
  | nodes :: above, index =>
    if nodes.length ≤ 1 then []
    else
      match nodes[index]? with
      | none => []
      | some node => siblingOf nodes index node :: siblings above (index / 2)

/-- The value reached from a position with the given siblings. -/
def walk (join : α → α → α) : ℕ → α → List α → α
  | _, node, [] => node
  | index, node, sibling :: rest =>
    walk join (index / 2) (join (beside index node sibling).1 (beside index node sibling).2) rest

/-- The pairs joined on a walk. -/
def walkedPairs (join : α → α → α) : ℕ → α → List α → List (α × α)
  | _, _, [] => []
  | index, node, sibling :: rest => beside index node sibling ::
      walkedPairs join (index / 2) (join (beside index node sibling).1 (beside index node sibling).2) rest

section

variable {join : α → α → α} {level : List α} {index : ℕ} {node : α} (found : level[index]? = some node)

include found

theorem getElem?_pairUp :
    (pairUp join level)[index / 2]? = some (join (beside index node (siblingOf level index node)).1
      (beside index node (siblingOf level index node)).2) := by
  fun_induction pairUp join level generalizing index with
  | case1 => simp at found
  | case2 last =>
    cases index with
    | zero =>
      obtain rfl : last = node := by simpa using found
      simp [beside, siblingOf]
    | succ index => simp at found
  | case3 left right rest ih =>
    match index with
    | 0 =>
      obtain rfl : left = node := by simpa using found
      simp [beside, siblingOf]
    | 1 =>
      obtain rfl : right = node := by simpa using found
      simp [beside, siblingOf]
    | index + 2 =>
      have later := @ih index (by simpa using found)
      have parity : (index + 2) % 2 = index % 2 := by omega
      have half : (index + 2) / 2 = index / 2 + 1 := by omega
      have same : siblingOf (left :: right :: rest) (index + 2) node = siblingOf rest index node := by
        unfold siblingOf
        rw [parity]
        split
        · rfl
        · next odd =>
            obtain ⟨before, rfl⟩ : ∃ before, index = before + 1 := ⟨index - 1, by omega⟩
            rfl
      rw [half, List.getElem?_cons_succ, later, same]
      simp only [beside, parity]

theorem walk_siblings {root : α} (top : collapse join level = some root) :
    walk join index node (siblings (levels join level) index) = root := by
  fun_induction levels join level generalizing index node with
  | case1 => simp at found
  | case2 only =>
    cases index with
    | zero =>
      obtain rfl : only = node := by simpa using found
      rw [collapse] at top
      simpa [siblings, walk] using top
    | succ index => simp at found
  | case3 left right rest ih =>
    rw [collapse] at top
    have several : ¬ (left :: right :: rest).length ≤ 1 := by simp
    rw [siblings, if_neg several, found]
    exact ih (getElem?_pairUp found) top

end

section Naturality

variable {join : α → α → α} {join' : β → β → β} {f : α → β}
  (joined : ∀ left right, f (join left right) = join' (f left) (f right)) (level : List α)

include joined

theorem map_pairUp : (pairUp join level).map f = pairUp join' (level.map f) := by
  fun_induction pairUp join level with
  | case1 => rfl
  | case2 last => simp [pairUp, joined]
  | case3 left right rest ih => simp [pairUp, joined, ih]

theorem map_collapse : (collapse join level).map f = collapse join' (level.map f) := by
  fun_induction collapse join level with
  | case1 | case2 root => simp [collapse]
  | case3 left right rest ih =>
    rw [ih, map_pairUp joined, List.map_cons, List.map_cons, collapse]

end Naturality

/-! ## Trees -/

inductive Tree (α : Type) where
  | leaf (label : α)
  | node (left right : Tree α)

namespace Tree

def leaves : Tree α → List α
  | leaf label => [label]
  | node left right => left.leaves ++ right.leaves

/-- A round keeps the leaves and repeats some of them at the end. -/
theorem leaves_pairUp (level : List (Tree α)) :
    ∃ repeated ⊆ level.flatMap leaves, (pairUp node level).flatMap leaves = level.flatMap leaves ++ repeated := by
  fun_induction pairUp node level with
  | case1 => exact ⟨[], List.Subset.refl _, rfl⟩
  | case2 last => exact ⟨last.leaves, by simp, by simp [leaves]⟩
  | case3 left right rest ih =>
    obtain ⟨repeated, inside, same⟩ := ih
    refine ⟨repeated, fun label member => ?_, ?_⟩
    · have later := inside member
      simp only [List.flatMap_cons, List.mem_append]
      exact .inr (.inr later)
    · simp only [List.flatMap_cons, same, leaves, List.append_assoc]

theorem leaves_collapse {level : List (Tree α)} {tree : Tree α} (built : collapse node level = some tree) :
    ∃ repeated ⊆ level.flatMap leaves, tree.leaves = level.flatMap leaves ++ repeated := by
  fun_induction collapse node level with
  | case1 => cases built
  | case2 root =>
    obtain rfl := Option.some.inj built
    exact ⟨[], List.nil_subset _, by simp⟩
  | case3 left right rest ih =>
    obtain ⟨later, insideLater, same⟩ := ih built
    obtain ⟨repeated, inside, round⟩ := leaves_pairUp (left :: right :: rest)
    rw [round] at same insideLater
    refine ⟨repeated ++ later, ?_, by rw [same, List.append_assoc]⟩
    exact List.append_subset.mpr ⟨inside, List.Subset.trans insideLater
      (List.append_subset.mpr ⟨List.Subset.refl _, inside⟩)⟩

end Tree

def tree (labels : List α) : Option (Tree α) := collapse .node (labels.map .leaf)

theorem leaves_tree {labels : List α} {built : Tree α} (returned : tree labels = some built) :
    ∃ repeated ⊆ labels, built.leaves = labels ++ repeated := by
  have own : (labels.map Tree.leaf).flatMap Tree.leaves = labels := by
    simp [List.flatMap_map, Tree.leaves]
  have shown := Tree.leaves_collapse returned
  rwa [own] at shown

/-- Lists without repetitions, each followed by elements of its own, agree when the results do. -/
theorem eq_of_append_repeated {xs ys repeated repeated' : List α} (distinct : xs.Nodup) (distinct' : ys.Nodup)
    (inside : repeated ⊆ xs) (inside' : repeated' ⊆ ys) (same : xs ++ repeated = ys ++ repeated') : xs = ys := by
  -- The longer list is the shorter one followed by elements that repeat it, so by nothing.
  have shorter : ∀ {zs us vs : List α}, (zs ++ us).Nodup → us ++ vs ⊆ zs → us = [] := by
    intro zs us vs nodup within
    refine List.eq_nil_iff_forall_not_mem.mpr fun label member => ?_
    exact (List.disjoint_of_nodup_append nodup) (within (List.mem_append_left _ member)) member
  rcases List.append_eq_append_iff.mp same with ⟨more, rfl, rfl⟩ | ⟨more, rfl, rfl⟩
  · rw [shorter distinct' inside, List.append_nil]
  · rw [shorter distinct inside', List.append_nil]

theorem tree_injective {xs ys : List α} {built : Tree α} (distinct : xs.Nodup) (distinct' : ys.Nodup)
    (returned : tree xs = some built) (returned' : tree ys = some built) : xs = ys := by
  obtain ⟨repeated, inside, shown⟩ := leaves_tree returned
  obtain ⟨repeated', inside', shown'⟩ := leaves_tree returned'
  exact eq_of_append_repeated distinct distinct' inside inside' (shown.symm.trans shown')

section Hashing

variable {σ η : Type} (hash : σ → η) (leafString : α → σ) (nodeString : η → η → σ)

namespace Tree

def digest : Tree α → η
  | leaf label => hash (leafString label)
  | node left right => hash (nodeString left.digest right.digest)

def strings : Tree α → List σ
  | leaf label => [leafString label]
  | node left right =>
    nodeString (left.digest hash leafString nodeString) (right.digest hash leafString nodeString) ::
      (left.strings ++ right.strings)

end Tree

def rootHash (labels : List α) : Option η :=
  collapse (fun left right => hash (nodeString left right)) (labels.map fun label => hash (leafString label))

def hashedStrings (labels : List α) : List σ := (tree labels).elim [] (Tree.strings hash leafString nodeString)

variable {hash leafString nodeString}

theorem map_digest_tree (labels : List α) :
    (tree labels).map (Tree.digest hash leafString nodeString) = rootHash hash leafString nodeString labels := by
  have respected := @map_collapse _ _ Tree.node (fun left right => hash (nodeString left right))
    (Tree.digest hash leafString nodeString) (fun _ _ => rfl) (labels.map .leaf)
  rw [tree, respected, List.map_map]
  rfl

variable (separate : ∀ label left right, leafString label ≠ nodeString left right)
  (leafInjective : Function.Injective leafString) (nodeInjective : Function.Injective (Function.uncurry nodeString))

include separate nodeInjective

include leafInjective in
theorem Tree.digest_injective {first second : Tree α}
    (free : ∀ a ∈ first.strings hash leafString nodeString, ∀ b ∈ second.strings hash leafString nodeString,
      hash a = hash b → a = b)
    (same : first.digest hash leafString nodeString = second.digest hash leafString nodeString) :
    first = second := by
  induction first generalizing second with
  | leaf label =>
    cases second with
    | leaf label' =>
      have agree := free _ List.mem_cons_self _ List.mem_cons_self same
      rw [leafInjective agree]
    | node left right =>
      exact absurd (free _ List.mem_cons_self _ List.mem_cons_self same) (separate _ _ _)
  | node left right leftHypothesis rightHypothesis =>
    cases second with
    | leaf label =>
      exact absurd (free _ List.mem_cons_self _ List.mem_cons_self same).symm (separate _ _ _)
    | node left' right' =>
      obtain ⟨sameLeft, sameRight⟩ :=
        Prod.mk.inj (@nodeInjective (_, _) (_, _) (free _ List.mem_cons_self _ List.mem_cons_self same))
      have freeLeft := @leftHypothesis left' (fun a inA b inB =>
        free a (List.mem_cons_of_mem _ (List.mem_append_left _ inA)) b
          (List.mem_cons_of_mem _ (List.mem_append_left _ inB))) sameLeft
      have freeRight := @rightHypothesis right' (fun a inA b inB =>
        free a (List.mem_cons_of_mem _ (List.mem_append_right _ inA)) b
          (List.mem_cons_of_mem _ (List.mem_append_right _ inB))) sameRight
      rw [freeLeft, freeRight]

/-- Without collisions a walk that ends at the root of a tree has started in it. -/
theorem Tree.exists_subtree_of_walk {whole : Tree α} {index : ℕ} {start : η} {path : List η}
    (free : ∀ a ∈ whole.strings hash leafString nodeString,
      ∀ pair ∈ walkedPairs (fun left right => hash (nodeString left right)) index start path,
        hash a = hash (nodeString pair.1 pair.2) → a = nodeString pair.1 pair.2)
    (reached : walk (fun left right => hash (nodeString left right)) index start path =
      whole.digest hash leafString nodeString) :
    ∃ part : Tree α, part.digest hash leafString nodeString = start ∧ part.leaves ⊆ whole.leaves ∧
      part.strings hash leafString nodeString ⊆ whole.strings hash leafString nodeString := by
  induction path generalizing index start with
  | nil => exact ⟨whole, reached.symm, List.Subset.refl _, List.Subset.refl _⟩
  | cons sibling rest ih =>
    obtain ⟨part, digest, leaves, strings⟩ := ih
      (fun a inside pair later => free a inside pair (List.mem_cons_of_mem _ later)) reached
    -- The part above the first join is a node, and the walk comes from one of its children.
    cases part with
    | leaf label =>
      exact absurd (free _ (strings List.mem_cons_self) _ List.mem_cons_self digest) (separate _ _ _)
    | node left right =>
      have joined := free _ (strings List.mem_cons_self) _ List.mem_cons_self digest
      have children : (left.digest hash leafString nodeString, right.digest hash leafString nodeString) =
          beside index start sibling := nodeInjective joined
      have below : left.strings hash leafString nodeString ++ right.strings hash leafString nodeString ⊆
          whole.strings hash leafString nodeString :=
        List.Subset.trans (List.subset_cons_self _ _) strings
      by_cases even : index % 2 = 0
      · rw [beside, if_pos even, Prod.mk.injEq] at children
        exact ⟨left, children.1, List.Subset.trans (List.subset_append_left _ _) leaves,
          List.Subset.trans (List.subset_append_left _ _) below⟩
      · rw [beside, if_neg even, Prod.mk.injEq] at children
        exact ⟨right, children.2, List.Subset.trans (List.subset_append_right _ _) leaves,
          List.Subset.trans (List.subset_append_right _ _) below⟩

include leafInjective in
/-- Without collisions a walk from a label to the root of a list starts from a label of the list. -/
theorem mem_of_walk {labels : List α} {label : α} {index : ℕ} {path : List η}
    (free : ∀ a ∈ hashedStrings hash leafString nodeString labels, ∀ b ∈ leafString label ::
      (walkedPairs (fun left right => hash (nodeString left right)) index (hash (leafString label)) path).map
        (Function.uncurry nodeString), hash a = hash b → a = b)
    (reached : rootHash hash leafString nodeString labels =
      some (walk (fun left right => hash (nodeString left right)) index (hash (leafString label)) path)) :
    label ∈ labels := by
  rw [← map_digest_tree, Option.map_eq_some_iff] at reached
  obtain ⟨whole, built, digest⟩ := reached
  simp only [hashedStrings, built, Option.elim_some] at free
  obtain ⟨part, start, leaves, strings⟩ := Tree.exists_subtree_of_walk separate nodeInjective
    (fun a inside pair joined => free a inside _ (List.mem_cons_of_mem _ (List.mem_map_of_mem joined))) digest.symm
  obtain ⟨repeated, own, shown⟩ := leaves_tree built
  cases part with
  | leaf label' =>
    obtain rfl := leafInjective (free _ (strings List.mem_cons_self) _ List.mem_cons_self start)
    have inside := leaves List.mem_cons_self
    rw [shown] at inside
    exact (List.mem_append.mp inside).elim id fun again => own again
  | node left right =>
    exact absurd (free _ (strings List.mem_cons_self) _ List.mem_cons_self start).symm (separate _ _ _)

include leafInjective in
theorem rootHash_injective {xs ys : List α} {root : η} (distinct : xs.Nodup) (distinct' : ys.Nodup)
    (free : ∀ a ∈ hashedStrings hash leafString nodeString xs, ∀ b ∈ hashedStrings hash leafString nodeString ys,
      hash a = hash b → a = b)
    (returned : rootHash hash leafString nodeString xs = some root)
    (returned' : rootHash hash leafString nodeString ys = some root) : xs = ys := by
  rw [← map_digest_tree, Option.map_eq_some_iff] at returned returned'
  obtain ⟨first, built, digest⟩ := returned
  obtain ⟨second, built', digest'⟩ := returned'
  simp only [hashedStrings, built, built', Option.elim_some] at free
  obtain rfl := Tree.digest_injective separate leafInjective nodeInjective free (digest.trans digest'.symm)
  exact tree_injective distinct distinct' built built'

end Hashing

end Foundation.MerkleTree

/-! # Complete trees

A position of the complete binary tree is the list of turns from the top down; the left child comes with `false`. -/

namespace Foundation.CompleteTree

variable {α : Type}

/-- The tree of a depth with the label of each position at its leaf. -/
def complete : ℕ → (List Bool → α) → MerkleTree.Tree α
  | 0, label => .leaf (label [])
  | depth + 1, label =>
    .node (complete depth fun rest => label (false :: rest)) (complete depth fun rest => label (true :: rest))

/-- The value at the top, where a leaf stands for itself and a node joins. -/
def top (join : α → α → α) : MerkleTree.Tree α → α
  | .leaf label => label
  | .node left right => join (top join left) (top join right)

def leafAt : MerkleTree.Tree α → List Bool → Option α
  | .leaf label, [] => some label
  | .leaf _, _ :: _ => none
  | .node _ _, [] => none
  | .node left right, turn :: rest => if turn then leafAt right rest else leafAt left rest

theorem leafAt_complete (label : List Bool → α) {depth : ℕ} {position : List Bool} (deep : position.length = depth) :
    leafAt (complete depth label) position = some (label position) := by
  induction position generalizing depth label with
  | nil =>
    subst deep
    rfl
  | cons turn rest ih =>
    subst deep
    cases turn with
    | false => exact ih (fun rest => label (false :: rest)) rfl
    | true => exact ih (fun rest => label (true :: rest)) rfl

end Foundation.CompleteTree
