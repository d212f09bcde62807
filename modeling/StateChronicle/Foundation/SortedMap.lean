import Mathlib.Data.List.Forall2
import Mathlib.Data.List.Induction
import Mathlib.Data.List.Sort
import Mathlib.Order.Basic

/-!
# Key-ordered maps

A finite map kept as an association list in strictly increasing key order, so two maps with the same content are
equal.  `groupBy` collects the elements of a list under a key, in their order of arrival.
-/

namespace Foundation

variable {κ ν α : Type} [LinearOrder κ] {group : List α} {value : ν}

/-- A finite map whose entries are listed in strictly increasing key order. -/
structure SortedMap (κ ν : Type) [LinearOrder κ] where
  entries : List (κ × ν)
  sorted : entries.Pairwise (fun a b => a.1 < b.1)

namespace SortedMap

variable {entries : List (κ × ν)} {key : κ}

instance [DecidableEq ν] : DecidableEq (SortedMap κ ν) := fun a b =>
  decidable_of_iff (a.entries = b.entries) (by cases a; cases b; simp)

/-- Replaces the value under `key` by `update` of what is there, in place. -/
def upsertEntries (key : κ) (update : Option ν → ν) : List (κ × ν) → List (κ × ν)
  | [] => [(key, update none)]
  | (k, v) :: rest =>
    if key < k then (key, update none) :: (k, v) :: rest
    else if key = k then (k, update (some v)) :: rest
    else (k, v) :: upsertEntries key update rest

theorem key_of_mem_upsertEntries {update : Option ν → ν} {entry : κ × ν}
    (member : entry ∈ upsertEntries key update entries) : entry.1 = key ∨ ∃ old ∈ entries, old.1 = entry.1 := by
  induction entries with
  | nil => simp_all [upsertEntries]
  | cons head rest ih =>
    obtain ⟨k, v⟩ := head
    simp only [upsertEntries] at member
    split_ifs at member with below same
    · rcases List.mem_cons.mp member with rfl | member
      · exact .inl rfl
      · exact .inr ⟨entry, member, rfl⟩
    · rcases List.mem_cons.mp member with rfl | member
      · exact .inl same.symm
      · exact .inr ⟨entry, List.mem_cons_of_mem _ member, rfl⟩
    · rcases List.mem_cons.mp member with rfl | member
      · exact .inr ⟨(k, v), List.mem_cons_self, rfl⟩
      · rcases ih member with same | ⟨old, oldMember, same⟩
        · exact .inl same
        · exact .inr ⟨old, List.mem_cons_of_mem _ oldMember, same⟩

theorem sorted_upsertEntries (key : κ) (update : Option ν → ν) (sorted : entries.Pairwise (fun a b => a.1 < b.1)) :
    (upsertEntries key update entries).Pairwise (fun a b => a.1 < b.1) := by
  induction entries with
  | nil => simp [upsertEntries]
  | cons head rest ih =>
    obtain ⟨k, v⟩ := head
    obtain ⟨above, restSorted⟩ := List.pairwise_cons.mp sorted
    simp only [upsertEntries]
    split_ifs with below same
    · refine List.pairwise_cons.mpr ⟨?_, sorted⟩
      intro entry member
      rcases List.mem_cons.mp member with rfl | member
      · exact below
      · exact below.trans (above entry member)
    · exact List.pairwise_cons.mpr ⟨above, restSorted⟩
    · refine List.pairwise_cons.mpr ⟨?_, ih restSorted⟩
      intro entry member
      rcases key_of_mem_upsertEntries member with isKey | ⟨old, oldMember, sameKey⟩
      · exact isKey ▸ lt_of_le_of_ne (not_lt.mp below) (Ne.symm same)
      · exact sameKey ▸ above old oldMember

def lookupEntries (key : κ) : List (κ × ν) → Option ν
  | [] => none
  | (k, v) :: rest => if key = k then some v else lookupEntries key rest

theorem lookupEntries_eq_none_of_lt (above : ∀ entry ∈ entries, key < entry.1) : lookupEntries key entries = none := by
  induction entries with
  | nil => rfl
  | cons head rest ih =>
    have distinct := (above head List.mem_cons_self).ne
    simpa [lookupEntries, distinct] using
      ih fun entry member => above entry (List.mem_cons_of_mem _ member)

theorem lookupEntries_upsertEntries (key : κ) (update : Option ν → ν)
    (sorted : entries.Pairwise (fun a b => a.1 < b.1)) (k : κ) :
    lookupEntries k (upsertEntries key update entries) =
      if k = key then some (update (lookupEntries key entries)) else lookupEntries k entries := by
  induction entries with
  | nil => rfl
  | cons head rest ih =>
    obtain ⟨k', v⟩ := head
    obtain ⟨above, restSorted⟩ := List.pairwise_cons.mp sorted
    rcases lt_trichotomy key k' with below | rfl | beyond
    · have absent : lookupEntries key ((k', v) :: rest) = none := by
        refine lookupEntries_eq_none_of_lt fun entry member => ?_
        rcases List.mem_cons.mp member with rfl | member
        · exact below
        · exact below.trans (above entry member)
      rw [absent, upsertEntries, if_pos below]
      rfl
    · rw [upsertEntries, if_neg (lt_irrefl _), if_pos rfl]
      by_cases isKey : k = key <;> simp [lookupEntries, isKey]
    · rw [upsertEntries, if_neg (not_lt.mpr beyond.le), if_neg beyond.ne']
      simp only [lookupEntries, ih restSorted, beyond.ne', if_false]
      by_cases isKey : k = key
      · simp [isKey, beyond.ne']
      · simp [isKey]

theorem length_upsertEntries (key : κ) (update : Option ν → ν) (sorted : entries.Pairwise (fun a b => a.1 < b.1)) :
    (upsertEntries key update entries).length =
      entries.length + (if lookupEntries key entries = none then 1 else 0) := by
  induction entries with
  | nil => simp [upsertEntries, lookupEntries]
  | cons head rest ih =>
    obtain ⟨k, v⟩ := head
    obtain ⟨above, restSorted⟩ := List.pairwise_cons.mp sorted
    rcases lt_trichotomy key k with below | rfl | beyond
    · have absent : lookupEntries key rest = none :=
        lookupEntries_eq_none_of_lt fun entry member => below.trans (above entry member)
      simp [upsertEntries, lookupEntries, below, below.ne, absent]
    · simp [upsertEntries, lookupEntries]
    · simp only [upsertEntries, lookupEntries, if_neg beyond.not_gt, if_neg beyond.ne', List.length_cons, ih restSorted]
      omega

theorem mem_entries_iff_lookupEntries (sorted : entries.Pairwise (fun a b => a.1 < b.1)) :
    (key, value) ∈ entries ↔ lookupEntries key entries = some value := by
  induction entries with
  | nil => simp [lookupEntries]
  | cons head rest ih =>
    obtain ⟨k, v⟩ := head
    obtain ⟨above, restSorted⟩ := List.pairwise_cons.mp sorted
    by_cases same : key = k
    · subst same
      have absent : (key, value) ∉ rest := fun member => lt_irrefl key (above (key, value) member)
      simp [lookupEntries, absent, eq_comm]
    · simp [lookupEntries, same, ih restSorted]

/-! ## Operations -/

def empty : SortedMap κ ν := ⟨[], List.Pairwise.nil⟩

variable (m : SortedMap κ ν)

def get? (key : κ) : Option ν := lookupEntries key m.entries

def upsert (key : κ) (update : Option ν → ν) : SortedMap κ ν :=
  ⟨upsertEntries key update m.entries, sorted_upsertEntries key update m.sorted⟩

def insert (key : κ) (value : ν) : SortedMap κ ν := m.upsert key fun _ => value

variable (bindings : List (κ × ν))

/-- Builds a map from a list of bindings; a later binding of a key replaces an earlier one. -/
def ofList : SortedMap κ ν := bindings.foldl (fun m binding => m.insert binding.1 binding.2) empty

def keys : List κ := m.entries.map Prod.fst

def values : List ν := m.entries.map Prod.snd

@[simp] theorem get?_empty (key : κ) : (empty : SortedMap κ ν).get? key = none := rfl

theorem get?_upsert (key : κ) (update : Option ν → ν) (k : κ) :
    (m.upsert key update).get? k = if k = key then some (update (m.get? key)) else m.get? k :=
  lookupEntries_upsertEntries key update m.sorted k

theorem get?_insert (key : κ) (value : ν) (k : κ) :
    (m.insert key value).get? k = if k = key then some value else m.get? k :=
  get?_upsert m key _ k

theorem length_upsert (key : κ) (update : Option ν → ν) :
    (m.upsert key update).entries.length = m.entries.length + (if m.get? key = none then 1 else 0) :=
  length_upsertEntries key update m.sorted

/-- The bindings of a list replace those of a map, the last one of a key counting. -/
theorem get?_foldl_insert {α : Type*} (keyOf : α → κ) (valueOf : α → ν) (xs : List α) (m : SortedMap κ ν)
    {binds : α → Bool} (tells : ∀ x, binds x ↔ keyOf x = key) :
    (xs.foldl (fun m x => m.insert (keyOf x) (valueOf x)) m).get? key =
      ((xs.reverse.find? binds).map valueOf).or (m.get? key) := by
  induction xs using List.reverseRecOn with
  | nil => rfl
  | append_singleton xs last ih =>
    rw [List.foldl_append, List.foldl_cons, List.foldl_nil, get?_insert, ih,
      List.reverse_append, List.reverse_singleton, List.singleton_append]
    by_cases own : keyOf last = key
    · rw [if_pos own.symm, List.find?_cons_of_pos ((tells last).mpr own)]
      rfl
    · rw [if_neg (Ne.symm own), List.find?_cons_of_neg (mt (tells last).mp own)]

theorem ofList_concat (last : κ × ν) : ofList (bindings ++ [last]) = (ofList bindings).insert last.1 last.2 := by
  rw [ofList, List.foldl_append]
  rfl

theorem get?_ofList (key : κ) :
    (ofList bindings).get? key = (bindings.reverse.find? fun binding => binding.1 = key).map Prod.snd := by
  rw [ofList, get?_foldl_insert Prod.fst Prod.snd bindings .empty fun _ => decide_eq_true_iff, get?_empty,
    Option.or_none]

theorem mem_of_get?_ofList {bindings : List (κ × ν)} (found : (ofList bindings).get? key = some value) :
    (key, value) ∈ bindings := by
  rw [get?_ofList] at found
  obtain ⟨⟨own, bound⟩, last, rfl⟩ := Option.map_eq_some_iff.mp found
  obtain rfl : own = key := by simpa using List.find?_some last
  exact List.mem_reverse.mp (List.mem_of_find?_eq_some last)

theorem get?_ofList_eq_none {bindings : List (κ × ν)} :
    (ofList bindings).get? key = none ↔ ∀ value, (key, value) ∉ bindings := by
  rw [get?_ofList, Option.map_eq_none_iff, List.find?_eq_none]
  constructor
  · intro absent value member
    exact absent (key, value) (List.mem_reverse.mpr member) (decide_eq_true rfl)
  · rintro absent ⟨own, value⟩ member same
    obtain rfl : own = key := of_decide_eq_true same
    exact absent value (List.mem_reverse.mp member)

theorem mem_entries_iff {m : SortedMap κ ν} : (key, value) ∈ m.entries ↔ m.get? key = some value :=
  mem_entries_iff_lookupEntries m.sorted

/-- A map is determined by what its keys are bound to. -/
theorem ext_get? {m m' : SortedMap κ ν} (same : ∀ key, m.get? key = m'.get? key) : m = m' := by
  have members : ∀ entry, entry ∈ m.entries ↔ entry ∈ m'.entries := by
    rintro ⟨key, value⟩
    rw [mem_entries_iff, mem_entries_iff, same]
  have : Std.Irrefl fun a b : κ × ν => a.1 < b.1 := ⟨fun entry => lt_irrefl entry.1⟩
  have : Std.Antisymm fun a b : κ × ν => a.1 < b.1 :=
    ⟨fun a b below above => absurd above below.asymm⟩
  have entries := List.Pairwise.eq_of_mem_iff m.sorted m'.sorted members
  cases m
  cases m'
  cases entries
  rfl

theorem keys_sorted : m.keys.Pairwise (· < ·) := by
  simpa [keys, List.pairwise_map] using m.sorted

theorem keys_nodup : m.keys.Nodup := m.keys_sorted.imp fun below => below.ne

theorem mem_keys_iff {m : SortedMap κ ν} : key ∈ m.keys ↔ ∃ value, m.get? key = some value := by
  simp [keys, ← mem_entries_iff]

/-! ## Grouping -/

/-- Appends `x` to the group under `key`. -/
def push (m : SortedMap κ (List α)) (key : κ) (x : α) : SortedMap κ (List α) :=
  m.upsert key fun group => group.getD [] ++ [x]

variable (keyOf : α → κ) (xs : List α)

/-- The elements of `xs` by key, each group in order of arrival. -/
def groupBy : SortedMap κ (List α) := xs.foldl (fun m x => m.push (keyOf x) x) empty

theorem getD_foldl_push (m : SortedMap κ (List α)) (key : κ) :
    ((xs.foldl (fun m x => m.push (keyOf x) x) m).get? key).getD [] =
      (m.get? key).getD [] ++ xs.filter (fun x => keyOf x = key) := by
  induction xs generalizing m with
  | nil => simp
  | cons x rest ih =>
    rw [List.foldl_cons, ih, push, get?_upsert]
    by_cases same : key = keyOf x
    · subst same
      simp
    · simp [same, Ne.symm same]

theorem ne_nil_of_get?_foldl_push {m : SortedMap κ (List α)} (nonempty : ∀ key, m.get? key ≠ some []) (key : κ) :
    (xs.foldl (fun m x => m.push (keyOf x) x) m).get? key ≠ some [] := by
  induction xs generalizing m with
  | nil => exact nonempty key
  | cons x rest ih =>
    refine ih fun k => ?_
    change (m.upsert (keyOf x) _).get? k ≠ some []
    rw [get?_upsert]
    split_ifs
    · simp
    · exact nonempty k

/-- The groups are exactly the non-empty fibres of the key. -/
theorem get?_groupBy {keyOf : α → κ} {xs : List α} :
    (groupBy keyOf xs).get? key = some group ↔ group = xs.filter (fun x => keyOf x = key) ∧ group ≠ [] := by
  have content := getD_foldl_push keyOf xs empty key
  have nonempty := ne_nil_of_get?_foldl_push keyOf xs (m := empty) (by simp) key
  change ((groupBy keyOf xs).get? key).getD [] = _ at content
  change (groupBy keyOf xs).get? key ≠ _ at nonempty
  cases found : (groupBy keyOf xs).get? key with
  | none =>
    simp only [found, Option.getD_none, get?_empty, List.nil_append] at content
    simp [← content]
  | some members =>
    simp only [found, Option.getD_some, Option.getD_none, get?_empty, List.nil_append] at content
    simp only [found, ne_eq, Option.some.injEq] at nonempty ⊢
    rw [← content]
    exact ⟨fun same => ⟨same.symm, same ▸ nonempty⟩, fun same => same.1.symm⟩

theorem mem_entries_groupBy {keyOf : α → κ} {xs : List α} :
    (key, group) ∈ (groupBy keyOf xs).entries ↔ group = xs.filter (fun x => keyOf x = key) ∧ group ≠ [] := by
  rw [mem_entries_iff, get?_groupBy]

theorem filter_entries_key (key : κ) :
    m.entries.filter (fun entry => entry.1 = key) = ((m.get? key).map (Prod.mk key)).toList := by
  obtain ⟨entries, sorted⟩ := m
  change _ = ((lookupEntries key entries).map _).toList
  induction entries with
  | nil => rfl
  | cons entry rest ih =>
    obtain ⟨k, v⟩ := entry
    obtain ⟨first, others⟩ := List.pairwise_cons.mp sorted
    rw [lookupEntries]
    by_cases same : k = key
    · subst same
      have alone : rest.filter (fun entry => entry.1 = k) = [] := by
        refine List.filter_eq_nil_iff.mpr fun entry member => ?_
        simpa using (first entry member).ne'
      rw [List.filter_cons_of_pos (by simp), alone]
      simp
    · rw [List.filter_cons_of_neg (by simpa using same), ih others, if_neg (Ne.symm same)]

theorem mem_keys_groupBy {keyOf : α → κ} {xs : List α} : key ∈ (groupBy keyOf xs).keys ↔ ∃ x ∈ xs, keyOf x = key := by
  simp [mem_keys_iff, get?_groupBy, List.filter_eq_nil_iff]

theorem entries_groupBy :
    (groupBy keyOf xs).entries = (groupBy keyOf xs).keys.map fun key => (key, xs.filter fun x => keyOf x = key) := by
  rw [keys, List.map_map]
  refine (List.map_id _).symm.trans (List.map_congr_left fun entry member => ?_)
  obtain ⟨key, group⟩ := entry
  exact Prod.ext rfl (mem_entries_groupBy.mp member).1

theorem keys_groupBy_perm {xs ys : List α} (perm : xs.Perm ys) : (groupBy keyOf xs).keys = (groupBy keyOf ys).keys := by
  refine List.Perm.eq_of_pairwise (fun a b _ _ below above => absurd below above.asymm) (keys_sorted _)
    (keys_sorted _) ?_
  refine (List.perm_ext_iff_of_nodup (keys_nodup _) (keys_nodup _)).mpr fun key => ?_
  simp only [mem_keys_groupBy, perm.mem_iff]

end SortedMap

end Foundation
