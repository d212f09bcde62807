import Mathlib.Algebra.BigOperators.Group.Finset.Basic
import Mathlib.Data.Finmap

/-!
# Totals over finite maps

The sum of a measure over the entries of a finite map, and what a write does to it.
-/

namespace Foundation

variable {κ ν M : Type} [DecidableEq κ] [AddCommGroup M]

/-- What an entry contributes; an absent key contributes nothing. -/
def share (measure : κ → ν → M) (table : Finmap fun _ : κ => ν) (key : κ) : M := (table.lookup key).elim 0 (measure key)

def total (measure : κ → ν → M) (table : Finmap fun _ : κ => ν) : M := ∑ key ∈ table.keys, share measure table key

variable {measure : κ → ν → M} {table : Finmap fun _ : κ => ν} {key : κ} {value : ν}

theorem share_insert : share measure (table.insert key value) key = measure key value := by
  simp [share]

theorem share_insert_of_ne {other : κ} (different : other ≠ key) :
    share measure (table.insert key value) other = share measure table other := by
  simp [share, Finmap.lookup_insert_of_ne table different]

theorem keys_insert : (table.insert key value).keys = insert key (table.keys.erase key) := by
  ext other
  by_cases same : other = key <;> simp [Finmap.mem_keys, Finmap.mem_insert, same]

theorem share_eq_zero (absent : key ∉ table.keys) : share measure table key = 0 := by
  rw [Finmap.mem_keys, ← Finmap.lookup_eq_none] at absent
  simp [share, absent]

theorem total_eq_add_erase (key : κ) :
    total measure table = share measure table key + ∑ other ∈ table.keys.erase key, share measure table other := by
  by_cases present : key ∈ table.keys
  · exact (Finset.add_sum_erase _ _ present).symm
  · rw [share_eq_zero present, Finset.erase_eq_of_notMem present, zero_add, total]

theorem total_insert :
    total measure (table.insert key value) = total measure table - share measure table key + measure key value := by
  have others : ∑ other ∈ table.keys.erase key, share measure (table.insert key value) other =
      ∑ other ∈ table.keys.erase key, share measure table other :=
    Finset.sum_congr rfl fun other member => share_insert_of_ne (Finset.ne_of_mem_erase member)
  rw [total, keys_insert, Finset.sum_insert (Finset.notMem_erase _ _), share_insert, others,
    total_eq_add_erase key, add_sub_cancel_left, add_comm]

end Foundation
