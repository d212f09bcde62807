import Mathlib.Logic.Relation
import Mathlib.Order.Basic

/-!
# Stores that keep the highest rank

A store holds at most one value under each key, and a write replaces what it holds unless that ranks higher.  Once
everything of a collection has been outranked, and nothing else has been written, its content is determined.
-/

namespace Foundation

variable {κ ν ρ : Type} [PartialOrder ρ] (rank : ν → ρ) (entries : List (κ × ν)) (held : κ → Option ν)

/-- A write of a value under a key.  Of two values of one rank, either may be kept. -/
structure Upserts (entry : κ × ν) (held held' : κ → Option ν) : Prop where
  own : (held' entry.1 = some entry.2 ∧ ∀ value ∈ held entry.1, rank value ≤ rank entry.2) ∨
    held' entry.1 = held entry.1 ∧ ∃ value ∈ held entry.1, rank entry.2 ≤ rank value
  others : ∀ key, key ≠ entry.1 → held' key = held key

/-- Everything held comes from the collection. -/
def HeldFrom : Prop := ∀ key, ∀ value ∈ held key, (key, value) ∈ entries

/-- Everything in the collection is held, or outranked by what is. -/
def Outranks : Prop :=
  ∀ entry ∈ entries, ∃ value ∈ held entry.1, rank entry.2 ≤ rank value

/-- Under one key, no two values of the collection have the same rank. -/
def RanksApart : Prop :=
  ∀ key value value', (key, value) ∈ entries → (key, value') ∈ entries → rank value = rank value' → value = value'

variable {rank} {entry : κ × ν} {entries entries' : List (κ × ν)} {held held' : κ → Option ν}

theorem heldFrom_upserts (from' : HeldFrom entries held) (member : entry ∈ entries)
    (written : Upserts rank entry held held') : HeldFrom entries held' := by
  intro key value found
  by_cases own : key = entry.1
  · subst own
    rcases written.own with ⟨replaced, -⟩ | ⟨kept, -⟩
    · rw [replaced] at found
      obtain rfl := Option.some.inj found
      exact member
    · rw [kept] at found
      exact from' _ value found
  · rw [written.others key own] at found
    exact from' key value found

theorem outranks_upserts (outranks : Outranks rank entries held) (written : Upserts rank entry held held') :
    Outranks rank entries held' := by
  intro other member
  obtain ⟨value, found, lower⟩ := outranks other member
  by_cases own : other.1 = entry.1
  · rw [own] at found ⊢
    rcases written.own with ⟨replaced, highest⟩ | ⟨kept, -⟩
    · exact ⟨entry.2, replaced, lower.trans (highest value found)⟩
    · exact ⟨value, kept.trans found, lower⟩
  · exact ⟨value, (written.others _ own).trans found, lower⟩

theorem Upserts.outranks_self (written : Upserts rank entry held held') :
    ∃ value ∈ held' entry.1, rank entry.2 ≤ rank value := by
  rcases written.own with ⟨replaced, -⟩ | ⟨kept, value, found, lower⟩
  · exact ⟨entry.2, replaced, le_rfl⟩
  · exact ⟨value, kept.trans found, lower⟩

/-- Any number of writes of entries of the collection. -/
def Rewrites (rank : ν → ρ) (entries : List (κ × ν)) : (κ → Option ν) → (κ → Option ν) → Prop :=
  Relation.ReflTransGen fun held held' => ∃ entry ∈ entries, Upserts rank entry held held'

section

variable (written : Rewrites rank entries held held')

include written

theorem Rewrites.mono (among : entries ⊆ entries') : Rewrites rank entries' held held' := by
  induction written with
  | refl => exact .refl
  | tail _ last ih =>
    obtain ⟨entry, member, upserts⟩ := last
    exact ih.tail ⟨entry, among member, upserts⟩

theorem heldFrom_rewrites (among : entries ⊆ entries') (from' : HeldFrom entries' held) : HeldFrom entries' held' := by
  induction written with
  | refl => exact from'
  | tail _ last ih =>
    obtain ⟨entry, member, upserts⟩ := last
    exact heldFrom_upserts ih (among member) upserts

theorem outranks_rewrites (outranks : Outranks rank entries' held) : Outranks rank entries' held' := by
  induction written with
  | refl => exact outranks
  | tail _ last ih =>
    obtain ⟨entry, -, upserts⟩ := last
    exact outranks_upserts ih upserts

end

theorem outranks_append : Outranks rank (entries ++ entries') held ↔
    Outranks rank entries held ∧ Outranks rank entries' held := by
  simp [Outranks, or_imp, forall_and]

/-- What outranks the values of a collection outranks whatever those outrank. -/
theorem Outranks.trans {middle : κ → Option ν} (outranks : Outranks rank entries middle)
    (higher : ∀ key, ∀ value ∈ middle key, ∃ value' ∈ held key, rank value ≤ rank value') :
    Outranks rank entries held := by
  intro entry member
  obtain ⟨value, found, lower⟩ := outranks entry member
  obtain ⟨value', found', lower'⟩ := higher entry.1 value found
  exact ⟨value', found', lower.trans lower'⟩

/-- Two stores that hold only, and outrank all, of one collection are equal. -/
theorem eq_of_outranks (apart : RanksApart rank entries) (from₁ : HeldFrom entries held)
    (outranks₁ : Outranks rank entries held) (from₂ : HeldFrom entries held')
    (outranks₂ : Outranks rank entries held') : held = held' := by
  -- the value one store holds is met, and matched in rank, by the other
  have found {first second : κ → Option ν} (fromFirst : HeldFrom entries first) (all : Outranks rank entries first)
      (fromSecond : HeldFrom entries second) (all' : Outranks rank entries second) {key : κ} {value : ν}
      (there : first key = some value) : second key = some value := by
    have member := fromFirst key value there
    obtain ⟨value', there', lower⟩ := all' (key, value) member
    have member' := fromSecond key value' there'
    obtain ⟨value'', there'', lower'⟩ := all (key, value') member'
    obtain rfl := Option.some.inj (there.symm.trans there'')
    rw [apart key value value' member member' (le_antisymm lower lower')]
    exact there'
  exact funext fun key => Option.ext fun value =>
    ⟨found from₁ outranks₁ from₂ outranks₂, found from₂ outranks₂ from₁ outranks₁⟩

end Foundation
