import StateChronicle.Foundation.FiniteMap

/-!
# Replaying writes

A list of entries is replayed on a finite map: each entry is checked against what its slot holds at that moment and
then replaces it.  When every write raises the rank of its slot, an entry that was computed from the initial map
cannot fit a slot that has been written before.
-/

namespace Foundation

variable {κ ν ε : Type} [DecidableEq κ]

variable (fits : Option ν → ε → Prop) (slot : ε → κ) (value : ε → ν)

/-- Every entry fits what the map holds at its slot when its turn comes. -/
def Replays : (Finmap fun _ : κ => ν) → List ε → Prop
  | _, [] => True
  | table, entry :: rest =>
    fits (table.lookup (slot entry)) entry ∧ Replays (table.insert (slot entry) (value entry)) rest

variable {fits slot value}

instance decidableReplays [DecidableRel fits] (table : Finmap fun _ : κ => ν) (entries : List ε) :
    Decidable (Replays fits slot value table entries) :=
  match entries with
  | [] => isTrue trivial
  | entry :: rest =>
    @instDecidableAnd _ _ (inferInstanceAs (Decidable (fits (table.lookup (slot entry)) entry)))
      (decidableReplays (table.insert (slot entry) (value entry)) rest)

/-- Entries of distinct slots meet the initial map. -/
theorem replays_iff_of_nodup {entries : List ε} (distinct : (entries.map slot).Nodup) (table : Finmap fun _ : κ => ν) :
    Replays fits slot value table entries ↔ ∀ entry ∈ entries, fits (table.lookup (slot entry)) entry := by
  induction entries generalizing table with
  | nil => simp [Replays]
  | cons entry rest ih =>
    obtain ⟨fresh, distinct⟩ := List.nodup_cons.mp distinct
    rw [Replays, ih distinct, List.forall_mem_cons]
    refine and_congr_right fun _ => forall₂_congr fun other member => ?_
    have apart : slot other ≠ slot entry := fun same => fresh (same ▸ List.mem_map_of_mem member)
    rw [Finmap.lookup_insert_of_ne _ apart]

/-- The rank of a slot; an empty slot has rank zero. -/
def slotRank (rank : ν → ℕ) (table : Finmap fun _ : κ => ν) (key : κ) : ℕ := (table.lookup key).elim 0 rank

/-- If writes raise ranks, and an entry that fits an earlier write has the rank its slot had in
the beginning, then no slot is written twice. -/
theorem nodup_of_replays (rank : ν → ℕ) {entries : List ε} {table : Finmap fun _ : κ => ν}
    (raises : ∀ entry ∈ entries, ∀ current, fits current entry → current.elim 0 rank < rank (value entry))
    (stale : ∀ entry ∈ entries, ∀ earlier ∈ entries, slot earlier = slot entry →
      fits (some (value earlier)) entry → rank (value earlier) = slotRank rank table (slot entry))
    (replays : Replays fits slot value table entries) : (entries.map slot).Nodup := by
  -- A slot is as it was, or has been written and has left its initial rank behind.
  suffices general : ∀ (rest : List ε) (current : Finmap fun _ : κ => ν), rest ⊆ entries →
      (∀ key, current.lookup key = table.lookup key ∨ ∃ earlier ∈ entries, slot earlier = key ∧
        current.lookup key = some (value earlier) ∧ slotRank rank table key < rank (value earlier)) →
      Replays fits slot value current rest →
      (rest.map slot).Nodup ∧ ∀ entry ∈ rest, current.lookup (slot entry) = table.lookup (slot entry) from
    (general entries table (List.Subset.refl _) (fun _ => .inl rfl) replays).1
  intro rest
  induction rest with
  | nil => exact fun _ _ _ _ => ⟨List.nodup_nil, List.forall_mem_nil _⟩
  | cons entry rest ih =>
    rintro current among written ⟨fit, replays⟩
    obtain ⟨member, others⟩ := List.cons_subset.mp among
    have untouched : current.lookup (slot entry) = table.lookup (slot entry) := by
      refine (written (slot entry)).resolve_right ?_
      rintro ⟨earlier, before, same, holds, below⟩
      rw [holds] at fit
      exact below.ne' (stale entry member earlier before same fit)
    have rises : slotRank rank table (slot entry) < rank (value entry) := by
      have rises := raises entry member _ fit
      rwa [untouched] at rises
    have next := ih (current.insert (slot entry) (value entry)) others ?_ replays
    · obtain ⟨distinct, later⟩ := next
      have apart : ∀ other ∈ rest, slot other ≠ slot entry := by
        intro other listed same
        have initial := later other listed
        rw [same, Finmap.lookup_insert] at initial
        rw [slotRank, ← initial] at rises
        exact lt_irrefl _ rises
      refine ⟨List.nodup_cons.mpr ⟨by simpa using apart, distinct⟩, List.forall_mem_cons.mpr ⟨untouched, ?_⟩⟩
      intro other listed
      rw [← later other listed, Finmap.lookup_insert_of_ne _ (apart other listed)]
    · intro key
      by_cases own : key = slot entry
      · subst own
        exact .inr ⟨entry, member, rfl, Finmap.lookup_insert _, rises⟩
      · rw [Finmap.lookup_insert_of_ne _ own]
        exact written key

end Foundation
