import Mathlib.Data.Prod.Lex
import StateChronicle.Commit.Error
import StateChronicle.Domain.Event
import StateChronicle.Foundation.Sorting

/-!
# Canonical order of events

Events of a commit are ordered by resource, then by the version of the after-state, then by event id.
The validator wants the pairs of resource and version strictly increasing.
-/

namespace StateChronicle.Commit

open Domain Foundation

/-! ## Sorting -/

variable {events : List Event} {previous : Option (String ×ₗ U64)} {seenKeys : List (String ×ₗ U64)}

def canonicalKey (event : Event) : String ×ₗ U64 := toLex (event.resourceId.name, event.after.version)

/-- The canonical key, with the event id for ties. -/
def sortKey (event : Event) : (String ×ₗ U64) ×ₗ String := toLex (canonicalKey event, event.eventId.name)

def eventOrder (left right : Event) : Prop := sortKey left ≤ sortKey right

instance : DecidableRel eventOrder := fun left right => inferInstanceAs (Decidable (sortKey left ≤ sortKey right))

def sortEvents (events : List Event) : List Event := events.insertionSort eventOrder

def orderEvents (events : List Event) : Except CommitError (List Event) := .ok (sortEvents events)

/-! ## Validation -/

/-- The scan of a list: event ids and keys are new, and no key is below the one before it. -/
def validateFrom : List EventId → List (String ×ₗ U64) → Option (String ×ₗ U64) → List Event → Except CommitError Unit
  | _, _, _, [] => .ok ()
  | seenEventIds, seenKeys, previous, event :: rest => do
    let key := canonicalKey event
    rejectIf (event.eventId ∈ seenEventIds) (.duplicateEventId event.eventId.name)
    rejectIf (key ∈ seenKeys) (.duplicateCanonicalKey event.resourceId.name event.after.version.val)
    rejectIf (previous.any fun previousKey => key < previousKey)
      (.outOfOrder event.resourceId.name event.after.version.val)
    validateFrom (event.eventId :: seenEventIds) (key :: seenKeys) (some key) rest

def validateOrder (events : List Event) : Except CommitError Unit := validateFrom [] [] none events

/-! ## What is accepted -/

/-- A key that is new and not below the last one is above it, when the last one is the largest seen. -/
theorem fresh_iff_above (latest : ∀ key ∈ seenKeys, ∃ last ∈ previous, key ≤ last)
    (recorded : ∀ last ∈ previous, last ∈ seenKeys) (key : String ×ₗ U64) :
    (key ∉ seenKeys ∧ ¬ previous.any (fun previousKey => key < previousKey)) ↔ ∀ last ∈ previous, last < key := by
  constructor
  · rintro ⟨unseen, ordered⟩ last ⟨⟩
    have notBelow : ¬ key < last := by simpa using ordered
    exact lt_of_le_of_ne (not_lt.mp notBelow) fun same => unseen (same ▸ recorded last rfl)
  · intro above
    constructor
    · intro seen
      obtain ⟨last, present, below⟩ := latest key seen
      exact absurd (above last present) (not_lt.mpr below)
    · intro ordered
      cases previous with
      | none => cases ordered
      | some last =>
        have below : key < last := by simpa using ordered
        exact absurd (above last rfl) (not_lt.mpr below.le)

section

variable (latest : ∀ key ∈ seenKeys, ∃ last ∈ previous, key ≤ last)

include latest

theorem latest_cons {next : String ×ₗ U64} (above : ∀ last ∈ previous, last < next) :
    ∀ key ∈ next :: seenKeys, ∃ last ∈ some next, key ≤ last := by
  refine fun key seen => ⟨next, rfl, ?_⟩
  rcases List.mem_cons.mp seen with rfl | seen
  · exact le_refl _
  · obtain ⟨last, present, below⟩ := latest key seen
    exact below.trans (above last present).le

theorem validateFrom_eq_ok {seenEventIds : List EventId} (recorded : ∀ last ∈ previous, last ∈ seenKeys) :
    validateFrom seenEventIds seenKeys previous events = .ok () ↔
      ((events.map (·.eventId)).Nodup ∧ ∀ event ∈ events, event.eventId ∉ seenEventIds) ∧
      (events.map canonicalKey).Pairwise (· < ·) ∧
      ∀ event ∈ events, ∀ last ∈ previous, last < canonicalKey event := by
  induction events generalizing seenEventIds seenKeys previous with
  | nil => simp [validateFrom]
  | cons event rest ih =>
    have head : validateFrom seenEventIds seenKeys previous (event :: rest) = .ok () ↔
        event.eventId ∉ seenEventIds ∧ (∀ last ∈ previous, last < canonicalKey event) ∧
        validateFrom (event.eventId :: seenEventIds) (canonicalKey event :: seenKeys)
          (some (canonicalKey event)) rest = .ok () := by
      rw [← fresh_iff_above latest recorded, validateFrom]
      simp only [Except.bind_eq_ok, rejectIf_eq_ok, exists_const, and_assoc]
    rw [head, List.map_cons, List.map_cons, List.nodup_cons, List.pairwise_cons, List.forall_mem_cons,
      List.forall_mem_cons]
    constructor
    · rintro ⟨unseen, above, tail⟩
      rw [ih (latest_cons latest above) (by simp)] at tail
      obtain ⟨⟨ids, fresh⟩, keys, later⟩ := tail
      refine ⟨⟨⟨?_, ids⟩, unseen, ?_⟩, ⟨?_, keys⟩, above, ?_⟩
      · intro member
        obtain ⟨other, listed, same⟩ := List.mem_map.mp member
        exact fresh other listed (same ▸ List.mem_cons_self)
      · exact fun other listed seen => fresh other listed (List.mem_cons_of_mem _ seen)
      · intro key member
        obtain ⟨other, listed, rfl⟩ := List.mem_map.mp member
        exact later other listed _ rfl
      · exact fun other listed last present => (above last present).trans (later other listed _ rfl)
    · rintro ⟨⟨⟨absent, ids⟩, unseen, fresh⟩, ⟨least, keys⟩, above, later⟩
      refine ⟨unseen, above, (ih (latest_cons latest above) (by simp)).mpr ⟨⟨ids, ?_⟩, keys, ?_⟩⟩
      · intro other listed seen
        rcases List.mem_cons.mp seen with same | seen
        · exact absent (List.mem_map.mpr ⟨other, listed, same⟩)
        · exact fresh other listed seen
      · rintro other listed last ⟨⟩
        exact least _ (List.mem_map_of_mem listed)

end

/-- A list is accepted when its event ids are distinct and its keys strictly increase. -/
theorem validateOrder_eq_ok :
    validateOrder events = .ok () ↔ (events.map (·.eventId)).Nodup ∧ (events.map canonicalKey).Pairwise (· < ·) := by
  rw [validateOrder, validateFrom_eq_ok (by simp) (by simp)]
  simp

/-! ## Sorted events -/

theorem sortEvents_perm (events : List Event) : (sortEvents events).Perm events :=
  List.perm_insertionSort eventOrder events

theorem sortKeys_nodup (distinct : (events.map (·.eventId)).Nodup) : (events.map sortKey).Nodup := by
  rw [List.Nodup, List.pairwise_map] at distinct ⊢
  refine distinct.imp fun {left right} apart same => apart ?_
  have names : left.eventId.name = right.eventId.name := congrArg (fun key => (ofLex key).2) same
  exact congrArg EventId.mk names

theorem orderEvents_perm {events' : List Event} (distinct : (events.map (·.eventId)).Nodup)
    (rearranged : events.Perm events') : orderEvents events = orderEvents events' :=
  congrArg Except.ok (insertionSort_eq_of_perm sortKey eventOrder (fun _ _ => Iff.rfl) (sortKeys_nodup distinct)
    rearranged)

theorem sortEvents_sorted (events : List Event) : ((sortEvents events).map canonicalKey).Pairwise (· ≤ ·) := by
  have sorted := pairwise_map_insertionSort sortKey eventOrder (fun _ _ => Iff.rfl) events
  rw [List.pairwise_map] at sorted ⊢
  exact sorted.imp fun {left right} below => by
    rcases Prod.Lex.toLex_le_toLex.mp below with less | ⟨same, _⟩
    · exact le_of_lt less
    · exact le_of_eq same

/-- Sorting brings events into an accepted order exactly when their ids and their keys are distinct. -/
theorem validateOrder_sortEvents :
    validateOrder (sortEvents events) = .ok () ↔ (events.map (·.eventId)).Nodup ∧ (events.map canonicalKey).Nodup := by
  have ids := ((sortEvents_perm events).map (·.eventId)).nodup_iff
  have keys := ((sortEvents_perm events).map canonicalKey).nodup_iff
  rw [validateOrder_eq_ok, ids, ← keys]
  refine and_congr_right fun _ => ⟨fun increasing => increasing.imp ne_of_lt, fun distinct => ?_⟩
  exact (sortEvents_sorted events).imp₂ (fun _ _ below different => lt_of_le_of_ne below different) distinct

end StateChronicle.Commit
