import StateChronicle.Foundation.Outcome

/-!
# Codes with exact readers

A reader is told the kind of the element to read and takes its code from the front of a string.  It is exact when it
reads back every code and accepts nothing else.  Exactness carries over to sequences.
-/

namespace Foundation

variable {ε κ α σ : Type}

/-- The reader returns elements exactly from their codes. -/
structure ExactReader (kind : α → κ) (Valid : α → Prop) (encode : α → List σ) (read : κ → EStateM ε (List σ) α) :
    Prop where
  complete : ∀ a rest, Valid a → read (kind a) (encode a ++ rest) = .ok a rest
  sound : ∀ k input a rest, read k input = .ok a rest → kind a = k ∧ Valid a ∧ input = encode a ++ rest

def readAll (read : κ → EStateM ε (List σ) α) : List κ → EStateM ε (List σ) (List α)
  | [] => pure []
  | kind :: kinds => do
    let first ← read kind
    let others ← readAll read kinds
    return first :: others

variable {kind : α → κ} {Valid : α → Prop} {encode : α → List σ} {read : κ → EStateM ε (List σ) α}

variable (exact : ExactReader kind Valid encode read) {xs : List α}

include exact

theorem ExactReader.readAll_complete (valid : ∀ x ∈ xs, Valid x) (rest : List σ) :
    readAll read (xs.map kind) (xs.flatMap encode ++ rest) = .ok xs rest := by
  induction xs with
  | nil => rfl
  | cons x xs ih =>
    obtain ⟨first, others⟩ := List.forall_mem_cons.mp valid
    rw [List.map_cons, List.flatMap_cons, List.append_assoc, readAll,
      EStateM.bind_apply_of_ok (exact.complete x _ first), EStateM.bind_apply_of_ok (ih others)]
    rfl

theorem ExactReader.readAll_sound {kinds : List κ} {input rest : List σ}
    (returns : readAll read kinds input = .ok xs rest) :
    xs.map kind = kinds ∧ (∀ x ∈ xs, Valid x) ∧ input = xs.flatMap encode ++ rest := by
  induction kinds generalizing input xs with
  | nil =>
    cases returns
    exact ⟨rfl, by simp, rfl⟩
  | cons k kinds ih =>
    obtain ⟨x, middle, first, others⟩ := EStateM.bind_eq_ok.mp returns
    obtain ⟨xs', last, later, together⟩ := EStateM.bind_eq_ok.mp others
    cases together
    obtain ⟨rfl, valid, rfl⟩ := exact.sound k input x middle first
    obtain ⟨rfl, validOthers, rfl⟩ := ih later
    refine ⟨rfl, List.forall_mem_cons.mpr ⟨valid, validOthers⟩, ?_⟩
    rw [List.flatMap_cons, List.append_assoc]

end Foundation
