import Mathlib.Data.List.Basic

/-!
# Sections of a list

Elements that open a section cut a list into what stands before the first of them and the sections they open.
-/

namespace Foundation.Sections

variable {α : Type} (opens : α → Bool)

def push (x : α) (cut : List α × List (List α)) : List α × List (List α) :=
  if opens x then ([], (x :: cut.1) :: cut.2) else (x :: cut.1, cut.2)

/-- What stands before the first section, and the sections. -/
def cut (xs : List α) : List α × List (List α) := xs.foldr (push opens) ([], [])

/-- A section: its first element opens it, and no other opens one. -/
def IsSection (xs : List α) : Prop :=
  ∃ first rest, xs = first :: rest ∧ opens first = true ∧ ∀ x ∈ rest, opens x = false

variable {opens}

theorem foldr_push_closed {xs : List α} (closed : ∀ x ∈ xs, opens x = false) (cut : List α × List (List α)) :
    xs.foldr (push opens) cut = (xs ++ cut.1, cut.2) := by
  induction xs with
  | nil => rfl
  | cons x rest ih =>
    obtain ⟨own, others⟩ := List.forall_mem_cons.mp closed
    rw [List.foldr_cons, ih others, push, own]
    rfl

/-- Sections put together are found again. -/
theorem cut_flatten {sections : List (List α)} (all : ∀ xs ∈ sections, IsSection opens xs) :
    cut opens sections.flatten = ([], sections) := by
  induction sections with
  | nil => rfl
  | cons xs rest ih =>
    obtain ⟨own, others⟩ := List.forall_mem_cons.mp all
    obtain ⟨first, following, rfl, opening, closed⟩ := own
    have later := ih others
    unfold cut at later ⊢
    rw [List.flatten_cons, List.foldr_append, later, List.foldr_cons, foldr_push_closed closed, push, opening]
    simp

end Foundation.Sections
