import Mathlib.Data.List.Forall2
import Mathlib.Logic.Function.Basic

/-!
# Codes that end where they say

A code delimits its elements when a string that starts with the code of an element determines the element and the rest
of the string, up to a bound on the string.  `Cancels` speaks of one pair.
-/

namespace Foundation

variable {α β γ σ : Type} {bound : ℕ}

/-- Strings below the bound that start with the codes of `a` and `b` agree only if `a` is `b`, and then the
strings go on alike. -/
def Cancels (bound : ℕ) (encode : α → List σ) (a b : α) : Prop :=
  ∀ ⦃rest rest' : List σ⦄, (encode a ++ rest).length < bound → encode a ++ rest = encode b ++ rest' →
    a = b ∧ rest = rest'

/-- All codes cancel. -/
def Delimits (bound : ℕ) (encode : α → List σ) : Prop := ∀ a b, Cancels bound encode a b

variable {encode : α → List σ}

/-- One step through a string: the element is read and the rest is still below the bound. -/
theorem Cancels.read {a b : α} {rest rest' : List σ} (cancels : Cancels bound encode a b)
    (short : (encode a ++ rest).length < bound) (same : encode a ++ rest = encode b ++ rest') :
    a = b ∧ rest.length < bound ∧ rest = rest' := by
  obtain ⟨first, others⟩ := cancels short same
  rw [List.length_append] at short
  exact ⟨first, by omega, others⟩

theorem Delimits.read (delimits : Delimits bound encode) {a b : α} {rest rest' : List σ}
    (short : (encode a ++ rest).length < bound) (same : encode a ++ rest = encode b ++ rest') :
    a = b ∧ rest.length < bound ∧ rest = rest' :=
  (delimits a b).read short same

theorem Delimits.of_length (length : ℕ) (fixed : ∀ a, (encode a).length = length)
    (injective : Function.Injective encode) : Delimits bound encode := by
  intro a b rest rest' _ same
  obtain ⟨codes, others⟩ := List.append_inj same ((fixed a).trans (fixed b).symm)
  exact ⟨injective codes, others⟩

theorem Delimits.comp {f : β → α} (delimits : Delimits bound encode) (injective : Function.Injective f) :
    Delimits bound fun b => encode (f b) := by
  intro a b rest rest' short same
  obtain ⟨images, others⟩ := delimits (f a) (f b) short same
  exact ⟨injective images, others⟩

theorem cancels_flatMap {xs ys : List α} (aligned : List.Forall₂ (Cancels bound encode) xs ys) :
    ∀ ⦃rest rest' : List σ⦄, (xs.flatMap encode ++ rest).length < bound →
      xs.flatMap encode ++ rest = ys.flatMap encode ++ rest' → xs = ys ∧ rest = rest' := by
  induction aligned with
  | nil => exact fun rest rest' _ same => ⟨rfl, same⟩
  | cons first _ ih =>
    intro rest rest' short same
    simp only [List.flatMap_cons, List.append_assoc] at short same
    obtain ⟨rfl, short, same⟩ := first.read short same
    obtain ⟨rfl, others⟩ := ih short same
    exact ⟨rfl, others⟩

/-- Keyed entries: the keys delimit, and the values of a key that both lists have cancel. -/
theorem cancels_entries {key : β → List σ} {value : γ → List σ} (keys : Delimits bound key) {xs ys : List (β × γ)}
    (counted : xs.length = ys.length) (values : ∀ k v w, (k, v) ∈ xs → (k, w) ∈ ys → Cancels bound value v w) :
    ∀ ⦃rest rest' : List σ⦄, (xs.flatMap (fun entry => key entry.1 ++ value entry.2) ++ rest).length < bound →
      xs.flatMap (fun entry => key entry.1 ++ value entry.2) ++ rest =
        ys.flatMap (fun entry => key entry.1 ++ value entry.2) ++ rest' → xs = ys ∧ rest = rest' := by
  induction xs generalizing ys with
  | nil =>
    obtain rfl := List.length_eq_zero_iff.mp counted.symm
    exact fun rest rest' _ same => ⟨rfl, same⟩
  | cons entry xs ih =>
    obtain ⟨k, v⟩ := entry
    obtain ⟨⟨k', w⟩, ys, rfl⟩ := List.exists_cons_of_length_eq_add_one counted.symm
    intro rest rest' short same
    simp only [List.flatMap_cons, List.append_assoc] at short same
    obtain ⟨rfl, short, same⟩ := keys.read short same
    obtain ⟨rfl, short, same⟩ := (values k v w List.mem_cons_self List.mem_cons_self).read short same
    obtain ⟨rfl, others⟩ := ih (Nat.succ.inj counted)
      (fun k v w inXs inYs => values k v w (List.mem_cons_of_mem _ inXs) (List.mem_cons_of_mem _ inYs)) short same
    exact ⟨rfl, others⟩

end Foundation
