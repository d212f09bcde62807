import Mathlib.Data.List.Lex
import Mathlib.Data.Nat.Bitwise

/-!
# Big-endian bits

The bits of a string of bytes, counted from the highest bit of the first byte.  They determine the string, and two
strings of one length are in lexicographic order as the first bits are in which they differ.
-/

namespace Foundation.BigEndian

/-- The bit at a position, counted from the highest bit of the first byte. -/
def bit (bytes : List ℕ) (position : ℕ) : Bool :=
  match bytes[position / 8]? with
  | some byte => byte.testBit (7 - position % 8)
  | none => false

variable {byte other : ℕ} {bytes others : List ℕ} {position : ℕ}

theorem bit_cons (first : position < 8) : bit (byte :: bytes) position = byte.testBit (7 - position) := by
  rw [bit, Nat.div_eq_of_lt first, Nat.mod_eq_of_lt first]
  rfl

theorem bit_cons_add (position : ℕ) : bit (byte :: bytes) (position + 8) = bit bytes position := by
  rw [bit, bit, Nat.add_div_right _ (by decide), Nat.add_mod_right, List.getElem?_cons_succ]

section FirstByte

variable (small : byte < 2 ^ 8) (small' : other < 2 ^ 8)

include small small'

/-- In strings that agree up to a position, the first bytes have the same highest bits. -/
theorem testBit_eq_of_agree (agree : ∀ earlier < position, bit (byte :: bytes) earlier = bit (other :: others) earlier)
    {place : ℕ} (high : 8 ≤ place + position) : byte.testBit place = other.testBit place := by
  by_cases inside : place < 8
  · have earlier := agree (7 - place) (by omega)
    rw [bit_cons (by omega), bit_cons (by omega), Nat.sub_sub_self (by omega)] at earlier
    exact earlier
  · have far : 2 ^ 8 ≤ 2 ^ place := Nat.pow_le_pow_right Nat.two_pos (Nat.le_of_not_lt inside)
    rw [Nat.testBit_lt_two_pow (small.trans_le far), Nat.testBit_lt_two_pow (small'.trans_le far)]

theorem byte_eq_of_agree (agree : ∀ earlier < 8, bit (byte :: bytes) earlier = bit (other :: others) earlier) :
    byte = other :=
  Nat.eq_of_testBit_eq fun place => testBit_eq_of_agree small small' agree (Nat.le_add_left 8 place)

end FirstByte

variable (sameLength : bytes.length = others.length) (small : ∀ byte ∈ bytes, byte < 2 ^ 8)
  (small' : ∀ byte ∈ others, byte < 2 ^ 8)

include sameLength small small'

/-- Where two strings in order have agreed so far, the later one has the higher bit. -/
theorem bit_le_of_lt (below : bytes < others) (inside : position < 8 * bytes.length)
    (agree : ∀ earlier < position, bit bytes earlier = bit others earlier) (high : bit bytes position) :
    bit others position := by
  induction bytes generalizing others position with
  | nil => exact absurd inside (Nat.not_lt_zero _)
  | cons byte rest ih =>
    cases others with
    | nil => cases sameLength
    | cons other more =>
      obtain ⟨own, smallRest⟩ := List.forall_mem_cons.mp small
      obtain ⟨own', smallMore⟩ := List.forall_mem_cons.mp small'
      by_cases first : position < 8
      · -- Were the bit lower, so would be the byte.
        rw [bit_cons first] at high ⊢
        by_contra low
        have lower : other < byte := Nat.lt_of_testBit (7 - position) (Bool.eq_false_iff.mpr low) high
          fun place above => (testBit_eq_of_agree own own' agree (by omega)).symm
        rcases List.cons_lt_cons_iff.mp below with less | ⟨rfl, -⟩
        · exact absurd less (Nat.lt_asymm lower)
        · exact absurd lower (lt_irrefl _)
      · obtain ⟨later, rfl⟩ := Nat.exists_eq_add_of_le' (Nat.le_of_not_lt first)
        obtain rfl : byte = other := byte_eq_of_agree own own' fun earlier before => agree earlier (by omega)
        have restBelow := (List.cons_lt_cons_iff.mp below).resolve_left (lt_irrefl _)
        rw [bit_cons_add] at high ⊢
        rw [List.length_cons] at inside
        refine ih (Nat.succ.inj sameLength) smallRest smallMore restBelow.2 (by omega) (fun earlier before => ?_) high
        simpa only [bit_cons_add] using agree (earlier + 8) (by omega)

theorem eq_of_bit_eq (agree : ∀ position < 8 * bytes.length, bit bytes position = bit others position) :
    bytes = others := by
  induction bytes generalizing others with
  | nil => exact (List.length_eq_zero_iff.mp sameLength.symm).symm
  | cons byte rest ih =>
    cases others with
    | nil => cases sameLength
    | cons other more =>
      obtain ⟨own, smallRest⟩ := List.forall_mem_cons.mp small
      obtain ⟨own', smallMore⟩ := List.forall_mem_cons.mp small'
      rw [List.length_cons] at agree
      obtain rfl : byte = other := byte_eq_of_agree own own' fun earlier before => agree earlier (by omega)
      refine congrArg (List.cons byte) (ih (Nat.succ.inj sameLength) smallRest smallMore fun position inside => ?_)
      simpa only [bit_cons_add] using agree (position + 8) (by omega)

end Foundation.BigEndian
