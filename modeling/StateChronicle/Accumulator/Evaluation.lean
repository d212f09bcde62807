import StateChronicle.Accumulator.Authentication
import StateChronicle.Foundation.Sha256

/-!
# Evaluating trees under SHA-256

Hashes as numbers: a node's number is computed from those of its children, so that whole paths are
evaluated on numerals.
-/

namespace StateChronicle.Accumulator

open Foundation Sha256

def Hash.number (hash : Hash) : ℕ := Sha256.number hash.toList

def nodeNumber (left right : ℕ) : ℕ :=
  (hashNumber 65 (Nat.add (Nat.mul (Nat.add (Nat.mul 0x10 (Nat.pow 2 256)) left) (Nat.pow 2 256)) right)).value

theorem Hash.number_injective : Function.Injective Hash.number := by
  intro hash hash' same
  exact Vector.toList_inj.mp (eq_of_number_eq (by simp) same)

theorem number_internalHash (left right : Hash) :
    (internalHash sha256 left right).number = nodeNumber left.number right.number := by
  have length : (internalPreimage left right).length = 65 := by simp [internalPreimage]
  have preimage : Sha256.number (internalPreimage left right) =
      (0x10 * 2 ^ 256 + left.number) * 2 ^ 256 + right.number := by
    have tagged : internalPreimage left right = [internalNodeTag] ++ left.toList ++ right.toList := rfl
    rw [tagged, number_append, number_append, Vector.length_toList, Vector.length_toList,
      show 256 ^ 32 = 2 ^ 256 by norm_num]
    rfl
  rw [Hash.number, internalHash, number_sha256, length, preimage]
  rfl

/-! ## Hashes of numbers -/

theorem number_bigEndian (n count : ℕ) :
    Sha256.number ((List.range count).map fun i => UInt8.ofNat (n / 256 ^ (count - 1 - i))) = n % 256 ^ count := by
  induction count with
  | zero => simp [Sha256.number, Nat.mod_one]
  | succ count ih =>
    have later : (fun i => UInt8.ofNat (n / 256 ^ (count + 1 - 1 - i))) ∘ Nat.succ =
        fun i => UInt8.ofNat (n / 256 ^ (count - 1 - i)) := by
      funext i
      rw [Function.comp_apply, show count + 1 - 1 - i.succ = count - 1 - i by omega]
    have first : Sha256.number [UInt8.ofNat (n / 256 ^ count)] = n / 256 ^ count % 256 := by
      simp [Sha256.number]
    rw [List.range_succ_eq_map, List.map_cons, List.map_map, later, ← List.singleton_append, number_append,
      ih, List.length_map, List.length_range, Nat.add_sub_cancel, Nat.sub_zero, first,
      Nat.pow_succ, Nat.mod_mul]
    ring

theorem number_hashOfNumber {n : ℕ} (small : n < 2 ^ 256) : (hashOfNumber n).number = n := by
  have bytes : (hashOfNumber n).toList = (List.range 32).map fun i => UInt8.ofNat (n / 256 ^ (32 - 1 - i)) := by
    have shift : ∀ places, Nat.shiftRight n (Nat.mul 8 places) = n / 256 ^ places := by
      intro places
      rw [show (256 : ℕ) = 2 ^ 8 by norm_num, ← Nat.pow_mul]
      exact Nat.shiftRight_eq_div_pow n _
    simp only [hashOfNumber, shift]
    rfl
  rw [Hash.number, bytes, number_bigEndian, show 256 ^ 32 = 2 ^ 256 by norm_num, Nat.mod_eq_of_lt small]

section Climb

variable (join : ℕ → ℕ → ℕ) (side : ℕ → Bool) (sibling : ℕ → ℕ)

/-- The numbers passed on a climb that has reached a level, over the levels that remain. -/
def climbNumbers : (remaining level value : ℕ) → List ℕ
  | 0, _, value => [value]
  | remaining + 1, level, value =>
    value :: forced (Function.uncurry join (HashPath.paired (side level) (sibling level) value))
      (climbNumbers remaining (level + 1))

theorem climbNumbers_eq (start remaining level : ℕ) :
    climbNumbers join side sibling remaining level (HashPath.climb join side sibling start level) =
      (List.range' level (remaining + 1)).map (HashPath.climb join side sibling start) := by
  induction remaining generalizing level with
  | zero => rfl
  | succ remaining ih =>
    rw [climbNumbers, forced_eq, List.range'_succ, List.map_cons, ← ih]
    rfl

end Climb

theorem numbers_pathStrings (key : StateKey) (sibling : ℕ → Hash) (leaf : List UInt8) :
    ((pathStrings sha256 key sibling leaf).map sha256).map Hash.number =
      climbNumbers nodeNumber (routingBit key) (fun level => (sibling level).number) treeDepth 0
        (Hash.number (sha256 leaf)) := by
  have climbed : ∀ level,
      Hash.number (HashPath.climb (internalHash sha256) (routingBit key) sibling (sha256 leaf) level) =
        HashPath.climb nodeNumber (routingBit key) (fun level => (sibling level).number)
          (Hash.number (sha256 leaf)) level :=
    HashPath.map_climb Hash.number number_internalHash
  have hashed : (pathStrings sha256 key sibling leaf).map sha256 = (List.range (treeDepth + 1)).map
      (HashPath.climb (internalHash sha256) (routingBit key) sibling (sha256 leaf)) := by
    rw [pathStrings, List.map_cons, HashPath.joins, List.map_map, List.map_map, List.range_succ_eq_map,
      List.map_cons, List.map_map]
    rfl
  have passed := climbNumbers_eq nodeNumber (routingBit key) (fun level => (sibling level).number)
    (Hash.number (sha256 leaf)) treeDepth 0
  rw [HashPath.climb, ← List.range_eq_range'] at passed
  rw [passed, hashed, List.map_map]
  exact List.map_congr_left fun level _ => climbed level

theorem collisionFree_of_nodup {strings : List (List UInt8)}
    (distinct : ((strings.map sha256).map Hash.number).Nodup) : CollisionFree sha256 strings :=
  fun _ inA _ inB same => List.inj_on_of_nodup_map distinct.of_map inA inB same

/-! ## Distinct numbers -/

/-- No two numbers have the same residue; the bits of `seen` tell the residues met so far. -/
def distinctResidues (modulus : ℕ) : (seen : ℕ) → List ℕ → Bool
  | _, [] => true
  | seen, number :: rest =>
    forced (Nat.mod number modulus) fun residue =>
      Nat.beq (Nat.land (Nat.shiftRight seen residue) 1) 0 &&
        forced (Nat.lor seen (Nat.shiftLeft 1 residue)) fun seen => distinctResidues modulus seen rest

theorem nodup_of_distinctResidues {modulus : ℕ} {numbers : List ℕ} {seen : ℕ}
    (distinct : distinctResidues modulus seen numbers) :
    numbers.Nodup ∧ ∀ number ∈ numbers, seen.testBit (number % modulus) = false := by
  induction numbers generalizing seen with
  | nil => exact ⟨.nil, List.forall_mem_nil _⟩
  | cons number rest ih =>
    simp only [distinctResidues, forced_eq, Bool.and_eq_true] at distinct
    obtain ⟨fresh, others⟩ := distinct
    obtain ⟨nodup, apart⟩ := ih others
    have own : seen.testBit (number % modulus) = false := by
      have low : (seen >>> (number % modulus)) &&& 1 = 0 := Nat.eq_of_beq_eq_true fresh
      rw [Nat.testBit_eq_decide_div_mod_eq, ← Nat.shiftRight_eq_div_pow]
      rw [Nat.and_one_is_mod] at low
      simp [low]
    have marked : ∀ other ∈ rest, other % modulus ≠ number % modulus ∧ seen.testBit (other % modulus) = false := by
      intro other member
      have clear : (seen ||| 1 <<< (number % modulus)).testBit (other % modulus) = false := apart other member
      rw [Nat.testBit_or, Bool.or_eq_false_iff, Nat.one_shiftLeft, Nat.testBit_two_pow] at clear
      exact ⟨fun same => of_decide_eq_false clear.2 same.symm, clear.1⟩
    refine ⟨List.nodup_cons.mpr ⟨fun member => (marked number member).1 rfl, nodup⟩, ?_⟩
    exact List.forall_mem_cons.mpr ⟨own, fun other member => (marked other member).2⟩

end StateChronicle.Accumulator
