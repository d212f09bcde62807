import Mathlib.Data.List.Basic
import Mathlib.Data.UInt

/-!
# Little-endian numbers

A number in a fixed count of bytes, the lowest first, and the number that bytes stand for.
-/

namespace Foundation.LittleEndian

def encode : ℕ → ℕ → List UInt8
  | 0, _ => []
  | count + 1, n => .ofNat (n % 256) :: encode count (n / 256)

def value : List UInt8 → ℕ
  | [] => 0
  | byte :: rest => byte.toNat + 256 * value rest

@[simp] theorem length_encode (count n : ℕ) : (encode count n).length = count := by
  induction count generalizing n with
  | zero => rfl
  | succ count ih => rw [encode, List.length_cons, ih]

theorem encode_eq_map (count n : ℕ) : encode count n = (List.range count).map fun i => .ofNat (n >>> (8 * i)) := by
  induction count generalizing n with
  | zero => rfl
  | succ count ih =>
    rw [encode, ih, List.range_succ_eq_map, List.map_cons, List.map_map]
    congr 1
    · rw [Nat.mul_zero, Nat.shiftRight_zero]
      exact UInt8.toNat_inj.mp (by simp)
    · refine List.map_congr_left fun i _ => ?_
      have byte : n >>> 8 = n / 256 := Nat.shiftRight_eq_div_pow n 8
      rw [Function.comp_apply, Nat.mul_succ, Nat.add_comm, Nat.shiftRight_add, byte]

theorem value_lt (bytes : List UInt8) : value bytes < 256 ^ bytes.length := by
  induction bytes with
  | nil => exact Nat.one_pos
  | cons byte rest ih =>
    have small := byte.toNat_lt
    rw [value, List.length_cons, Nat.pow_succ]
    omega

theorem value_encode {count n : ℕ} (small : n < 256 ^ count) : value (encode count n) = n := by
  induction count generalizing n with
  | zero =>
    rw [Nat.pow_zero] at small
    exact (Nat.lt_one_iff.mp small).symm
  | succ count ih =>
    rw [Nat.pow_succ] at small
    have low : (UInt8.ofNat (n % 256)).toNat = n % 256 := UInt8.toNat_ofNat_of_lt' (Nat.mod_lt _ (by decide))
    rw [encode, value, ih (by omega), low]
    omega

theorem encode_value (bytes : List UInt8) : encode bytes.length (value bytes) = bytes := by
  induction bytes with
  | nil => rfl
  | cons byte rest ih =>
    have small := byte.toNat_lt
    have low : (byte.toNat + 256 * value rest) % 256 = byte.toNat := by omega
    have high : (byte.toNat + 256 * value rest) / 256 = value rest := by omega
    rw [value, List.length_cons, encode, low, high, ih, UInt8.ofNat_toNat]

end Foundation.LittleEndian
