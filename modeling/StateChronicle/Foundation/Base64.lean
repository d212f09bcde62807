import Mathlib.Data.List.Basic

/-!
# Base64

The URL-safe alphabet without padding: three bytes make four symbols, and a shorter last group makes
as many symbols as its bits need.
-/

namespace Foundation.Base64

def alphabet : List Char :=
  ['A', 'B', 'C', 'D', 'E', 'F', 'G', 'H', 'I', 'J', 'K', 'L', 'M', 'N', 'O', 'P', 'Q', 'R', 'S', 'T', 'U',
    'V', 'W', 'X', 'Y', 'Z', 'a', 'b', 'c', 'd', 'e', 'f', 'g', 'h', 'i', 'j', 'k', 'l', 'm', 'n', 'o', 'p',
    'q', 'r', 's', 't', 'u', 'v', 'w', 'x', 'y', 'z', '0', '1', '2', '3', '4', '5', '6', '7', '8', '9', '-',
    '_']

def symbol (bits : ℕ) : Char := alphabet[bits % 64]?.getD 'A'

def encode : List UInt8 → List Char
  | a :: b :: c :: rest =>
    let group := a.toNat * 65536 + b.toNat * 256 + c.toNat
    symbol (group / 262144) :: symbol (group / 4096) :: symbol (group / 64) :: symbol group :: encode rest
  | [a, b] =>
    let group := a.toNat * 1024 + b.toNat * 4
    [symbol (group / 4096), symbol (group / 64), symbol group]
  | [a] => [symbol (a.toNat / 4), symbol (a.toNat * 16)]
  | [] => []

theorem symbol_inj {bits bits' : ℕ} (same : symbol bits = symbol bits') : bits % 64 = bits' % 64 := by
  have distinct : ∀ i < 64, ∀ j < 64, alphabet[i]?.getD 'A' = alphabet[j]?.getD 'A' → i = j := by
    decide +kernel
  exact distinct _ (Nat.mod_lt _ (by decide)) _ (Nat.mod_lt _ (by decide)) same

theorem length_encode_le : ∀ bytes : List UInt8, (encode bytes).length ≤ 2 * bytes.length
  | a :: b :: c :: rest => by
    have shorter := length_encode_le rest
    simp only [encode, List.length_cons]
    omega
  | [_, _] | [_] | [] => by simp [encode]

theorem encode_inj : ∀ {xs ys : List UInt8}, encode xs = encode ys → xs = ys
  | a :: b :: c :: rest, a' :: b' :: c' :: rest', same => by
    simp only [encode, List.cons.injEq] at same
    obtain ⟨first, second, third, fourth, others⟩ := same
    have := a.toNat_lt
    have := b.toNat_lt
    have := c.toNat_lt
    have := a'.toNat_lt
    have := b'.toNat_lt
    have := c'.toNat_lt
    have := symbol_inj first
    have := symbol_inj second
    have := symbol_inj third
    have := symbol_inj fourth
    obtain rfl : a = a' := UInt8.toNat_inj.mp (by omega)
    obtain rfl : b = b' := UInt8.toNat_inj.mp (by omega)
    obtain rfl : c = c' := UInt8.toNat_inj.mp (by omega)
    rw [encode_inj others]
  | [a, b], [a', b'], same => by
    simp only [encode, List.cons.injEq] at same
    obtain ⟨first, second, third, _⟩ := same
    have := a.toNat_lt
    have := b.toNat_lt
    have := a'.toNat_lt
    have := b'.toNat_lt
    have := symbol_inj first
    have := symbol_inj second
    have := symbol_inj third
    obtain rfl : a = a' := UInt8.toNat_inj.mp (by omega)
    obtain rfl : b = b' := UInt8.toNat_inj.mp (by omega)
    rfl
  | [a], [a'], same => by
    simp only [encode, List.cons.injEq] at same
    have := a.toNat_lt
    have := a'.toNat_lt
    have := symbol_inj same.1
    have := symbol_inj same.2.1
    obtain rfl : a = a' := UInt8.toNat_inj.mp (by omega)
    rfl
  | [], [], _ => rfl
  -- Groups of different sizes make different numbers of symbols.
  | _ :: _ :: _ :: _, [_, _], same | _ :: _ :: _ :: _, [_], same | _ :: _ :: _ :: _, [], same
  | [_, _], _ :: _ :: _ :: _, same | [_, _], [_], same | [_, _], [], same | [_], _ :: _ :: _ :: _, same
  | [_], [_, _], same | [_], [], same | [], _ :: _ :: _ :: _, same | [], [_, _], same | [], [_], same =>
    by simp [encode] at same

end Foundation.Base64
