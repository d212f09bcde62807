import Mathlib.Data.List.Induction
import Mathlib.Data.Nat.Basic
import Mathlib.Tactic.Ring

/-!
# SHA-256

An executable SHA-256 over bytes.  Words are numbers below `2 ^ 32` and blocks numbers of 512 bits.  The definitions
use the operations on numerals directly and compute each word before it is passed on, so that a digest can be evaluated
inside a proof.
-/

namespace Foundation.Sha256

def roundConstants : List Nat := [
  0x428a2f98, 0x71374491, 0xb5c0fbcf, 0xe9b5dba5, 0x3956c25b, 0x59f111f1, 0x923f82a4, 0xab1c5ed5,
  0xd807aa98, 0x12835b01, 0x243185be, 0x550c7dc3, 0x72be5d74, 0x80deb1fe, 0x9bdc06a7, 0xc19bf174,
  0xe49b69c1, 0xefbe4786, 0x0fc19dc6, 0x240ca1cc, 0x2de92c6f, 0x4a7484aa, 0x5cb0a9dc, 0x76f988da,
  0x983e5152, 0xa831c66d, 0xb00327c8, 0xbf597fc7, 0xc6e00bf3, 0xd5a79147, 0x06ca6351, 0x14292967,
  0x27b70a85, 0x2e1b2138, 0x4d2c6dfc, 0x53380d13, 0x650a7354, 0x766a0abb, 0x81c2c92e, 0x92722c85,
  0xa2bfe8a1, 0xa81a664b, 0xc24b8b70, 0xc76c51a3, 0xd192e819, 0xd6990624, 0xf40e3585, 0x106aa070,
  0x19a4c116, 0x1e376c08, 0x2748774c, 0x34b0bcb5, 0x391c0cb3, 0x4ed8aa4a, 0x5b9cca4f, 0x682e6ff3,
  0x748f82ee, 0x78a5636f, 0x84c87814, 0x8cc70208, 0x90befffa, 0xa4506ceb, 0xbef9a3f7, 0xc67178f2]

structure State where
  a : Nat
  b : Nat
  c : Nat
  d : Nat
  e : Nat
  f : Nat
  g : Nat
  h : Nat

def initial : State := ⟨0x6a09e667, 0xbb67ae85, 0x3c6ef372, 0xa54ff53a, 0x510e527f, 0x9b05688c, 0x1f83d9ab, 0x5be0cd19⟩

variable {α : Type} (n : Nat)

/-- Passes on a number that has been computed. -/
def forced (next : Nat → α) : α := Nat.casesOn (motive := fun _ => α) n (next 0) fun m => next (Nat.succ m)

/-- The low word of a number. -/
def low : Nat := Nat.mod n 0x100000000

def rotations (x i j k : Nat) : Nat :=
  have doubled := Nat.mul x 0x100000001
  low (Nat.xor (Nat.shiftRight doubled i) (Nat.xor (Nat.shiftRight doubled j) (Nat.shiftRight doubled k)))

def rotationsShift (x i j k : Nat) : Nat :=
  have doubled := Nat.mul x 0x100000001
  Nat.xor (low (Nat.xor (Nat.shiftRight doubled i) (Nat.shiftRight doubled j))) (Nat.shiftRight x k)

/-- The rounds.  The window holds the next sixteen words of the message schedule, the first one in
its highest bits. -/
def rounds : List Nat → (window a b c d e f g h : Nat) → State
  | [], _, a, b, c, d, e, f, g, h => ⟨a, b, c, d, e, f, g, h⟩
  | constant :: constants, window, a, b, c, d, e, f, g, h =>
    forced (Nat.shiftRight window 480) fun w₀ =>
    have next := low (Nat.add (Nat.add w₀ (rotationsShift (low (Nat.shiftRight window 448)) 7 18 3))
      (Nat.add (low (Nat.shiftRight window 192)) (rotationsShift (low (Nat.shiftRight window 32)) 17 19 10)))
    have t := Nat.add (Nat.add h (rotations e 6 11 25))
      (Nat.add (Nat.xor g (Nat.land e (Nat.xor f g))) (Nat.add constant w₀))
    forced (Nat.add (Nat.shiftLeft (Nat.mod window (Nat.pow 2 480)) 32) next) fun window' =>
    forced (low (Nat.add t (Nat.add (rotations a 2 13 22)
      (Nat.lor (Nat.land a b) (Nat.land c (Nat.lor a b)))))) fun a' =>
    forced (low (Nat.add d t)) fun e' =>
    rounds constants window' a' a b c e' e f g

def State.add (s t : State) : State :=
  match s, t with
  | ⟨a, b, c, d, e, f, g, h⟩, ⟨a', b', c', d', e', f', g', h'⟩ =>
    forced (low (Nat.add a a')) fun a =>
    forced (low (Nat.add b b')) fun b =>
    forced (low (Nat.add c c')) fun c =>
    forced (low (Nat.add d d')) fun d =>
    forced (low (Nat.add e e')) fun e =>
    forced (low (Nat.add f f')) fun f =>
    forced (low (Nat.add g g')) fun g =>
    forced (low (Nat.add h h')) fun h =>
    ⟨a, b, c, d, e, f, g, h⟩

def compress (state : State) (block : Nat) : State :=
  match state with
  | ⟨a, b, c, d, e, f, g, h⟩ =>
    State.add ⟨a, b, c, d, e, f, g, h⟩ (rounds roundConstants block a b c d e f g h)

/-- Compresses the lowest `count` blocks of a number, the highest of them first. -/
def absorb : (count message : Nat) → State → State
  | 0, _, state => state
  | count + 1, message, state =>
    absorb count message
      (compress state (Nat.mod (Nat.shiftRight message (Nat.mul 512 count)) (Nat.pow 2 512)))

variable (message : List UInt8)

def number : Nat := message.foldl (fun n byte => Nat.add (Nat.mul n 256) byte.toNat) 0

/-- The words after a message given as its length and its number.  The message is followed by a one
bit, by zeros up to the last eight bytes of a block, and by its length in bits. -/
def hashNumber (length message : Nat) : State :=
  forced (Nat.mod (Nat.sub 119 (Nat.mod length 64)) 64) fun zeros =>
  forced (Nat.add (Nat.shiftLeft (Nat.add (Nat.mul message 256) 0x80)
    (Nat.mul 8 (Nat.add zeros 8))) (Nat.mod (Nat.mul length 8) 0x10000000000000000)) fun padded =>
  absorb (Nat.div (Nat.add length (Nat.add zeros 9)) 64) padded initial

def hash : State := forced message.length fun length => hashNumber length (number message)

def bytesOf (word : Nat) : List UInt8 :=
  [.ofNat (Nat.shiftRight word 24), .ofNat (Nat.shiftRight word 16), .ofNat (Nat.shiftRight word 8), .ofNat word]

def State.words : State → List Nat
  | ⟨a, b, c, d, e, f, g, h⟩ => [a, b, c, d, e, f, g, h]

def State.digest : State → Vector UInt8 32
  | ⟨a, b, c, d, e, f, g, h⟩ =>
    ⟨([a, b, c, d, e, f, g, h].flatMap bytesOf).toArray, by simp [bytesOf]⟩

@[irreducible] def sha256 : Vector UInt8 32 := (hash message).digest

/-! ## Digests as numbers -/

/-- The words as one number, the first one highest. -/
def State.value : State → Nat
  | ⟨a, b, c, d, e, f, g, h⟩ =>
    List.foldl (fun n word => Nat.add (Nat.mul n 0x100000000) word) 0 [a, b, c, d, e, f, g, h]

@[simp] theorem forced_eq {α : Type} (next : Nat → α) : forced n next = next n := by
  cases n <;> rfl

theorem low_lt : low n < 2 ^ 32 := Nat.mod_lt _ (by decide)

theorem number_concat (bytes : List UInt8) (last : UInt8) :
    number (bytes ++ [last]) = number bytes * 256 + last.toNat := by
  rw [number, List.foldl_append]
  rfl

theorem number_append (xs ys : List UInt8) : number (xs ++ ys) = number xs * 256 ^ ys.length + number ys := by
  induction ys using List.reverseRecOn with
  | nil => simp [number]
  | append_singleton ys last ih =>
    rw [← List.append_assoc, number_concat, number_concat, ih, List.length_append, List.length_singleton, Nat.pow_succ]
    ring

theorem eq_of_number_eq {xs ys : List UInt8} (sameLength : xs.length = ys.length)
    (same : number xs = number ys) : xs = ys := by
  induction xs using List.reverseRecOn generalizing ys with
  | nil => exact (List.length_eq_zero_iff.mp sameLength.symm).symm
  | append_singleton xs x ih =>
    cases ys using List.reverseRecOn with
    | nil => simp at sameLength
    | append_singleton ys y =>
      rw [number_concat, number_concat] at same
      have small := x.toNat_lt
      have small' := y.toNat_lt
      obtain rfl : x = y := UInt8.toNat_inj.mp (by omega)
      rw [ih (by simpa using sameLength) (by omega)]

theorem number_bytesOf {word : Nat} (small : word < 2 ^ 32) : number (bytesOf word) = word := by
  have shift : ∀ places, Nat.shiftRight word places = word / 2 ^ places :=
    fun places => Nat.shiftRight_eq_div_pow word places
  simp only [number, bytesOf, List.foldl_cons, List.foldl_nil, UInt8.toNat_ofNat', Nat.add_eq, Nat.mul_eq, shift]
  omega

theorem number_flatMap_bytesOf {words : List Nat} (small : ∀ word ∈ words, word < 2 ^ 32) :
    number (words.flatMap bytesOf) = words.foldl (fun n word => Nat.add (Nat.mul n 0x100000000) word) 0 := by
  induction words using List.reverseRecOn with
  | nil => rfl
  | append_singleton words last ih =>
    rw [List.flatMap_append, number_append, List.foldl_append,
      ih fun word member => small word (List.mem_append_left _ member),
      List.flatMap_singleton, number_bytesOf (small last (by simp)), show (bytesOf last).length = 4 from rfl,
      List.foldl_cons, List.foldl_nil, Nat.add_eq, Nat.mul_eq, show 256 ^ 4 = 0x100000000 by norm_num]

/-- Every word is a number of 32 bits. -/
def State.Bounded (state : State) : Prop := ∀ word ∈ state.words, word < 2 ^ 32

theorem number_digest {state : State} (bounded : state.Bounded) : number state.digest.toList = state.value :=
  number_flatMap_bytesOf bounded

theorem State.add_bounded (s t : State) : (s.add t).Bounded := by
  simp only [State.Bounded, State.words, State.add, forced_eq, List.forall_mem_cons, low_lt, true_and]
  exact List.forall_mem_nil _

theorem absorb_bounded (count message : Nat) {state : State} (bounded : state.Bounded) :
    (absorb count message state).Bounded := by
  induction count generalizing state with
  | zero => exact bounded
  | succ count ih => exact ih (State.add_bounded _ _)

theorem hashNumber_bounded (length message : Nat) : (hashNumber length message).Bounded := by
  rw [hashNumber, forced_eq, forced_eq]
  exact absorb_bounded _ _ (by unfold State.Bounded; decide)

/-- The digest of a string depends on its length and number, and is computed on numbers. -/
theorem number_sha256 : number (sha256 message).toList = (hashNumber message.length (number message)).value := by
  rw [sha256, hash, forced_eq]
  exact number_digest (hashNumber_bounded _ _)

end Foundation.Sha256
