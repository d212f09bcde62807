import Mathlib.Data.String.Basic
import StateChronicle.Foundation.Outcome

/-!
# Canonical bytes and digests

Protocol objects are serialised to BCS bytes and hashed with SHA-256.  Both are primitives of the
deployment: a serialiser returns no bytes when BCS rejects the value.
-/

namespace StateChronicle.Core

open Foundation

variable (name : String) (sha256 : List UInt8 → Vector UInt8 32) (bcs : Option (List UInt8)) (bytes : List UInt8)
  (limit actual : Nat)

structure ContentDigest where
  bytes : Vector UInt8 32
deriving DecidableEq, Repr

def hexStr : String :=
  .ofList (bytes.flatMap fun byte => [Nat.digitChar (byte.toNat / 16), Nat.digitChar (byte.toNat % 16)])

theorem utf8ByteSize_hexStr : (hexStr bytes).utf8ByteSize = 2 * bytes.length := by
  have ascii : ∀ n < 16, (Nat.digitChar n).utf8Size = 1 := by decide
  rw [hexStr, String.utf8ByteSize_ofList]
  induction bytes with
  | nil => rfl
  | cons byte rest ih =>
    have small := byte.toNat_lt
    rw [List.flatMap_cons, List.cons_append, List.cons_append, List.nil_append, String.utf8Len_cons,
      String.utf8Len_cons, ih, ascii _ (by omega), ascii _ (by omega), List.length_cons]
    omega

def ContentDigest.asStr (digest : ContentDigest) : String := "sha256:" ++ hexStr digest.bytes.toList

def ContentDigest.order (a b : ContentDigest) : Prop := a.bytes.toList ≤ b.bytes.toList

instance : DecidableRel ContentDigest.order := fun a b =>
  inferInstanceAs (Decidable (a.bytes.toList ≤ b.bytes.toList))

inductive StateChronicleError where
  | canonicalization (message : String)
  | invalidDigest (message : String)
  | signatureVerification (message : String)
  | sizeLimitExceeded (name : String) (limit actual : Nat)
deriving DecidableEq, Repr

def sizeLimitText : String :=
  s!"size limit exceeded for `{name}`: length {actual} exceeds limit {limit}"

def StateChronicleError.toString : StateChronicleError → String
  | .canonicalization message => s!"canonicalization failed: {message}"
  | .invalidDigest message => s!"invalid content digest: {message}"
  | .signatureVerification message => s!"signature verification failed: {message}"
  | .sizeLimitExceeded name limit actual => sizeLimitText name limit actual

def maxIntentBytes : Nat := 64 * 1024

/-- The limit itself is still accepted. -/
def checkSize : Except StateChronicleError Unit :=
  rejectIf (actual > limit) (.sizeLimitExceeded name limit actual)

def canonicalize : Except StateChronicleError (List UInt8) :=
  okOr bcs (.canonicalization "BCS serialization of protocol value failed")

def hashBytes : ContentDigest := ⟨sha256 bytes⟩

def canonicalizeAndDigest : Except StateChronicleError ContentDigest := do
  let bytes ← canonicalize bcs
  return hashBytes sha256 bytes

theorem canonicalizeAndDigest_eq_ok {sha256 : List UInt8 → Vector UInt8 32} {bcs : Option (List UInt8)}
    {digest : ContentDigest} :
    canonicalizeAndDigest sha256 bcs = .ok digest ↔ ∃ bytes, bcs = some bytes ∧ hashBytes sha256 bytes = digest := by
  simp only [canonicalizeAndDigest, canonicalize, Except.bind_eq_ok, okOr_eq_ok, Except.pure_eq_ok]

end StateChronicle.Core
