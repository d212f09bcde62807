import StateChronicle.Accumulator.SparseMerkle
import StateChronicle.Portable.Codec

/-!
# Portable hashes and proofs

The protocol's hashes without buffering, and the verification of sparse Merkle proofs in one pass over the levels,
without a table of default hashes.
-/

namespace StateChronicle.Portable

open Foundation Domain Accumulator

section

variable (sha256 : List UInt8 → Hash)

def resourceKey (tenant resource : String) : Hash :=
  sha256 ([0] ++ LittleEndian.encode 8 tenant.utf8ByteSize ++ utf8 tenant ++ [1] ++
    LittleEndian.encode 8 resource.utf8ByteSize ++ utf8 resource)

/-- The bytes after their length, or `Overflow` when the length does not fit. -/
def lengthPrefixed (bytes : List UInt8) : Except CodecError (List UInt8) :=
  if representable : bytes.length < 2 ^ 32 then .ok (Encoder.ulebBytes ⟨bytes.length, representable⟩ ++ bytes)
  else .error .overflow

/-- Hashes the envelope of a custom state. -/
def customStateHash (domain : String) (schema : U32) (payload : List UInt8) : Except CodecError Hash := do
  let domainBytes ← lengthPrefixed (utf8 domain)
  let payloadBytes ← lengthPrefixed payload
  return sha256 (7 :: domainBytes ++ LittleEndian.encode 4 schema.val ++ payloadBytes)

def nodeHash (tag : UInt8) (left right : Hash) : Hash := sha256 (tag :: (left.toList ++ right.toList))

/-! ## Paths -/

structure PathStep where
  level : UInt8
  sibling : Hash
deriving DecidableEq, Repr

/-- What is left of the path at a level, the hash that has climbed there and the hash of an empty subtree. -/
structure Walk where
  path : List PathStep
  current : Hash
  default : Hash

/-- The sibling of a level: the next step's when it is for the level. -/
def Walk.sibling (walk : Walk) (level : ℕ) : Hash × List PathStep :=
  match walk.path with
  | step :: rest => if step.level.toNat = level then (step.sibling, rest) else (walk.default, walk.path)
  | [] => (walk.default, [])

theorem Walk.sibling_nil {walk : Walk} (path : walk.path = []) (level : ℕ) :
    walk.sibling level = (walk.default, []) := by
  simp only [Walk.sibling, path]

theorem Walk.sibling_cons {walk : Walk} {step : PathStep} {rest : List PathStep} (path : walk.path = step :: rest)
    (level : ℕ) :
    walk.sibling level =
      if step.level.toNat = level then (step.sibling, rest) else (walk.default, step :: rest) := by
  simp only [Walk.sibling, path]

def climbLevel (key : Hash) (walk : Walk) (level : ℕ) : Option Walk := do
  let (sibling, rest) := walk.sibling level
  let byte ← key.toList[(255 - level) / 8]?
  let right := byte.toNat >>> (level % 8) % 2 = 1
  return {
    path := rest
    current := if right then nodeHash sha256 0x10 sibling walk.current else nodeHash sha256 0x10 walk.current sibling
    default := nodeHash sha256 0x10 walk.default walk.default }

/-- Two neighbouring steps are out of order. -/
def unordered (steps : List PathStep) : Bool :=
  (steps.zip steps.tail).any fun pair => decide (pair.2.level ≤ pair.1.level)

def emptyLeaf : Hash := nodeHash sha256 0x11 zeroHash zeroHash

def verifyPath (root key leaf : Hash) (steps : List PathStep) : Bool :=
  if 256 < steps.length || unordered steps then false
  else
    match (List.range 256).foldlM (climbLevel sha256 key) ⟨steps, leaf, emptyLeaf sha256⟩ with
    | none => false
    | some walk => walk.path.isEmpty && decide (walk.current = root)

def verifyInclusion (root key state : Hash) (steps : List PathStep) : Bool :=
  verifyPath sha256 root key (nodeHash sha256 0x11 key state) steps

def verifyNonMembership (root key : Hash) (steps : List PathStep) : Bool :=
  verifyPath sha256 root key (emptyLeaf sha256) steps

end

end StateChronicle.Portable
