import StateChronicle.Domain.State
import StateChronicle.Foundation.BigEndian

/-!
# State keys

Keys of the sparse Merkle tree: SHA-256 images of a domain-tagged, length-prefixed composite of
tenant, resource and, for subject-held states, subject.
-/

namespace StateChronicle.Accumulator

open Foundation

structure StateKey where
  bytes : Vector UInt8 32
deriving DecidableEq, Repr

def keyDomainTag : UInt8 := 0x00
def keyResourceTag : UInt8 := 0x01
def keySubjectTag : UInt8 := 0x02

variable (text : String)

def utf8 : List UInt8 := text.toUTF8.data.toList

theorem length_utf8 : (utf8 text).length = text.utf8ByteSize := by
  simp [utf8]

def u64LenPrefix : List UInt8 := (List.range 8).map fun i => UInt8.ofNat (text.utf8ByteSize >>> (8 * i))

def taggedField (tag : UInt8) (text : String) : List UInt8 := tag :: u64LenPrefix text ++ utf8 text

def resourcePreimage (tenantId resourceId : String) : List UInt8 :=
  taggedField keyDomainTag tenantId ++ taggedField keyResourceTag resourceId

def subjectHeldPreimage (tenantId resourceId subjectId : String) : List UInt8 :=
  resourcePreimage tenantId resourceId ++ taggedField keySubjectTag subjectId

namespace StateKey

def forResource (sha256 : List UInt8 → Vector UInt8 32) (tenantId resourceId : String) : StateKey :=
  ⟨sha256 (resourcePreimage tenantId resourceId)⟩

def forSubjectHeld (sha256 : List UInt8 → Vector UInt8 32) (tenantId resourceId subjectId : String) : StateKey :=
  ⟨sha256 (subjectHeldPreimage tenantId resourceId subjectId)⟩

variable (key : StateKey)

/-- The bit at `position`, counted from the most significant bit of the first byte. -/
def bitAt (position : Nat) : Bool :=
  match key.bytes.toList[position / 8]? with
  | some byte => byte.toNat.testBit (7 - position % 8)
  | none => false

/-! ## The order of keys -/

def byteValues : List ℕ := key.bytes.toList.map UInt8.toNat

theorem byteValues_injective : Function.Injective byteValues := by
  intro a b same
  have bytes : a.bytes.toList = b.bytes.toList :=
    List.map_injective_iff.mpr (fun _ _ => UInt8.toNat_inj.mp) same
  cases a
  cases b
  rw [mk.injEq, ← Vector.toList_inj]
  exact bytes

/-- Keys are compared byte by byte. -/
instance : LinearOrder StateKey := LinearOrder.lift' byteValues byteValues_injective

theorem length_byteValues : key.byteValues.length = 32 := by
  simp [byteValues]

theorem byteValues_lt : ∀ byte ∈ key.byteValues, byte < 2 ^ 8 := by
  intro byte member
  obtain ⟨raw, -, rfl⟩ := List.mem_map.mp member
  exact raw.toNat_lt

theorem bitAt_eq_bit (position : ℕ) : key.bitAt position = BigEndian.bit key.byteValues position := by
  unfold bitAt BigEndian.bit
  rw [byteValues, List.getElem?_map]
  cases key.bytes.toList[position / 8]? <;> rfl

/-- Where two keys in order have agreed so far, the later one has the higher bit. -/
theorem bitAt_of_lt {a b : StateKey} (below : a < b) {position : ℕ} (inside : position < 256)
    (agree : ∀ earlier < position, a.bitAt earlier = b.bitAt earlier) (high : a.bitAt position) : b.bitAt position := by
  simp only [bitAt_eq_bit] at agree high ⊢
  refine BigEndian.bit_le_of_lt ?_ a.byteValues_lt b.byteValues_lt below ?_ agree high
  · rw [length_byteValues, length_byteValues]
  · rw [length_byteValues]
    exact inside

theorem eq_of_bitAt_eq {a b : StateKey} (agree : ∀ position < 256, a.bitAt position = b.bitAt position) : a = b := by
  refine byteValues_injective (BigEndian.eq_of_bit_eq ?_ a.byteValues_lt b.byteValues_lt ?_)
  · rw [length_byteValues, length_byteValues]
  · rw [length_byteValues]
    intro position inside
    rw [← bitAt_eq_bit, ← bitAt_eq_bit]
    exact agree position inside

end StateKey

end StateChronicle.Accumulator
