import StateChronicle.Domain.Bcs

/-!
# BCS bytes of intents

The inputs of an intent are JSON values.  A JSON value is written in its serde form, which carries no
tag: null is written as nothing, and only the reader's expectation tells a boolean from a length.
-/

namespace StateChronicle.Domain


/-! ## Values -/

/-- The longest sequence BCS writes. -/
def maxSequenceLength : Nat := 2 ^ 31 - 1

namespace Value

mutual

/-- BCS can write the value: it has no float and no overlong sequence. -/
def writable : Value → Bool
  | .number (.float _) => false
  | .string content => content.utf8ByteSize ≤ maxSequenceLength
  | .array items => items.length ≤ maxSequenceLength && writableItems items
  | .object fields => fields.length ≤ maxSequenceLength && writableFields fields
  | _ => true

def writableItems : List Value → Bool
  | [] => true
  | item :: rest => writable item && writableItems rest

def writableFields : List (String × Value) → Bool
  | [] => true
  | (key, content) :: rest =>
    key.utf8ByteSize ≤ maxSequenceLength && writable content && writableFields rest

end

theorem writableItems_iff (items : List Value) : writableItems items ↔ ∀ item ∈ items, item.writable := by
  induction items with
  | nil => simp [writableItems]
  | cons item rest ih =>
    rw [writableItems, Bool.and_eq_true, ih, List.forall_mem_cons]

theorem writable_of_mem_fields {fields : List (String × Value)} (writables : writableFields fields)
    {field : String × Value} (member : field ∈ fields) : field.2.writable := by
  induction fields with
  | nil => cases member
  | cons first rest ih =>
    simp only [writableFields, Bool.and_eq_true] at writables
    rcases List.mem_cons.mp member with rfl | later
    · exact writables.1.2
    · exact ih writables.2 later

mutual

/-- The fields of every object stand in key order, as the parser leaves them. -/
def ordered : Value → Bool
  | .array items => orderedItems items
  | .object fields => decide ((fields.map Prod.fst).Pairwise (· < ·)) && orderedFields fields
  | _ => true

def orderedItems : List Value → Bool
  | [] => true
  | item :: rest => ordered item && orderedItems rest

def orderedFields : List (String × Value) → Bool
  | [] => true
  | (_, content) :: rest => ordered content && orderedFields rest

end

theorem orderedItems_iff (items : List Value) : orderedItems items ↔ ∀ item ∈ items, item.ordered := by
  induction items with
  | nil => simp [orderedItems]
  | cons item rest ih =>
    rw [orderedItems, Bool.and_eq_true, ih, List.forall_mem_cons]

theorem orderedFields_iff (fields : List (String × Value)) :
    orderedFields fields ↔ ∀ field ∈ fields, field.2.ordered := by
  induction fields with
  | nil => simp [orderedFields]
  | cons field rest ih =>
    obtain ⟨key, content⟩ := field
    rw [orderedFields, Bool.and_eq_true, ih, List.forall_mem_cons]

end Value

namespace Bcs

theorem complement_lt (magnitude : Fin (2 ^ 63)) : 2 ^ 64 - 1 - magnitude.val < 2 ^ 64 := by omega

/-- Integers take eight little-endian bytes, negative ones in two's complement: `negInt m` is `-(m + 1)`.
A float is not writable. -/
def number : Number → List UInt8
  | .posInt value => u64 value
  | .negInt magnitude => u64 ⟨2 ^ 64 - 1 - magnitude.val, complement_lt magnitude⟩
  | .float _ => []

def entryOrder (left right : List UInt8 × List UInt8) : Prop := left.1 ≤ right.1

instance : DecidableRel entryOrder := fun left right => inferInstanceAs (Decidable (left.1 ≤ right.1))

/-- The entries of a map, in the order of their serialised keys. -/
def entries (pairs : List (List UInt8 × List UInt8)) : List UInt8 :=
  length pairs.length ++ (pairs.insertionSort entryOrder).flatMap fun pair => pair.1 ++ pair.2

mutual

def value : Value → List UInt8
  | .null => []
  | .bool flag => bool flag
  | .number n => number n
  | .string content => text content
  | .array items => length items.length ++ itemBytes items
  | .object fields => entries (fieldPairs fields)

def itemBytes : List Value → List UInt8
  | [] => []
  | item :: rest => value item ++ itemBytes rest

def fieldPairs : List (String × Value) → List (List UInt8 × List UInt8)
  | [] => []
  | (key, content) :: rest => (text key, value content) :: fieldPairs rest

end

theorem itemBytes_eq (items : List Value) : itemBytes items = items.flatMap value := by
  induction items with
  | nil => rfl
  | cons item rest ih => rw [itemBytes, ih, List.flatMap_cons]

theorem fieldPairs_eq (fields : List (String × Value)) :
    fieldPairs fields = fields.map fun field => (text field.1, value field.2) := by
  induction fields with
  | nil => rfl
  | cons field rest ih =>
    obtain ⟨key, content⟩ := field
    rw [fieldPairs, ih, List.map_cons]

/-! ## Intents -/

def stateType : StateType → List UInt8
  | .uniqueAsset => [0]
  | .consumableStack => [1]
  | .fungibleBalance => [2]
  | .entitlement => [3]
  | .meteredResource => [4]
  | .listing => [5]
  | .escrow => [6]
  | .custom => [7]

variable (instant : Timestamp → String)

def intentBody (intent : Intent) : List UInt8 :=
  text intent.schema ++ text intent.tenantId.name ++ text intent.intentId.name ++ text intent.operation.name ++
    text intent.actor.name ++ text intent.resourceId.name ++ option stateType intent.stateType ++
    u64 intent.expectedVersion ++ entries (fieldPairs intent.inputs.entries) ++
    option (authorityProof instant) intent.authority ++ text (instant intent.createdAt) ++
    option (fun expiry => text (instant expiry)) intent.expiresAt ++ text (b64u intent.nonce.bytes)

/-- The inputs have to be writable; other fields of an unwritable length exceed every size limit. -/
def intent (intent : Intent) : Option (List UInt8) :=
  if intent.inputs.entries.length ≤ maxSequenceLength ∧ Value.writableFields intent.inputs.entries then
    some (intentBody instant intent)
  else none

theorem intent_eq_some {instant : Timestamp → String} {body : Intent} {bytes : List UInt8} :
    intent instant body = some bytes ↔
      (body.inputs.entries.length ≤ maxSequenceLength ∧ Value.writableFields body.inputs.entries) ∧
        intentBody instant body = bytes := by
  unfold intent
  split
  case isTrue fits => simp [fits]
  case isFalse unfit => simp [unfit]

end Bcs

end StateChronicle.Domain
