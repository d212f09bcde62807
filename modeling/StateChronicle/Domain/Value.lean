import StateChronicle.Foundation.SortedMap
import Mathlib.Data.String.Basic

/-!
# Operation inputs

The JSON values an intent carries in its `inputs` map, with decidable equality (a replayed intent
is compared with the stored one) and the readers the profiles use.
-/

namespace StateChronicle.Domain

/-- A JSON number as the parser classifies it; a float is kept as its bit pattern. -/
inductive Number where
  | posInt (value : Fin (2 ^ 64))
  | negInt (magnitude : Fin (2 ^ 63))
  | float (bits : Fin (2 ^ 64))
deriving DecidableEq, Repr

/-- A JSON value; the fields of an object are listed in key order. -/
inductive Value where
  | null
  | bool (value : Bool)
  | number (value : Number)
  | string (text : String)
  | array (items : List Value)
  | object (fields : List (String × Value))
deriving Repr

namespace Value

mutual

/-- Structural equality, one case per constructor. -/
def beq : Value → Value → Bool
  | .null, .null => true
  | .bool a, .bool b => a = b
  | .number a, .number b => a = b
  | .string a, .string b => a = b
  | .array a, .array b => beqItems a b
  | .object a, .object b => beqFields a b
  | _, _ => false

def beqItems : List Value → List Value → Bool
  | [], [] => true
  | a :: as, b :: bs => beq a b && beqItems as bs
  | _, _ => false

def beqFields : List (String × Value) → List (String × Value) → Bool
  | [], [] => true
  | (key, a) :: as, (key', b) :: bs => decide (key = key') && beq a b && beqFields as bs
  | _, _ => false

end

mutual

theorem beq_iff : (a b : Value) → (beq a b = true ↔ a = b)
  | .null, b | .bool _, b | .number _, b | .string _, b => by cases b <;> simp [beq]
  | .array items, b => by cases b <;> simp [beq, beqItems_iff items]
  | .object fields, b => by cases b <;> simp [beq, beqFields_iff fields]

theorem beqItems_iff : (as bs : List Value) → (beqItems as bs = true ↔ as = bs)
  | [], bs => by cases bs <;> simp [beqItems]
  | a :: as, bs => by cases bs <;> simp [beqItems, beq_iff a, beqItems_iff as]

theorem beqFields_iff : (as bs : List (String × Value)) → (beqFields as bs = true ↔ as = bs)
  | [], bs => by cases bs <;> simp [beqFields]
  | (key, a) :: as, bs => by
    cases bs with
    | nil => simp [beqFields]
    | cons head rest =>
      obtain ⟨key', b⟩ := head
      simp [beqFields, beq_iff a, beqFields_iff as, and_assoc]

end

instance : DecidableEq Value := fun a b => decidable_of_iff (beq a b = true) (beq_iff a b)

def asStr : Value → Option String
  | .string text => some text
  | _ => none

def asBool : Value → Option Bool
  | .bool value => some value
  | _ => none

def asU64 : Value → Option (Fin (2 ^ 64))
  | .number (.posInt value) => some value
  | _ => none

def asArray : Value → Option (List Value)
  | .array items => some items
  | _ => none

end Value

abbrev Inputs : Type := Foundation.SortedMap String Value

end StateChronicle.Domain
