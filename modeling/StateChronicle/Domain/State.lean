import StateChronicle.Core.Amount
import StateChronicle.Core.Canonical

/-!
# Identities, statuses and resource states

The closed set of typed state payloads, the projections the state index serves, and the
identifiers and limits they are built from.
-/

namespace StateChronicle.Domain

open StateChronicle.Core

def maxIdLength : Nat := 128

abbrev U64 : Type := Fin (2 ^ 64)

abbrev U32 : Type := Fin (2 ^ 32)

instance neZeroU64 : NeZero (2 ^ 64) := ⟨by decide⟩

instance neZeroU32 : NeZero (2 ^ 32) := ⟨by decide⟩

abbrev Timestamp : Type := Int

/-! ## Identifiers -/

structure SubjectId where
  name : String
deriving DecidableEq, Repr

structure TenantId where
  name : String
deriving DecidableEq, Repr

structure ResourceId where
  name : String
deriving DecidableEq, Repr

structure EventId where
  name : String
deriving DecidableEq, Repr

structure IntentId where
  name : String
deriving DecidableEq, Repr

structure CommitId where
  name : String
deriving DecidableEq, Repr

structure ProfileId where
  name : String
deriving DecidableEq, Repr

theorem IntentId.name_injective : Function.Injective IntentId.name := by
  rintro ⟨a⟩ ⟨b⟩ same
  exact congrArg IntentId.mk same

theorem ResourceId.name_injective : Function.Injective ResourceId.name := by
  rintro ⟨a⟩ ⟨b⟩ same
  exact congrArg ResourceId.mk same

theorem SubjectId.name_injective : Function.Injective SubjectId.name := by
  rintro ⟨a⟩ ⟨b⟩ same
  exact congrArg SubjectId.mk same

theorem TenantId.name_injective : Function.Injective TenantId.name := by
  rintro ⟨a⟩ ⟨b⟩ same
  exact congrArg TenantId.mk same

/-! ## Validated names -/

inductive DomainError where
  | invalidId (kind value expectedPrefix : String)
  | invalidOperation (message : String)
  | invalidStatus (message : String)
  | invalidKeyId (message : String)
  | invalidProfile (message : String)
  | invalidNonce (message : String)
  | core (error : StateChronicleError)
deriving DecidableEq, Repr

def DomainError.toString : DomainError → String
  | .invalidId kind value expectedPrefix => "invalid " ++ kind ++ " id: `" ++ value ++ "` must start with `"
      ++ expectedPrefix ++ "` and be ≤ " ++ ToString.toString maxIdLength ++ " chars"
  | .invalidOperation message => "invalid operation: " ++ message
  | .invalidStatus message => "invalid status: " ++ message
  | .invalidKeyId message => "invalid key id: " ++ message
  | .invalidProfile message => "invalid profile id: " ++ message
  | .invalidNonce message => "invalid nonce: " ++ message
  | .core error => error.toString

def isControl (c : Char) : Bool := c.toNat < 0x20 || (0x7f ≤ c.toNat && c.toNat ≤ 0x9f)

variable (value : String)

/-- The check shared by prefixed ids; every failure gives the same error. -/
def validateId (kind expectedPrefix value : String) : Except DomainError Unit :=
  if ¬ expectedPrefix.toList.isPrefixOf value.toList ∨ value = expectedPrefix ∨ value.toList.any isControl ∨
      value.length > maxIdLength then .error (.invalidId kind value expectedPrefix)
  else .ok ()

def EventId.new : Except DomainError EventId := do
  validateId "event" "evt_" value
  return ⟨value⟩

def IntentId.new : Except DomainError IntentId := do
  validateId "intent" "int_" value
  return ⟨value⟩

def CommitId.new : Except DomainError CommitId := do
  validateId "commit" "cmt_" value
  return ⟨value⟩

/-- The check shared by operation, status, profile and key names; `label` opens every message. -/
def validateName (label : String) (error : String → DomainError) (value : String) : Except DomainError Unit :=
  if value = "" then .error (error (label ++ " must not be empty"))
  else if value.toList.any isControl then
    .error (error (label ++ " must not contain control characters"))
  else if value.length > maxIdLength then
    .error (error (label ++ " must be at most " ++ toString maxIdLength ++ " chars, got "
      ++ toString value.length))
  else .ok ()

structure Status where
  name : String
deriving DecidableEq, Repr

/-- A registry-open operation name such as `balance.transfer`. -/
structure Operation where
  name : String
deriving DecidableEq, Repr

def Status.tryFromStr : Except DomainError Status := do
  validateName "status" .invalidStatus value
  return ⟨value⟩

def Operation.new : Except DomainError Operation := do
  validateName "operation" .invalidOperation value
  return ⟨value⟩

def ProfileId.new : Except DomainError ProfileId := do
  validateName "profile id" .invalidProfile value
  return ⟨value⟩

/-- The names of signing keys are kept as texts. -/
def validateKeyId : Except DomainError Unit := validateName "key id" .invalidKeyId value

/-! ## State types -/

inductive StateType where
  | uniqueAsset
  | consumableStack
  | fungibleBalance
  | entitlement
  | meteredResource
  | listing
  | escrow
  | custom
deriving DecidableEq, Repr

def StateType.asStr : StateType → String
  | .uniqueAsset => "unique_asset"
  | .consumableStack => "consumable_stack"
  | .fungibleBalance => "fungible_balance"
  | .entitlement => "entitlement"
  | .meteredResource => "metered_resource"
  | .listing => "listing"
  | .escrow => "escrow"
  | .custom => "custom"

/-- The state type an operation's dotted prefix stands for, if it is a baseline prefix. -/
def Operation.stateTypeHint (operation : Operation) : Option StateType :=
  let startsWith (text : String) := text.toList.isPrefixOf operation.name.toList
  if startsWith "asset." then some .uniqueAsset
  else if startsWith "stack." then some .consumableStack
  else if startsWith "balance." then some .fungibleBalance
  else if startsWith "entitlement." then some .entitlement
  else if startsWith "meter." then some .meteredResource
  else if startsWith "listing." then some .listing
  else if startsWith "escrow." then some .escrow
  else none

/-! ## State payloads -/

structure UniqueAssetState where
  owner : SubjectId
  status : Status
  tradeId : Option String
deriving DecidableEq, Repr

structure ConsumableStackState where
  subject : SubjectId
  quantity : Amount
  unit : String
deriving DecidableEq, Repr

structure FungibleBalanceState where
  subject : SubjectId
  balance : Amount
  unit : String
deriving DecidableEq, Repr

structure EntitlementState where
  subject : SubjectId
  status : Status
  transferable : Bool
deriving DecidableEq, Repr

structure MeterState where
  subject : SubjectId
  remaining : Amount
  maximum : Amount
deriving DecidableEq, Repr

structure ListingState where
  seller : SubjectId
  status : Status
deriving DecidableEq, Repr

structure EscrowState where
  buyer : SubjectId
  seller : SubjectId
  status : Status
deriving DecidableEq, Repr

/-- A consumer-defined payload bound to its domain and schema. -/
structure CustomState where
  domain : ProfileId
  schemaVersion : U32
  payload : List UInt8
deriving DecidableEq, Repr

inductive ResourceState where
  | uniqueAsset (state : UniqueAssetState)
  | consumableStack (state : ConsumableStackState)
  | fungibleBalance (state : FungibleBalanceState)
  | entitlement (state : EntitlementState)
  | meteredResource (state : MeterState)
  | listing (state : ListingState)
  | escrow (state : EscrowState)
  | custom (state : CustomState)
deriving DecidableEq, Repr

namespace ResourceState

def stateType : ResourceState → StateType
  | .uniqueAsset _ => .uniqueAsset
  | .consumableStack _ => .consumableStack
  | .fungibleBalance _ => .fungibleBalance
  | .entitlement _ => .entitlement
  | .meteredResource _ => .meteredResource
  | .listing _ => .listing
  | .escrow _ => .escrow
  | .custom _ => .custom

def subject : ResourceState → Option SubjectId
  | .consumableStack state => some state.subject
  | .fungibleBalance state => some state.subject
  | .entitlement state => some state.subject
  | .meteredResource state => some state.subject
  | _ => none

def owner : ResourceState → Option SubjectId
  | .uniqueAsset state => some state.owner
  | _ => none

def status : ResourceState → Option Status
  | .uniqueAsset state => some state.status
  | .entitlement state => some state.status
  | .listing state => some state.status
  | .escrow state => some state.status
  | _ => none

/-- An exact amount field by its protocol name. -/
def amount (state : ResourceState) (key : String) : Option Amount :=
  match state with
  | .consumableStack stack => if key = "quantity" then some stack.quantity else none
  | .fungibleBalance balance => if key = "balance" then some balance.balance else none
  | .meteredResource meter =>
    if key = "remaining" then some meter.remaining
    else if key = "maximum" then some meter.maximum
    else none
  | _ => none

end ResourceState

/-! Equality as it is derived for states: field by field, and amounts by value. -/

def ConsumableStackState.Equal (a b : ConsumableStackState) : Prop :=
  a.subject = b.subject ∧ a.quantity.SameValue b.quantity ∧ a.unit = b.unit

def FungibleBalanceState.Equal (a b : FungibleBalanceState) : Prop :=
  a.subject = b.subject ∧ a.balance.SameValue b.balance ∧ a.unit = b.unit

def MeterState.Equal (a b : MeterState) : Prop :=
  a.subject = b.subject ∧ a.remaining.SameValue b.remaining ∧ a.maximum.SameValue b.maximum

def ResourceState.Equal : ResourceState → ResourceState → Prop
  | .consumableStack a, .consumableStack b => a.Equal b
  | .fungibleBalance a, .fungibleBalance b => a.Equal b
  | .meteredResource a, .meteredResource b => a.Equal b
  | a, b => a = b

instance (a b : ResourceState) : Decidable (a.Equal b) := by
  unfold ResourceState.Equal ConsumableStackState.Equal FungibleBalanceState.Equal MeterState.Equal
  split <;> infer_instance

theorem ResourceState.Equal.refl (state : ResourceState) : state.Equal state := by
  have same (amount : Amount) : amount.SameValue amount := Amount.sameValue_iff.mpr rfl
  cases state <;> first | rfl | exact ⟨rfl, same _, rfl⟩ | exact ⟨rfl, same _, same _⟩

/-- Subject-held types carry the holder in their state key. -/
def StateType.subjectHeld : StateType → Bool
  | .consumableStack | .fungibleBalance | .entitlement | .meteredResource => true
  | .uniqueAsset | .listing | .escrow | .custom => false

theorem ResourceState.subject_isSome_iff (state : ResourceState) :
    state.subject.isSome = state.stateType.subjectHeld := by
  cases state <;> rfl

/-- The current state of a resource as the state index serves it. -/
structure StateProjection where
  tenantId : TenantId
  resourceId : ResourceId
  stateType : StateType
  version : U64
  lastEventId : EventId
  lastCommitId : CommitId
  stateHash : ContentDigest
  state : ResourceState
deriving DecidableEq, Repr

/-- Derived equality: the states by theirs, every other field by identity. -/
def StateProjection.Equal (a b : StateProjection) : Prop := { a with state := b.state } = b ∧ a.state.Equal b.state

instance : DecidableRel StateProjection.Equal := fun a b =>
  inferInstanceAs (Decidable ({ a with state := b.state } = b ∧ a.state.Equal b.state))

end StateChronicle.Domain
