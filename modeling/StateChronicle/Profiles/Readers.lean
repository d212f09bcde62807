import StateChronicle.Domain.Event

/-!
# Profile errors and readers

The errors a profile rule can raise and the readers every rule set is written with: inputs of the
intent, fields of the projected state, and the guards on the resource's existence and status.
-/

namespace StateChronicle.Profiles

open StateChronicle.Core Domain Foundation

variable {current : Option StateProjection} {projection : StateProjection} {operation text : String}
  {allowedFrom : List Status} {key : String} {u : Unit}

inductive ProfileError where
  | actorMismatch (expected actual : String)
  | resourceLocked (resource : String)
  | atomicityViolation (message : String)
  | transferMismatch (message : String)
  | valueLegSettleRouting (intentId : String)
  | unknownOperation (operation : String)
  | invalidTransition (fromState operation : String)
  | invalidInput (message : String)
  | nonPositiveAmount
  | insufficientQuantity (available requested : Amount)
  | hardDeleteForbidden
  | floatForbidden
  | ownershipMismatch (expected actual : String)
  | notTransferable
deriving DecidableEq, Repr

def ProfileError.toString : ProfileError → String
  | .actorMismatch expected actual => s!"actor mismatch: expected `{expected}`, got `{actual}`"
  | .resourceLocked resource => s!"resource `{resource}` is locked, burned, revoked, or escrowed"
  | .atomicityViolation message => s!"atomicity violation: {message}"
  | .transferMismatch message => s!"transfer mismatch: {message}"
  | .valueLegSettleRouting intentId => s!"settlement `{intentId}` requires coordinated value legs"
  | .unknownOperation operation => s!"unknown operation `{operation}`"
  | .invalidTransition fromState operation =>
    s!"invalid transition from `{fromState}` via `{operation}`"
  | .invalidInput message => s!"invalid input: {message}"
  | .nonPositiveAmount => "amount must be positive"
  | .insufficientQuantity available requested =>
    "insufficient quantity: requested " ++ requested.toCanonicalString ++ ", available "
      ++ available.toCanonicalString
  | .hardDeleteForbidden => "hard delete is forbidden"
  | .floatForbidden => "floating-point values are forbidden"
  | .ownershipMismatch expected actual =>
    s!"ownership mismatch: expected `{expected}`, got `{actual}`"
  | .notTransferable => "resource is not transferable"

/-! ## Inputs -/

def inputStr (inputs : Inputs) (key : String) : Except ProfileError String := do
  let value ← okOr (inputs.get? key) (.invalidInput s!"missing input `{key}`")
  let text ← okOr value.asStr (.invalidInput s!"input `{key}` must be a string")
  rejectIf (text = "") (.invalidInput s!"input `{key}` must not be empty")
  return text

/-- Parses an integer string; the rule sets and the reducers differ only in how they report a
float-formatted text. -/
def parseAmountStrWith (floatError : String → ProfileError) (value : Value) (key : String) :
    Except ProfileError Amount := do
  let text ← okOr value.asStr (.invalidInput s!"`{key}` must be an integer string")
  rejectIf (text = "") (.invalidInput s!"`{key}` must be an integer string")
  rejectIf (text.toList.any fun c => c = '.' ∨ c = 'e' ∨ c = 'E') (floatError key)
  match Amount.tryFromStr text with
  | .ok amount => return amount
  | .error _ => throw (.invalidInput s!"`{key}` must be an integer string")

def parseAmountStr : Value → String → Except ProfileError Amount := parseAmountStrWith fun _ => .floatForbidden

def inputAmount (inputs : Inputs) (key : String) : Except ProfileError Amount := do
  let value ← okOr (inputs.get? key) (.invalidInput s!"missing input `{key}`")
  parseAmountStr value key

/-! ## State fields -/

def noField (key : String) : ProfileError := .invalidInput s!"state payload has no `{key}`"

/-- The text fields of a payload by their protocol names, as the rule sets read them. -/
def stateField (state : ResourceState) (key : String) : Option String :=
  match state with
  | .uniqueAsset asset =>
    if key = "owner" then some asset.owner.name
    else if key = "status" then some asset.status.name
    else none
  | .consumableStack stack =>
    if key = "subject" then some stack.subject.name
    else if key = "unit" then some stack.unit
    else none
  | .fungibleBalance balance =>
    if key = "subject" then some balance.subject.name
    else if key = "unit" then some balance.unit
    else none
  | .entitlement entitlement =>
    if key = "subject" then some entitlement.subject.name
    else if key = "status" then some entitlement.status.name
    else none
  | .meteredResource meter => if key = "subject" then some meter.subject.name else none
  | .listing listing =>
    if key = "seller" then some listing.seller.name
    else if key = "status" then some listing.status.name
    else none
  | .escrow escrow =>
    if key = "buyer" then some escrow.buyer.name
    else if key = "seller" then some escrow.seller.name
    else if key = "status" then some escrow.status.name
    else none
  | .custom _ => none

/-- Reads a non-empty text field through a field table. -/
def stateStrWith (field : ResourceState → String → Option String) (projection : StateProjection)
    (key : String) : Except ProfileError String := do
  let text ← okOr (field projection.state key) (noField key)
  rejectIf (text = "") (.invalidInput s!"`{key}` must not be empty")
  return text

def stateStr : StateProjection → String → Except ProfileError String := stateStrWith stateField

def stateTradeId (projection : StateProjection) : Except ProfileError String :=
  match projection.state with
  | .uniqueAsset asset => okOr asset.tradeId (.invalidInput "state has no `trade_id`")
  | _ => throw (.invalidInput "state has no `trade_id`")

def stateAmount (projection : StateProjection) (key : String) : Except ProfileError Amount :=
  okOr (projection.state.amount key) (noField key)

def stateBool (projection : StateProjection) (key : String) : Except ProfileError Bool :=
  match projection.state with
  | .entitlement entitlement =>
    if key = "transferable" then .ok entitlement.transferable else throw (noField key)
  | _ => throw (noField key)

/-! ## Existence and status -/

def requireCurrent (current : Option StateProjection) (operation : String) : Except ProfileError StateProjection :=
  okOr current (.invalidTransition "unborn" operation)

def requireUnborn (current : Option StateProjection) (operation : String) : Except ProfileError Unit :=
  rejectIf (current.isSome) (.invalidTransition "existing" operation)

def requireFrom (current : Option StateProjection) (operation : String)
    (allowedFrom : List Status) : Except ProfileError StateProjection := do
  let projection ← requireCurrent current operation
  let fromState ← stateStr projection "status"
  let fromStatus ← (Status.tryFromStr fromState).mapError fun _ => ProfileError.invalidInput fromState
  rejectIf (fromStatus ∉ allowedFrom) (.invalidTransition fromState operation)
  return projection

/-- A transition with a source status and no further condition. -/
def singleFrom (current : Option StateProjection) (operation : String)
    (allowedFrom : List Status) : Except ProfileError Unit := do
  let _ ← requireFrom current operation allowedFrom
  return ()

def requirePositive (amount : Amount) : Except ProfileError Unit := rejectIf (amount.isZero) .nonPositiveAmount

def requirePositiveAvailable (requested available : Amount) : Except ProfileError Unit := do
  rejectIf (requested.isZero) .nonPositiveAmount
  rejectIf (available < requested) (.insufficientQuantity available requested)

/-! ## What a successful read says -/

theorem inputStr_eq_ok {inputs : Inputs} :
    inputStr inputs key = .ok text ↔ inputs.get? key = some (.string text) ∧ text ≠ "" := by
  simp only [inputStr, Except.bind_eq_ok, okOr_eq_ok, rejectIf_eq_ok, Except.pure_eq_ok]
  constructor
  · rintro ⟨value, found, text', isText, -, nonempty, rfl⟩
    cases value <;> simp_all [Value.asStr]
  · rintro ⟨found, nonempty⟩
    exact ⟨_, found, _, rfl, (), nonempty, rfl⟩

/-- A parsed amount does not depend on how float-formatted texts are reported. -/
theorem parseAmountStrWith_congr {floatError otherError : String → ProfileError} {value : Value} {amount : Amount}
    (parsed : parseAmountStrWith floatError value key = .ok amount) :
    parseAmountStrWith otherError value key = .ok amount := by
  simp only [parseAmountStrWith, Except.bind_eq_ok, okOr_eq_ok, rejectIf_eq_ok] at parsed ⊢
  exact parsed

theorem stateStrWith_eq_ok {field : ResourceState → String → Option String} :
    stateStrWith field projection key = .ok text ↔
      field projection.state key = some text ∧ text ≠ "" := by
  simp only [stateStrWith, Except.bind_eq_ok, okOr_eq_ok, rejectIf_eq_ok, Except.pure_eq_ok]
  constructor
  · rintro ⟨text', found, -, nonempty, rfl⟩
    exact ⟨found, nonempty⟩
  · rintro ⟨found, nonempty⟩
    exact ⟨_, found, (), nonempty, rfl⟩

theorem requireCurrent_eq_ok : requireCurrent current operation = .ok projection ↔ current = some projection :=
  okOr_eq_ok

theorem requireUnborn_eq_ok : requireUnborn current operation = .ok u ↔ current = none := by
  simp [requireUnborn]

theorem requirePositiveAvailable_eq_ok {requested available : Amount} :
    requirePositiveAvailable requested available = .ok u ↔ 0 < requested.value ∧ requested.value ≤ available.value := by
  have positive : ¬ requested.isZero ↔ 0 < requested.value := by
    rw [Amount.isZero_iff, lt_iff_le_and_ne]
    simp [Amount.value_nonneg, eq_comm]
  simp only [requirePositiveAvailable, Except.bind_eq_ok, rejectIf_eq_ok, positive,
    Amount.lt_iff_value_lt, not_lt, exists_const]

theorem current_of_requireFrom (accepted : requireFrom current operation allowedFrom = .ok projection) :
    current = some projection := by
  simp only [requireFrom, Except.bind_eq_ok, Except.pure_eq_ok, requireCurrent_eq_ok] at accepted
  obtain ⟨found, present, -, -, -, -, -, -, rfl⟩ := accepted
  exact present

theorem stateField_status (state : ResourceState) : stateField state "status" = state.status.map (·.name) := by
  cases state <;> rfl

theorem eq_of_tryFromStr {status : Status} (parsed : Status.tryFromStr text = .ok status) : status = ⟨text⟩ := by
  simp only [Status.tryFromStr, Except.bind_eq_ok, Except.pure_eq_ok] at parsed
  obtain ⟨-, -, rfl⟩ := parsed
  rfl

theorem name_of_new {id : ProfileId} (made : ProfileId.new text = .ok id) : text = id.name := by
  simp only [ProfileId.new, Except.bind_eq_ok, Except.pure_eq_ok] at made
  obtain ⟨-, -, rfl⟩ := made
  rfl

theorem status_of_requireFrom (accepted : requireFrom current operation allowedFrom = .ok projection) :
    ∃ status ∈ allowedFrom, projection.state.status = some status := by
  simp only [requireFrom, Except.bind_eq_ok, Except.pure_eq_ok, Except.mapError_eq_ok, rejectIf_eq_ok, not_not,
    stateStr, stateStrWith_eq_ok, stateField_status, Option.map_eq_some_iff] at accepted
  obtain ⟨found, -, text, ⟨⟨status, recorded, rfl⟩, -⟩, parsed, read, -, allowed, rfl⟩ := accepted
  rw [eq_of_tryFromStr read] at allowed
  exact ⟨status, allowed, recorded⟩

end StateChronicle.Profiles
