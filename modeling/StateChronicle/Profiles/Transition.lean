import StateChronicle.Accumulator.Key
import StateChronicle.Profiles.Holdings
import StateChronicle.Profiles.Marketplace
import StateChronicle.Profiles.UniqueAsset

/-!
# After-states

The reducers: from the current projection, the operation and the inputs, the payload the
transition writes.  A transfer's reducer computes the debited source; the credited destination is
`transferAfterState`.
-/

namespace StateChronicle.Profiles.Transition

open StateChronicle.Core Domain Foundation

variable {destination : Option StateProjection} {key subject field input : String}
  {holding : SubjectId → Amount → String → ResourceState}

/-! ## Readers of the reducers -/

variable {source : StateProjection} (before : Option StateProjection) (operation : Operation) (inputs : Inputs)

def requireCurrent : Except ProfileError StateProjection :=
  okOr before (.invalidInput ("operation `" ++ operation.name ++ "` requires an existing resource"))

def parseAmountStr : Value → String → Except ProfileError Amount :=
  parseAmountStrWith fun key =>
    .invalidInput s!"`{key}` must be an integer string (floats are forbidden)"

def inputAmount (key : String) : Except ProfileError Amount := do
  let value ← okOr (inputs.get? key) (.invalidInput s!"missing input `{key}`")
  parseAmountStr value key

variable (state : ResourceState)

/-- The reducers' field table: unlike the rule sets they cannot read the status of a listing or an
escrow. -/
def stateField (key : String) : Option String :=
  match state with
  | .listing listing => if key = "seller" then some listing.seller.name else none
  | .escrow escrow =>
    if key = "buyer" then some escrow.buyer.name
    else if key = "seller" then some escrow.seller.name
    else none
  | other => Profiles.stateField other key

def stateStr : StateProjection → String → Except ProfileError String := stateStrWith stateField

def overflow (field : String) : ProfileError := .invalidInput s!"`{field}` overflow"

def underflow (field : String) : ProfileError := .invalidInput s!"`{field}` underflow"

variable (status : String)

def newStatus : Except ProfileError Status :=
  (Status.tryFromStr status).mapError fun error => ProfileError.invalidInput error.toString

/-! ## Unique assets -/

def uniqueAsset (owner status : String) (tradeId : Option String) : Except ProfileError ResourceState := do
  let status ← newStatus status
  return .uniqueAsset ⟨⟨owner⟩, status, tradeId⟩

def ownerBefore : Except ProfileError String :=
  match before with
  | some current => stateStr current "owner"
  | none => .ok ""

def applyUniqueAsset : Except ProfileError ResourceState := do
  let owner ← ownerBefore before
  if operation = UniqueAsset.op.assetMint ∨ operation = UniqueAsset.op.assetTransfer then
    let toOwner ← inputStr inputs "to_owner"
    uniqueAsset toOwner UniqueAsset.status.active.name none
  else if operation = UniqueAsset.op.assetBurn then
    uniqueAsset owner UniqueAsset.status.burned.name none
  else if operation = UniqueAsset.op.assetLock then
    uniqueAsset owner UniqueAsset.status.locked.name none
  else if operation = UniqueAsset.op.assetUnlock then
    uniqueAsset owner UniqueAsset.status.active.name none
  else if operation = UniqueAsset.op.assetList then
    uniqueAsset owner UniqueAsset.status.listed.name none
  else if operation = UniqueAsset.op.assetDelist then
    uniqueAsset owner UniqueAsset.status.active.name none
  else if operation = UniqueAsset.op.assetEscrow then
    uniqueAsset owner UniqueAsset.status.escrowed.name none
  else if operation = UniqueAsset.op.assetRelease then
    uniqueAsset owner UniqueAsset.status.active.name none
  else if operation = UniqueAsset.op.assetRedeem then
    uniqueAsset owner UniqueAsset.status.redeemed.name none
  else if operation = UniqueAsset.op.assetRestrict then
    uniqueAsset owner (((inputs.get? "status").bind Value.asStr).getD "restricted") none
  else if operation = UniqueAsset.op.assetRestore then
    uniqueAsset owner UniqueAsset.status.active.name none
  else if operation = PaidUniqueAsset.op.assetHardDelete then
    uniqueAsset owner UniqueAsset.status.tombstoned.name none
  else if operation = UniqueAsset.op.tradeLock then
    let current ← requireCurrent before operation
    let _ ← inputStr inputs "from_owner"
    let tradeId ← inputStr inputs "trade_id"
    let currentOwner ← stateStr current "owner"
    uniqueAsset currentOwner UniqueAsset.status.tradeHeld.name (some tradeId)
  else if operation = UniqueAsset.op.tradeUnlock then
    let current ← requireCurrent before operation
    let _ ← inputStr inputs "trade_id"
    let currentOwner ← stateStr current "owner"
    uniqueAsset currentOwner UniqueAsset.status.active.name none
  else if operation = UniqueAsset.op.tradeSettle then
    let _ ← requireCurrent before operation
    let _ ← inputStr inputs "from_owner"
    let toOwner ← inputStr inputs "to_owner"
    let _ ← inputStr inputs "trade_id"
    uniqueAsset toOwner UniqueAsset.status.active.name none
  else if operation = UniqueAsset.op.assetAttachContent
      ∨ operation = UniqueAsset.op.assetDetachContent
      ∨ operation = UniqueAsset.op.assetUpdateMetadata then
    -- Content and metadata are opaque here: the payload is kept as it is.
    okOr (before.map (·.state)) (.invalidInput "operation requires an existing resource")
  else throw (.invalidInput ("unknown unique asset operation `" ++ operation.name ++ "`"))

/-! ## Consumable stacks -/

/-- The reducers that move an amount field of an existing holding by an input amount. -/
def amountMoved (field input : String) (holding : SubjectId → Amount → String → ResourceState)
    (combine : Amount → Amount → Option Amount) (error : ProfileError)
    (before : Option StateProjection) (operation : Operation) (inputs : Inputs) :
    Except ProfileError ResourceState := do
  let current ← requireCurrent before operation
  let subject ← stateStr current "subject"
  let unit ← stateStr current "unit"
  let held ← stateAmount current field
  let amount ← inputAmount inputs input
  let next ← okOr (combine held amount) error
  return holding ⟨subject⟩ next unit

def stackHolding (subject : SubjectId) (quantity : Amount) (unit : String) : ResourceState :=
  .consumableStack ⟨subject, quantity, unit⟩

def stackMoved : (Amount → Amount → Option Amount) → ProfileError → Option StateProjection →
    Operation → Inputs → Except ProfileError ResourceState :=
  amountMoved "quantity" "quantity" stackHolding

def applyStack : Except ProfileError ResourceState := do
  if operation = ConsumableStack.op.stackCreate then
    let subject ← inputStr inputs "subject"
    let unit ← inputStr inputs "unit"
    let quantity ← inputAmount inputs "quantity"
    return .consumableStack ⟨⟨subject⟩, quantity, unit⟩
  else if operation = ConsumableStack.op.stackCredit
      ∨ operation = ConsumableStack.op.stackRelease then
    stackMoved Amount.checkedAdd (overflow "stack quantity") before operation inputs
  else if operation = ConsumableStack.op.stackDebit ∨ operation = ConsumableStack.op.stackConsume
      ∨ operation = ConsumableStack.op.stackReserve then
    stackMoved Amount.checkedSub (underflow "stack quantity") before operation inputs
  else if operation = ConsumableStack.op.stackTransfer then
    -- The source keeps its holder; the destination's credit is a second event.
    let _ ← requireCurrent before operation
    let _ ← inputStr inputs "to_subject"
    stackMoved Amount.checkedSub (underflow "stack quantity") before operation inputs
  else if operation = ConsumableStack.op.stackAdjust then
    let current ← requireCurrent before operation
    let subject ← stateStr current "subject"
    let unit ← stateStr current "unit"
    let quantity ← inputAmount inputs "quantity"
    return .consumableStack ⟨⟨subject⟩, quantity, unit⟩
  else if operation = ConsumableStack.op.stackExpire then
    let current ← requireCurrent before operation
    let subject ← stateStr current "subject"
    let unit ← stateStr current "unit"
    return .consumableStack ⟨⟨subject⟩, Amount.zero, unit⟩
  else throw (.invalidInput ("unknown consumable stack operation `" ++ operation.name ++ "`"))

/-! ## Fungible balances -/

def balanceHolding (subject : SubjectId) (balance : Amount) (unit : String) : ResourceState :=
  .fungibleBalance ⟨subject, balance, unit⟩

def balanceMoved : (Amount → Amount → Option Amount) → ProfileError → Option StateProjection →
    Operation → Inputs → Except ProfileError ResourceState :=
  amountMoved "balance" "amount" balanceHolding

def applyBalance : Except ProfileError ResourceState := do
  if operation = FungibleBalance.op.balanceCreate then
    let subject ← inputStr inputs "subject"
    let unit ← inputStr inputs "unit"
    let balance ← inputAmount inputs "balance"
    return .fungibleBalance ⟨⟨subject⟩, balance, unit⟩
  else if operation = FungibleBalance.op.balanceMint ∨ operation = FungibleBalance.op.balanceCredit
      ∨ operation = FungibleBalance.op.balanceRelease then
    balanceMoved Amount.checkedAdd (overflow "balance") before operation inputs
  else if operation = FungibleBalance.op.balanceDebit ∨ operation = FungibleBalance.op.balanceSpend
      ∨ operation = FungibleBalance.op.balanceReserve
      ∨ operation = FungibleBalance.op.balanceBurn then
    balanceMoved Amount.checkedSub (underflow "balance") before operation inputs
  else if operation = FungibleBalance.op.balanceTransfer then
    let _ ← requireCurrent before operation
    let _ ← inputStr inputs "to_subject"
    balanceMoved Amount.checkedSub (underflow "balance") before operation inputs
  else if operation = FungibleBalance.op.balanceConvert then
    let current ← requireCurrent before operation
    let subject ← stateStr current "subject"
    let toUnit ← inputStr inputs "to_unit"
    let balance ← stateAmount current "balance"
    let amount ← inputAmount inputs "amount"
    let next ← okOr (balance.checkedSub amount) (underflow "balance")
    return .fungibleBalance ⟨⟨subject⟩, next, toUnit⟩
  else throw (.invalidInput ("unknown fungible balance operation `" ++ operation.name ++ "`"))

/-! ## Entitlements -/

def entitlementWithStatus (status : String) : Except ProfileError ResourceState := do
  let current ← requireCurrent before operation
  let subject ← stateStr current "subject"
  let transferable ← stateBool current "transferable"
  let status ← newStatus status
  return .entitlement ⟨⟨subject⟩, status, transferable⟩

def applyEntitlement : Except ProfileError ResourceState := do
  if operation = Entitlement.op.entitlementGrant then
    let subject ← inputStr inputs "subject"
    let transferable := ((inputs.get? "transferable").bind Value.asBool).getD false
    return .entitlement ⟨⟨subject⟩, Entitlement.status.granted, transferable⟩
  else if operation = Entitlement.op.entitlementActivate then
    entitlementWithStatus before operation Entitlement.status.active.name
  else if operation = Entitlement.op.entitlementSuspend then
    entitlementWithStatus before operation Entitlement.status.suspended.name
  else if operation = Entitlement.op.entitlementRestore then
    entitlementWithStatus before operation Entitlement.status.active.name
  else if operation = Entitlement.op.entitlementExpire then
    entitlementWithStatus before operation Entitlement.status.expired.name
  else if operation = Entitlement.op.entitlementRevoke then
    entitlementWithStatus before operation Entitlement.status.revoked.name
  else if operation = Entitlement.op.entitlementTransfer then
    let current ← requireCurrent before operation
    let toSubject ← inputStr inputs "to_subject"
    let status ← stateStr current "status"
    let transferable ← stateBool current "transferable"
    let status ← newStatus status
    return .entitlement ⟨⟨toSubject⟩, status, transferable⟩
  else throw (.invalidInput ("unknown entitlement operation `" ++ operation.name ++ "`"))

/-! ## Meters -/

def applyMeter : Except ProfileError ResourceState := do
  if operation = Meter.op.meterCreate then
    let subject ← inputStr inputs "subject"
    let remaining ← inputAmount inputs "remaining"
    let maximum ← inputAmount inputs "maximum"
    return .meteredResource ⟨⟨subject⟩, remaining, maximum⟩
  else if operation = Meter.op.meterConsume then
    let current ← requireCurrent before operation
    let subject ← stateStr current "subject"
    let maximum ← stateAmount current "maximum"
    let remaining ← stateAmount current "remaining"
    let amount ← inputAmount inputs "amount"
    let next ← okOr (remaining.checkedSub amount) (underflow "meter remaining")
    return .meteredResource ⟨⟨subject⟩, next, maximum⟩
  else if operation = Meter.op.meterRefill then
    let current ← requireCurrent before operation
    let subject ← stateStr current "subject"
    let maximum ← stateAmount current "maximum"
    return .meteredResource ⟨⟨subject⟩, maximum, maximum⟩
  else if operation = Meter.op.meterSetMaximum then
    let current ← requireCurrent before operation
    let subject ← stateStr current "subject"
    let remaining ← stateAmount current "remaining"
    let maximum ← inputAmount inputs "maximum"
    return .meteredResource ⟨⟨subject⟩, remaining.min maximum, maximum⟩
  else if operation = Meter.op.meterReset ∨ operation = Meter.op.meterExpire then
    let current ← requireCurrent before operation
    let subject ← stateStr current "subject"
    let maximum ← stateAmount current "maximum"
    return .meteredResource ⟨⟨subject⟩, Amount.zero, maximum⟩
  else throw (.invalidInput ("unknown meter operation `" ++ operation.name ++ "`"))

/-! ## Listings and escrows -/

def listing (seller status : String) : Except ProfileError ResourceState := do
  let status ← newStatus status
  return .listing ⟨⟨seller⟩, status⟩

def listingWithStatus (status : String) : Except ProfileError ResourceState := do
  let current ← requireCurrent before operation
  let seller ← stateStr current "seller"
  listing seller status

def applyListing : Except ProfileError ResourceState := do
  if operation = Marketplace.op.listingCreate then
    let seller ← inputStr inputs "seller"
    listing seller Marketplace.listingStatus.listed.name
  else if operation = Marketplace.op.listingCancel then
    listingWithStatus before operation Marketplace.listingStatus.cancelled.name
  else if operation = Marketplace.op.listingBuy then
    listingWithStatus before operation Marketplace.listingStatus.sold.name
  else if operation = Marketplace.op.listingExpire then
    listingWithStatus before operation Marketplace.listingStatus.expired.name
  else throw (.invalidInput ("unknown listing operation `" ++ operation.name ++ "`"))

def escrow (buyer seller status : String) : Except ProfileError ResourceState := do
  let status ← newStatus status
  return .escrow ⟨⟨buyer⟩, ⟨seller⟩, status⟩

def escrowWithStatus (status : String) : Except ProfileError ResourceState := do
  let current ← requireCurrent before operation
  let buyer ← stateStr current "buyer"
  let seller ← stateStr current "seller"
  escrow buyer seller status

def applyEscrow : Except ProfileError ResourceState := do
  if operation = Marketplace.op.escrowLock then
    let buyer ← inputStr inputs "buyer"
    let seller ← inputStr inputs "seller"
    escrow buyer seller Marketplace.escrowStatus.locked.name
  else if operation = Marketplace.op.escrowRelease then
    escrowWithStatus before operation Marketplace.escrowStatus.released.name
  else if operation = Marketplace.op.escrowRefund then
    escrowWithStatus before operation Marketplace.escrowStatus.refunded.name
  else throw (.invalidInput ("unknown escrow operation `" ++ operation.name ++ "`"))

/-! ## The reducer -/

def stateTypeOf : Except ProfileError StateType :=
  match before with
  | some current => .ok current.stateType
  | none => okOr operation.stateTypeHint
      (.invalidInput ("cannot determine state type for operation `" ++ operation.name ++ "`"))

def applyTyped : StateType → Except ProfileError ResourceState
  | .uniqueAsset => applyUniqueAsset before operation inputs
  | .consumableStack => applyStack before operation inputs
  | .fungibleBalance => applyBalance before operation inputs
  | .entitlement => applyEntitlement before operation inputs
  | .meteredResource => applyMeter before operation inputs
  | .listing => applyListing before operation inputs
  | .escrow => applyEscrow before operation inputs
  | .custom => throw (.invalidInput "custom reducer required")

def apply : Except ProfileError ResourceState := do
  let stateType ← stateTypeOf before operation
  applyTyped before operation inputs stateType

def existingAmount (destination : Option StateProjection) (field : String) : Except ProfileError Amount :=
  match destination with
  | some projection => stateAmount projection field
  | none => .ok Amount.zero

def creditedState (field input label : String) (holding : SubjectId → Amount → String → ResourceState)
    (source : StateProjection) (destination : Option StateProjection) (inputs : Inputs) :
    Except ProfileError ResourceState := do
  let toSubject ← inputStr inputs "to_subject"
  let unit ← stateStr source "unit"
  let amount ← inputAmount inputs input
  let existing ← existingAmount destination field
  let next ← okOr (existing.checkedAdd amount) (overflow label)
  return holding ⟨toSubject⟩ next unit

/-- The credited destination of a transfer. -/
def transferAfterState (source : StateProjection) (destination : Option StateProjection)
    (operation : Operation) (inputs : Inputs) : Except ProfileError ResourceState :=
  if operation = ConsumableStack.op.stackTransfer then
    creditedState "quantity" "quantity" "stack quantity" stackHolding source destination inputs
  else if operation = FungibleBalance.op.balanceTransfer then
    creditedState "balance" "amount" "balance" balanceHolding source destination inputs
  else
    .error (.invalidInput ("destination credit not defined for operation `" ++ operation.name ++ "`"))

/-! ## What the reducers read -/

theorem inputAmount_eq_ok {inputs : Inputs} {amount : Amount} :
    inputAmount inputs key = .ok amount ↔ Profiles.inputAmount inputs key = .ok amount := by
  simp only [inputAmount, Profiles.inputAmount, parseAmountStr, Profiles.parseAmountStr, Except.bind_eq_ok]
  exact ⟨fun ⟨value, found, parsed⟩ => ⟨value, found, parseAmountStrWith_congr parsed⟩,
    fun ⟨value, found, parsed⟩ => ⟨value, found, parseAmountStrWith_congr parsed⟩⟩

/-- Only subject-held payloads have a `subject` field. -/
theorem subject_of_stateStr {projection : StateProjection} (found : stateStr projection "subject" = .ok subject) :
    projection.state.subject = some ⟨subject⟩ := by
  rw [stateStr, stateStrWith_eq_ok] at found
  cases payload : projection.state <;>
    simp_all [stateField, Profiles.stateField, ResourceState.subject] <;>
    exact SubjectId.name_injective found.1

theorem creditedState_eq_ok {label : String} {inputs : Inputs} {after : ResourceState} :
    creditedState field input label holding source destination inputs = .ok after ↔
      ∃ toSubject, inputStr inputs "to_subject" = .ok toSubject ∧
      ∃ unit, stateStr source "unit" = .ok unit ∧
      ∃ amount, Profiles.inputAmount inputs input = .ok amount ∧
      ∃ existing, existingAmount destination field = .ok existing ∧
      ∃ next, existing.checkedAdd amount = some next ∧ holding ⟨toSubject⟩ next unit = after := by
  simp only [creditedState, Except.bind_eq_ok, okOr_eq_ok, Except.pure_eq_ok, inputAmount_eq_ok]

/-! ## The holder a reducer writes -/

/-- The operations that open a holding for the subject they name. -/
def creations : List Operation :=
  [ConsumableStack.op.stackCreate, FungibleBalance.op.balanceCreate, Entitlement.op.entitlementGrant,
    Meter.op.meterCreate]

def namedSubject (key : String) : Option SubjectId :=
  ((inputs.get? key).bind Value.asStr).map SubjectId.mk

/-- The subject of the after-state: creations and the entitlement transfer name it in their inputs,
every other operation keeps the recorded one. -/
def writtenSubject : Option SubjectId :=
  if operation ∈ creations then namedSubject inputs "subject"
  else if operation = Entitlement.op.entitlementTransfer then namedSubject inputs "to_subject"
  else before.bind (·.state.subject)

theorem namedSubject_eq_some {inputs : Inputs} {subject : SubjectId} :
    namedSubject inputs key = some subject ↔ inputs.get? key = some (.string subject.name) := by
  simp only [namedSubject, Option.map_eq_some_iff, Option.bind_eq_some_iff]
  constructor
  · rintro ⟨text, ⟨value, found, isText⟩, rfl⟩
    cases value <;> simp_all [Value.asStr]
  · intro found
    exact ⟨subject.name, ⟨_, found, rfl⟩, rfl⟩

theorem namedSubject_of_inputStr {inputs : Inputs} (named : inputStr inputs key = .ok subject) :
    namedSubject inputs key = some ⟨subject⟩ := by
  rw [namedSubject, (inputStr_eq_ok.mp named).1]
  rfl

/-- An operation that neither opens nor hands over a holding. -/
def KeepsHolder : Prop := operation ∉ creations ∧ operation ≠ Entitlement.op.entitlementTransfer

instance : Decidable (KeepsHolder operation) := instDecidableAnd

section Subjects

variable {before operation inputs} {after : ResourceState}

def HeldBy (subject : String) (state : ResourceState) : Prop := state.subject = some ⟨subject⟩

def Written (before : Option StateProjection) (operation : Operation) (inputs : Inputs)
    (state : ResourceState) : Prop :=
  state.subject = writtenSubject before operation inputs

/-- A creation builds its payload for the subject it has read first. -/
theorem written_of_named {rest : String → Except ProfileError ResourceState}
    (opens : operation ∈ creations) (built : ∀ subject, Yields (HeldBy subject) (rest subject)) :
    Yields (Written before operation inputs) (inputStr inputs "subject" >>= rest) := by
  intro after reduced
  obtain ⟨subject, named, reduced⟩ := Except.bind_eq_ok.mp reduced
  rw [Written, writtenSubject, if_pos opens, namedSubject_of_inputStr named]
  exact built subject after reduced

/-- Other reducers read the recorded subject first and keep it. -/
theorem written_of_recorded {rest : StateProjection → String → Except ProfileError ResourceState}
    (keeps : KeepsHolder operation) (built : ∀ current subject, Yields (HeldBy subject) (rest current subject)) :
    Yields (Written before operation inputs)
      (requireCurrent before operation >>= fun current => stateStr current "subject" >>= rest current) := by
  intro after reduced
  simp only [requireCurrent, Except.bind_eq_ok, okOr_eq_ok] at reduced
  obtain ⟨current, rfl, subject, recorded, reduced⟩ := reduced
  rw [Written, writtenSubject, if_neg keeps.1, if_neg keeps.2]
  exact (built current subject after reduced).trans (subject_of_stateStr recorded).symm

theorem written_amountMoved (carries : ∀ subject amount unit, (holding subject amount unit).subject = some subject)
    {combine : Amount → Amount → Option Amount} {error : ProfileError} (keeps : KeepsHolder operation) :
    Yields (Written before operation inputs) (amountMoved field input holding combine error before operation inputs) :=
  written_of_recorded keeps fun _ _ =>
    .bind fun _ => .bind fun _ => .bind fun _ => .bind fun _ => .ok (carries _ _ _)

theorem written_applyStack : Yields (Written before operation inputs) (applyStack before operation inputs) := by
  unfold applyStack
  split_ifs with create credit debit transfer adjust expire
  · exact written_of_named (by subst create; decide) fun _ => .bind fun _ => .bind fun _ => .ok rfl
  · exact written_amountMoved (fun _ _ _ => rfl) (by rcases credit with rfl | rfl <;> decide)
  · exact written_amountMoved (fun _ _ _ => rfl) (by rcases debit with rfl | rfl | rfl <;> decide)
  · exact .bind fun _ => .bind fun _ =>
      written_amountMoved (fun _ _ _ => rfl) (by subst transfer; decide)
  · exact written_of_recorded (by subst adjust; decide) fun _ _ => .bind fun _ => .bind fun _ => .ok rfl
  · exact written_of_recorded (by subst expire; decide) fun _ _ => .bind fun _ => .ok rfl
  · exact .throw _

theorem written_applyBalance : Yields (Written before operation inputs) (applyBalance before operation inputs) := by
  unfold applyBalance
  split_ifs with create credit debit transfer convert
  · exact written_of_named (by subst create; decide) fun _ => .bind fun _ => .bind fun _ => .ok rfl
  · exact written_amountMoved (fun _ _ _ => rfl) (by rcases credit with rfl | rfl | rfl <;> decide)
  · exact written_amountMoved (fun _ _ _ => rfl) (by rcases debit with rfl | rfl | rfl | rfl <;> decide)
  · exact .bind fun _ => .bind fun _ =>
      written_amountMoved (fun _ _ _ => rfl) (by subst transfer; decide)
  · exact written_of_recorded (by subst convert; decide) fun _ _ =>
      .bind fun _ => .bind fun _ => .bind fun _ => .bind fun _ => .ok rfl
  · exact .throw _

theorem written_entitlementWithStatus {status : String} (keeps : KeepsHolder operation) :
    Yields (Written before operation inputs) (entitlementWithStatus before operation status) :=
  written_of_recorded keeps fun _ _ => .bind fun _ => .bind fun _ => .ok rfl

theorem written_applyEntitlement :
    Yields (Written before operation inputs) (applyEntitlement before operation inputs) := by
  unfold applyEntitlement
  split_ifs with grant activate suspend restore expire revoke transfer
  · exact written_of_named (by subst grant; decide) fun _ => .ok rfl
  · exact written_entitlementWithStatus (by subst activate; decide)
  · exact written_entitlementWithStatus (by subst suspend; decide)
  · exact written_entitlementWithStatus (by subst restore; decide)
  · exact written_entitlementWithStatus (by subst expire; decide)
  · exact written_entitlementWithStatus (by subst revoke; decide)
  · -- The only operation that moves a holding to another slot.
    subst transfer
    intro after reduced
    simp only [Except.bind_eq_ok, Except.pure_eq_ok] at reduced
    obtain ⟨-, -, subject, named, _, -, _, -, _, -, rfl⟩ := reduced
    exact (namedSubject_of_inputStr named).symm
  · exact .throw _

theorem written_applyMeter : Yields (Written before operation inputs) (applyMeter before operation inputs) := by
  unfold applyMeter
  split_ifs with create consume refill maximum reset
  · exact written_of_named (by subst create; decide) fun _ => .bind fun _ => .bind fun _ => .ok rfl
  · exact written_of_recorded (by subst consume; decide) fun _ _ =>
      .bind fun _ => .bind fun _ => .bind fun _ => .bind fun _ => .ok rfl
  · exact written_of_recorded (by subst refill; decide) fun _ _ => .bind fun _ => .ok rfl
  · exact written_of_recorded (by subst maximum; decide) fun _ _ => .bind fun _ => .bind fun _ => .ok rfl
  · exact written_of_recorded (by rcases reset with rfl | rfl <;> decide) fun _ _ =>
      .bind fun _ => .ok rfl
  · exact .throw _

/-! The resource-keyed payloads have no subject at all. -/

def Unheld : Prop := state.subject = none

theorem uniqueAsset_unheld (owner status : String) (tradeId : Option String) :
    Yields Unheld (uniqueAsset owner status tradeId) :=
  .bind fun _ => .ok rfl

theorem applyUniqueAsset_unheld (kept : ∀ current, before = some current → Unheld current.state) :
    Yields Unheld (applyUniqueAsset before operation inputs) := by
  have content : Yields Unheld (okOr (before.map (·.state))
      (ProfileError.invalidInput "operation requires an existing resource")) := by
    cases before with
    | none => exact .throw _
    | some current => exact .ok (kept current rfl)
  refine .bind fun owner => ?_
  repeat' refine .ite ?_ ?_
  -- The owner, a mint's `to_owner` or a trade's inputs are read first; the payload is built last.
  all_goals first
    | exact uniqueAsset_unheld _ _ _
    | exact .bind fun _ => uniqueAsset_unheld _ _ _
    | exact .bind fun _ => .bind fun _ => .bind fun _ => uniqueAsset_unheld _ _ _
    | exact .bind fun _ => .bind fun _ => .bind fun _ => .bind fun _ => uniqueAsset_unheld _ _ _
    | exact content
    | exact .throw _

theorem listing_unheld (seller status : String) : Yields Unheld (listing seller status) := .bind fun _ => .ok rfl

theorem listingWithStatus_unheld : Yields Unheld (listingWithStatus before operation status) :=
  .bind fun _ => .bind fun _ => listing_unheld _ _

theorem applyListing_unheld : Yields Unheld (applyListing before operation inputs) :=
  .ite (.bind fun _ => listing_unheld _ _) <| .ite (listingWithStatus_unheld _) <|
    .ite (listingWithStatus_unheld _) <| .ite (listingWithStatus_unheld _) <| .throw _

theorem escrow_unheld (buyer seller status : String) : Yields Unheld (escrow buyer seller status) :=
  .bind fun _ => .ok rfl

theorem escrowWithStatus_unheld : Yields Unheld (escrowWithStatus before operation status) :=
  .bind fun _ => .bind fun _ => .bind fun _ => escrow_unheld _ _ _

theorem applyEscrow_unheld : Yields Unheld (applyEscrow before operation inputs) :=
  .ite (.bind fun _ => .bind fun _ => escrow_unheld _ _ _) <| .ite (escrowWithStatus_unheld _) <|
    .ite (escrowWithStatus_unheld _) <| .throw _

/-- The holder of a subject-held after-state. -/
theorem subject_of_apply (reduced : apply before operation inputs = .ok after)
    (typed : ∀ current, before = some current → current.state.stateType = current.stateType)
    (held : after.stateType.subjectHeld) : after.subject = writtenSubject before operation inputs := by
  simp only [apply, Except.bind_eq_ok] at reduced
  obtain ⟨stateType, chosen, reduced⟩ := reduced
  -- A reducer of a resource-keyed type cannot have produced a payload with a holder.
  have holds : ¬ Unheld after := by
    rw [← ResourceState.subject_isSome_iff] at held
    exact Option.isSome_iff_ne_none.mp held
  cases stateType with
  | uniqueAsset =>
    refine absurd (applyUniqueAsset_unheld (fun current present => ?_) _ reduced) holds
    subst present
    have asset : current.stateType = .uniqueAsset := Except.ok.inj chosen
    rw [Unheld, ← Option.not_isSome_iff_eq_none, ResourceState.subject_isSome_iff, typed current rfl, asset]
    exact Bool.false_ne_true
  | consumableStack => exact written_applyStack _ reduced
  | fungibleBalance => exact written_applyBalance _ reduced
  | entitlement => exact written_applyEntitlement _ reduced
  | meteredResource => exact written_applyMeter _ reduced
  | listing => exact absurd (applyListing_unheld _ reduced) holds
  | escrow => exact absurd (applyEscrow_unheld _ reduced) holds
  | custom => cases reduced

theorem subject_of_transferAfterState (applied : transferAfterState source destination operation inputs = .ok after) :
    after.subject = namedSubject inputs "to_subject" := by
  unfold transferAfterState at applied
  split_ifs at applied
  all_goals
    obtain ⟨toSubject, named, _, -, _, -, _, -, _, -, rfl⟩ := creditedState_eq_ok.mp applied
    exact (namedSubject_of_inputStr named).symm

end Subjects

/-! ## State keys -/

def stateKeyFor (sha256 : List UInt8 → Vector UInt8 32) (stateType : StateType) (tenant : TenantId)
    (subject : Option SubjectId) (resource : ResourceId) : Except ProfileError Accumulator.StateKey :=
  match stateType with
  | .consumableStack | .fungibleBalance | .entitlement | .meteredResource => do
    let subject ← okOr subject (.invalidInput "subject required for subject-held state type")
    return .forSubjectHeld sha256 tenant.name resource.name subject.name
  | .uniqueAsset | .listing | .escrow | .custom => .ok (.forResource sha256 tenant.name resource.name)

end StateChronicle.Profiles.Transition
