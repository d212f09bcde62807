import StateChronicle.Profiles.Readers

/-!
# Subject-held resources

The rule sets of consumable stacks, fungible balances, entitlements and meters.  A holding is
addressed by its holder; only its creation acts on a resource that does not exist yet.
-/

namespace StateChronicle.Profiles

open Domain Foundation

variable (operation : Operation) (current : Option StateProjection) (inputs : Inputs)

namespace ConsumableStack

namespace op

def stackCreate : Operation := ⟨"stack.create"⟩
def stackCredit : Operation := ⟨"stack.credit"⟩
def stackDebit : Operation := ⟨"stack.debit"⟩
def stackConsume : Operation := ⟨"stack.consume"⟩
def stackTransfer : Operation := ⟨"stack.transfer"⟩
def stackReserve : Operation := ⟨"stack.reserve"⟩
def stackRelease : Operation := ⟨"stack.release"⟩
def stackExpire : Operation := ⟨"stack.expire"⟩
def stackAdjust : Operation := ⟨"stack.adjust"⟩

def all : List Operation :=
  [stackCreate, stackCredit, stackDebit, stackConsume, stackTransfer, stackReserve, stackRelease,
    stackExpire, stackAdjust]

end op

def checkCreate : Except ProfileError Unit := do
  requireUnborn current "stack.create"
  let _ ← inputStr inputs "subject"
  let _ ← inputStr inputs "unit"
  let _ ← inputAmount inputs "quantity"
  return ()

/-- The rules that take any quantity on an existing stack. -/
def checkQuantity (operation : String) (current : Option StateProjection) (inputs : Inputs) :
    Except ProfileError Unit := do
  let _ ← requireCurrent current operation
  let _ ← inputAmount inputs "quantity"
  return ()

/-- The rules that take a positive quantity out of an existing stack. -/
def checkAvailable (operation : String) (current : Option StateProjection) (inputs : Inputs) :
    Except ProfileError Unit := do
  let projection ← requireCurrent current operation
  let available ← stateAmount projection "quantity"
  let requested ← inputAmount inputs "quantity"
  requirePositiveAvailable requested available

def checkCredit : Option StateProjection → Inputs → Except ProfileError Unit := checkQuantity "stack.credit"

def checkDebit : Option StateProjection → Inputs → Except ProfileError Unit := checkAvailable "stack.debit"

def checkConsume : Option StateProjection → Inputs → Except ProfileError Unit := checkAvailable "stack.consume"

def checkTransfer : Except ProfileError Unit := do
  let projection ← requireCurrent current "stack.transfer"
  let _ ← inputStr inputs "to_subject"
  let available ← stateAmount projection "quantity"
  let requested ← inputAmount inputs "quantity"
  requirePositiveAvailable requested available

def checkReserve : Option StateProjection → Inputs → Except ProfileError Unit := checkAvailable "stack.reserve"

def checkRelease : Except ProfileError Unit := do
  let _ ← requireCurrent current "stack.release"
  let requested ← inputAmount inputs "quantity"
  requirePositive requested

def checkExpire : Except ProfileError Unit := do
  let _ ← requireCurrent current "stack.expire"
  return ()

def checkAdjust : Option StateProjection → Inputs → Except ProfileError Unit := checkQuantity "stack.adjust"

def check : Except ProfileError Unit :=
  if operation ∉ op.all then .error (.unknownOperation operation.name)
  else if operation = op.stackCreate then checkCreate current inputs
  else if operation = op.stackCredit then checkCredit current inputs
  else if operation = op.stackDebit then checkDebit current inputs
  else if operation = op.stackConsume then checkConsume current inputs
  else if operation = op.stackTransfer then checkTransfer current inputs
  else if operation = op.stackReserve then checkReserve current inputs
  else if operation = op.stackRelease then checkRelease current inputs
  else if operation = op.stackExpire then checkExpire current
  else if operation = op.stackAdjust then checkAdjust current inputs
  else .error (.unknownOperation operation.name)

end ConsumableStack

namespace FungibleBalance

namespace op

def balanceCreate : Operation := ⟨"balance.create"⟩
def balanceMint : Operation := ⟨"balance.mint"⟩
def balanceCredit : Operation := ⟨"balance.credit"⟩
def balanceDebit : Operation := ⟨"balance.debit"⟩
def balanceTransfer : Operation := ⟨"balance.transfer"⟩
def balanceReserve : Operation := ⟨"balance.reserve"⟩
def balanceRelease : Operation := ⟨"balance.release"⟩
def balanceSpend : Operation := ⟨"balance.spend"⟩
def balanceBurn : Operation := ⟨"balance.burn"⟩
def balanceConvert : Operation := ⟨"balance.convert"⟩

def all : List Operation :=
  [balanceCreate, balanceMint, balanceCredit, balanceDebit, balanceTransfer, balanceReserve,
    balanceRelease, balanceSpend, balanceBurn, balanceConvert]

end op

def checkCreate : Except ProfileError Unit := do
  requireUnborn current "balance.create"
  let _ ← inputStr inputs "subject"
  let _ ← inputStr inputs "unit"
  let _ ← inputAmount inputs "balance"
  return ()

def checkMint : Except ProfileError Unit := do
  let projection ← requireCurrent current "balance.mint"
  let _ ← inputStr inputs "authorized_by"
  let amount ← inputAmount inputs "amount"
  let _ ← stateAmount projection "balance"
  requirePositive amount

/-- The rules that put a positive amount into an existing balance. -/
def checkAdded (operation : String) (current : Option StateProjection) (inputs : Inputs) :
    Except ProfileError Unit := do
  let projection ← requireCurrent current operation
  let amount ← inputAmount inputs "amount"
  let _ ← stateAmount projection "balance"
  requirePositive amount

/-- The rules that take a positive amount out of an existing balance, some of them after reading
one more required input. -/
def checkTaken (operation : String) (required : Option String) (current : Option StateProjection)
    (inputs : Inputs) : Except ProfileError Unit := do
  let projection ← requireCurrent current operation
  match required with
  | some key => let _ ← inputStr inputs key
  | none => pure ()
  let balance ← stateAmount projection "balance"
  let amount ← inputAmount inputs "amount"
  requirePositiveAvailable amount balance

def checkCredit : Option StateProjection → Inputs → Except ProfileError Unit := checkAdded "balance.credit"

def checkDebit : Option StateProjection → Inputs → Except ProfileError Unit := checkTaken "balance.debit" none

def checkTransfer : Option StateProjection → Inputs → Except ProfileError Unit :=
  checkTaken "balance.transfer" (some "to_subject")

def checkReserve : Option StateProjection → Inputs → Except ProfileError Unit := checkTaken "balance.reserve" none

def checkRelease : Option StateProjection → Inputs → Except ProfileError Unit := checkAdded "balance.release"

def checkSpend : Option StateProjection → Inputs → Except ProfileError Unit := checkTaken "balance.spend" none

def checkBurn : Option StateProjection → Inputs → Except ProfileError Unit :=
  checkTaken "balance.burn" (some "authorized_by")

def checkConvert : Option StateProjection → Inputs → Except ProfileError Unit :=
  checkTaken "balance.convert" (some "to_unit")

def check : Except ProfileError Unit :=
  if operation ∉ op.all then .error (.unknownOperation operation.name)
  else if operation = op.balanceCreate then checkCreate current inputs
  else if operation = op.balanceMint then checkMint current inputs
  else if operation = op.balanceCredit then checkCredit current inputs
  else if operation = op.balanceDebit then checkDebit current inputs
  else if operation = op.balanceTransfer then checkTransfer current inputs
  else if operation = op.balanceReserve then checkReserve current inputs
  else if operation = op.balanceRelease then checkRelease current inputs
  else if operation = op.balanceSpend then checkSpend current inputs
  else if operation = op.balanceBurn then checkBurn current inputs
  else if operation = op.balanceConvert then checkConvert current inputs
  else .error (.unknownOperation operation.name)

end FungibleBalance

namespace Entitlement

namespace status

def granted : Status := ⟨"granted"⟩
def active : Status := ⟨"active"⟩
def suspended : Status := ⟨"suspended"⟩
def expired : Status := ⟨"expired"⟩
def revoked : Status := ⟨"revoked"⟩

end status

namespace op

def entitlementGrant : Operation := ⟨"entitlement.grant"⟩
def entitlementActivate : Operation := ⟨"entitlement.activate"⟩
def entitlementSuspend : Operation := ⟨"entitlement.suspend"⟩
def entitlementRestore : Operation := ⟨"entitlement.restore"⟩
def entitlementExpire : Operation := ⟨"entitlement.expire"⟩
def entitlementRevoke : Operation := ⟨"entitlement.revoke"⟩
def entitlementTransfer : Operation := ⟨"entitlement.transfer"⟩

def all : List Operation :=
  [entitlementGrant, entitlementActivate, entitlementSuspend, entitlementRestore, entitlementExpire,
    entitlementRevoke, entitlementTransfer]

end op

def checkGrant : Except ProfileError Unit := do
  requireUnborn current "entitlement.grant"
  let _ ← inputStr inputs "subject"
  rejectIf ((inputs.get? "transferable").any fun value => value.asBool.isNone)
    (.invalidInput "`transferable` must be a boolean")

def checkTransfer : Except ProfileError Unit := do
  let projection ← requireFrom current "entitlement.transfer" [status.granted, status.active]
  let transferable ← stateBool projection "transferable"
  rejectIf (¬ transferable) .notTransferable
  let _ ← inputStr inputs "to_subject"
  return ()

def check : Except ProfileError Unit :=
  if operation ∉ op.all then .error (.unknownOperation operation.name)
  else if operation = op.entitlementGrant then checkGrant current inputs
  else if operation = op.entitlementActivate then
    singleFrom current "entitlement.activate" [status.granted]
  else if operation = op.entitlementSuspend then
    singleFrom current "entitlement.suspend" [status.active]
  else if operation = op.entitlementRestore then
    singleFrom current "entitlement.restore" [status.suspended]
  else if operation = op.entitlementExpire then
    singleFrom current "entitlement.expire" [status.granted, status.active, status.suspended]
  else if operation = op.entitlementRevoke then
    singleFrom current "entitlement.revoke" [status.granted, status.active]
  else if operation = op.entitlementTransfer then checkTransfer current inputs
  else .error (.unknownOperation operation.name)

end Entitlement

namespace Meter

namespace op

def meterCreate : Operation := ⟨"meter.create"⟩
def meterConsume : Operation := ⟨"meter.consume"⟩
def meterRefill : Operation := ⟨"meter.refill"⟩
def meterSetMaximum : Operation := ⟨"meter.set_maximum"⟩
def meterReset : Operation := ⟨"meter.reset"⟩
def meterExpire : Operation := ⟨"meter.expire"⟩

def all : List Operation := [meterCreate, meterConsume, meterRefill, meterSetMaximum, meterReset, meterExpire]

end op

def checkCreate : Except ProfileError Unit := do
  requireUnborn current "meter.create"
  let _ ← inputStr inputs "subject"
  let remaining ← inputAmount inputs "remaining"
  let maximum ← inputAmount inputs "maximum"
  rejectIf (maximum < remaining) (.invalidInput "`remaining` must not exceed `maximum`")

def checkConsume : Except ProfileError Unit := do
  let projection ← requireCurrent current "meter.consume"
  let remaining ← stateAmount projection "remaining"
  let amount ← inputAmount inputs "amount"
  requirePositiveAvailable amount remaining

def checkRefill : Except ProfileError Unit := do
  let projection ← requireCurrent current "meter.refill"
  let _ ← stateAmount projection "remaining"
  let _ ← stateAmount projection "maximum"
  return ()

def checkSetMaximum : Except ProfileError Unit := do
  let _ ← requireCurrent current "meter.set_maximum"
  let _ ← inputAmount inputs "maximum"
  return ()

def checkReset : Except ProfileError Unit := do
  let _ ← requireCurrent current "meter.reset"
  return ()

def checkExpire : Except ProfileError Unit := do
  let _ ← requireCurrent current "meter.expire"
  return ()

def check : Except ProfileError Unit :=
  if operation ∉ op.all then .error (.unknownOperation operation.name)
  else if operation = op.meterCreate then checkCreate current inputs
  else if operation = op.meterConsume then checkConsume current inputs
  else if operation = op.meterRefill then checkRefill current
  else if operation = op.meterSetMaximum then checkSetMaximum current inputs
  else if operation = op.meterReset then checkReset current
  else if operation = op.meterExpire then checkExpire current
  else .error (.unknownOperation operation.name)

end Meter

end StateChronicle.Profiles
