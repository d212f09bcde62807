import StateChronicle.Profiles.Readers

/-!
# Unique assets

The unique asset transition table and the paid overlay, which asks for the owner's consent where
the plain rules do not.
-/

namespace StateChronicle.Profiles

open Domain Foundation

variable (operation : Operation) (current : Option StateProjection) (inputs : Inputs)

namespace UniqueAsset

namespace status

def active : Status := ⟨"active"⟩
def locked : Status := ⟨"locked"⟩
def listed : Status := ⟨"listed"⟩
def escrowed : Status := ⟨"escrowed"⟩
def redeemed : Status := ⟨"redeemed"⟩
def burned : Status := ⟨"burned"⟩
def tradeHeld : Status := ⟨"trade_held"⟩
def restricted : Status := ⟨"restricted"⟩
def quarantined : Status := ⟨"quarantined"⟩
def unsupported : Status := ⟨"unsupported"⟩
def tombstoned : Status := ⟨"tombstoned"⟩

end status

namespace op

def assetMint : Operation := ⟨"asset.mint"⟩
def assetTransfer : Operation := ⟨"asset.transfer"⟩
def assetBurn : Operation := ⟨"asset.burn"⟩
def assetLock : Operation := ⟨"asset.lock"⟩
def assetUnlock : Operation := ⟨"asset.unlock"⟩
def assetRedeem : Operation := ⟨"asset.redeem"⟩
def assetList : Operation := ⟨"asset.list"⟩
def assetDelist : Operation := ⟨"asset.delist"⟩
def assetEscrow : Operation := ⟨"asset.escrow"⟩
def assetRelease : Operation := ⟨"asset.release"⟩
def assetAttachContent : Operation := ⟨"asset.attach_content"⟩
def assetDetachContent : Operation := ⟨"asset.detach_content"⟩
def assetUpdateMetadata : Operation := ⟨"asset.update_metadata"⟩
def assetRestrict : Operation := ⟨"asset.restrict"⟩
def assetRestore : Operation := ⟨"asset.restore"⟩
def tradeLock : Operation := ⟨"trade.lock"⟩
def tradeUnlock : Operation := ⟨"trade.unlock"⟩
def tradeSettle : Operation := ⟨"trade.settle"⟩

def all : List Operation :=
  [assetMint, assetTransfer, assetBurn, assetLock, assetUnlock, assetRedeem, assetList, assetDelist,
    assetEscrow, assetRelease, assetAttachContent, assetDetachContent, assetUpdateMetadata,
    assetRestrict, assetRestore, tradeLock, tradeUnlock, tradeSettle]

def authorityRequired : List Operation := [assetTransfer, assetBurn, tradeSettle]

end op

def checkMint : Except ProfileError Unit :=
  match current with
  | some projection => do
    let fromState ← stateStr projection "status"
    throw (.invalidTransition fromState "asset.mint")
  | none => do
    let _ ← inputStr inputs "to_owner"
    return ()

def checkTransfer : Except ProfileError Unit := do
  let projection ← requireFrom current "asset.transfer" [status.active]
  let fromOwner ← inputStr inputs "from_owner"
  let _ ← inputStr inputs "to_owner"
  let owner ← stateStr projection "owner"
  rejectIf (fromOwner ≠ owner) (.ownershipMismatch owner fromOwner)

def checkBurn : Except ProfileError Unit := do
  let projection ← requireFrom current "asset.burn" [status.active]
  let fromOwner ← inputStr inputs "from_owner"
  let owner ← stateStr projection "owner"
  rejectIf (fromOwner ≠ owner) (.ownershipMismatch owner fromOwner)

def checkTradeLock : Except ProfileError Unit := do
  let projection ← requireFrom current "trade.lock" [status.active]
  let fromOwner ← inputStr inputs "from_owner"
  let _ ← inputStr inputs "trade_id"
  let owner ← stateStr projection "owner"
  rejectIf (fromOwner ≠ owner) (.ownershipMismatch owner fromOwner)

def checkTradeUnlock : Except ProfileError Unit := do
  let projection ← requireFrom current "trade.unlock" [status.tradeHeld]
  let tradeId ← inputStr inputs "trade_id"
  let stored ← stateTradeId projection
  rejectIf (tradeId ≠ stored) (.invalidInput s!"trade_id `{tradeId}` does not match stored trade_id")

/-- A value leg is declared by any of its three inputs and must then be complete. -/
def checkValueLeg : Except ProfileError Unit :=
  let declared := (inputs.get? "value_resource").isSome || (inputs.get? "value_amount").isSome
    || (inputs.get? "value_to_subject").isSome
  if ¬ declared then .ok ()
  else do
    let _ ← inputStr inputs "value_resource"
    let _ ← inputAmount inputs "value_amount"
    let _ ← inputStr inputs "value_to_subject"
    return ()

def checkTradeSettle : Except ProfileError Unit := do
  let projection ← requireFrom current "trade.settle" [status.tradeHeld]
  let fromOwner ← inputStr inputs "from_owner"
  let _ ← inputStr inputs "to_owner"
  let tradeId ← inputStr inputs "trade_id"
  checkValueLeg inputs
  let owner ← stateStr projection "owner"
  let stored ← stateTradeId projection
  rejectIf (fromOwner ≠ owner) (.ownershipMismatch owner fromOwner)
  rejectIf (tradeId ≠ stored) (.invalidInput s!"trade_id `{tradeId}` does not match stored trade_id")

def restrictFrom : List Status := [status.active, status.locked, status.listed, status.escrowed, status.tradeHeld]

def check : Except ProfileError Unit :=
  if operation ∉ op.all then .error (.unknownOperation operation.name)
  else if operation = op.assetMint then checkMint current inputs
  else if operation = op.assetTransfer then checkTransfer current inputs
  else if operation = op.assetBurn then checkBurn current inputs
  else if operation = op.assetLock then singleFrom current "asset.lock" [status.active]
  else if operation = op.assetUnlock then singleFrom current "asset.unlock" [status.locked]
  else if operation = op.assetList then singleFrom current "asset.list" [status.active]
  else if operation = op.assetDelist then singleFrom current "asset.delist" [status.listed]
  else if operation = op.assetEscrow then singleFrom current "asset.escrow" [status.active]
  else if operation = op.assetRelease then singleFrom current "asset.release" [status.escrowed]
  else if operation = op.assetRedeem then singleFrom current "asset.redeem" [status.listed]
  else if operation = op.assetAttachContent then
    singleFrom current "asset.attach_content" [status.active]
  else if operation = op.assetDetachContent then
    singleFrom current "asset.detach_content" [status.active]
  else if operation = op.assetUpdateMetadata then
    singleFrom current "asset.update_metadata" [status.active]
  else if operation = op.assetRestrict then singleFrom current "asset.restrict" restrictFrom
  else if operation = op.assetRestore then
    singleFrom current "asset.restore" [status.restricted, status.quarantined, status.unsupported]
  else if operation = op.tradeLock then checkTradeLock current inputs
  else if operation = op.tradeUnlock then checkTradeUnlock current inputs
  else if operation = op.tradeSettle then checkTradeSettle current inputs
  else .error (.unknownOperation operation.name)

end UniqueAsset

namespace PaidUniqueAsset

open UniqueAsset

namespace exceptionalStatus

def legalHold : Status := ⟨"legal_hold"⟩
def fraudLock : Status := ⟨"fraud_lock"⟩
def policyRestricted : Status := ⟨"policy_restricted"⟩

end exceptionalStatus

namespace op

def assetHardDelete : Operation := ⟨"asset.hard_delete"⟩

def all : List Operation :=
  [UniqueAsset.op.assetMint, UniqueAsset.op.assetTransfer, UniqueAsset.op.assetBurn,
    UniqueAsset.op.assetLock, UniqueAsset.op.assetUnlock, UniqueAsset.op.assetRedeem,
    UniqueAsset.op.assetList, UniqueAsset.op.assetDelist, UniqueAsset.op.assetEscrow,
    UniqueAsset.op.assetRelease, UniqueAsset.op.assetAttachContent, UniqueAsset.op.assetDetachContent,
    UniqueAsset.op.assetUpdateMetadata, UniqueAsset.op.assetRestrict, UniqueAsset.op.assetRestore,
    assetHardDelete, UniqueAsset.op.tradeLock, UniqueAsset.op.tradeUnlock, UniqueAsset.op.tradeSettle]

def authorityRequired : List Operation :=
  [UniqueAsset.op.assetTransfer, UniqueAsset.op.assetBurn, assetHardDelete,
    UniqueAsset.op.assetRestrict, UniqueAsset.op.assetRestore, UniqueAsset.op.tradeSettle]

end op

def exceptionalStatuses : List Status :=
  [status.restricted, status.quarantined, status.unsupported, exceptionalStatus.legalHold,
    exceptionalStatus.fraudLock, exceptionalStatus.policyRestricted]

def ownerConsents : Prop := (inputs.get? "authorized_by_owner").bind Value.asBool = some true

instance : Decidable (ownerConsents inputs) :=
  inferInstanceAs (Decidable ((inputs.get? "authorized_by_owner").bind Value.asBool = some true))

def checkHardDelete : Except ProfileError Unit := do
  let projection ← requireCurrent current "asset.hard_delete"
  let owner ← stateStr projection "owner"
  let actor ← inputStr inputs "actor"
  rejectIf (actor ≠ owner) (.ownershipMismatch owner actor)
  rejectIf (¬ ownerConsents inputs) .hardDeleteForbidden

/-- Another actor than the owner needs the owner's consent; no `actor` input, no question. -/
def checkOwnerConsentOverlay (operation : String) (allowedFrom : List Status) : Except ProfileError Unit := do
  let projection ← requireFrom current operation allowedFrom
  let owner ← stateStr projection "owner"
  match (inputs.get? "actor").bind Value.asStr with
  | none => return ()
  | some actor =>
    rejectIf (actor ≠ owner ∧ ¬ ownerConsents inputs) (.ownershipMismatch owner actor)

def checkTransferOverlay : Except ProfileError Unit :=
  checkOwnerConsentOverlay current inputs "asset.transfer" [status.active]

def checkTradeLockOverlay : Except ProfileError Unit :=
  checkOwnerConsentOverlay current inputs "trade.lock" [status.active]

def checkTradeSettleOverlay : Except ProfileError Unit :=
  checkOwnerConsentOverlay current inputs "trade.settle" [status.tradeHeld]

def checkRestrictOverlay : Except ProfileError Unit := do
  let projection ← requireFrom current "asset.restrict" restrictFrom
  let owner ← stateStr projection "owner"
  match (inputs.get? "owner").bind Value.asStr with
  | some provided => rejectIf (provided ≠ owner) (.ownershipMismatch owner provided)
  | none => pure ()
  match (inputs.get? "status").bind Value.asStr with
  | none => return ()
  | some target => do
    let targetStatus ← (Status.tryFromStr target).mapError fun _ =>
      ProfileError.invalidInput s!"`status` `{target}` is not an exceptional status"
    rejectIf (targetStatus ∉ exceptionalStatuses)
      (.invalidInput s!"`status` `{target}` is not an exceptional status")

def checkPaidRestore : Except ProfileError Unit :=
  singleFrom current "asset.restore"
    [status.restricted, status.quarantined, status.unsupported, exceptionalStatus.legalHold,
      exceptionalStatus.fraudLock, exceptionalStatus.policyRestricted]

def check : Except ProfileError Unit :=
  if operation = op.assetHardDelete then checkHardDelete current inputs
  else if operation = UniqueAsset.op.assetRestore then checkPaidRestore current
  else if operation ∉ UniqueAsset.op.all then .error (.unknownOperation operation.name)
  else do
    UniqueAsset.check operation current inputs
    if operation = UniqueAsset.op.assetTransfer then checkTransferOverlay current inputs
    else if operation = UniqueAsset.op.assetRestrict then checkRestrictOverlay current inputs
    else if operation = UniqueAsset.op.tradeLock then checkTradeLockOverlay current inputs
    else if operation = UniqueAsset.op.tradeSettle then checkTradeSettleOverlay current inputs
    else return ()

end PaidUniqueAsset

namespace UniqueAsset

theorem stateTradeId_eq_ok {projection : StateProjection} {tradeId : String} :
    stateTradeId projection = .ok tradeId ↔
      ∃ asset, projection.state = .uniqueAsset asset ∧ asset.tradeId = some tradeId := by
  unfold stateTradeId
  split
  · rename_i asset isAsset
    simp [isAsset]
  · rename_i notAsset
    simp only [Except.throw_ne_ok, false_iff, not_exists, not_and]
    intro asset isAsset
    exact absurd isAsset (notAsset asset)

/-- An accepted settlement acts on a held asset whose trade is the one the intent names. -/
theorem settles_held_trade {current : Option StateProjection} {inputs : Inputs} {u : Unit}
    (accepted : checkTradeSettle current inputs = .ok u) :
    ∃ projection asset tradeId, current = some projection ∧ projection.state = .uniqueAsset asset ∧
      asset.tradeId = some tradeId ∧ inputs.get? "trade_id" = some (.string tradeId) := by
  simp only [checkTradeSettle, Except.bind_eq_ok, inputStr_eq_ok, stateTradeId_eq_ok,
    rejectIf_eq_ok, not_not] at accepted
  obtain ⟨projection, source, fromOwner, -, toOwner, -, tradeId, ⟨named, -⟩, -, -, owner, -, stored,
    ⟨asset, isAsset, held⟩, -, -, same⟩ := accepted
  exact ⟨projection, asset, stored, current_of_requireFrom source, isAsset, held, same ▸ named⟩

end UniqueAsset

end StateChronicle.Profiles
