import StateChronicle.Profiles.Readers

/-!
# Listings and escrows

The marketplace rule sets: both resources are created once and leave their single live status for
a terminal one.
-/

namespace StateChronicle.Profiles.Marketplace

open Domain Foundation

namespace listingStatus

def listed : Status := ⟨"listed"⟩
def cancelled : Status := ⟨"cancelled"⟩
def sold : Status := ⟨"sold"⟩
def expired : Status := ⟨"expired"⟩

end listingStatus

namespace escrowStatus

def locked : Status := ⟨"locked"⟩
def released : Status := ⟨"released"⟩
def refunded : Status := ⟨"refunded"⟩

end escrowStatus

namespace op

def listingCreate : Operation := ⟨"listing.create"⟩
def listingCancel : Operation := ⟨"listing.cancel"⟩
def listingBuy : Operation := ⟨"listing.buy"⟩
def listingExpire : Operation := ⟨"listing.expire"⟩
def escrowLock : Operation := ⟨"escrow.lock"⟩
def escrowRelease : Operation := ⟨"escrow.release"⟩
def escrowRefund : Operation := ⟨"escrow.refund"⟩

def listingOperations : List Operation := [listingCreate, listingCancel, listingBuy, listingExpire]

def escrowOperations : List Operation := [escrowLock, escrowRelease, escrowRefund]

end op

variable (current : Option StateProjection) (inputs : Inputs)

def checkListingCreate : Except ProfileError Unit := do
  requireUnborn current "listing.create"
  let _ ← inputStr inputs "seller"
  return ()

def checkListingBuy : Except ProfileError Unit := do
  let _ ← requireFrom current "listing.buy" [listingStatus.listed]
  let _ ← inputStr inputs "buyer"
  return ()

def checkListing (operation : Operation) (current : Option StateProjection) (inputs : Inputs) :
    Except ProfileError Unit :=
  if operation ∉ op.listingOperations then .error (.unknownOperation operation.name)
  else if operation = op.listingCreate then checkListingCreate current inputs
  else if operation = op.listingCancel then
    singleFrom current "listing.cancel" [listingStatus.listed]
  else if operation = op.listingBuy then checkListingBuy current inputs
  else if operation = op.listingExpire then
    singleFrom current "listing.expire" [listingStatus.listed]
  else .error (.unknownOperation operation.name)

def checkEscrowLock : Except ProfileError Unit := do
  requireUnborn current "escrow.lock"
  let _ ← inputStr inputs "buyer"
  let _ ← inputStr inputs "seller"
  return ()

def checkEscrow (operation : Operation) (current : Option StateProjection) (inputs : Inputs) :
    Except ProfileError Unit :=
  if operation ∉ op.escrowOperations then .error (.unknownOperation operation.name)
  else if operation = op.escrowLock then checkEscrowLock current inputs
  else if operation = op.escrowRelease then
    singleFrom current "escrow.release" [escrowStatus.locked]
  else if operation = op.escrowRefund then
    singleFrom current "escrow.refund" [escrowStatus.locked]
  else .error (.unknownOperation operation.name)

end StateChronicle.Profiles.Marketplace
