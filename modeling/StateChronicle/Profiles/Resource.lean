import StateChronicle.Profiles.Atomicity

/-!
# Execution policies

How a profile addresses its states, gates access to them and extends a transition by a companion.  The defaults
describe a single resource-keyed state; the baseline adds holders, statuses and the credit of a transfer.
-/

namespace StateChronicle.Profiles

open StateChronicle.Core Domain Foundation

/-- Address of a companion mutation. -/
structure StateAddress where
  resource : ResourceId
  subject : Option SubjectId
deriving DecidableEq, Repr

/-- The policy a rule set hands to the executor; field defaults are the default policy. -/
structure ExecutionPolicy where
  validateEvents : List Event → Except ProfileError Unit := fun events =>
    rejectIf (events.length ≠ 1) (.atomicityViolation "profile requires one event per intent")
  primarySubject : Intent → Option SubjectId := fun _ => none
  currentSubject : Intent → Option StateProjection → Option SubjectId := fun _ _ => none
  checkAccess : Intent → Option StateProjection → Except ProfileError Unit := fun _ _ => .ok ()
  validateRoute : Intent → Bool → Except ProfileError Unit := fun _ _ => .ok ()
  unbornState : ResourceState → Except ProfileError ResourceState := fun after =>
    match after with
    | .custom state => .ok (.custom { state with payload := [] })
    | _ => .error (.invalidInput "profile must define its unborn state")
  companionTarget : Intent → Except ProfileError (Option StateAddress) := fun _ => .ok none
  applyCompanion : Intent → StateProjection → Option StateProjection →
      Except ProfileError ResourceState := fun _ _ _ =>
    .error (.invalidInput "profile has no additional transition")

/-- The policy of resource-keyed native domains. -/
def nativeExecution : ExecutionPolicy := {}

theorem subject_eq_of_text {a b : SubjectId} (same : some (Value.string a.name) = some (.string b.name)) : a = b :=
  SubjectId.name_injective (Value.string.inj (Option.some.inj same))

namespace Resource

/-! ## Availability -/

variable {stateType : StateType} (operation : Operation) (current : Option StateProjection) (intent : Intent)
  (inputs : Inputs)

def freeStatuses : List Status := [UniqueAsset.status.active, Entitlement.status.granted]

def terminalStatuses : List Status :=
  [UniqueAsset.status.burned, Marketplace.listingStatus.expired, UniqueAsset.status.tombstoned,
    Entitlement.status.revoked, UniqueAsset.status.redeemed, Marketplace.listingStatus.sold,
    Marketplace.listingStatus.cancelled, Marketplace.escrowStatus.released,
    Marketplace.escrowStatus.refunded]

def exceptionalStatuses : List Status :=
  [UniqueAsset.status.restricted, UniqueAsset.status.quarantined, UniqueAsset.status.unsupported,
    PaidUniqueAsset.exceptionalStatus.legalHold, PaidUniqueAsset.exceptionalStatus.fraudLock,
    PaidUniqueAsset.exceptionalStatus.policyRestricted]

/-- The operations a blocking status still admits. -/
def statusEscapes (status : Status) : List Operation :=
  if status = UniqueAsset.status.locked then
    [UniqueAsset.op.assetUnlock, UniqueAsset.op.assetRestrict, Marketplace.op.escrowRelease,
      Marketplace.op.escrowRefund]
  else if status = UniqueAsset.status.escrowed then
    [UniqueAsset.op.assetRelease, UniqueAsset.op.assetRestrict]
  else if status = UniqueAsset.status.tradeHeld then
    [UniqueAsset.op.tradeUnlock, UniqueAsset.op.tradeSettle, UniqueAsset.op.assetRestrict]
  else if status = UniqueAsset.status.listed then
    [UniqueAsset.op.assetDelist, UniqueAsset.op.assetRedeem, UniqueAsset.op.assetRestrict,
      Marketplace.op.listingBuy, Marketplace.op.listingCancel, Marketplace.op.listingExpire]
  else if status = Entitlement.status.suspended then
    [Entitlement.op.entitlementRestore, Entitlement.op.entitlementExpire]
  else if status = Entitlement.status.granted then
    [Entitlement.op.entitlementActivate, Entitlement.op.entitlementExpire,
      Entitlement.op.entitlementRevoke, Entitlement.op.entitlementTransfer]
  else []

def blocked (current : StateProjection) : ProfileError := .resourceLocked current.resourceId.name

def checkResourceAvailability (current : StateProjection) (operation : Operation) : Except ProfileError Unit :=
  match current.state.status with
  | none => .ok ()
  | some recorded =>
    match Status.tryFromStr recorded.name with
    | .error _ => .error (blocked current)
    | .ok status =>
      if status ∈ freeStatuses then .ok ()
      else if status ∈ terminalStatuses then .error (blocked current)
      else if status ∈ exceptionalStatuses ∧ operation = UniqueAsset.op.assetRestore then .ok ()
      else if operation ∈ statusEscapes status then .ok ()
      else .error (blocked current)

theorem tryFromStr_of_terminal : ∀ status ∈ terminalStatuses, Status.tryFromStr status.name = .ok status := by
  decide

theorem blocked_of_terminal {current : StateProjection} {status : Status}
    (recorded : current.state.status = some status) (terminal : status ∈ terminalStatuses)
    (operation : Operation) : checkResourceAvailability current operation = .error (blocked current) := by
  have occupied : ∀ status ∈ terminalStatuses, status ∉ freeStatuses := by decide
  simp only [checkResourceAvailability, recorded, tryFromStr_of_terminal status terminal,
    if_neg (occupied status terminal), if_pos terminal]

/-- The `from_owner` input, if given, names the owner or the holder. -/
def checkOwner : Except ProfileError Unit :=
  match current with
  | none => .ok ()
  | some projection =>
    match (inputs.get? "from_owner").bind Value.asStr with
    | none => .ok ()
    | some actual =>
      match projection.state.owner.or projection.state.subject with
      | none => .ok ()
      | some expected => rejectIf (actual ≠ expected.name) (.actorMismatch expected.name actual)

/-! ## Addressing -/

/-- The subject of the first index lookup: the actor, for subject-held types. -/
def subjectFor (stateType : StateType) : Option SubjectId :=
  if stateType.subjectHeld then some intent.actor else none

/-- The holder a loaded state records; the actor when there is none. -/
def holderFor (stateType : StateType) : Option SubjectId :=
  if stateType.subjectHeld then
    match current.bind (·.state.subject) with
    | some subject => if subject.name = "" then some intent.actor else some subject
    | none => some intent.actor
  else none

def emptyStateFor : StateType → Except ProfileError ResourceState
  | .uniqueAsset => .ok (.uniqueAsset ⟨⟨""⟩, ⟨"active"⟩, none⟩)
  | .consumableStack => .ok (.consumableStack ⟨⟨""⟩, Amount.zero, ""⟩)
  | .fungibleBalance => .ok (.fungibleBalance ⟨⟨""⟩, Amount.zero, ""⟩)
  | .entitlement => .ok (.entitlement ⟨⟨""⟩, ⟨"active"⟩, false⟩)
  | .meteredResource => .ok (.meteredResource ⟨⟨""⟩, Amount.zero, Amount.zero⟩)
  | .listing => .ok (.listing ⟨⟨""⟩, ⟨"active"⟩⟩)
  | .custom => .error (.invalidInput "custom unborn state requires domain/schema")
  | .escrow => .ok (.escrow ⟨⟨""⟩, ⟨""⟩, ⟨"active"⟩⟩)

theorem stateType_of_emptyStateFor {unborn : ResourceState} (made : emptyStateFor stateType = .ok unborn) :
    unborn.stateType = stateType := by
  cases stateType <;> cases made <;> rfl

def isTransferOperation : Prop :=
  operation = ConsumableStack.op.stackTransfer ∨ operation = FungibleBalance.op.balanceTransfer

instance : Decidable (isTransferOperation operation) :=
  inferInstanceAs (Decidable (operation = ConsumableStack.op.stackTransfer
    ∨ operation = FungibleBalance.op.balanceTransfer))

def destinationHolder : Except ProfileError SubjectId := do
  let subject ← okOr (((inputs.get? "to_subject").bind Value.asStr).filter (· ≠ ""))
    (.invalidInput "missing input `to_subject`")
  return ⟨subject⟩

theorem destinationHolder_eq_ok {inputs : Inputs} {holder : SubjectId} :
    destinationHolder inputs = .ok holder ↔
      inputs.get? "to_subject" = some (.string holder.name) ∧ holder.name ≠ "" := by
  simp only [destinationHolder, Except.bind_eq_ok, okOr_eq_ok, Except.pure_eq_ok,
    Option.filter_eq_some_iff, Option.bind_eq_some_iff]
  constructor
  · rintro ⟨subject, ⟨⟨value, found, isText⟩, nonempty⟩, rfl⟩
    cases value <;> simp_all [Value.asStr]
  · rintro ⟨found, nonempty⟩
    exact ⟨holder.name, ⟨⟨_, found, rfl⟩, by simpa using nonempty⟩, rfl⟩

/-! ## The baseline policy -/

def resourceExecution (stateType : StateType) : ExecutionPolicy where
  validateEvents events :=
    if events.length = 1 then .ok () else Atomicity.validateBatchConsistency events
  primarySubject intent := subjectFor intent stateType
  currentSubject intent current := holderFor current intent stateType
  checkAccess intent current := do
    checkOwner current intent.inputs
    match current with
    | some state => checkResourceAvailability state intent.operation
    | none => return ()
  validateRoute intent coordinated :=
    rejectIf (¬ coordinated ∧ intent.operation = UniqueAsset.op.tradeSettle
      ∧ Atomicity.declaresValueLeg intent) (.valueLegSettleRouting intent.intentId.name)
  unbornState _ := emptyStateFor stateType
  companionTarget intent :=
    if ¬ isTransferOperation intent.operation then .ok none
    else do
      let holder ← destinationHolder intent.inputs
      return some ⟨intent.resourceId, some holder⟩
  applyCompanion intent primary current := Transition.transferAfterState primary current intent.operation intent.inputs

theorem checkAccess_eq_ok {intent : Intent} {current : StateProjection} {u : Unit} :
    (resourceExecution stateType).checkAccess intent (some current) = .ok u ↔
      checkOwner (some current) intent.inputs = .ok () ∧
        checkResourceAvailability current intent.operation = .ok () := by
  simp only [resourceExecution, Except.bind_eq_ok]
  constructor
  · rintro ⟨⟨⟩, owned, available⟩
    exact ⟨owned, available⟩
  · rintro ⟨owned, available⟩
    exact ⟨(), owned, available⟩

theorem companionTarget_eq_ok {intent : Intent} {target : Option StateAddress}
    (targeted : (resourceExecution stateType).companionTarget intent = .ok target) :
    (¬ isTransferOperation intent.operation ∧ target = none) ∨
      (isTransferOperation intent.operation ∧ ∃ holder : SubjectId,
        intent.inputs.get? "to_subject" = some (.string holder.name) ∧ holder.name ≠ "" ∧
        target = some ⟨intent.resourceId, some holder⟩) := by
  simp only [resourceExecution] at targeted
  split_ifs at targeted with transfer
  · simp only [Except.bind_eq_ok, destinationHolder_eq_ok, Except.pure_eq_ok] at targeted
    obtain ⟨holder, ⟨named, nonempty⟩, rfl⟩ := targeted
    exact .inr ⟨transfer, holder, named, nonempty, rfl⟩
  · cases targeted
    exact .inl ⟨transfer, rfl⟩

/-- The policy of a state type: the baseline one, and the native one for custom domains. -/
def policy : StateType → ExecutionPolicy
  | .custom => nativeExecution
  | stateType => resourceExecution stateType

theorem policy_of_ne_custom (native : stateType ≠ .custom) : policy stateType = resourceExecution stateType := by
  cases stateType <;> first | rfl | exact absurd rfl native

end Resource

end StateChronicle.Profiles
