import StateChronicle.Profiles.Resource

/-!
# The profile registry

A rule set per state type; custom domains are found by the profile and schema an intent names.
-/

namespace StateChronicle.Profiles

open Domain Foundation

variable {inputs : Inputs} {id : ProfileId} {schema : U32} {u : Unit}

/-- A rule set; field defaults are those of the trait. -/
structure ProfileRules where
  stateType : StateType
  profileId : String
  allowedOperations : List Operation
  check : Operation → Option StateProjection → Inputs → Except ProfileError Unit
  executionPolicy : ExecutionPolicy := Resource.policy stateType
  apply : Option StateProjection → Operation → Inputs → Except ProfileError ResourceState :=
    Transition.apply
  schemaVersion : U32 := 0
  validateRegistration : Except ProfileError Unit := .ok ()
  requiresAuthority : Operation → Bool := fun _ => false
  authorityPolicy : Operation → AggregationPolicy := fun _ => .requireAll

def uniqueAssetRules : ProfileRules where
  stateType := .uniqueAsset
  profileId := "unique_asset"
  allowedOperations := UniqueAsset.op.all
  check := UniqueAsset.check
  requiresAuthority operation := operation ∈ UniqueAsset.op.authorityRequired

def paidUniqueAssetRules : ProfileRules where
  stateType := .uniqueAsset
  profileId := "paid_unique_asset"
  allowedOperations := PaidUniqueAsset.op.all
  check := PaidUniqueAsset.check
  requiresAuthority operation := operation ∈ PaidUniqueAsset.op.authorityRequired

def consumableStackRules : ProfileRules where
  stateType := .consumableStack
  profileId := "consumable_stack"
  allowedOperations := ConsumableStack.op.all
  check := ConsumableStack.check

def fungibleBalanceRules : ProfileRules where
  stateType := .fungibleBalance
  profileId := "fungible_balance"
  allowedOperations := FungibleBalance.op.all
  check := FungibleBalance.check

def entitlementRules : ProfileRules where
  stateType := .entitlement
  profileId := "entitlement"
  allowedOperations := Entitlement.op.all
  check := Entitlement.check

def meterRules : ProfileRules where
  stateType := .meteredResource
  profileId := "meter"
  allowedOperations := Meter.op.all
  check := Meter.check

def listingRules : ProfileRules where
  stateType := .listing
  profileId := "listing"
  allowedOperations := Marketplace.op.listingOperations
  check := Marketplace.checkListing

def escrowRules : ProfileRules where
  stateType := .escrow
  profileId := "escrow"
  allowedOperations := Marketplace.op.escrowOperations
  check := Marketplace.checkEscrow

structure ProfileRegistry where
  custom : List ProfileRules
  uniqueAsset : ProfileRules
  consumableStack : ProfileRules
  fungibleBalance : ProfileRules
  entitlement : ProfileRules
  meteredResource : ProfileRules
  listing : ProfileRules
  escrow : ProfileRules
  paidUniqueAsset : ProfileRules

variable {registered : List ProfileRules} {registry : ProfileRegistry}

namespace ProfileRegistry

def baseline : ProfileRegistry where
  custom := []
  uniqueAsset := uniqueAssetRules
  consumableStack := consumableStackRules
  fungibleBalance := fungibleBalanceRules
  entitlement := entitlementRules
  meteredResource := meterRules
  listing := listingRules
  escrow := escrowRules
  paidUniqueAsset := paidUniqueAssetRules

def get (registry : ProfileRegistry) : StateType → Option ProfileRules
  | .uniqueAsset => some registry.uniqueAsset
  | .consumableStack => some registry.consumableStack
  | .fungibleBalance => some registry.fungibleBalance
  | .entitlement => some registry.entitlement
  | .meteredResource => some registry.meteredResource
  | .listing => some registry.listing
  | .escrow => some registry.escrow
  | .custom => none

def validProfileId (name : String) : Except ProfileError ProfileId :=
  (ProfileId.new name).mapError fun error => ProfileError.invalidInput error.toString

/-- The checks on one custom rule set against those registered before it. -/
def checkCustom (earlier : List ProfileRules) (rules : ProfileRules) : Except ProfileError Unit := do
  rules.validateRegistration
  let id ← validProfileId rules.profileId
  rejectIf (rules.stateType ≠ .custom ∨ rules.schemaVersion = 0 ∨ rules.allowedOperations = [])
    (.invalidInput "invalid custom profile")
  rules.allowedOperations.forM fun operation => do
    let _ ← (Operation.new operation.name).mapError fun error =>
      ProfileError.invalidInput error.toString
    rejectIf (operation.stateTypeHint.isSome) (.invalidInput "reserved operation prefix")
  earlier.forM fun other => do
    let otherId ← validProfileId other.profileId
    rejectIf (otherId = id ∧ other.schemaVersion = rules.schemaVersion)
      (.invalidInput "duplicate domain/schema")
    rejectIf (otherId ≠ id ∧ other.allowedOperations.any fun operation =>
        operation ∈ rules.allowedOperations)
      (.invalidInput "operation shared by different domains")

/-- Composes custom rule sets over the baseline, in registration order. -/
def withCustom (custom : List ProfileRules) : Except ProfileError ProfileRegistry := do
  (custom.zipIdx).forM fun entry => checkCustom (custom.take entry.2) entry.1
  return { baseline with custom }

def withUniqueAsset (rules : ProfileRules) : ProfileRegistry := { baseline with uniqueAsset := rules }

/-- The registered rule set for a domain and schema, in registration order. -/
def findCustom (id : ProfileId) (schema : U32) : List ProfileRules → Except ProfileError ProfileRules
  | [] => .error (.invalidInput "unregistered domain/schema")
  | rules :: rest => do
    let registeredId ← validProfileId rules.profileId
    if registeredId = id ∧ rules.schemaVersion = schema then return rules
    else findCustom id schema rest

def schemaInput (inputs : Inputs) : Option U32 := do
  let value ← (inputs.get? "schema_version").bind Value.asU64
  if fits : value.val < 2 ^ 32 then some ⟨value.val, fits⟩ else none

def resolve (registry : ProfileRegistry) (stateType : StateType) (inputs : Inputs) : Except ProfileError ProfileRules :=
  if stateType ≠ .custom then okOr (registry.get stateType) (.invalidInput "unknown state type")
  else do
    let name ← inputStr inputs "profile"
    let id ← validProfileId name
    let schema ← okOr (schemaInput inputs) (.invalidInput "invalid schema_version")
    findCustom id schema registry.custom

end ProfileRegistry

/-! ## The rule sets a registry serves -/

/-- The operations of unique assets whose names have no reserved prefix. -/
def tradeOperations : List Operation :=
  [UniqueAsset.op.tradeLock, UniqueAsset.op.tradeSettle, UniqueAsset.op.tradeUnlock]

/-- The built-in rule sets by the state type they serve. -/
inductive Builtin : StateType → ProfileRules → Prop
  | uniqueAsset : Builtin .uniqueAsset uniqueAssetRules
  | paidUniqueAsset : Builtin .uniqueAsset paidUniqueAssetRules
  | consumableStack : Builtin .consumableStack consumableStackRules
  | fungibleBalance : Builtin .fungibleBalance fungibleBalanceRules
  | entitlement : Builtin .entitlement entitlementRules
  | meteredResource : Builtin .meteredResource meterRules
  | listing : Builtin .listing listingRules
  | escrow : Builtin .escrow escrowRules

namespace Builtin

variable {stateType : StateType} {rules : ProfileRules} {operation : Operation}

theorem mem_of_guarded {listed : List Operation} {error : ProfileError} {rest : Except ProfileError Unit}
    (checked : (if operation ∉ listed then .error error else rest) = .ok u) : operation ∈ listed := by
  by_contra unlisted
  rw [if_pos unlisted] at checked
  cases checked

variable (builtin : Builtin stateType rules)

include builtin

theorem executionPolicy_eq : rules.executionPolicy = Resource.resourceExecution stateType := by
  cases builtin <;> rfl

theorem eq_entitlementRules (typed : stateType = .entitlement) : rules = entitlementRules := by
  subst typed
  cases builtin
  rfl

theorem eq_meterRules (typed : stateType = .meteredResource) : rules = meterRules := by
  subst typed
  cases builtin
  rfl

theorem apply_eq : rules.apply = Transition.apply := by
  cases builtin <;> rfl

theorem mem_allowedOperations {current : Option StateProjection}
    (checked : rules.check operation current inputs = .ok u) : operation ∈ rules.allowedOperations := by
  cases builtin with
  | paidUniqueAsset =>
    have plain : UniqueAsset.op.all ⊆ PaidUniqueAsset.op.all := by decide
    change PaidUniqueAsset.check operation current inputs = .ok u at checked
    by_cases hardDelete : operation = PaidUniqueAsset.op.assetHardDelete
    · rw [hardDelete]
      decide
    by_cases restore : operation = UniqueAsset.op.assetRestore
    · rw [restore]
      decide
    rw [PaidUniqueAsset.check, if_neg hardDelete, if_neg restore] at checked
    exact plain (mem_of_guarded checked)
  | uniqueAsset | consumableStack | fungibleBalance | entitlement | meteredResource | listing | escrow =>
    exact mem_of_guarded checked

variable (listed : operation ∈ rules.allowedOperations)

include listed

/-- An operation of a built-in rule set is named after its state type, unless it is one of a trade in an asset. -/
theorem named_or_trades :
    operation.stateTypeHint = some stateType ∨ stateType = .uniqueAsset ∧ operation ∈ tradeOperations := by
  have all : ∀ operation ∈ rules.allowedOperations,
      operation.stateTypeHint = some stateType ∨ stateType = .uniqueAsset ∧ operation ∈ tradeOperations := by
    cases builtin <;> decide +kernel
  exact all operation listed

theorem hinted : operation.stateTypeHint = some stateType ∨ operation ∈ tradeOperations :=
  (builtin.named_or_trades listed).imp_right And.right

theorem eq_of_stateTypeHint {hinted : StateType} (hint : operation.stateTypeHint = some hinted) :
    hinted = stateType := by
  rcases builtin.hinted listed with own | trade
  · exact Option.some.inj (hint.symm.trans own)
  · have unreserved : ∀ operation ∈ tradeOperations, operation.stateTypeHint = none := by decide
    rw [unreserved operation trade] at hint
    cases hint

end Builtin

/-- A registry whose slots are the built-in rule sets, the paid overlay included, and whose custom
domains passed registration. -/
structure ProfileRegistry.Standard (registry : ProfileRegistry) : Prop where
  builtin : ∀ {stateType rules}, registry.get stateType = some rules → Builtin stateType rules
  custom : ∀ rules ∈ registry.custom, rules.stateType = .custom ∧
    ∀ operation ∈ rules.allowedOperations, operation.stateTypeHint = none

/-- Custom domains keep the execution policy the trait gives them. -/
def ProfileRegistry.NativeDomains (registry : ProfileRegistry) : Prop :=
  ∀ rules ∈ registry.custom, rules.executionPolicy = nativeExecution

/-- Custom domains have a schema version, as their registration asks. -/
def ProfileRegistry.Versioned (registry : ProfileRegistry) : Prop := ∀ rules ∈ registry.custom, rules.schemaVersion ≠ 0

namespace ProfileRegistry

theorem versioned_baseline : baseline.Versioned := by
  simp [Versioned, baseline]

theorem nativeDomains_baseline : baseline.NativeDomains := by
  simp [NativeDomains, baseline]

variable {rules : ProfileRules}

theorem builtin_of_get_baseline {stateType : StateType} (served : baseline.get stateType = some rules) :
    Builtin stateType rules := by
  cases stateType <;> cases served <;> constructor

theorem standard_baseline : baseline.Standard := ⟨builtin_of_get_baseline, by simp [baseline]⟩

theorem standard_withUniqueAsset_paid : (withUniqueAsset paidUniqueAssetRules).Standard := by
  refine ⟨fun {stateType rules} served => ?_, by simp [withUniqueAsset, baseline]⟩
  cases stateType <;> cases served <;> constructor

theorem mem_of_findCustom (found : findCustom id schema registered = .ok rules) : rules ∈ registered := by
  induction registered with
  | nil => cases found
  | cons first rest ih =>
    simp only [findCustom, Except.bind_eq_ok] at found
    obtain ⟨registeredId, -, found⟩ := found
    split at found
    · rw [Except.pure_eq_ok] at found
      exact found ▸ List.mem_cons_self
    · exact List.mem_cons_of_mem _ (ih found)

/-- Resolution serves a slot for a built-in type and a registered rule set for a custom domain. -/
theorem resolve_cases {stateType : StateType} (resolved : registry.resolve stateType inputs = .ok rules) :
    (stateType ≠ .custom ∧ registry.get stateType = some rules) ∨ (stateType = .custom ∧ rules ∈ registry.custom) := by
  unfold resolve at resolved
  split at resolved
  case isTrue builtin => exact .inl ⟨builtin, okOr_eq_ok.mp resolved⟩
  case isFalse custom =>
      simp only [Except.bind_eq_ok] at resolved
      obtain ⟨-, -, id, -, schema, -, found⟩ := resolved
      exact .inr ⟨not_not.mp custom, mem_of_findCustom found⟩

theorem identity_of_findCustom (found : findCustom id schema registered = .ok rules) :
    validProfileId rules.profileId = .ok id ∧ rules.schemaVersion = schema := by
  induction registered with
  | nil => cases found
  | cons first rest ih =>
    simp only [findCustom, Except.bind_eq_ok] at found
    obtain ⟨registeredId, valid, found⟩ := found
    split at found
    case isTrue same =>
      rw [Except.pure_eq_ok] at found
      subst found
      exact ⟨same.1 ▸ valid, same.2⟩
    case isFalse => exact ih found

theorem identity_of_resolve (resolved : registry.resolve .custom inputs = .ok rules) :
    inputs.get? "profile" = some (.string rules.profileId) ∧
      ((inputs.get? "schema_version").bind Value.asU64).map Fin.val = some rules.schemaVersion.val := by
  simp only [resolve, ne_eq, not_true_eq_false, if_false, Except.bind_eq_ok, inputStr_eq_ok, okOr_eq_ok,
    validProfileId, Except.mapError_eq_ok, schemaInput, Option.bind_eq_bind, Option.bind_eq_some_iff] at resolved
  obtain ⟨name, ⟨named, -⟩, id, valid, schema, ⟨value, ⟨text, given, read⟩, fits⟩, found⟩ := resolved
  obtain ⟨registered, version⟩ := identity_of_findCustom found
  rw [validProfileId, Except.mapError_eq_ok] at registered
  rw [named, name_of_new registered, name_of_new valid, given, Option.bind_some, read, version]
  split at fits
  · cases fits
    exact ⟨rfl, rfl⟩
  · cases fits

end ProfileRegistry

end StateChronicle.Profiles
