import StateChronicle.Execution.Harness
import StateChronicle.Profiles.CheckedReducers

/-!
# Checks that suffice

What a built-in rule set has checked, its reducer can do: for a state of the rule set's type it never runs into an
error of its own, except that a credit can be more than an amount can record.
-/

namespace StateChronicle.Verified

open StateChronicle.Core Domain Execution Profiles

/-- The operation credits a holding beyond what an amount can record. -/
def CreditOverflows (current : Option StateProjection) (operation : Operation) (inputs : Inputs) : Prop :=
  ∃ kind : HoldingKind, kind.Overflows current operation inputs

section Reducers

variable {stateType : StateType} {rules : ProfileRules} {operation : Operation} {current : Option StateProjection}
  {inputs : Inputs} {u : Unit}

/-- What opens a resource is named after its type. -/
theorem hint_of_unborn (builtin : Builtin stateType rules) (checked : rules.check operation none inputs = .ok u) :
    operation.stateTypeHint = some stateType := by
  rcases builtin.named_or_trades (builtin.mem_allowedOperations checked) with own | ⟨asset, -⟩
  · exact own
  subst asset
  -- the operations of a trade need an asset that is there
  have minted (checked : UniqueAsset.check operation none inputs = .ok ()) :
      operation.stateTypeHint = some .uniqueAsset := by
    by_cases mints : operation = UniqueAsset.op.assetMint
    · rw [mints]
      decide
    · obtain ⟨_, present⟩ := UniqueAsset.exists_of_check checked mints
      cases present
  cases builtin with
  | uniqueAsset => exact minted checked
  | paidUniqueAsset =>
    replace checked : PaidUniqueAsset.check operation none inputs = .ok u := checked
    by_cases hardDelete : operation = PaidUniqueAsset.op.assetHardDelete
    · subst hardDelete
      obtain ⟨_, _, present, -⟩ := UniqueAsset.consent_of_hardDelete checked
      cases present
    by_cases restore : operation = UniqueAsset.op.assetRestore
    · subst restore
      replace checked : PaidUniqueAsset.checkPaidRestore none = .ok u := checked
      obtain ⟨_, present⟩ := exists_of_singleFrom checked
      cases present
    · exact minted (UniqueAsset.plain_of_paid checked hardDelete restore)

theorem apply_of_check (builtin : Builtin stateType rules) (checked : rules.check operation current inputs = .ok u)
    (typed : ∀ projection, current = some projection → projection.stateType = stateType) :
    rules.apply current operation inputs = Transition.applyTyped current operation inputs stateType := by
  rw [builtin.apply_eq, Transition.apply]
  cases current with
  | none =>
    rw [Transition.stateTypeOf, hint_of_unborn builtin checked]
    rfl
  | some projection =>
    rw [Transition.stateTypeOf, typed projection rfl]
    rfl

theorem hint_of_additions (kind : HoldingKind) :
    ∀ operation ∈ kind.additions, operation.stateTypeHint = some kind.stateType := by
  cases kind <;> decide

section

variable (builtin : Builtin stateType rules) (checked : rules.check operation current inputs = .ok u)

include builtin checked

/-- Only holdings are credited. -/
theorem kind_of_overflows {kind : HoldingKind} (overflows : kind.Overflows current operation inputs) :
    kind.stateType = stateType :=
  builtin.eq_of_stateTypeHint (builtin.mem_allowedOperations checked)
    (hint_of_additions kind operation overflows.1)

theorem creditOverflows_iff {kind : HoldingKind} (same : kind.stateType = stateType) :
    CreditOverflows current operation inputs ↔ kind.Overflows current operation inputs := by
  refine ⟨fun ⟨other, overflows⟩ => ?_, fun overflows => ⟨kind, overflows⟩⟩
  have otherType := kind_of_overflows builtin checked overflows
  suffices same : other = kind by rwa [same] at overflows
  cases kind <;> cases other <;> first | rfl | cases same.trans otherType.symm

theorem not_creditOverflows (neither : stateType ≠ .consumableStack ∧ stateType ≠ .fungibleBalance) :
    ¬ CreditOverflows current operation inputs := by
  rintro ⟨kind, overflows⟩
  have same := kind_of_overflows builtin checked overflows
  cases kind with
  | stack => exact neither.1 same.symm
  | balance => exact neither.2 same.symm

end

/-- After a built-in check of a plain state of its type, or of none, the reducer returns a state of that type,
unless a credit overflows. -/
theorem checks_suffice_iff (builtin : Builtin stateType rules)
    (matching : ∀ projection, current = some projection →
      projection.stateType = stateType ∧ projection.state.stateType = stateType ∧ Plain projection.state)
    (unnamed : operation = UniqueAsset.op.assetRestrict → inputs.get? "status" = none)
    (checked : rules.check operation current inputs = .ok u) :
    Succeeds stateType (rules.apply current operation inputs) ↔ ¬ CreditOverflows current operation inputs := by
  rw [apply_of_check builtin checked fun projection present => (matching projection present).1]
  have plain : PlainlyRecorded stateType current := fun projection present => (matching projection present).2
  have certain (neither : stateType ≠ .consumableStack ∧ stateType ≠ .fungibleBalance)
      (succeeds : Succeeds stateType (Transition.applyTyped current operation inputs stateType)) :
      Succeeds stateType (Transition.applyTyped current operation inputs stateType) ↔
        ¬ CreditOverflows current operation inputs :=
    iff_of_true succeeds (not_creditOverflows builtin checked neither)
  cases id builtin with
  | uniqueAsset => exact certain (by decide) (UniqueAsset.succeeds_of_check plain checked unnamed)
  | paidUniqueAsset => exact certain (by decide) (UniqueAsset.succeeds_of_paid_check plain checked unnamed)
  | consumableStack =>
    rw [@creditOverflows_iff _ _ _ _ _ _ builtin checked .stack rfl]
    exact HoldingKind.succeeds_iff (HoldingKind.checked_of_stack checked) plain
  | fungibleBalance =>
    rw [@creditOverflows_iff _ _ _ _ _ _ builtin checked .balance rfl]
    exact HoldingKind.succeeds_iff (HoldingKind.checked_of_balance checked) plain
  | entitlement => exact certain (by decide) (Entitlement.succeeds_of_check plain checked)
  | meteredResource => exact certain (by decide) (Meter.succeeds_of_check checked plain)
  | listing => exact certain (by decide) (Marketplace.succeeds_of_checkListing checked plain)
  | escrow => exact certain (by decide) (Marketplace.succeeds_of_checkEscrow checked plain)

end Reducers

open Harness

def hundredGold : StateProjection := Stored.projection ⟨tenant, gold, 1, goldBalance "alice" 100⟩

def fiveInputs : Inputs := .ofList (textInputs [("amount", "5")])

theorem five_more_gold :
    fungibleBalanceRules.check FungibleBalance.op.balanceCredit (some hundredGold) fiveInputs = .ok () ∧
      Succeeds .fungibleBalance
        (fungibleBalanceRules.apply (some hundredGold) FungibleBalance.op.balanceCredit fiveInputs) := by
  have checked :
      fungibleBalanceRules.check FungibleBalance.op.balanceCredit (some hundredGold) fiveInputs = .ok () := rfl
  refine ⟨checked, (checks_suffice_iff .fungibleBalance (fun projection present => ?_)
    (fun restricts => absurd restricts (by decide)) checked).mpr ?_⟩
  · obtain rfl := Option.some.inj present
    exact ⟨rfl, rfl, by decide, by decide⟩
  · rintro ⟨kind, adds, subject, held, unit, amount, was, given, large⟩
    cases kind with
    | stack => exact absurd adds (by decide)
    | balance =>
      obtain ⟨-, rfl, -⟩ := HoldingKind.balance.holding_injective (Option.some.inj was)
      cases (rfl : inputAmount fiveInputs "amount" = .ok (Amount.ofNat 5)).symm.trans given
      exact absurd large (by decide)

end StateChronicle.Verified
