import StateChronicle.Profiles.AssetTable
import StateChronicle.Profiles.HoldingEffects

/-!
# Reducers after their checks

The checks and the reducers are written apart.  What a check has established is collected here, together with what it
makes the reducer of the same rule set do.
-/

namespace StateChronicle.Profiles

open StateChronicle.Core Domain Foundation

variable {name : String} {sources : List Status} {stateType : StateType} {key text : String}

def texts : ResourceState → List String
  | .uniqueAsset asset => asset.owner.name :: asset.status.name :: asset.tradeId.toList
  | .consumableStack stack => [stack.subject.name, stack.unit]
  | .fungibleBalance balance => [balance.subject.name, balance.unit]
  | .entitlement entitlement => [entitlement.subject.name, entitlement.status.name]
  | .meteredResource meter => [meter.subject.name]
  | .listing listing => [listing.seller.name, listing.status.name]
  | .escrow escrow => [escrow.buyer.name, escrow.seller.name, escrow.status.name]
  | .custom _ => []

def amounts : ResourceState → List Amount
  | .consumableStack stack => [stack.quantity]
  | .fungibleBalance balance => [balance.balance]
  | .meteredResource meter => [meter.remaining, meter.maximum]
  | _ => []

/-- No text of the payload is empty and all its amounts are whole. -/
structure Plain (state : ResourceState) : Prop where
  texts : ∀ text ∈ texts state, text ≠ ""
  amounts : ∀ amount ∈ amounts state, amount.scale = 0

/-- What is recorded, if anything is, is plain and of the type. -/
def PlainlyRecorded (stateType : StateType) (current : Option StateProjection) : Prop :=
  ∀ projection, current = some projection → projection.state.stateType = stateType ∧ Plain projection.state

theorem mem_texts_of_stateField {state : ResourceState} (field : Transition.stateField state key = some text) :
    text ∈ texts state := by
  cases state <;> simp only [Transition.stateField, stateField] at field
  case custom => cases field
  all_goals split_ifs at field <;> cases field <;> simp [texts]

theorem Plain.stateStr_eq {projection : StateProjection} (plain : Plain projection.state)
    (field : Transition.stateField projection.state key = some text) : Transition.stateStr projection key = .ok text :=
  stateStrWith_eq_ok.mpr ⟨field, plain.texts _ (mem_texts_of_stateField field)⟩

def Succeeds (stateType : StateType) (reduced : Except ProfileError ResourceState) : Prop :=
  ∃ after, reduced = .ok after ∧ after.stateType = stateType

theorem succeeds_bind {α : Type} {read : Except ProfileError α} {value : α}
    {rest : α → Except ProfileError ResourceState} (found : read = .ok value)
    (succeeds : Succeeds stateType (rest value)) : Succeeds stateType (read >>= rest) := by
  obtain ⟨after, made, typed⟩ := succeeds
  exact ⟨after, Except.bind_eq_ok.mpr ⟨value, found, made⟩, typed⟩

theorem scale_of_inputAmount {inputs : Inputs} {amount : Amount} (given : inputAmount inputs key = .ok amount) :
    amount.scale = 0 := by
  simp only [inputAmount, parseAmountStr, parseAmountStrWith, Except.bind_eq_ok] at given
  obtain ⟨_, -, text, -, _, -, _, -, parsed⟩ := given
  cases read : Amount.tryFromStr text with
  | error e =>
    rw [read] at parsed
    cases parsed
  | ok result =>
    rw [read] at parsed
    cases parsed
    exact Amount.scale_of_tryFromStr read

namespace HoldingKind

/-- A holding is credited with more than it can record. -/
def Overflows (kind : HoldingKind) (current : Option StateProjection) (operation : Operation) (inputs : Inputs) :
    Prop :=
  operation ∈ kind.additions ∧ ∃ subject held unit amount, kind.Holds current subject held unit ∧
    inputAmount inputs kind.input = .ok amount ∧ 2 ^ 128 ≤ held.mantissa.val + amount.mantissa.val

/-- What a check has established. -/
inductive Checked (kind : HoldingKind) (current : Option StateProjection) (operation : Operation)
    (inputs : Inputs) : Prop
  | creates {subject unit : String} {amount : Amount} (creates : operation = kind.creation)
      (unborn : current = none) (named : inputStr inputs "subject" = .ok subject)
      (denominated : inputStr inputs "unit" = .ok unit) (given : inputAmount inputs kind.field = .ok amount)
  | adds {projection : StateProjection} {amount : Amount} (adds : operation ∈ kind.additions)
      (present : current = some projection) (given : inputAmount inputs kind.input = .ok amount)
  | takes {projection : StateProjection} {held amount : Amount} (takes : operation ∈ kind.takings)
      (present : current = some projection) (recorded : stateAmount projection kind.field = .ok held)
      (given : inputAmount inputs kind.input = .ok amount) (available : amount.value ≤ held.value)
      (named : operation = kind.transfer → ∃ toSubject, inputStr inputs "to_subject" = .ok toSubject)
  | adjusts {projection : StateProjection} {amount : Amount} (adjusts : operation ∈ kind.adjustments)
      (present : current = some projection) (given : inputAmount inputs kind.input = .ok amount)
  | expires {projection : StateProjection} (expires : operation ∈ kind.expiries)
      (present : current = some projection)
  | converts {projection : StateProjection} {toUnit : String} {held amount : Amount}
      (converts : operation ∈ kind.conversions) (present : current = some projection)
      (named : inputStr inputs "to_unit" = .ok toUnit) (recorded : stateAmount projection kind.field = .ok held)
      (given : inputAmount inputs kind.input = .ok amount) (available : amount.value ≤ held.value)

section Checks

variable {current : Option StateProjection} {operation : Operation} {inputs : Inputs} {u : Unit}

theorem checked_of_taking (kind : HoldingKind) (takes : operation ∈ kind.takings)
    (checked : kind.rules.check operation current inputs = .ok u) : kind.Checked current operation inputs := by
  obtain ⟨projection, held, amount, present, recorded, given, -, available, named⟩ :=
    kind.covered_of_check takes checked
  exact .takes takes present recorded given available named

theorem checked_of_checkQuantity (checked : ConsumableStack.checkQuantity name current inputs = .ok u) :
    ∃ projection amount, current = some projection ∧ inputAmount inputs "quantity" = .ok amount := by
  simp only [ConsumableStack.checkQuantity, Except.bind_eq_ok, requireCurrent_eq_ok] at checked
  obtain ⟨projection, present, amount, given, -⟩ := checked
  exact ⟨projection, amount, present, given⟩

theorem checked_of_stack (checked : ConsumableStack.check operation current inputs = .ok u) :
    stack.Checked current operation inputs := by
  have listed : operation ∈ ConsumableStack.op.all := Builtin.mem_of_guarded checked
  simp only [ConsumableStack.op.all, List.mem_cons, List.not_mem_nil, or_false] at listed
  rcases listed with rfl | rfl | rfl | rfl | rfl | rfl | rfl | rfl | rfl
  · replace checked : ConsumableStack.checkCreate current inputs = .ok u := checked
    simp only [ConsumableStack.checkCreate, Except.bind_eq_ok, requireUnborn_eq_ok] at checked
    obtain ⟨_, unborn, subject, named, unit, denominated, amount, given, -⟩ := checked
    exact .creates rfl unborn named denominated given
  · obtain ⟨projection, amount, present, given⟩ := checked_of_checkQuantity checked
    exact .adds (by decide) present given
  · exact checked_of_taking stack (by decide) checked
  · exact checked_of_taking stack (by decide) checked
  · exact checked_of_taking stack (by decide) checked
  · exact checked_of_taking stack (by decide) checked
  · replace checked : ConsumableStack.checkRelease current inputs = .ok u := checked
    simp only [ConsumableStack.checkRelease, Except.bind_eq_ok, requireCurrent_eq_ok] at checked
    obtain ⟨projection, present, amount, given, -⟩ := checked
    exact .adds (by decide) present given
  · replace checked : ConsumableStack.checkExpire current = .ok u := checked
    simp only [ConsumableStack.checkExpire, Except.bind_eq_ok, requireCurrent_eq_ok] at checked
    obtain ⟨projection, present, -⟩ := checked
    exact .expires (by decide) present
  · obtain ⟨projection, amount, present, given⟩ := checked_of_checkQuantity checked
    exact .adjusts (by decide) present given

theorem checked_of_checkAdded (adds : operation ∈ balance.additions)
    (checked : FungibleBalance.checkAdded name current inputs = .ok u) : balance.Checked current operation inputs := by
  simp only [FungibleBalance.checkAdded, Except.bind_eq_ok, requireCurrent_eq_ok] at checked
  obtain ⟨projection, present, amount, given, -⟩ := checked
  exact .adds adds present given

theorem checked_of_balance (checked : FungibleBalance.check operation current inputs = .ok u) :
    balance.Checked current operation inputs := by
  have listed : operation ∈ FungibleBalance.op.all := Builtin.mem_of_guarded checked
  simp only [FungibleBalance.op.all, List.mem_cons, List.not_mem_nil, or_false] at listed
  rcases listed with rfl | rfl | rfl | rfl | rfl | rfl | rfl | rfl | rfl | rfl
  · replace checked : FungibleBalance.checkCreate current inputs = .ok u := checked
    simp only [FungibleBalance.checkCreate, Except.bind_eq_ok, requireUnborn_eq_ok] at checked
    obtain ⟨_, unborn, subject, named, unit, denominated, amount, given, -⟩ := checked
    exact .creates rfl unborn named denominated given
  · replace checked : FungibleBalance.checkMint current inputs = .ok u := checked
    simp only [FungibleBalance.checkMint, Except.bind_eq_ok, requireCurrent_eq_ok] at checked
    obtain ⟨projection, present, _, -, amount, given, -⟩ := checked
    exact .adds (by decide) present given
  · exact checked_of_checkAdded (by decide) checked
  · exact checked_of_taking balance (by decide) checked
  · exact checked_of_taking balance (by decide) checked
  · exact checked_of_taking balance (by decide) checked
  · exact checked_of_checkAdded (by decide) checked
  · exact checked_of_taking balance (by decide) checked
  · exact checked_of_taking balance (by decide) checked
  · obtain ⟨projection, held, amount, present, recorded, given, -, available, read⟩ :=
      taken_of_checkTaken "balance.convert" (some "to_unit") checked
    obtain ⟨toUnit, named⟩ := read "to_unit" rfl
    exact .converts (by decide) present named recorded given available

end Checks

section Equations

variable {kind : HoldingKind} {current : Option StateProjection} {operation : Operation} {inputs : Inputs}

theorem applyTyped_of_additions (adds : operation ∈ kind.additions) :
    ∃ error, Transition.applyTyped current operation inputs kind.stateType =
      Transition.amountMoved kind.field kind.input kind.holding Amount.checkedAdd error current operation inputs := by
  cases kind with
  | stack =>
    simp only [additions, List.mem_cons, List.not_mem_nil, or_false] at adds
    rcases adds with rfl | rfl <;> exact ⟨_, rfl⟩
  | balance =>
    simp only [additions, List.mem_cons, List.not_mem_nil, or_false] at adds
    rcases adds with rfl | rfl | rfl <;> exact ⟨_, rfl⟩

/-- A taking subtracts; a transfer reads its destination first. -/
theorem applyTyped_of_takings {projection : StateProjection} (takes : operation ∈ kind.takings)
    (named : operation = kind.transfer → ∃ toSubject, inputStr inputs "to_subject" = .ok toSubject) :
    ∃ error, Transition.applyTyped (some projection) operation inputs kind.stateType =
      Transition.amountMoved kind.field kind.input kind.holding Amount.checkedSub error (some projection) operation
        inputs := by
  have transfers {rest : Except ProfileError ResourceState} (isTransfer : operation = kind.transfer) :
      (do
        let _ ← Transition.requireCurrent (some projection) operation
        let _ ← inputStr inputs "to_subject"
        rest) = rest := by
    obtain ⟨toSubject, read⟩ := named isTransfer
    rw [read]
    rfl
  cases kind with
  | stack =>
    simp only [takings, List.mem_cons, List.not_mem_nil, or_false] at takes
    rcases takes with rfl | rfl | rfl | rfl
    · exact ⟨_, rfl⟩
    · exact ⟨_, rfl⟩
    · exact ⟨_, rfl⟩
    · exact ⟨_, transfers rfl⟩
  | balance =>
    simp only [takings, List.mem_cons, List.not_mem_nil, or_false] at takes
    rcases takes with rfl | rfl | rfl | rfl | rfl
    · exact ⟨_, rfl⟩
    · exact ⟨_, rfl⟩
    · exact ⟨_, rfl⟩
    · exact ⟨_, rfl⟩
    · exact ⟨_, transfers rfl⟩

end Equations

section Reducers

variable {kind : HoldingKind} {projection : StateProjection} {operation : Operation} {inputs : Inputs}
  {subject : SubjectId} {held amount : Amount} {unit : String}

/-- What the reducer of the kind returns is a holding. -/
def Reducible (kind : HoldingKind) (current : Option StateProjection) (operation : Operation) (inputs : Inputs) :
    Prop :=
  Succeeds kind.stateType (Transition.applyTyped current operation inputs kind.stateType)

theorem whole_of_plain (plain : Plain (kind.holding subject held unit)) : held.scale = 0 := by
  cases kind <;> exact plain.amounts _ List.mem_cons_self

variable (payload : projection.state = kind.holding subject held unit) (plain : Plain projection.state)

include payload plain

theorem stateStr_subject : Transition.stateStr projection "subject" = .ok subject.name :=
  plain.stateStr_eq (by rw [payload, stateField_subject])

theorem stateStr_unit : Transition.stateStr projection "unit" = .ok unit :=
  plain.stateStr_eq (by rw [payload, stateField_unit])

theorem succeeds_amountMoved_iff {combine : Amount → Amount → Option Amount} {error : ProfileError}
    (given : inputAmount inputs kind.input = .ok amount) :
    Succeeds kind.stateType (Transition.amountMoved kind.field kind.input kind.holding combine error
        (some projection) operation inputs) ↔ ∃ next, combine held amount = some next := by
  have recorded : stateAmount projection kind.field = .ok held := by
    rw [stateAmount, payload, amount_holding, okOr_some]
  simp only [Succeeds, Transition.amountMoved, Transition.requireCurrent, okOr_eq_ok, Except.bind_eq_ok,
    Except.pure_eq_ok, Option.some.injEq, exists_eq_left', stateStr_subject payload plain,
    stateStr_unit payload plain, recorded, Transition.inputAmount_eq_ok.mpr given, Except.ok.injEq]
  constructor
  · rintro ⟨_, ⟨next, combined, -⟩, -⟩
    exact ⟨next, combined⟩
  · rintro ⟨next, combined⟩
    exact ⟨_, ⟨next, combined, rfl⟩, kind.stateType_holding⟩

theorem reducible_of_additions (adds : operation ∈ kind.additions)
    (given : inputAmount inputs kind.input = .ok amount) :
    kind.Reducible (some projection) operation inputs ↔ ¬ kind.Overflows (some projection) operation inputs := by
  have was : kind.Holds (some projection) subject held unit := congrArg some payload
  obtain ⟨error, applied⟩ := applyTyped_of_additions adds
  rw [Reducible, applied, succeeds_amountMoved_iff payload plain given,
    Amount.exists_checkedAdd_iff (whole_of_plain (payload ▸ plain)) (scale_of_inputAmount given), ← not_le]
  refine not_congr ⟨fun large => ⟨adds, subject, held, unit, amount, was, given, large⟩, ?_⟩
  rintro ⟨-, subject', held', unit', amount', was', given', large⟩
  obtain ⟨-, rfl, -⟩ := kind.holding_injective (Option.some.inj (was.symm.trans was'))
  cases given.symm.trans given'
  exact large

theorem reducible_of_takings (takes : operation ∈ kind.takings)
    (given : inputAmount inputs kind.input = .ok amount) (available : amount.value ≤ held.value)
    (named : operation = kind.transfer → ∃ toSubject, inputStr inputs "to_subject" = .ok toSubject) :
    kind.Reducible (some projection) operation inputs := by
  obtain ⟨error, applied⟩ := applyTyped_of_takings takes named
  rw [Reducible, applied, succeeds_amountMoved_iff payload plain given]
  exact Amount.exists_checkedSub (whole_of_plain (payload ▸ plain)) (scale_of_inputAmount given) available

theorem reducible_of_adjustments (adjusts : operation ∈ kind.adjustments)
    (given : inputAmount inputs kind.input = .ok amount) : kind.Reducible (some projection) operation inputs := by
  cases kind with
  | balance => cases adjusts
  | stack =>
    obtain rfl := List.mem_singleton.mp adjusts
    exact succeeds_bind rfl <| succeeds_bind (stateStr_subject payload plain) <|
      succeeds_bind (stateStr_unit payload plain) <| succeeds_bind (Transition.inputAmount_eq_ok.mpr given)
      ⟨_, rfl, rfl⟩

theorem reducible_of_expiries (expires : operation ∈ kind.expiries) :
    kind.Reducible (some projection) operation inputs := by
  cases kind with
  | balance => cases expires
  | stack =>
    obtain rfl := List.mem_singleton.mp expires
    exact succeeds_bind rfl <| succeeds_bind (stateStr_subject payload plain) <|
      succeeds_bind (stateStr_unit payload plain) ⟨_, rfl, rfl⟩

theorem reducible_of_conversions {toUnit : String} (converts : operation ∈ kind.conversions)
    (named : inputStr inputs "to_unit" = .ok toUnit) (recorded : stateAmount projection kind.field = .ok held)
    (given : inputAmount inputs kind.input = .ok amount) (available : amount.value ≤ held.value) :
    kind.Reducible (some projection) operation inputs := by
  obtain ⟨next, rest⟩ :=
    Amount.exists_checkedSub (whole_of_plain (payload ▸ plain)) (scale_of_inputAmount given) available
  cases kind with
  | stack => cases converts
  | balance =>
    obtain rfl := List.mem_singleton.mp converts
    exact succeeds_bind rfl <| succeeds_bind (stateStr_subject payload plain) <| succeeds_bind named <|
      succeeds_bind recorded <| succeeds_bind (Transition.inputAmount_eq_ok.mpr given) <|
      succeeds_bind (okOr_eq_ok.mpr rest) ⟨_, rfl, rfl⟩

end Reducers

section Outcomes

variable {kind : HoldingKind} {current : Option StateProjection} {operation : Operation} {inputs : Inputs}

theorem reducible_of_creation {subject unit : String} {amount : Amount} (creates : operation = kind.creation)
    (named : inputStr inputs "subject" = .ok subject) (denominated : inputStr inputs "unit" = .ok unit)
    (given : inputAmount inputs kind.field = .ok amount) : kind.Reducible current operation inputs := by
  have read := Transition.inputAmount_eq_ok.mpr given
  subst creates
  cases kind <;>
    exact succeeds_bind named <| succeeds_bind denominated <| succeeds_bind read <| ⟨_, rfl, rfl⟩

/-- After its check the reducer of a holding fails only where a credit overflows. -/
theorem succeeds_iff (checked : kind.Checked current operation inputs)
    (plain : PlainlyRecorded kind.stateType current) :
    Succeeds kind.stateType (Transition.applyTyped current operation inputs kind.stateType) ↔
      ¬ kind.Overflows current operation inputs := by
  have only : ∀ operation ∈ kind.creation :: kind.takings ++ kind.adjustments ++ kind.expiries ++
      kind.conversions, operation ∉ kind.additions := by
    cases kind <;> decide
  have certain (other : operation ∈ kind.creation :: kind.takings ++ kind.adjustments ++ kind.expiries ++
      kind.conversions) (reducible : kind.Reducible current operation inputs) :
      kind.Reducible current operation inputs ↔ ¬ kind.Overflows current operation inputs :=
    iff_of_true reducible fun overflows => only operation other overflows.1
  have holding {projection : StateProjection} (present : current = some projection) :
      Plain projection.state ∧ ∃ subject held unit, projection.state = kind.holding subject held unit :=
    ⟨(plain projection present).2, kind.exists_holding (plain projection present).1⟩
  cases checked with
  | creates creates unborn named denominated given =>
    exact certain (by simp [creates]) (reducible_of_creation creates named denominated given)
  | adds adds present given =>
    obtain ⟨fields, subject, held, unit, payload⟩ := holding present
    subst present
    exact reducible_of_additions payload fields adds given
  | takes takes present recorded given available named =>
    obtain ⟨fields, subject, held, unit, payload⟩ := holding present
    subst present
    obtain rfl := amount_of_reads (congrArg some payload) recorded
    exact certain (by simp [takes]) (reducible_of_takings payload fields takes given available named)
  | adjusts adjusts present given =>
    obtain ⟨fields, subject, held, unit, payload⟩ := holding present
    subst present
    exact certain (by simp [adjusts]) (reducible_of_adjustments payload fields adjusts given)
  | expires expires present =>
    obtain ⟨fields, subject, held, unit, payload⟩ := holding present
    subst present
    exact certain (by simp [expires]) (reducible_of_expiries payload fields expires)
  | converts converts present named recorded given available =>
    obtain ⟨fields, subject, held, unit, payload⟩ := holding present
    subst present
    obtain rfl := amount_of_reads (congrArg some payload) recorded
    exact certain (by simp [converts])
      (reducible_of_conversions payload fields converts named recorded given available)

end Outcomes

end HoldingKind

section Meters

variable {current : Option StateProjection} {operation : Operation} {inputs : Inputs} {u : Unit}

theorem Meter.reads {projection : StateProjection} (typed : projection.state.stateType = .meteredResource)
    (plain : Plain projection.state) :
    ∃ subject remaining maximum, projection.state = .meteredResource ⟨subject, remaining, maximum⟩ ∧
      Transition.stateStr projection "subject" = .ok subject.name ∧
      stateAmount projection "remaining" = .ok remaining ∧ stateAmount projection "maximum" = .ok maximum ∧
      remaining.scale = 0 := by
  cases payload : projection.state <;> rw [payload] at typed <;> cases typed
  rename_i meter
  refine ⟨meter.subject, meter.remaining, meter.maximum, rfl, plain.stateStr_eq (by rw [payload]; rfl),
    by rw [stateAmount, payload]; rfl, by rw [stateAmount, payload]; rfl, ?_⟩
  rw [payload] at plain
  exact plain.amounts _ List.mem_cons_self

theorem Meter.succeeds_of_present (remaining : Amount → Amount) (plain : PlainlyRecorded .meteredResource current)
    (present : ∃ projection, current = some projection) :
    Succeeds .meteredResource (do
      let current ← Transition.requireCurrent current operation
      let subject ← Transition.stateStr current "subject"
      let maximum ← stateAmount current "maximum"
      return .meteredResource ⟨⟨subject⟩, remaining maximum, maximum⟩) := by
  obtain ⟨projection, rfl⟩ := present
  obtain ⟨_, _, _, -, subjectRead, -, maximumRead, -⟩ := Meter.reads (plain projection rfl).1 (plain projection rfl).2
  exact succeeds_bind rfl <| succeeds_bind subjectRead <| succeeds_bind maximumRead ⟨_, rfl, rfl⟩

theorem Meter.succeeds_of_check (checked : Meter.check operation current inputs = .ok u)
    (plain : PlainlyRecorded .meteredResource current) :
    Succeeds .meteredResource (Transition.applyMeter current operation inputs) := by
  have listed : operation ∈ Meter.op.all := Builtin.mem_of_guarded checked
  have reads {projection : StateProjection} (present : current = some projection) :=
    Meter.reads (plain projection present).1 (plain projection present).2
  have exists_of_checked {name : String} {rest : StateProjection → Except ProfileError Unit}
      (checked : (requireCurrent current name >>= rest) = .ok u) : ∃ projection, current = some projection := by
    obtain ⟨projection, present, -⟩ := Except.bind_eq_ok.mp checked
    exact ⟨projection, requireCurrent_eq_ok.mp present⟩
  simp only [Meter.op.all, List.mem_cons, List.not_mem_nil, or_false] at listed
  rcases listed with rfl | rfl | rfl | rfl | rfl | rfl
  · replace checked : Meter.checkCreate current inputs = .ok u := checked
    simp only [Meter.checkCreate, Except.bind_eq_ok] at checked
    obtain ⟨_, -, subject, named, remaining, given, maximum, given', -⟩ := checked
    exact succeeds_bind named <| succeeds_bind (Transition.inputAmount_eq_ok.mpr given) <|
      succeeds_bind (Transition.inputAmount_eq_ok.mpr given') <| ⟨_, rfl, rfl⟩
  · replace checked : Meter.checkConsume current inputs = .ok u := checked
    simp only [Meter.checkConsume, Except.bind_eq_ok, requireCurrent_eq_ok, requirePositiveAvailable_eq_ok] at checked
    obtain ⟨projection, rfl, held, heldRead, amount, given, -, available⟩ := checked
    obtain ⟨subject, remaining, maximum, -, subjectRead, remainingRead, maximumRead, whole⟩ := reads rfl
    cases remainingRead.symm.trans heldRead
    obtain ⟨next, rest⟩ := Amount.exists_checkedSub whole (scale_of_inputAmount given) available
    exact succeeds_bind rfl <| succeeds_bind subjectRead <| succeeds_bind maximumRead <|
      succeeds_bind remainingRead <| succeeds_bind (Transition.inputAmount_eq_ok.mpr given) <|
      succeeds_bind (okOr_eq_ok.mpr rest) <| ⟨_, rfl, rfl⟩
  · exact Meter.succeeds_of_present id plain (exists_of_checked (checked : Meter.checkRefill current = .ok u))
  · replace checked : Meter.checkSetMaximum current inputs = .ok u := checked
    simp only [Meter.checkSetMaximum, Except.bind_eq_ok, requireCurrent_eq_ok] at checked
    obtain ⟨projection, rfl, cap, given, -⟩ := checked
    obtain ⟨subject, remaining, maximum, -, subjectRead, remainingRead, -, -⟩ := reads rfl
    exact succeeds_bind rfl <| succeeds_bind subjectRead <| succeeds_bind remainingRead <|
      succeeds_bind (Transition.inputAmount_eq_ok.mpr given) <| ⟨_, rfl, rfl⟩
  · exact Meter.succeeds_of_present (fun _ => Amount.zero) plain
      (exists_of_checked (checked : Meter.checkReset current = .ok u))
  · exact Meter.succeeds_of_present (fun _ => Amount.zero) plain
      (exists_of_checked (checked : Meter.checkExpire current = .ok u))

end Meters

/-! ## Statuses -/

/-- A status that is read back from its name is set. -/
theorem succeeds_newStatus {make : Status → ResourceState} (status : Status)
    (valid : Status.tryFromStr status.name = .ok status) (typed : (make status).stateType = stateType) :
    Succeeds stateType (Transition.newStatus status.name >>= fun status => pure (make status)) := by
  have set : Transition.newStatus status.name = .ok status := by
    rw [Transition.newStatus, valid]
    rfl
  exact succeeds_bind set ⟨_, rfl, typed⟩

theorem exists_of_singleFrom {current : Option StateProjection} {u : Unit}
    (checked : singleFrom current name sources = .ok u) : ∃ projection, current = some projection := by
  obtain ⟨projection, allowed, -⟩ := Except.bind_eq_ok.mp checked
  exact ⟨projection, current_of_requireFrom allowed⟩

section Entitlements

variable {current : Option StateProjection} {operation : Operation} {inputs : Inputs} {u : Unit}

theorem Entitlement.reads {projection : StateProjection} (typed : projection.state.stateType = .entitlement)
    (plain : Plain projection.state) :
    ∃ entitlement, projection.state = .entitlement entitlement ∧
      Transition.stateStr projection "subject" = .ok entitlement.subject.name ∧
      Transition.stateStr projection "status" = .ok entitlement.status.name ∧
      stateBool projection "transferable" = .ok entitlement.transferable := by
  cases payload : projection.state <;> rw [payload] at typed <;> cases typed
  rename_i entitlement
  exact ⟨entitlement, rfl, plain.stateStr_eq (by rw [payload]; rfl), plain.stateStr_eq (by rw [payload]; rfl),
    by rw [stateBool, payload]; rfl⟩

section Plain

variable (plain : PlainlyRecorded .entitlement current)

include plain

theorem Entitlement.succeeds_withStatus (status : Status) (checked : singleFrom current name sources = .ok u)
    (valid : Status.tryFromStr status.name = .ok status) :
    Succeeds .entitlement (Transition.entitlementWithStatus current operation status.name) := by
  obtain ⟨projection, rfl⟩ := exists_of_singleFrom checked
  obtain ⟨typed, fields⟩ := plain projection rfl
  obtain ⟨entitlement, -, subjectRead, -, transferableRead⟩ := Entitlement.reads typed fields
  exact succeeds_bind rfl <| succeeds_bind subjectRead <| succeeds_bind transferableRead <|
    succeeds_newStatus status valid rfl

theorem Entitlement.succeeds_of_check (checked : Entitlement.check operation current inputs = .ok u) :
    Succeeds .entitlement (Transition.applyEntitlement current operation inputs) := by
  have listed : operation ∈ Entitlement.op.all := Builtin.mem_of_guarded checked
  simp only [Entitlement.op.all, List.mem_cons, List.not_mem_nil, or_false] at listed
  rcases listed with rfl | rfl | rfl | rfl | rfl | rfl | rfl
  · replace checked : Entitlement.checkGrant current inputs = .ok u := checked
    simp only [Entitlement.checkGrant, Except.bind_eq_ok] at checked
    obtain ⟨_, -, subject, named, -⟩ := checked
    exact succeeds_bind named <| ⟨_, rfl, rfl⟩
  · exact Entitlement.succeeds_withStatus plain Entitlement.status.active checked (by decide)
  · exact Entitlement.succeeds_withStatus plain Entitlement.status.suspended checked (by decide)
  · exact Entitlement.succeeds_withStatus plain Entitlement.status.active checked (by decide)
  · exact Entitlement.succeeds_withStatus plain Entitlement.status.expired checked (by decide)
  · exact Entitlement.succeeds_withStatus plain Entitlement.status.revoked checked (by decide)
  · replace checked : Entitlement.checkTransfer current inputs = .ok u := checked
    simp only [Entitlement.checkTransfer, Except.bind_eq_ok] at checked
    obtain ⟨projection, allowed, _, -, _, -, toSubject, named, -⟩ := checked
    obtain rfl := current_of_requireFrom allowed
    obtain ⟨typed, fields⟩ := plain projection rfl
    obtain ⟨entitlement, payload, -, statusRead, transferableRead⟩ := Entitlement.reads typed fields
    obtain ⟨status, allowed, recorded⟩ := status_of_requireFrom allowed
    rw [payload] at recorded
    obtain rfl : entitlement.status = status := Option.some.inj recorded
    have valid : ∀ status ∈ [Entitlement.status.granted, Entitlement.status.active],
        Status.tryFromStr status.name = .ok status := by
      decide
    exact succeeds_bind rfl <| succeeds_bind named <| succeeds_bind statusRead <| succeeds_bind transferableRead <|
      succeeds_newStatus _ (valid _ allowed) rfl

end Plain

end Entitlements

namespace Marketplace

variable {current : Option StateProjection} {operation : Operation} {inputs : Inputs} {u : Unit}

theorem succeeds_listingWithStatus (plain : PlainlyRecorded .listing current)
    (present : ∃ projection, current = some projection) (status : Status)
    (valid : Status.tryFromStr status.name = .ok status) :
    Succeeds .listing (Transition.listingWithStatus current operation status.name) := by
  obtain ⟨projection, rfl⟩ := present
  obtain ⟨typed, fields⟩ := plain projection rfl
  cases payload : projection.state <;> rw [payload] at typed <;> cases typed
  exact succeeds_bind rfl <| succeeds_bind (fields.stateStr_eq (by rw [payload]; rfl)) <|
    succeeds_newStatus status valid rfl

theorem succeeds_of_checkListing (checked : checkListing operation current inputs = .ok u)
    (plain : PlainlyRecorded .listing current) :
    Succeeds .listing (Transition.applyListing current operation inputs) := by
  have listed : operation ∈ op.listingOperations := Builtin.mem_of_guarded checked
  simp only [op.listingOperations, List.mem_cons, List.not_mem_nil, or_false] at listed
  rcases listed with rfl | rfl | rfl | rfl
  · replace checked : checkListingCreate current inputs = .ok u := checked
    simp only [checkListingCreate, Except.bind_eq_ok] at checked
    obtain ⟨_, -, seller, named, -⟩ := checked
    exact succeeds_bind named (succeeds_newStatus listingStatus.listed (by decide) rfl)
  · exact succeeds_listingWithStatus plain (exists_of_singleFrom checked) listingStatus.cancelled (by decide)
  · replace checked : checkListingBuy current inputs = .ok u := checked
    simp only [checkListingBuy, Except.bind_eq_ok] at checked
    obtain ⟨projection, allowed, -⟩ := checked
    exact succeeds_listingWithStatus plain ⟨projection, current_of_requireFrom allowed⟩ listingStatus.sold
      (by decide)
  · exact succeeds_listingWithStatus plain (exists_of_singleFrom checked) listingStatus.expired (by decide)

theorem succeeds_escrowWithStatus (plain : PlainlyRecorded .escrow current)
    (present : ∃ projection, current = some projection) (status : Status)
    (valid : Status.tryFromStr status.name = .ok status) :
    Succeeds .escrow (Transition.escrowWithStatus current operation status.name) := by
  obtain ⟨projection, rfl⟩ := present
  obtain ⟨typed, fields⟩ := plain projection rfl
  cases payload : projection.state <;> rw [payload] at typed <;> cases typed
  exact succeeds_bind rfl <| succeeds_bind (fields.stateStr_eq (by rw [payload]; rfl)) <|
    succeeds_bind (fields.stateStr_eq (by rw [payload]; rfl)) <|
    succeeds_newStatus status valid rfl

theorem succeeds_of_checkEscrow (checked : checkEscrow operation current inputs = .ok u)
    (plain : PlainlyRecorded .escrow current) : Succeeds .escrow (Transition.applyEscrow current operation inputs) := by
  have listed : operation ∈ op.escrowOperations := Builtin.mem_of_guarded checked
  simp only [op.escrowOperations, List.mem_cons, List.not_mem_nil, or_false] at listed
  rcases listed with rfl | rfl | rfl
  · replace checked : checkEscrowLock current inputs = .ok u := checked
    simp only [checkEscrowLock, Except.bind_eq_ok] at checked
    obtain ⟨_, -, buyer, named, seller, named', -⟩ := checked
    exact succeeds_bind named <| succeeds_bind named' <|
      succeeds_newStatus escrowStatus.locked (by decide) rfl
  · exact succeeds_escrowWithStatus plain (exists_of_singleFrom checked) escrowStatus.released (by decide)
  · exact succeeds_escrowWithStatus plain (exists_of_singleFrom checked) escrowStatus.refunded (by decide)

end Marketplace

namespace UniqueAsset

variable {current : Option StateProjection} {operation : Operation} {inputs : Inputs} {u : Unit}

section Plain

variable (plain : PlainlyRecorded .uniqueAsset current)

include plain

theorem succeeds_of_owner {rest : String → Except ProfileError ResourceState}
    (present : ∃ projection, current = some projection)
    (succeeds : ∀ projection owner, current = some projection → Transition.stateStr projection "owner" = .ok owner →
      Succeeds .uniqueAsset (rest owner)) :
    Succeeds .uniqueAsset (Transition.ownerBefore current >>= rest) := by
  obtain ⟨projection, rfl⟩ := present
  obtain ⟨typed, fields⟩ := plain projection rfl
  cases payload : projection.state <;> rw [payload] at typed <;> cases typed
  rename_i asset
  have read : Transition.stateStr projection "owner" = .ok asset.owner.name :=
    fields.stateStr_eq (by rw [payload]; rfl)
  exact succeeds_bind (read : Transition.ownerBefore (some projection) = _) (succeeds projection _ rfl read)

/-- The operations that only change the status need nothing but an owner. -/
theorem succeeds_of_row (status : Status) (row : (operation, status) ∈ statusRows)
    (other : operation ≠ op.tradeUnlock) (present : ∃ projection, current = some projection) :
    Succeeds .uniqueAsset (Transition.applyUniqueAsset current operation inputs) := by
  have reduces : Transition.applyUniqueAsset current operation inputs = (do
      let owner ← Transition.ownerBefore current
      Transition.uniqueAsset owner status.name none) := by
    simp only [statusRows, List.mem_cons, Prod.mk.injEq, List.not_mem_nil, or_false] at row
    rcases row with ⟨rfl, rfl⟩ | ⟨rfl, rfl⟩ | ⟨rfl, rfl⟩ | ⟨rfl, rfl⟩ | ⟨rfl, rfl⟩ | ⟨rfl, rfl⟩ | ⟨rfl, rfl⟩ |
      ⟨rfl, rfl⟩ | ⟨rfl, rfl⟩ | ⟨rfl, rfl⟩ | ⟨rfl, -⟩
    all_goals first | rfl | exact absurd rfl other
  have valid : ∀ row ∈ statusRows, Status.tryFromStr row.2.name = .ok row.2 := by decide
  rw [reduces]
  exact succeeds_of_owner plain present fun _ _ _ _ => succeeds_newStatus status (valid _ row) rfl

theorem succeeds_of_content (content : operation ∈ contentOperations)
    (present : ∃ projection, current = some projection) :
    Succeeds .uniqueAsset (Transition.applyUniqueAsset current operation inputs) := by
  refine succeeds_of_owner plain present fun projection owner found _ => ?_
  obtain ⟨typed, -⟩ := plain projection found
  subst found
  simp only [contentOperations, List.mem_cons, List.not_mem_nil, or_false] at content
  rcases content with rfl | rfl | rfl <;> exact ⟨projection.state, rfl, typed⟩

theorem succeeds_of_restriction (unnamed : inputs.get? "status" = none)
    (present : ∃ projection, current = some projection) :
    Succeeds .uniqueAsset (Transition.applyUniqueAsset current op.assetRestrict inputs) := by
  refine succeeds_of_owner plain present fun _ owner _ _ => ?_
  change Succeeds .uniqueAsset (Transition.uniqueAsset owner
    (((inputs.get? "status").bind Value.asStr).getD "restricted") none)
  rw [unnamed]
  exact succeeds_newStatus status.restricted (by decide) rfl

theorem succeeds_of_tradeLock (checked : checkTradeLock current inputs = .ok u) :
    Succeeds .uniqueAsset (Transition.applyUniqueAsset current op.tradeLock inputs) := by
  simp only [checkTradeLock, Except.bind_eq_ok] at checked
  obtain ⟨projection, allowed, fromOwner, named, tradeId, traded, -⟩ := checked
  obtain rfl := current_of_requireFrom allowed
  refine succeeds_of_owner plain ⟨projection, rfl⟩ fun _ owner found read => ?_
  cases found
  exact succeeds_bind rfl <| succeeds_bind named <| succeeds_bind traded <| succeeds_bind read <|
    succeeds_newStatus status.tradeHeld (by decide) rfl

theorem succeeds_of_tradeUnlock (checked : checkTradeUnlock current inputs = .ok u) :
    Succeeds .uniqueAsset (Transition.applyUniqueAsset current op.tradeUnlock inputs) := by
  simp only [checkTradeUnlock, Except.bind_eq_ok] at checked
  obtain ⟨projection, allowed, tradeId, traded, -⟩ := checked
  obtain rfl := current_of_requireFrom allowed
  refine succeeds_of_owner plain ⟨projection, rfl⟩ fun _ owner found read => ?_
  cases found
  exact succeeds_bind rfl <| succeeds_bind traded <| succeeds_bind read <|
    succeeds_newStatus status.active (by decide) rfl

theorem succeeds_of_tradeSettle (checked : checkTradeSettle current inputs = .ok u) :
    Succeeds .uniqueAsset (Transition.applyUniqueAsset current op.tradeSettle inputs) := by
  simp only [checkTradeSettle, Except.bind_eq_ok] at checked
  obtain ⟨projection, allowed, fromOwner, named, toOwner, named', tradeId, traded, -⟩ := checked
  obtain rfl := current_of_requireFrom allowed
  exact succeeds_of_owner plain ⟨projection, rfl⟩ fun _ _ _ _ => succeeds_bind rfl <| succeeds_bind named <|
    succeeds_bind named' <| succeeds_bind traded <| succeeds_newStatus status.active (by decide) rfl

theorem succeeds_of_transfer (checked : checkTransfer current inputs = .ok u) :
    Succeeds .uniqueAsset (Transition.applyUniqueAsset current op.assetTransfer inputs) := by
  simp only [checkTransfer, Except.bind_eq_ok] at checked
  obtain ⟨projection, allowed, _, -, toOwner, named, -⟩ := checked
  exact succeeds_of_owner plain ⟨projection, current_of_requireFrom allowed⟩ fun _ _ _ _ =>
    succeeds_bind named <| succeeds_newStatus status.active (by decide) rfl

omit plain in
theorem succeeds_of_mint (checked : checkMint current inputs = .ok u) :
    Succeeds .uniqueAsset (Transition.applyUniqueAsset current op.assetMint inputs) := by
  obtain rfl := checkMint_eq_ok checked
  obtain ⟨toOwner, named, -⟩ := Except.bind_eq_ok.mp checked
  exact succeeds_bind rfl <| succeeds_bind named <| succeeds_newStatus status.active (by decide) rfl

theorem succeeds_of_check (checked : check operation current inputs = .ok u)
    (unnamed : operation = op.assetRestrict → inputs.get? "status" = none) :
    Succeeds .uniqueAsset (Transition.applyUniqueAsset current operation inputs) := by
  have sorted : ∀ operation ∈ op.all,
      (operation ≠ op.assetMint ∧ (∃ row ∈ statusRows, row.1 = operation ∧ operation ≠ op.tradeUnlock) ∨
        operation ≠ op.assetMint ∧ operation ∈ contentOperations) ∨
      operation ∈ [op.assetMint, op.assetTransfer, op.assetRestrict, op.tradeLock, op.tradeUnlock,
        op.tradeSettle] := by decide
  rcases sorted operation (mem_all_of_check checked) with (⟨notMint, row, listed, rfl, other⟩ | ⟨notMint, content⟩) |
    special
  · exact succeeds_of_row plain row.2 listed other (exists_of_check checked notMint)
  · exact succeeds_of_content plain content (exists_of_check checked notMint)
  · simp only [List.mem_cons, List.not_mem_nil, or_false] at special
    rcases special with rfl | rfl | rfl | rfl | rfl | rfl
    · exact succeeds_of_mint checked
    · exact succeeds_of_transfer plain checked
    · exact succeeds_of_restriction plain (unnamed rfl) (exists_of_check checked (by decide))
    · exact succeeds_of_tradeLock plain checked
    · exact succeeds_of_tradeUnlock plain checked
    · exact succeeds_of_tradeSettle plain checked

/-- The reducer also succeeds after the checks of the paid overlay. -/
theorem succeeds_of_paid_check (checked : PaidUniqueAsset.check operation current inputs = .ok u)
    (unnamed : operation = op.assetRestrict → inputs.get? "status" = none) :
    Succeeds .uniqueAsset (Transition.applyUniqueAsset current operation inputs) := by
  by_cases hardDelete : operation = PaidUniqueAsset.op.assetHardDelete
  · subst hardDelete
    obtain ⟨projection, owner, present, -⟩ := consent_of_hardDelete checked
    exact succeeds_of_row plain status.tombstoned (by decide) (by decide) ⟨projection, present⟩
  by_cases restore : operation = op.assetRestore
  · subst restore
    replace checked : PaidUniqueAsset.checkPaidRestore current = .ok u := checked
    exact succeeds_of_row plain status.active (by decide) (by decide) (exists_of_singleFrom checked)
  · exact succeeds_of_check plain (plain_of_paid checked hardDelete restore) unnamed

end Plain

end UniqueAsset

end StateChronicle.Profiles
