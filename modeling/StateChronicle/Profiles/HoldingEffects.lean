import StateChronicle.Profiles.Registry

/-!
# What an operation makes of a holding

A stack and a balance are both an amount of some unit in the hands of a subject.  Their checks and reducers are said
once more here as an effect on that amount, and those of a meter as an effect on what remains.
-/

namespace StateChronicle.Profiles

open StateChronicle.Core Domain Foundation

variable {amount' : Amount} {state : ResourceState} {source : StateProjection} {unit' : String}

/-! ## Amounts of a unit -/

variable {projection : StateProjection} {u : Unit}

/-- The holdings that are an amount of a unit. -/
inductive HoldingKind where
  | stack
  | balance
deriving DecidableEq, Repr

namespace HoldingKind

variable {destination : Option StateProjection}

def stateType : HoldingKind → StateType
  | stack => .consumableStack
  | balance => .fungibleBalance

def rules : HoldingKind → ProfileRules
  | stack => consumableStackRules
  | balance => fungibleBalanceRules

def holding : HoldingKind → SubjectId → Amount → String → ResourceState
  | stack => Transition.stackHolding
  | balance => Transition.balanceHolding

/-- The payload field of the amount, and the input a creation sets it from. -/
def field : HoldingKind → String
  | stack => "quantity"
  | balance => "balance"

/-- The input every other operation reads its amount from. -/
def input : HoldingKind → String
  | stack => "quantity"
  | balance => "amount"

def creation : HoldingKind → Operation
  | stack => ConsumableStack.op.stackCreate
  | balance => FungibleBalance.op.balanceCreate

def transfer : HoldingKind → Operation
  | stack => ConsumableStack.op.stackTransfer
  | balance => FungibleBalance.op.balanceTransfer

def reserve : HoldingKind → Operation
  | stack => ConsumableStack.op.stackReserve
  | balance => FungibleBalance.op.balanceReserve

def release : HoldingKind → Operation
  | stack => ConsumableStack.op.stackRelease
  | balance => FungibleBalance.op.balanceRelease

def additions : HoldingKind → List Operation
  | stack => [ConsumableStack.op.stackCredit, ConsumableStack.op.stackRelease]
  | balance => [FungibleBalance.op.balanceMint, FungibleBalance.op.balanceCredit, FungibleBalance.op.balanceRelease]

def takings : HoldingKind → List Operation
  | stack => [ConsumableStack.op.stackDebit, ConsumableStack.op.stackConsume, ConsumableStack.op.stackReserve,
      ConsumableStack.op.stackTransfer]
  | balance => [FungibleBalance.op.balanceDebit, FungibleBalance.op.balanceSpend,
      FungibleBalance.op.balanceReserve, FungibleBalance.op.balanceBurn, FungibleBalance.op.balanceTransfer]

/-- The operations that set the amount. -/
def adjustments : HoldingKind → List Operation
  | stack => [ConsumableStack.op.stackAdjust]
  | balance => []

def expiries : HoldingKind → List Operation
  | stack => [ConsumableStack.op.stackExpire]
  | balance => []

def conversions : HoldingKind → List Operation
  | stack => []
  | balance => [FungibleBalance.op.balanceConvert]

theorem exists_transfer {operation : Operation} (transfers : Resource.isTransferOperation operation) :
    ∃ kind : HoldingKind, operation = kind.transfer ∧ operation.stateTypeHint = some kind.stateType := by
  rcases transfers with rfl | rfl
  · exact ⟨stack, rfl, by decide⟩
  · exact ⟨balance, rfl, by decide⟩

variable (kind : HoldingKind) {subject : SubjectId} {amount : Amount} {unit : String}

@[simp] theorem stateType_holding : (kind.holding subject amount unit).stateType = kind.stateType := by
  cases kind <;> rfl

@[simp] theorem subject_holding : (kind.holding subject amount unit).subject = some subject := by
  cases kind <;> rfl

@[simp] theorem amount_holding : (kind.holding subject amount unit).amount kind.field = some amount := by
  cases kind <;> rfl

@[simp] theorem stateField_subject :
    Transition.stateField (kind.holding subject amount unit) "subject" = some subject.name := by
  cases kind <;> rfl

@[simp] theorem stateField_unit :
    Transition.stateField (kind.holding subject amount unit) "unit" = some unit := by
  cases kind <;> rfl

theorem exists_holding (typed : state.stateType = kind.stateType) :
    ∃ subject amount unit, state = kind.holding subject amount unit := by
  cases kind <;> cases state <;> cases typed
  · exact ⟨_, _, _, rfl⟩
  · exact ⟨_, _, _, rfl⟩

/-- Only a holding of the kind has the kind's amount field. -/
theorem exists_holding_of_amount (read : state.amount kind.field = some amount) :
    ∃ subject unit, state = kind.holding subject amount unit := by
  cases kind <;> cases state <;> cases read
  · exact ⟨_, _, rfl⟩
  · exact ⟨_, _, rfl⟩

theorem holding_injective {subject' : SubjectId}
    (same : kind.holding subject amount unit = kind.holding subject' amount' unit') :
    subject = subject' ∧ amount = amount' ∧ unit = unit' := by
  cases kind <;> cases same <;> exact ⟨rfl, rfl, rfl⟩

/-- The state is the subject's, and it is so much of the unit. -/
def Holds (current : Option StateProjection) (subject : SubjectId) (amount : Amount) (unit : String) : Prop :=
  current.map (·.state) = some (kind.holding subject amount unit)

theorem Holds.state_eq {kind : HoldingKind} (was : kind.Holds (some projection) subject amount unit) :
    projection.state = kind.holding subject amount unit :=
  Option.some.inj was

/-- What an operation makes of a holding. -/
inductive Effect (current : Option StateProjection) (operation : Operation) (inputs : Inputs) :
    ResourceState → Prop
  | opened {subject unit : String} {amount : Amount} (creates : operation = kind.creation)
      (unborn : current = none) (named : inputStr inputs "subject" = .ok subject)
      (given : inputAmount inputs kind.field = .ok amount) :
      Effect current operation inputs (kind.holding ⟨subject⟩ amount unit)
  | grown {subject : SubjectId} {held amount next : Amount} {unit : String} (adds : operation ∈ kind.additions)
      (was : kind.Holds current subject held unit) (given : inputAmount inputs kind.input = .ok amount)
      (sum : held.checkedAdd amount = some next) :
      Effect current operation inputs (kind.holding subject next unit)
  | taken {subject : SubjectId} {held amount next : Amount} {unit : String} (takes : operation ∈ kind.takings)
      (was : kind.Holds current subject held unit) (given : inputAmount inputs kind.input = .ok amount)
      (positive : 0 < amount.value) (rest : held.checkedSub amount = some next) :
      Effect current operation inputs (kind.holding subject next unit)
  | adjusted {subject : SubjectId} {held amount : Amount} {unit : String}
      (adjusts : operation ∈ kind.adjustments) (was : kind.Holds current subject held unit)
      (given : inputAmount inputs kind.input = .ok amount) :
      Effect current operation inputs (kind.holding subject amount unit)
  | emptied {subject : SubjectId} {held : Amount} {unit : String} (expires : operation ∈ kind.expiries)
      (was : kind.Holds current subject held unit) :
      Effect current operation inputs (kind.holding subject Amount.zero unit)
  | converted {subject : SubjectId} {held amount next : Amount} {unit toUnit : String}
      (converts : operation ∈ kind.conversions) (was : kind.Holds current subject held unit)
      (named : inputStr inputs "to_unit" = .ok toUnit) (given : inputAmount inputs kind.input = .ok amount)
      (rest : held.checkedSub amount = some next) :
      Effect current operation inputs (kind.holding subject next toUnit)

theorem holds_of_reads {subject : String} (typed : projection.state.stateType = kind.stateType)
    (recorded : Transition.stateStr projection "subject" = .ok subject) :
    ∃ amount unit, kind.Holds (some projection) ⟨subject⟩ amount unit := by
  obtain ⟨holder, amount, unit, payload⟩ := kind.exists_holding typed
  rw [Transition.stateStr, stateStrWith_eq_ok, payload, stateField_subject] at recorded
  obtain rfl : holder = ⟨subject⟩ := SubjectId.name_injective (Option.some.inj recorded.1)
  exact ⟨amount, unit, congrArg some payload⟩

section Reducers

variable {kind} {current : Option StateProjection} {operation : Operation} {inputs : Inputs} {after : ResourceState}
  {error : ProfileError}

theorem unit_of_reads {subject : SubjectId} {amount : Amount} {unit : String}
    (was : kind.Holds (some projection) subject amount unit)
    (recorded : Transition.stateStr projection "unit" = .ok unit') : unit = unit' := by
  rw [Transition.stateStr, stateStrWith_eq_ok, was.state_eq, stateField_unit] at recorded
  exact Option.some.inj recorded.1

theorem amount_of_reads {subject : SubjectId} {amount : Amount} {unit : String}
    (was : kind.Holds (some projection) subject amount unit)
    (recorded : stateAmount projection kind.field = .ok amount') : amount = amount' := by
  rw [stateAmount, okOr_eq_ok, was.state_eq, amount_holding] at recorded
  exact Option.some.inj recorded

variable (typed : ∀ projection, current = some projection → projection.state.stateType = kind.stateType)

include typed

theorem moved_of_amountMoved {combine : Amount → Amount → Option Amount}
    (moved : Transition.amountMoved kind.field kind.input kind.holding combine error current operation inputs =
      .ok after) :
    ∃ subject held unit amount next, kind.Holds current subject held unit ∧
      inputAmount inputs kind.input = .ok amount ∧ combine held amount = some next ∧
      after = kind.holding subject next unit := by
  simp only [Transition.amountMoved, Transition.requireCurrent, Except.bind_eq_ok, okOr_eq_ok,
    Except.pure_eq_ok, Transition.inputAmount_eq_ok] at moved
  obtain ⟨projection, rfl, subject, subjectRead, unit, unitRead, held, heldRead, amount, given, next, combined,
    rfl⟩ := moved
  obtain ⟨held', unit', was⟩ := holds_of_reads kind (typed projection rfl) subjectRead
  obtain rfl := unit_of_reads was unitRead
  obtain rfl := amount_of_reads was heldRead
  exact ⟨⟨subject⟩, held', unit', amount, next, was, given, combined, rfl⟩

theorem grown_of_amountMoved (adds : operation ∈ kind.additions)
    (moved : Transition.amountMoved kind.field kind.input kind.holding Amount.checkedAdd error current operation
      inputs = .ok after) : kind.Effect current operation inputs after := by
  obtain ⟨subject, held, unit, amount, next, was, given, sum, rfl⟩ := moved_of_amountMoved typed moved
  exact .grown adds was given sum

theorem taken_of_amountMoved
    (positive : operation ∈ kind.takings → ∀ amount, inputAmount inputs kind.input = .ok amount → 0 < amount.value)
    (takes : operation ∈ kind.takings)
    (moved : Transition.amountMoved kind.field kind.input kind.holding Amount.checkedSub error current operation
      inputs = .ok after) : kind.Effect current operation inputs after := by
  obtain ⟨subject, held, unit, amount, next, was, given, rest, rfl⟩ := moved_of_amountMoved typed moved
  exact .taken takes was given (positive takes amount given) rest

end Reducers

section Operations

variable {current : Option StateProjection} {operation : Operation} {inputs : Inputs} {after : ResourceState}

theorem effect_of_applyStack
    (typed : ∀ projection, current = some projection → projection.state.stateType = .consumableStack)
    (opens : operation = ConsumableStack.op.stackCreate → current = none)
    (positive : operation ∈ stack.takings → ∀ amount, inputAmount inputs "quantity" = .ok amount → 0 < amount.value)
    (reduced : Transition.applyStack current operation inputs = .ok after) :
    stack.Effect current operation inputs after := by
  unfold Transition.applyStack at reduced
  split_ifs at reduced with create credit debit transfer adjust expire
  · simp only [Except.bind_eq_ok, Except.pure_eq_ok, Transition.inputAmount_eq_ok] at reduced
    obtain ⟨subject, named, unit, -, amount, given, rfl⟩ := reduced
    exact .opened create (opens create) named given
  · exact grown_of_amountMoved typed (by rcases credit with rfl | rfl <;> decide) reduced
  · exact taken_of_amountMoved typed positive (by rcases debit with rfl | rfl | rfl <;> decide) reduced
  · simp only [Except.bind_eq_ok] at reduced
    obtain ⟨-, -, -, -, moved⟩ := reduced
    exact taken_of_amountMoved typed positive (by subst transfer; decide) moved
  · simp only [Except.bind_eq_ok, Except.pure_eq_ok, Transition.requireCurrent, okOr_eq_ok,
      Transition.inputAmount_eq_ok] at reduced
    obtain ⟨projection, rfl, subject, recorded, unit, unitRead, amount, given, rfl⟩ := reduced
    obtain ⟨held, unit, was⟩ := holds_of_reads stack (typed projection rfl) recorded
    obtain rfl := unit_of_reads was unitRead
    exact .adjusted (by subst adjust; decide) was given
  · simp only [Except.bind_eq_ok, Except.pure_eq_ok, Transition.requireCurrent, okOr_eq_ok] at reduced
    obtain ⟨projection, rfl, subject, recorded, unit, unitRead, rfl⟩ := reduced
    obtain ⟨held, unit, was⟩ := holds_of_reads stack (typed projection rfl) recorded
    obtain rfl := unit_of_reads was unitRead
    exact .emptied (by subst expire; decide) was

theorem effect_of_applyBalance
    (typed : ∀ projection, current = some projection → projection.state.stateType = .fungibleBalance)
    (opens : operation = FungibleBalance.op.balanceCreate → current = none)
    (positive : operation ∈ balance.takings → ∀ amount, inputAmount inputs "amount" = .ok amount → 0 < amount.value)
    (reduced : Transition.applyBalance current operation inputs = .ok after) :
    balance.Effect current operation inputs after := by
  unfold Transition.applyBalance at reduced
  split_ifs at reduced with create credit debit transfer convert
  · simp only [Except.bind_eq_ok, Except.pure_eq_ok, Transition.inputAmount_eq_ok] at reduced
    obtain ⟨subject, named, unit, -, amount, given, rfl⟩ := reduced
    exact .opened create (opens create) named given
  · exact grown_of_amountMoved typed (by rcases credit with rfl | rfl | rfl <;> decide) reduced
  · exact taken_of_amountMoved typed positive (by rcases debit with rfl | rfl | rfl | rfl <;> decide) reduced
  · simp only [Except.bind_eq_ok] at reduced
    obtain ⟨-, -, -, -, moved⟩ := reduced
    exact taken_of_amountMoved typed positive (by subst transfer; decide) moved
  · simp only [Except.bind_eq_ok, Except.pure_eq_ok, Transition.requireCurrent, okOr_eq_ok,
      Transition.inputAmount_eq_ok] at reduced
    obtain ⟨projection, rfl, subject, recorded, toUnit, named, held, heldRead, amount, given, next, rest, rfl⟩ :=
      reduced
    obtain ⟨held', unit, was⟩ := holds_of_reads balance (typed projection rfl) recorded
    obtain rfl := amount_of_reads was heldRead
    exact .converted (by subst convert; decide) was named given rest

theorem unborn_of_check (checked : kind.rules.check kind.creation current inputs = .ok u) : current = none := by
  -- the check of both kinds begins with it
  obtain ⟨_, _, begins⟩ : ∃ message rest, kind.rules.check kind.creation current inputs =
      (requireUnborn current message >>= rest) := by
    cases kind <;> exact ⟨_, _, rfl⟩
  obtain ⟨_, unborn, _⟩ := Except.bind_eq_ok.mp (begins.symm.trans checked)
  exact requireUnborn_eq_ok.mp unborn

/-- What a taking has established: a positive amount that is there, and a destination if it is a transfer. -/
def Covered (current : Option StateProjection) (operation : Operation) (inputs : Inputs) : Prop :=
  ∃ projection held amount, current = some projection ∧ stateAmount projection kind.field = .ok held ∧
    inputAmount inputs kind.input = .ok amount ∧ 0 < amount.value ∧ amount.value ≤ held.value ∧
    (operation = kind.transfer → ∃ toSubject, inputStr inputs "to_subject" = .ok toSubject)

theorem covered_of_checkAvailable (name : String) (other : operation ≠ stack.transfer)
    (checked : ConsumableStack.checkAvailable name current inputs = .ok u) :
    stack.Covered current operation inputs := by
  simp only [ConsumableStack.checkAvailable, Except.bind_eq_ok, requireCurrent_eq_ok,
    requirePositiveAvailable_eq_ok] at checked
  obtain ⟨projection, present, held, recorded, amount, given, positive, available⟩ := checked
  exact ⟨projection, held, amount, present, recorded, given, positive, available, fun same => absurd same other⟩

theorem taken_of_checkTaken (name : String) (required : Option String)
    (checked : FungibleBalance.checkTaken name required current inputs = .ok u) :
    ∃ projection held amount, current = some projection ∧ stateAmount projection "balance" = .ok held ∧
      inputAmount inputs "amount" = .ok amount ∧ 0 < amount.value ∧ amount.value ≤ held.value ∧
      ∀ key, required = some key → ∃ text, inputStr inputs key = .ok text := by
  cases required with
  | none =>
    simp only [FungibleBalance.checkTaken, Except.bind_eq_ok, requireCurrent_eq_ok,
      requirePositiveAvailable_eq_ok] at checked
    obtain ⟨projection, present, held, recorded, amount, given, positive, available⟩ := checked
    refine ⟨projection, held, amount, present, recorded, given, positive, available, fun key asked => ?_⟩
    cases asked
  | some key =>
    simp only [FungibleBalance.checkTaken, Except.bind_eq_ok, requireCurrent_eq_ok,
      requirePositiveAvailable_eq_ok] at checked
    obtain ⟨projection, present, text, named, held, recorded, amount, given, positive, available⟩ := checked
    refine ⟨projection, held, amount, present, recorded, given, positive, available, fun key asked => ?_⟩
    cases asked
    exact ⟨text, named⟩

theorem covered_of_checkTaken (name : String) (required : Option String)
    (named : operation = balance.transfer → required = some "to_subject")
    (checked : FungibleBalance.checkTaken name required current inputs = .ok u) :
    balance.Covered current operation inputs := by
  obtain ⟨projection, held, amount, present, recorded, given, positive, available, read⟩ :=
    taken_of_checkTaken name required checked
  exact ⟨projection, held, amount, present, recorded, given, positive, available, fun same => read _ (named same)⟩

theorem covered_of_check (takes : operation ∈ kind.takings)
    (checked : kind.rules.check operation current inputs = .ok u) : kind.Covered current operation inputs := by
  cases kind with
  | stack =>
    simp only [takings, List.mem_cons, List.not_mem_nil, or_false] at takes
    rcases takes with rfl | rfl | rfl | rfl
    · exact covered_of_checkAvailable "stack.debit" (by decide) checked
    · exact covered_of_checkAvailable "stack.consume" (by decide) checked
    · exact covered_of_checkAvailable "stack.reserve" (by decide) checked
    · replace checked : ConsumableStack.checkTransfer current inputs = .ok u := checked
      simp only [ConsumableStack.checkTransfer, Except.bind_eq_ok, requireCurrent_eq_ok,
        requirePositiveAvailable_eq_ok] at checked
      obtain ⟨projection, present, toSubject, named, held, recorded, amount, given, positive, available⟩ := checked
      exact ⟨projection, held, amount, present, recorded, given, positive, available, fun _ => ⟨toSubject, named⟩⟩
  | balance =>
    simp only [takings, List.mem_cons, List.not_mem_nil, or_false] at takes
    rcases takes with rfl | rfl | rfl | rfl | rfl
    · exact covered_of_checkTaken "balance.debit" none (by decide) checked
    · exact covered_of_checkTaken "balance.spend" none (by decide) checked
    · exact covered_of_checkTaken "balance.reserve" none (by decide) checked
    · exact covered_of_checkTaken "balance.burn" (some "authorized_by") (by decide) checked
    · exact covered_of_checkTaken "balance.transfer" (some "to_subject") (by decide) checked

theorem effect_of_check (checked : kind.rules.check operation current inputs = .ok u)
    (typed : ∀ projection, current = some projection → projection.state.stateType = kind.stateType)
    (reduced : Transition.applyTyped current operation inputs kind.stateType = .ok after) :
    kind.Effect current operation inputs after := by
  have opens (create : operation = kind.creation) : current = none := by
    rw [create] at checked
    exact unborn_of_check kind checked
  have positive (takes : operation ∈ kind.takings) (amount : Amount)
      (given : inputAmount inputs kind.input = .ok amount) : 0 < amount.value := by
    obtain ⟨_, _, _, -, -, read, positive, -⟩ := covered_of_check kind takes checked
    cases read.symm.trans given
    exact positive
  cases kind with
  | stack => exact effect_of_applyStack typed opens positive reduced
  | balance => exact effect_of_applyBalance typed opens positive reduced

/-! Each operation has one effect: no two of the families share an operation. -/

variable (effect : kind.Effect current operation inputs after)

include effect

theorem Effect.of_taking (takes : operation ∈ kind.takings) :
    ∃ subject held amount next unit, kind.Holds current subject held unit ∧
      inputAmount inputs kind.input = .ok amount ∧ 0 < amount.value ∧ held.checkedSub amount = some next ∧
      after = kind.holding subject next unit := by
  have only : ∀ operation ∈ kind.takings, operation ∉
      kind.creation :: (kind.additions ++ kind.adjustments ++ kind.expiries ++ kind.conversions) := by
    cases kind <;> decide
  cases effect with
  | taken _ was given positive rest => exact ⟨_, _, _, _, _, was, given, positive, rest, rfl⟩
  | _ => exact absurd (by simp_all) (only operation takes)

theorem Effect.of_addition (adds : operation ∈ kind.additions) :
    ∃ subject held amount next unit, kind.Holds current subject held unit ∧
      inputAmount inputs kind.input = .ok amount ∧ held.checkedAdd amount = some next ∧
      after = kind.holding subject next unit := by
  have only : ∀ operation ∈ kind.additions, operation ∉
      kind.creation :: (kind.takings ++ kind.adjustments ++ kind.expiries ++ kind.conversions) := by
    cases kind <;> decide
  cases effect with
  | grown _ was given sum => exact ⟨_, _, _, _, _, was, given, sum, rfl⟩
  | _ => exact absurd (by simp_all) (only operation adds)

/-- A conversion leaves the rest to its holder, in another unit. -/
theorem Effect.of_conversion (converts : operation ∈ kind.conversions) :
    ∃ subject held amount next unit toUnit, kind.Holds current subject held unit ∧
      inputs.get? "to_unit" = some (.string toUnit) ∧ inputAmount inputs kind.input = .ok amount ∧
      held.checkedSub amount = some next ∧ after = kind.holding subject next toUnit := by
  have only : ∀ operation ∈ kind.conversions, operation ∉
      kind.creation :: (kind.additions ++ kind.takings ++ kind.adjustments ++ kind.expiries) := by
    cases kind <;> decide
  cases effect with
  | converted _ was named given rest =>
    exact ⟨_, _, _, _, _, _, was, (inputStr_eq_ok.mp named).1, given, rest, rfl⟩
  | _ => exact absurd (by simp_all) (only operation converts)

end Operations

/-! ## The credit of a transfer -/

/-- The destination gets the amount on top of what it has, all of it in the unit of the source. -/
inductive Credit (source destination : Option StateProjection) (inputs : Inputs) : ResourceState → Prop
  | opened {toSubject : String} {holder : SubjectId} {held amount next : Amount} {unit : String}
      (named : inputStr inputs "to_subject" = .ok toSubject) (was : kind.Holds source holder held unit)
      (given : inputAmount inputs kind.input = .ok amount) (unborn : destination = none)
      (sum : Amount.zero.checkedAdd amount = some next) :
      Credit source destination inputs (kind.holding ⟨toSubject⟩ next unit)
  | grown {toSubject : String} {holder other : SubjectId} {held existing amount next : Amount}
      {unit unitBefore : String}
      (named : inputStr inputs "to_subject" = .ok toSubject) (was : kind.Holds source holder held unit)
      (given : inputAmount inputs kind.input = .ok amount)
      (had : kind.Holds destination other existing unitBefore)
      (sum : existing.checkedAdd amount = some next) :
      Credit source destination inputs (kind.holding ⟨toSubject⟩ next unit)

theorem Credit.typed {kind : HoldingKind} {source : Option StateProjection} {inputs : Inputs} {after : ResourceState}
    (credit : kind.Credit source destination inputs after) :
    after.stateType = kind.stateType ∧
      ∀ projection, destination = some projection → projection.state.stateType = kind.stateType := by
  cases credit with
  | opened _ _ _ unborn =>
    refine ⟨kind.stateType_holding, fun projection present => ?_⟩
    rw [unborn] at present
    cases present
  | grown _ _ _ had =>
    refine ⟨kind.stateType_holding, fun projection present => ?_⟩
    rw [present] at had
    rw [had.state_eq, kind.stateType_holding]

theorem Credit.amounts {kind : HoldingKind} {source : Option StateProjection} {inputs : Inputs} {after : ResourceState}
    (credit : kind.Credit source destination inputs after) :
    ∃ toSubject unit amount existing next, inputStr inputs "to_subject" = .ok toSubject ∧
      (∀ {holder held unit'}, kind.Holds source holder held unit' → unit = unit') ∧
      inputAmount inputs kind.input = .ok amount ∧
      destination.elim (some Amount.zero) (·.state.amount kind.field) = some existing ∧
      existing.checkedAdd amount = some next ∧ after = kind.holding ⟨toSubject⟩ next unit := by
  cases credit with
  | opened named was given unborn sum =>
    refine ⟨_, _, _, _, _, named, fun was' => ?_, given, by rw [unborn]; rfl, sum, rfl⟩
    exact (kind.holding_injective (Option.some.inj (was.symm.trans was'))).2.2
  | grown named was given had sum =>
    refine ⟨_, _, _, _, _, named, fun was' => ?_, given, ?_, sum, rfl⟩
    · exact (kind.holding_injective (Option.some.inj (was.symm.trans was'))).2.2
    · obtain ⟨projection, rfl, payload⟩ := Option.map_eq_some_iff.mp had
      rw [Option.elim_some, payload, amount_holding]

theorem credit_of_creditedState {inputs : Inputs} {after : ResourceState} {label : String}
    (typed : source.state.stateType = kind.stateType)
    (credited : Transition.creditedState kind.field kind.input label kind.holding source destination inputs =
      .ok after) :
    kind.Credit (some source) destination inputs after := by
  obtain ⟨toSubject, named, unit, unitRead, amount, given, existing, existingRead, next, sum, rfl⟩ :=
    Transition.creditedState_eq_ok.mp credited
  obtain ⟨holder, held, unit', payload⟩ := kind.exists_holding typed
  have was : kind.Holds (some source) holder held unit' := congrArg some payload
  obtain rfl := unit_of_reads was unitRead
  cases destination with
  | none =>
    cases existingRead
    exact .opened named was given rfl sum
  | some projection =>
    obtain ⟨other, unitBefore, payload⟩ := kind.exists_holding_of_amount (okOr_eq_ok.mp existingRead)
    exact .grown named was given (congrArg some payload) sum

theorem credit_of_transferAfterState {inputs : Inputs} {after : ResourceState}
    (typed : source.state.stateType = kind.stateType)
    (applied : Transition.transferAfterState source destination kind.transfer inputs = .ok after) :
    kind.Credit (some source) destination inputs after := by
  cases kind with
  | stack => exact credit_of_creditedState stack typed applied
  | balance => exact credit_of_creditedState balance typed applied

end HoldingKind

namespace Meter

/-- What an operation makes of a meter. -/
inductive Effect (current : Option StateProjection) (operation : Operation) (inputs : Inputs) :
    ResourceState → Prop
  | opened {subject : String} {remaining maximum : Amount} (creates : operation = op.meterCreate)
      (unborn : current = none) (named : inputStr inputs "subject" = .ok subject)
      (given : inputAmount inputs "remaining" = .ok remaining) (bounded : remaining.value ≤ maximum.value) :
      Effect current operation inputs (.meteredResource ⟨⟨subject⟩, remaining, maximum⟩)
  | consumed {subject : SubjectId} {remaining maximum amount next : Amount}
      (consumes : operation = op.meterConsume)
      (was : current.map (·.state) = some (.meteredResource ⟨subject, remaining, maximum⟩))
      (rest : remaining.checkedSub amount = some next) :
      Effect current operation inputs (.meteredResource ⟨subject, next, maximum⟩)
  | refilled {subject : SubjectId} {remaining maximum : Amount} (refills : operation = op.meterRefill)
      (was : current.map (·.state) = some (.meteredResource ⟨subject, remaining, maximum⟩)) :
      Effect current operation inputs (.meteredResource ⟨subject, maximum, maximum⟩)
  | capped {subject : SubjectId} {remaining maximum cap : Amount} (caps : operation = op.meterSetMaximum)
      (was : current.map (·.state) = some (.meteredResource ⟨subject, remaining, maximum⟩)) :
      Effect current operation inputs (.meteredResource ⟨subject, remaining.min cap, cap⟩)
  | emptied {subject : SubjectId} {remaining maximum : Amount}
      (empties : operation ∈ [op.meterReset, op.meterExpire])
      (was : current.map (·.state) = some (.meteredResource ⟨subject, remaining, maximum⟩)) :
      Effect current operation inputs (.meteredResource ⟨subject, Amount.zero, maximum⟩)

section Reducers

variable {current : Option StateProjection} {operation : Operation} {inputs : Inputs} {after : ResourceState}

theorem was_of_reads {subject : String} (typed : projection.state.stateType = .meteredResource)
    (recorded : Transition.stateStr projection "subject" = .ok subject) :
    ∃ remaining maximum, projection.state = .meteredResource ⟨⟨subject⟩, remaining, maximum⟩ := by
  rw [Transition.stateStr, stateStrWith_eq_ok] at recorded
  cases payload : projection.state <;> rw [payload] at typed <;> cases typed
  rename_i meter
  rw [payload] at recorded
  obtain ⟨holder, remaining, maximum⟩ := meter
  obtain rfl : holder = ⟨subject⟩ := SubjectId.name_injective (Option.some.inj recorded.1)
  exact ⟨remaining, maximum, rfl⟩

variable (typed : ∀ projection, current = some projection → projection.state.stateType = .meteredResource)

include typed

theorem effect_of_applyMeter
    (opens : operation = op.meterCreate → current = none ∧ ∀ remaining maximum,
      inputAmount inputs "remaining" = .ok remaining → inputAmount inputs "maximum" = .ok maximum →
        remaining.value ≤ maximum.value)
    (reduced : Transition.applyMeter current operation inputs = .ok after) :
    Effect current operation inputs after := by
  unfold Transition.applyMeter at reduced
  split_ifs at reduced with create consume refill cap empty
  · simp only [Except.bind_eq_ok, Except.pure_eq_ok, Transition.inputAmount_eq_ok] at reduced
    obtain ⟨subject, named, remaining, remainingRead, maximum, maximumRead, rfl⟩ := reduced
    obtain ⟨unborn, bounded⟩ := opens create
    exact .opened create unborn named remainingRead (bounded _ _ remainingRead maximumRead)
  all_goals
    simp only [Except.bind_eq_ok, Except.pure_eq_ok, Transition.requireCurrent, stateAmount, okOr_eq_ok] at reduced
    obtain ⟨projection, rfl, subject, recorded, reduced⟩ := reduced
    obtain ⟨remaining, maximum, payload⟩ := was_of_reads (typed projection rfl) recorded
    rw [payload] at reduced
  · obtain ⟨_, maximumRead, _, remainingRead, amount, -, next, rest, rfl⟩ := reduced
    cases maximumRead
    cases remainingRead
    exact .consumed consume (congrArg some payload) rest
  · obtain ⟨_, maximumRead, rfl⟩ := reduced
    cases maximumRead
    exact .refilled refill (congrArg some payload)
  · obtain ⟨_, remainingRead, cap', -, rfl⟩ := reduced
    cases remainingRead
    exact .capped cap (congrArg some payload)
  · obtain ⟨_, maximumRead, rfl⟩ := reduced
    cases maximumRead
    exact .emptied (by rcases empty with rfl | rfl <;> decide) (congrArg some payload)

theorem effect_of_check (checked : check operation current inputs = .ok u)
    (reduced : Transition.applyMeter current operation inputs = .ok after) : Effect current operation inputs after := by
  refine effect_of_applyMeter typed (fun create => ?_) reduced
  subst create
  replace checked : checkCreate current inputs = .ok u := checked
  simp only [checkCreate, Except.bind_eq_ok, rejectIf_eq_ok, requireUnborn_eq_ok, Amount.lt_iff_value_lt,
    not_lt] at checked
  obtain ⟨_, unborn, _, -, remaining, remainingRead, maximum, maximumRead, bounded⟩ := checked
  refine ⟨unborn, fun _ _ remainingRead' maximumRead' => ?_⟩
  cases remainingRead.symm.trans remainingRead'
  cases maximumRead.symm.trans maximumRead'
  exact bounded

end Reducers

end Meter

end StateChronicle.Profiles
