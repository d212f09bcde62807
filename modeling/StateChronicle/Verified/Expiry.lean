import StateChronicle.Verified.Meters

/-!
# Expired meters and stacks

Expiring a meter or a stack leaves nothing of it, and no sign that it has expired.  Its slot stays empty exactly
as long as nobody refills it, adds to it, sends to it or opens it again.
-/

namespace StateChronicle.Verified

open Commit StateChronicle.Core Domain Execution Foundation Profiles

variable {W : Type}

def leftover : ResourceState → ℚ
  | .consumableStack stack => stack.quantity.value
  | .meteredResource meter => meter.remaining.value
  | _ => 0

def leftIn (current : Option StateProjection) : ℚ := current.elim 0 fun projection => leftover projection.state

/-- What the meter in a slot can be refilled to. -/
def maximumIn (current : Option StateProjection) : ℚ :=
  current.elim 0 fun projection => (projection.state.amount "maximum").elim 0 Amount.value

/-- The stack operations whose result is at least what they are given. -/
def stackings : List Operation :=
  [ConsumableStack.op.stackCreate, ConsumableStack.op.stackCredit, ConsumableStack.op.stackRelease,
    ConsumableStack.op.stackAdjust]

/-- The intent makes something of a state of which nothing is left, or of none. -/
inductive Replenishes (current : Option StateProjection) (intent : Intent) : Prop
  | stacked (operation : intent.operation ∈ stackings) (positive : 0 < inputValue intent.inputs "quantity")
  | refilled (operation : intent.operation = Meter.op.meterRefill) (capacity : 0 < maximumIn current)
  | metered (operation : intent.operation = Meter.op.meterCreate)
      (positive : 0 < inputValue intent.inputs "remaining")

/-- The intent replenishes the slot of the subject, from the state the subject has or by opening a new one, or sends
a stack there. -/
def Revives (step : RunStep W) (tenant : TenantId) (resource : ResourceId) (subject : SubjectId) : Prop :=
  step.events ≠ [] ∧ step.intent.tenantId = tenant ∧ step.intent.resourceId = resource ∧
    ((step.intent.actor = subject ∧ Transition.KeepsHolder step.intent.operation ∨
          Transition.namedSubject step.intent.inputs "subject" = some subject ∧
            step.intent.operation ∈ Transition.creations) ∧
        Replenishes (step.table.read ⟨tenant, resource, some subject⟩) step.intent ∨
      step.intent.operation = ConsumableStack.op.stackTransfer ∧
        Transition.namedSubject step.intent.inputs "to_subject" = some subject)

section Effects

variable {current : Option StateProjection} {intent : Intent} {after : ResourceState}

theorem leftIn_of_was {state : ResourceState} (was : current.map (·.state) = some state) :
    leftIn current = leftover state := by
  obtain ⟨projection, rfl, rfl⟩ := Option.map_eq_some_iff.mp was
  rfl

theorem maximumIn_of_was {subject : SubjectId} {remaining maximum : Amount}
    (was : current.map (·.state) = some (.meteredResource ⟨subject, remaining, maximum⟩)) :
    maximumIn current = maximum.value := by
  obtain ⟨projection, rfl, payload⟩ := Option.map_eq_some_iff.mp was
  rw [maximumIn, Option.elim_some, payload]
  rfl

section

variable (effect : HoldingKind.stack.Effect current intent.operation intent.inputs after) (spent : leftIn current = 0)

include effect spent

theorem not_taken_of_spent : intent.operation ∉ HoldingKind.stack.takings := by
  intro takes
  obtain ⟨subject, held, amount, next, unit, was, given, positive, rest, -⟩ :=
    HoldingKind.Effect.of_taking .stack effect takes
  have left := Amount.value_checkedSub rest
  have nonneg := next.value_nonneg
  have empty : held.value = 0 := (leftIn_of_was was).symm.trans spent
  linarith

theorem replenishes_stack_iff :
    0 < leftover after ↔ intent.operation ∈ stackings ∧ 0 < inputValue intent.inputs "quantity" := by
  have empty {subject : SubjectId} {held : Amount} {unit : String}
      (was : HoldingKind.stack.Holds current subject held unit) : held.value = 0 :=
    (leftIn_of_was was).symm.trans spent
  have given_iff {amount : Amount} (given : inputAmount intent.inputs "quantity" = .ok amount)
      (listed : intent.operation ∈ stackings) : 0 < amount.value ↔
        intent.operation ∈ stackings ∧ 0 < inputValue intent.inputs "quantity" := by
    rw [inputValue_of_inputAmount given]
    exact ⟨fun positive => ⟨listed, positive⟩, fun positive => positive.2⟩
  have untaken := not_taken_of_spent effect spent
  cases effect with
  | opened creates unborn named given =>
    have listed : intent.operation ∈ stackings := by
      rw [creates]
      decide
    exact given_iff given listed
  | @grown subject held amount next unit adds was given sum =>
    have additions : ∀ operation ∈ HoldingKind.stack.additions, operation ∈ stackings := by decide
    have all : next.value = amount.value := by rw [Amount.value_checkedAdd sum, empty was, zero_add]
    change 0 < next.value ↔ _
    rw [all]
    exact given_iff given (additions _ adds)
  | taken takes => exact absurd takes untaken
  | adjusted adjusts was given =>
    have adjustments : ∀ operation ∈ HoldingKind.stack.adjustments, operation ∈ stackings := by decide
    exact given_iff given (adjustments _ adjusts)
  | emptied expires was =>
    have expiries : ∀ operation ∈ HoldingKind.stack.expiries, operation ∉ stackings := by decide
    change 0 < Amount.zero.value ↔ _
    rw [Amount.value_zero]
    exact ⟨fun positive => absurd positive (lt_irrefl 0), fun replenishes => absurd replenishes.1
      (expiries _ expires)⟩
  | converted converts => exact absurd converts List.not_mem_nil

end

theorem replenishes_meter_iff (effect : Meter.Effect current intent.operation intent.inputs after)
    (spent : leftIn current = 0) :
    0 < leftover after ↔ intent.operation = Meter.op.meterRefill ∧ 0 < maximumIn current ∨
      intent.operation = Meter.op.meterCreate ∧ 0 < inputValue intent.inputs "remaining" := by
  have empty {subject : SubjectId} {remaining maximum : Amount}
      (was : current.map (·.state) = some (.meteredResource ⟨subject, remaining, maximum⟩)) :
      remaining.value = 0 :=
    (leftIn_of_was was).symm.trans spent
  have neither (notRefill : intent.operation ≠ Meter.op.meterRefill)
      (notCreate : intent.operation ≠ Meter.op.meterCreate) {left : Amount} (none : left.value ≤ 0) :
      0 < left.value ↔ intent.operation = Meter.op.meterRefill ∧ 0 < maximumIn current ∨
        intent.operation = Meter.op.meterCreate ∧ 0 < inputValue intent.inputs "remaining" := by
    simp [notRefill, notCreate, none]
  cases effect with
  | opened creates unborn named given bounded =>
    rw [creates, inputValue_of_inputAmount given]
    exact ⟨fun positive => .inr ⟨rfl, positive⟩, fun either => either.elim
      (fun refills => absurd refills.1 (by decide)) fun opens => opens.2⟩
  | @consumed subject remaining maximum amount next consumes was rest =>
    have taken := Amount.value_checkedSub rest
    have nonneg := amount.value_nonneg
    rw [empty was] at taken
    exact neither (by rw [consumes]; decide) (by rw [consumes]; decide) (by linarith)
  | @refilled subject remaining maximum refills was =>
    rw [refills, maximumIn_of_was was]
    exact ⟨fun positive => .inl ⟨rfl, positive⟩, fun either => either.elim (fun refilled => refilled.2)
      fun opens => absurd opens.1 (by decide)⟩
  | @capped subject remaining maximum cap caps was =>
    exact neither (by rw [caps]; decide) (by rw [caps]; decide)
      ((remaining.value_min_le_left cap).trans (empty was).le)
  | emptied empties was =>
    have only : ∀ operation ∈ [Meter.op.meterReset, Meter.op.meterExpire],
        operation ≠ Meter.op.meterRefill ∧ operation ≠ Meter.op.meterCreate := by decide
    exact neither (only _ empties).1 (only _ empties).2 Amount.value_zero.le

theorem leftover_of_meterExpire (expires : intent.operation = Meter.op.meterExpire)
    (effect : Meter.Effect current intent.operation intent.inputs after) : leftover after = 0 := by
  cases effect with
  | emptied => exact Amount.value_zero
  | _ other => exact absurd (expires.symm.trans other) (by decide)

theorem leftover_of_stackExpire (expires : intent.operation = ConsumableStack.op.stackExpire)
    (effect : HoldingKind.stack.Effect current intent.operation intent.inputs after) : leftover after = 0 := by
  rw [expires] at effect
  cases effect with
  | emptied => exact Amount.value_zero
  | _ other => exact absurd other (by decide)

theorem leftIn_nonneg (current : Option StateProjection) : 0 ≤ leftIn current := by
  cases current with
  | none => exact le_rfl
  | some projection =>
    change 0 ≤ leftover projection.state
    cases projection.state with
    | consumableStack stack => exact stack.quantity.value_nonneg
    | meteredResource meter => exact meter.remaining.value_nonneg
    | _ => exact le_rfl

end Effects

/-! ## Acceptances -/

/-- The operations that can replenish, by the type they belong to. -/
theorem hint_of_stackings : ∀ operation ∈ stackings, operation.stateTypeHint = some .consumableStack := by
  decide

theorem hint_of_replenishes {current : Option StateProjection} {intent : Intent}
    (replenishes : Replenishes current intent) :
    intent.operation.stateTypeHint ∈ [some .consumableStack, some .meteredResource] := by
  rcases replenishes with ⟨operation, -⟩ | ⟨operation, -⟩ | ⟨operation, -⟩
  · rw [hint_of_stackings _ operation]
    decide
  · rw [operation]
    decide
  · rw [operation]
    decide

section Acceptances

variable {self : Executor W} {table : StateTable} {intent : Intent} {coordinated : Bool}
  (acceptance : self.Acceptance intent coordinated) (standard : self.profiles.Standard)

include standard

theorem leftover_after_iff (builtin : Builtin acceptance.stateType acceptance.rules)
    (spent : leftIn acceptance.current = 0) :
    0 < leftover acceptance.after ↔ Replenishes acceptance.current intent := by
  have hinted {stateType : StateType} (hint : intent.operation.stateTypeHint = some stateType) :
      acceptance.stateType = stateType := (stateType_of_hint acceptance standard hint).2
  by_cases stacked : acceptance.stateType = .consumableStack
  · have effect : HoldingKind.stack.Effect acceptance.current intent.operation intent.inputs acceptance.after :=
      effect_of_acceptance acceptance builtin stacked
    rw [replenishes_stack_iff effect spent]
    constructor
    · exact fun made => .stacked made.1 made.2
    · rintro (⟨operation, positive⟩ | ⟨operation, -⟩ | ⟨operation, -⟩)
      · exact ⟨operation, positive⟩
      · cases stacked.symm.trans (hinted (by rw [operation]; decide : _ = some .meteredResource))
      · cases stacked.symm.trans (hinted (by rw [operation]; decide : _ = some .meteredResource))
  by_cases metered : acceptance.stateType = .meteredResource
  · rw [replenishes_meter_iff (meterEffect_of_acceptance acceptance builtin metered) spent]
    constructor
    · rintro (⟨operation, capacity⟩ | ⟨operation, positive⟩)
      · exact .refilled operation capacity
      · exact .metered operation positive
    · rintro (⟨operation, -⟩ | ⟨operation, capacity⟩ | ⟨operation, positive⟩)
      · cases metered.symm.trans (hinted (hint_of_stackings _ operation))
      · exact .inl ⟨operation, capacity⟩
      · exact .inr ⟨operation, positive⟩
  · -- The other types have nothing that could be left.
    have typed := acceptance.after_stateType
    constructor
    · intro positive
      cases payload : acceptance.after <;> rw [payload] at typed positive
      case consumableStack => exact absurd typed.symm stacked
      case meteredResource => exact absurd typed.symm metered
      all_goals exact absurd positive (lt_irrefl 0)
    · intro replenishes
      rcases List.mem_pair.mp (hint_of_replenishes replenishes) with hint | hint
      · exact absurd (hinted hint) stacked
      · exact absurd (hinted hint) metered

theorem stackEffect_of_operation {operation : Operation} (operated : intent.operation = operation)
    (hint : operation.stateTypeHint = some .consumableStack) :
    HoldingKind.stack.Effect acceptance.current intent.operation intent.inputs acceptance.after := by
  obtain ⟨builtin, typed⟩ := stateType_of_hint acceptance standard (operated ▸ hint)
  exact effect_of_acceptance acceptance builtin typed

theorem unborn_of_creation (creates : intent.operation ∈ Transition.creations) : acceptance.current = none := by
  have checked := acceptance.checked
  have builtin := (builtin_of_creations acceptance standard (List.mem_cons_of_mem _ creates)).1
  simp only [Transition.creations, List.mem_cons, List.not_mem_nil, or_false] at creates
  generalize acceptance.stateType = stateType, acceptance.rules = rules at builtin checked
  rcases creates with operation | operation | operation | operation
  all_goals
    rw [operation] at checked
    cases builtin <;> first
      | cases checked
      | obtain ⟨_, unborn, _⟩ := Except.bind_eq_ok.mp checked
        exact requireUnborn_eq_ok.mp unborn

end Acceptances

/-! ## Steps -/

theorem replenishes_congr {current other : Option StateProjection} {intent : Intent}
    (creates : intent.operation ∈ Transition.creations) (replenishes : Replenishes current intent) :
    Replenishes other intent := by
  rcases replenishes with ⟨operation, positive⟩ | ⟨operation, -⟩ | ⟨operation, positive⟩
  · exact .stacked operation positive
  · rw [operation] at creates
    exact absurd creates (by decide)
  · exact .metered operation positive

section Steps

variable {step : RunStep W} {tenant : TenantId} {resource : ResourceId} {subject : SubjectId} {source : StateProjection}
  {destination : Option StateProjection} {inputs : Inputs}

theorem hint_of_revives (revives : Revives step tenant resource subject) :
    step.intent.operation.stateTypeHint ∈ [some .consumableStack, some .meteredResource] := by
  obtain ⟨-, -, -, ⟨-, replenishes⟩ | ⟨transfers, -⟩⟩ := revives
  · exact hint_of_replenishes replenishes
  · rw [transfers]
    decide

theorem written_of_revives (accepted : step.Accepted) (keyed : step.table.HoldersKeyed)
    (revives : Revives step tenant resource subject) :
    ∃ event ∈ step.events, writtenSlot event = ⟨tenant, resource, some subject⟩ := by
  obtain ⟨fresh, rfl, rfl, ⟨⟨rfl, keeps⟩ | ⟨named, creates⟩, replenishes⟩ | ⟨transfers, named⟩⟩ := revives
  all_goals obtain ⟨acceptance, emitted⟩ := accepted.cases.resolve_left fresh
  · rcases List.mem_pair.mp (hint_of_replenishes replenishes) with hint | hint
    all_goals
      obtain ⟨builtin, typed⟩ := stateType_of_hint acceptance accepted.standard hint
      exact ⟨acceptance.event, emitted ▸ List.mem_cons_self,
        writtenSlot_own acceptance builtin accepted.served keyed (by rw [typed]; rfl) keeps⟩
  · exact ⟨acceptance.event, emitted ▸ List.mem_cons_self,
      writtenSlot_of_bestows acceptance accepted.standard ⟨rfl, rfl, .inl ⟨creates, named⟩⟩⟩
  · have builtin := acceptance.builtin_of_reserved accepted.standard (by rw [transfers]; decide)
    rcases acceptance.companions_cases builtin with ⟨untransferred, -⟩ | ⟨-, credit, one⟩
    · exact absurd (.inl transfers) untransferred
    have member : credit ∈ acceptance.companions := one ▸ List.mem_cons_self
    obtain ⟨holder, named', slot⟩ := acceptance.subject_of_companion accepted.standard accepted.nativeDomains
      accepted.served member
    rw [Transition.namedSubject_eq_some.mpr named'] at named
    obtain rfl := Option.some.inj named
    exact ⟨credit, emitted ▸ List.mem_cons_of_mem _ member, slot⟩

theorem leftover_of_credit
    {after : ResourceState} (typed : source.state.stateType = .consumableStack)
    (positive : ∀ amount, inputAmount inputs "quantity" = .ok amount → 0 < amount.value)
    (applied : Transition.transferAfterState source destination ConsumableStack.op.stackTransfer inputs =
      .ok after) : 0 < leftover after := by
  obtain ⟨_, _, amount, existing, next, -, -, given, -, sum, rfl⟩ :=
    (HoldingKind.credit_of_transferAfterState .stack typed applied).amounts
  have sent := positive amount given
  have grown := Amount.value_checkedAdd sum
  have nonneg := existing.value_nonneg
  change 0 < next.value
  linarith

/-- A transfer of a balance leaves a balance, of which this says nothing. -/
theorem leftover_of_balance_credit {after : ResourceState}
    (applied : Transition.transferAfterState source destination FungibleBalance.op.balanceTransfer inputs =
      .ok after) : leftover after = 0 := by
  obtain ⟨_, -, _, -, _, -, _, -, _, -, rfl⟩ := Transition.creditedState_eq_ok.mp applied
  rfl

variable (accepted : step.Accepted) (keyed : step.table.HoldersKeyed)
  (spent : leftIn (step.table.read ⟨tenant, resource, some subject⟩) = 0)

include accepted keyed spent

/-- An accepted intent leaves something in an empty slot exactly when it revives it. -/
theorem revives_iff :
    0 < leftIn (step.result.read ⟨tenant, resource, some subject⟩) ↔ Revives step tenant resource subject := by
  cases slotStep_of_accepted accepted keyed tenant resource subject with
  | spared untouched kept =>
    rw [kept, spent]
    refine ⟨fun positive => absurd positive (lt_irrefl 0), fun revives => ?_⟩
    obtain ⟨event, member, written⟩ := written_of_revives accepted keyed revives
    exact absurd written (untouched event member)
  | moved acceptance emitted tenant_eq resource_eq actor_eq builtin keeps current state =>
    have fresh : step.events ≠ [] := emitted ▸ List.cons_ne_nil _ _
    rw [leftIn_of_was state, leftover_after_iff acceptance accepted.standard builtin (current ▸ spent), current]
    constructor
    · exact fun replenishes => ⟨fresh, tenant_eq, resource_eq, .inl ⟨.inl ⟨actor_eq, keeps⟩, replenishes⟩⟩
    · rintro ⟨-, -, -, ⟨-, replenishes⟩ | ⟨transfers, -⟩⟩
      · exact replenishes
      · -- The holder has nothing to send.
        have effect := stackEffect_of_operation acceptance accepted.standard transfers (by decide)
        refine absurd ?_ (not_taken_of_spent effect (current ▸ spent))
        rw [transfers]
        decide
  | bestowed acceptance emitted builtin bestows state =>
    have fresh : step.events ≠ [] := emitted ▸ List.cons_ne_nil _ _
    obtain ⟨tenant_eq, resource_eq, ⟨creates, named⟩ | ⟨hands, -⟩⟩ := bestows
    · have unborn := unborn_of_creation acceptance accepted.standard creates
      have nothing : leftIn acceptance.current = 0 := by
        rw [unborn]
        rfl
      rw [leftIn_of_was state, leftover_after_iff acceptance accepted.standard builtin nothing]
      constructor
      · exact fun replenishes => ⟨fresh, tenant_eq, resource_eq,
          .inl ⟨.inr ⟨named, creates⟩, replenishes_congr creates replenishes⟩⟩
      · rintro ⟨-, -, -, ⟨-, replenishes⟩ | ⟨transfers, -⟩⟩
        · exact replenishes_congr creates replenishes
        · rw [transfers] at creates
          exact absurd creates (by decide)
    · -- An entitlement has been handed over.
      have hint : step.intent.operation.stateTypeHint = some .entitlement := by
        rw [hands]
        decide
      have typed := acceptance.after_stateType.trans (stateType_of_hint acceptance accepted.standard hint).2
      rw [leftIn_of_was state]
      refine ⟨fun positive => ?_, fun revives => ?_⟩
      · cases payload : acceptance.after <;> rw [payload] at typed positive <;> cases typed
        exact absurd positive (lt_irrefl 0)
      · exact absurd (hint ▸ hint_of_revives revives) (by decide)
  | credited acceptance emitted tenant_eq resource_eq transfers named source present after applied state =>
    have fresh : step.events ≠ [] := emitted ▸ List.cons_ne_nil _ _
    rw [leftIn_of_was state]
    rcases transfers with stack | balance
    · obtain ⟨-, typed⟩ := stateType_of_hint acceptance accepted.standard
        (by rw [stack]; decide : _ = some .consumableStack)
      have effect := stackEffect_of_operation acceptance accepted.standard stack (by decide)
      obtain ⟨_, _, amount, _, _, -, given, positive, -⟩ :=
        HoldingKind.Effect.of_taking .stack effect (by rw [stack]; decide)
      have sent : ∀ amount, inputAmount step.intent.inputs "quantity" = .ok amount → 0 < amount.value := by
        intro other given'
        cases given.symm.trans given'
        exact positive
      have sourceTyped := ((admitted_of_checkLoaded acceptance.admitted).typed source present).2.trans typed
      have made := leftover_of_credit sourceTyped sent (stack ▸ applied)
      refine ⟨fun _ => ⟨fresh, tenant_eq, resource_eq, .inr ⟨stack, ?_⟩⟩, fun _ => made⟩
      exact Transition.namedSubject_eq_some.mpr named
    · rw [balance] at applied
      rw [leftover_of_balance_credit applied]
      refine ⟨fun positive => absurd positive (lt_irrefl 0), fun revives => ?_⟩
      exact absurd (balance ▸ hint_of_revives revives) (by decide)

end Steps

/-! ## Runs -/

theorem spent_of_expiry {expiry : RunStep W} (accepted : expiry.Accepted) (keyed : expiry.table.HoldersKeyed)
    (fresh : expiry.events ≠ [])
    (expires : expiry.intent.operation ∈ [Meter.op.meterExpire, ConsumableStack.op.stackExpire]) :
    leftIn (expiry.result.read (holderSlot expiry.intent expiry.intent.actor)) = 0 := by
  obtain ⟨acceptance, emitted⟩ := accepted.cases.resolve_left fresh
  have own : ∀ operation ∈ [Meter.op.meterExpire, ConsumableStack.op.stackExpire],
      Transition.KeepsHolder operation ∧ ¬ Resource.isTransferOperation operation := by decide
  obtain ⟨keeps, untransferred⟩ := own _ expires
  have left (builtin : Builtin acceptance.stateType acceptance.rules)
      (held : acceptance.stateType.subjectHeld = true) :
      leftIn (expiry.result.read (holderSlot expiry.intent expiry.intent.actor)) = leftover acceptance.after := by
    have written := writtenSlot_own acceptance builtin accepted.served keyed held keeps
    exact leftIn_of_was (state_of_written acceptance emitted written
      (by simp [acceptance.companions_of_other builtin untransferred]))
  simp only [List.mem_cons, List.not_mem_nil, or_false] at expires
  rcases expires with operation | operation
  · obtain ⟨builtin, typed⟩ := stateType_of_hint acceptance accepted.standard
      (by rw [operation]; decide : _ = some .meteredResource)
    rw [left builtin (by rw [typed]; rfl)]
    exact leftover_of_meterExpire operation (meterEffect_of_acceptance acceptance builtin typed)
  · obtain ⟨builtin, typed⟩ := stateType_of_hint acceptance accepted.standard
      (by rw [operation]; decide : _ = some .consumableStack)
    rw [left builtin (by rw [typed]; rfl)]
    exact leftover_of_stackExpire operation
      (stackEffect_of_operation acceptance accepted.standard operation (by decide))

/-- After a meter or a stack has expired, its slot stays empty through the rest of a run exactly when no later
intent revives it. -/
theorem expiry_final_iff {start table : StateTable} {earlier later : List (RunStep W)} {expiry : RunStep W}
    (run : Executed start (earlier ++ expiry :: later) table) (keyed : start.HoldersKeyed)
    (fresh : expiry.events ≠ [])
    (expires : expiry.intent.operation ∈ [Meter.op.meterExpire, ConsumableStack.op.stackExpire]) :
    (∀ step ∈ later, ¬ 0 < leftIn (step.result.read (holderSlot expiry.intent expiry.intent.actor))) ↔
      ∀ step ∈ later, ¬ Revives step expiry.intent.tenantId expiry.intent.resourceId expiry.intent.actor := by
  have member : expiry ∈ earlier ++ expiry :: later := by simp
  have keyedHere := run.holdersKeyed_at keyed member
  obtain ⟨-, accepted, rest⟩ := run.split
  have keyedAfter : expiry.result.HoldersKeyed := keyedHere.writeAll _ _
  let empty (table : StateTable) : Prop := leftIn (table.read (holderSlot expiry.intent expiry.intent.actor)) = 0
  have first : empty expiry.result := spent_of_expiry accepted keyedHere fresh expires
  have stays (step : RunStep W) (inside : step ∈ later) (here : empty step.table) :=
    revives_iff (rest.before inside).1 (rest.holdersKeyed_at keyedAfter inside) here
  exact rest.forall_iff first (fun step inside here => not_congr (stays step inside here))
    fun step _ _ spared => le_antisymm (not_lt.mp spared) (leftIn_nonneg _)

open Harness

def expireCalls : ValidatedIntent := meterIntent "int_expire" "meter.expire" 1 []

def callsOpened : RunStep Memory := stepOf .baseline ∅ .fresh openCalls

def callsExpired : RunStep Memory := stepOf .baseline callsOpened.result callsOpened.world' expireCalls

def callsReset : RunStep Memory :=
  stepOf .baseline callsExpired.result callsExpired.world' (meterIntent "int_reset" "meter.reset" 2 [])

theorem reset_meter_stays_empty :
    (∀ step ∈ [callsOpened, callsExpired, callsReset], step.events ≠ []) ∧
      ∀ step ∈ [callsReset], ¬ 0 < leftIn (step.result.read (holderSlot expireCalls.intent ⟨"alice"⟩)) := by
  have fresh : ∀ step ∈ [callsOpened, callsExpired, callsReset], step.events ≠ [] := by decide +kernel
  have run : Executed ∅ ([callsOpened] ++ callsExpired :: [callsReset]) callsReset.result :=
    @executed_baseline ∅ .fresh [openCalls, expireCalls, meterIntent "int_reset" "meter.reset" 2 []] fresh
  have unrevived : ∀ step ∈ [callsReset], ¬ Revives step tenant calls ⟨"alice"⟩ := by
    intro step member
    obtain rfl := List.mem_singleton.mp member
    rintro ⟨-, -, -, ⟨-, ⟨operation, -⟩ | ⟨operation, -⟩ | ⟨operation, -⟩⟩ | ⟨operation, -⟩⟩ <;>
      exact absurd operation (by decide)
  exact ⟨fresh, (expiry_final_iff run StateTable.holdersKeyed_empty (fresh callsExpired (by simp))
    (by decide)).mpr unrevived⟩

def refilledRun : List (RunStep Memory) :=
  runOf .baseline ∅ .fresh [openCalls, expireCalls, meterIntent "int_refill" "meter.refill" 2 []]

/-- After the expiry nothing is left, and after the refill twenty. -/
theorem expired_meter_refilled :
    Executed ∅ refilledRun (tableAfter ∅ refilledRun) ∧
      (refilledRun.map fun step => leftIn (step.result.read ⟨tenant, calls, some ⟨"alice"⟩⟩)) = [10, 0, 20] :=
  And.imp_left executed_baseline (by decide +kernel)

end StateChronicle.Verified
