import StateChronicle.Verified.HolderSlots

/-!
# Reservations

Reserving takes an amount out of a holding and releasing puts one back.  The state keeps no trace of what is reserved:
a run whose releases give back parts of open reservations releases at most what it has reserved.
-/

namespace StateChronicle.Verified

open Commit StateChronicle.Core Domain Execution Foundation Profiles

variable {W : Type}

/-- One holder's stack or balance of a resource. -/
structure HoldingId where
  kind : HoldingKind
  tenant : TenantId
  resource : ResourceId
  holder : SubjectId
deriving DecidableEq

namespace HoldingId

variable (id : HoldingId) (operation : Operation) (step : RunStep W) (steps : List (RunStep W))

def slot : StateSlot := ⟨id.tenant, id.resource, some id.holder⟩

def amountIn (table : StateTable) : ℚ :=
  (table.read id.slot).elim 0 fun projection => (projection.state.amount id.kind.field).elim 0 Amount.value

/-- The holder has done the operation on the holding. -/
def Acted : Prop :=
  step.events ≠ [] ∧ step.intent.operation = operation ∧ step.intent.tenantId = id.tenant ∧
    step.intent.resourceId = id.resource ∧ step.intent.actor = id.holder

instance : Decidable (id.Acted operation step) := instDecidableAnd

def asked (intent : Intent) : ℚ := inputValue intent.inputs id.kind.input

/-- What a step takes out of the holding to reserve it. -/
def reservedBy : ℚ :=
  if step.intent.operation = id.kind.reserve then id.amountIn step.table - id.amountIn step.result else 0

/-- What a step puts back into the holding as released. -/
def releasedBy : ℚ :=
  if step.intent.operation = id.kind.release then id.amountIn step.result - id.amountIn step.table else 0

def totalReserved : ℚ := (steps.map id.reservedBy).sum

def totalReleased : ℚ := (steps.map id.releasedBy).sum

/-- Every release is shared out among the open reservations, each of which gives at most what is left of it;
`pending` is what is left of each. -/
inductive GivesBack : List ℚ → List (RunStep W) → Prop
  | done (pending : List ℚ) : GivesBack pending []
  | aside {pending : List ℚ} {step : RunStep W} {rest : List (RunStep W)}
      (unreserved : ¬ id.Acted id.kind.reserve step) (unreleased : ¬ id.Acted id.kind.release step)
      (later : GivesBack pending rest) : GivesBack pending (step :: rest)
  | reserve {pending : List ℚ} {step : RunStep W} {rest : List (RunStep W)}
      (reserves : id.Acted id.kind.reserve step) (later : GivesBack (id.asked step.intent :: pending) rest) :
      GivesBack pending (step :: rest)
  | release {pending left : List ℚ} {step : RunStep W} {rest : List (RunStep W)}
      (releases : id.Acted id.kind.release step)
      (shares : List.Forall₂ (fun reserved kept => 0 ≤ kept ∧ kept ≤ reserved) pending left)
      (total : left.sum + id.asked step.intent = pending.sum) (later : GivesBack left rest) :
      GivesBack pending (step :: rest)

section Steps

variable {id} {step : RunStep W}

theorem amountIn_of_state {table : StateTable} {subject : SubjectId} {amount : Amount} {unit : String}
    (had : id.kind.Holds (table.read id.slot) subject amount unit) : id.amountIn table = amount.value := by
  obtain ⟨projection, read, payload⟩ := Option.map_eq_some_iff.mp had
  rw [amountIn, read, Option.elim_some, payload, id.kind.amount_holding, Option.elim_some]

/-- Reserving and releasing are operations of the kind, on the actor's own holding. -/
theorem own_operation (kind : HoldingKind) : ∀ operation ∈ [kind.reserve, kind.release],
    operation.stateTypeHint = some kind.stateType ∧ Transition.KeepsHolder operation ∧
      ¬ Resource.isTransferOperation operation := by
  cases kind <;> decide

variable (accepted : step.Accepted) (keyed : step.table.HoldersKeyed)
  (own : step.intent.operation ∈ [id.kind.reserve, id.kind.release])

include accepted keyed own

/-- Who has not acted on the holding has not changed it. -/
theorem amountIn_of_not_acted (aside : ¬ id.Acted step.intent.operation step) :
    id.amountIn step.result = id.amountIn step.table := by
  obtain ⟨-, keeps, untransferred⟩ := own_operation id.kind _ own
  rcases slotStep_of_accepted accepted keyed id.tenant id.resource id.holder with
    ⟨-, kept⟩ | ⟨acceptance, emitted, tenant_eq, resource_eq, actor_eq, -⟩ | ⟨-, -, -, ⟨-, -, bestows⟩, -⟩ |
    ⟨-, -, -, -, transfers, -⟩
  · rw [amountIn, slot, kept]
    rfl
  · exact absurd ⟨emitted ▸ List.cons_ne_nil _ _, rfl, tenant_eq, resource_eq, actor_eq⟩ aside
  · rcases bestows with ⟨creates, -⟩ | ⟨hands, -⟩
    · exact absurd creates keeps.1
    · exact absurd hands keeps.2
  · exact absurd transfers untransferred

/-- Who has acted on the holding has left what the reducer made of it. -/
theorem effect_of_acted (acted : id.Acted step.intent.operation step) :
    ∃ after, id.kind.Effect (step.table.read id.slot) step.intent.operation step.intent.inputs after ∧
      (step.result.read id.slot).map (·.state) = some after := by
  obtain ⟨hint, keeps, untransferred⟩ := own_operation id.kind _ own
  obtain ⟨fresh, -, tenant_eq, resource_eq, actor_eq⟩ := acted
  obtain ⟨acceptance, emitted⟩ := accepted.cases.resolve_left fresh
  obtain ⟨builtin, typed⟩ := stateType_of_hint acceptance accepted.standard hint
  have subjectHeld : acceptance.stateType.subjectHeld = true := by
    rw [typed]
    cases id.kind <;> rfl
  have slot_eq : holderSlot step.intent step.intent.actor = id.slot := by
    rw [holderSlot, slot, tenant_eq, resource_eq, actor_eq]
  have current := current_of_held acceptance builtin accepted.served keyed subjectHeld
  have written := writtenSlot_own acceptance builtin accepted.served keyed subjectHeld keeps
  rw [slot_eq] at current written
  have effect := effect_of_acceptance acceptance builtin typed
  rw [current] at effect
  exact ⟨acceptance.after, effect, state_of_written acceptance emitted written
    (by simp [acceptance.companions_of_other builtin untransferred])⟩

end Steps

section Amounts

variable {id} {step : RunStep W} (accepted : step.Accepted) (keyed : step.table.HoldersKeyed)

include accepted keyed

theorem reservedBy_of_acted (acted : id.Acted id.kind.reserve step) : id.reservedBy step = id.asked step.intent := by
  have operation := acted.2.1
  obtain ⟨after, effect, result⟩ := effect_of_acted accepted keyed (by simp [operation]) (operation ▸ acted)
  obtain ⟨subject, held, amount, next, unit, had, given, -, rest, made⟩ :=
    HoldingKind.Effect.of_taking id.kind effect (by rw [operation]; cases id.kind <;> decide)
  obtain rfl := holder_of_holds keyed had
  rw [made] at result
  rw [reservedBy, if_pos operation, amountIn_of_state had, amountIn_of_state result, asked,
    inputValue_of_inputAmount given, Amount.value_checkedSub rest]
  ring

theorem releasedBy_of_acted (acted : id.Acted id.kind.release step) : id.releasedBy step = id.asked step.intent := by
  have operation := acted.2.1
  obtain ⟨after, effect, result⟩ := effect_of_acted accepted keyed (by simp [operation]) (operation ▸ acted)
  obtain ⟨subject, held, amount, next, unit, had, given, sum, made⟩ :=
    HoldingKind.Effect.of_addition id.kind effect (by rw [operation]; cases id.kind <;> decide)
  obtain rfl := holder_of_holds keyed had
  rw [made] at result
  rw [releasedBy, if_pos operation, amountIn_of_state had, amountIn_of_state result, asked,
    inputValue_of_inputAmount given, Amount.value_checkedAdd sum]
  ring

theorem reservedBy_of_not_acted (aside : ¬ id.Acted id.kind.reserve step) : id.reservedBy step = 0 := by
  unfold reservedBy
  split_ifs with operation
  · rw [amountIn_of_not_acted accepted keyed (by simp [operation]) (operation ▸ aside), sub_self]
  · rfl

theorem releasedBy_of_not_acted (aside : ¬ id.Acted id.kind.release step) : id.releasedBy step = 0 := by
  unfold releasedBy
  split_ifs with operation
  · rw [amountIn_of_not_acted accepted keyed (by simp [operation]) (operation ▸ aside), sub_self]
  · rfl

end Amounts

/-! ## Runs -/

theorem reserve_ne_release (kind : HoldingKind) : kind.reserve ≠ kind.release := by
  cases kind <;> decide

variable {id}

/-- Releases that give back open reservations are covered by them and by those made meanwhile. -/
theorem GivesBack.covered {pending : List ℚ} {steps : List (RunStep W)} (discipline : id.GivesBack pending steps)
    (every : ∀ step ∈ steps, step.Accepted ∧ step.table.HoldersKeyed) (nonneg : ∀ reserved ∈ pending, 0 ≤ reserved)
    {earlier : List (RunStep W)} (early : earlier <+: steps) :
    id.totalReleased earlier ≤ pending.sum + id.totalReserved earlier := by
  induction earlier generalizing pending steps with
  | nil => exact add_nonneg (List.sum_nonneg nonneg) le_rfl
  | cons step before ih =>
    obtain ⟨after, rfl⟩ := early
    obtain ⟨⟨accepted, keyed⟩, others⟩ := List.forall_mem_cons.mp every
    have among : before <+: before ++ after := List.prefix_append _ _
    simp only [totalReleased, totalReserved, List.map_cons, List.sum_cons] at ih ⊢
    cases discipline with
    | aside unreserved unreleased later =>
      rw [releasedBy_of_not_acted accepted keyed unreleased, reservedBy_of_not_acted accepted keyed unreserved]
      linarith [ih later others nonneg among]
    | reserve reserves later =>
      have unreleased : ¬ id.Acted id.kind.release step := fun releases =>
        reserve_ne_release id.kind (reserves.2.1.symm.trans releases.2.1)
      have covered := ih later others (List.forall_mem_cons.mpr ⟨inputValue_nonneg _ _, nonneg⟩) among
      rw [List.sum_cons] at covered
      rw [releasedBy_of_not_acted accepted keyed unreleased, reservedBy_of_acted accepted keyed reserves]
      linarith
    | release releases shares total later =>
      have unreserved : ¬ id.Acted id.kind.reserve step := fun reserves =>
        reserve_ne_release id.kind (reserves.2.1.symm.trans releases.2.1)
      have covered := ih later others (fun kept member => by
        obtain ⟨_, -, bounds⟩ := Aligned.exists_left shares member
        exact bounds.1) among
      rw [releasedBy_of_acted accepted keyed releases, reservedBy_of_not_acted accepted keyed unreserved]
      linarith

end HoldingId

/-- In a run whose releases give back parts of open reservations, no more is released than has been reserved, at any
point. -/
theorem released_at_most_reserved {start table : StateTable} {steps : List (RunStep W)}
    (run : Executed start steps table) (keyed : start.HoldersKeyed) (id : HoldingId)
    (discipline : id.GivesBack [] steps) :
    ∀ earlier, earlier <+: steps → id.totalReleased earlier ≤ id.totalReserved earlier := by
  intro earlier early
  have every : ∀ step ∈ steps, step.Accepted ∧ step.table.HoldersKeyed := fun step member =>
    ⟨(run.before member).1, run.holdersKeyed_at keyed member⟩
  have covered := discipline.covered every (by simp) early
  rwa [List.sum_nil, zero_add] at covered

open Harness

def aliceGold : HoldingId := ⟨.balance, tenant, gold, ⟨"alice"⟩⟩

def openHundred : ValidatedIntent :=
  intent "int_open" "balance.create" "alice" gold .fungibleBalance 0
    [("subject", "alice"), ("unit", "gold"), ("balance", "100")]

def reserveTen (id : String) (version : U64) : ValidatedIntent :=
  intent id "balance.reserve" "alice" gold .fungibleBalance version [("amount", "10")]

def releaseAt (version : U64) (amount : String) : ValidatedIntent :=
  intent "int_release" "balance.release" "alice" gold .fungibleBalance version [("amount", amount)]

def reservedRun : List (RunStep Memory) :=
  runOf .baseline ∅ .fresh [openHundred, reserveTen "int_first" 1, reserveTen "int_second" 2, releaseAt 3 "15"]

/-- Two reservations of ten cover a release of fifteen. -/
theorem reservation_given_back :
    aliceGold.totalReleased reservedRun = 15 ∧
      aliceGold.totalReleased reservedRun ≤ aliceGold.totalReserved reservedRun := by
  obtain ⟨fresh, released, tens, fifteen⟩ : (∀ step ∈ reservedRun, step.events ≠ []) ∧
      aliceGold.totalReleased reservedRun = 15 ∧
      [reserveTen "int_second" 2, reserveTen "int_first" 1].map (aliceGold.asked ·.intent) = [10, 10] ∧
      aliceGold.asked (releaseAt 3 "15").intent = 15 := by
    decide +kernel
  have run := executed_baseline fresh
  refine ⟨released, released_at_most_reserved run StateTable.holdersKeyed_empty aliceGold ?_ reservedRun
    (List.prefix_refl _)⟩
  simp only [reservedRun, runOf, List.forall_mem_cons] at fresh
  refine .aside (fun acted => absurd acted.2.1 (by decide)) (fun acted => absurd acted.2.1 (by decide)) ?_
  refine .reserve ⟨fresh.2.1, rfl, rfl, rfl, rfl⟩ (.reserve ⟨fresh.2.2.1, rfl, rfl, rfl, rfl⟩ ?_)
  have shares : List.Forall₂ (fun reserved kept : ℚ => 0 ≤ kept ∧ kept ≤ reserved) [10, 10] [5, 0] := by
    norm_num
  have total : [5, 0].sum + aliceGold.asked (releaseAt 3 "15").intent = [10, 10].sum := by
    rw [fifteen]
    norm_num
  rw [← tens] at shares total
  exact .release ⟨fresh.2.2.2.1, rfl, rfl, rfl, rfl⟩ shares total (.done _)

def unreservedRun : List (RunStep Memory) := runOf .baseline ∅ .fresh [openHundred, releaseAt 1 "50"]

theorem unreserved_gold_released :
    Executed ∅ unreservedRun (tableAfter ∅ unreservedRun) ∧ aliceGold.totalReleased unreservedRun = 50 ∧
      aliceGold.totalReserved unreservedRun = 0 :=
  And.imp_left executed_baseline (by decide +kernel)

end StateChronicle.Verified
