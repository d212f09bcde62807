import StateChronicle.Verified.Conservation

/-!
# Denominations

A holding records one unit.  A transfer credits its destination in the unit of the source, and a conversion keeps
what it has not converted in the new unit, so that an amount can change its unit without being moved.
-/

namespace StateChronicle.Verified

open Commit StateChronicle.Core Domain Execution Foundation Profiles

variable {W : Type}

/-- How much of a unit a state is. -/
def unitHeld (unit : String) : ResourceState → ℚ
  | .consumableStack stack => if stack.unit = unit then stack.quantity.value else 0
  | .fungibleBalance balance => if balance.unit = unit then balance.balance.value else 0
  | _ => 0

def heldUnits (table : StateTable) (intent : Intent) (holder : SubjectId) (unit : String) : ℚ :=
  (table.read (holderSlot intent holder)).elim 0 fun projection => unitHeld unit projection.state

/-- No holder has lost more of a unit than the intent's amount, and none but the actor has lost any. -/
structure KeepsUnits (intent : Intent) (amount : ℚ) (before after : StateTable) : Prop where
  moved : ∀ holder unit, heldUnits before intent holder unit - amount ≤ heldUnits after intent holder unit
  credited : ∀ holder unit, holder ≠ intent.actor →
    heldUnits before intent holder unit ≤ heldUnits after intent holder unit

def actorUnit (table : StateTable) (intent : Intent) : Option String :=
  (table.read (holderSlot intent intent.actor)).bind fun projection => Transition.stateField projection.state "unit"

/-- A transfer to a holder of another unit, or the conversion of less than all of a holding. -/
def Redenominates (table : StateTable) (intent : Intent) (amount : ℚ) : Prop :=
  (Resource.isTransferOperation intent.operation ∧ ∃ (holder : SubjectId) (unit : String),
      intent.inputs.get? "to_subject" = some (.string holder.name) ∧ actorUnit table intent ≠ some unit ∧
        0 < heldUnits table intent holder unit) ∨
    (intent.operation = FungibleBalance.op.balanceConvert ∧ ∃ unit : String,
      intent.inputs.get? "to_unit" ≠ some (.string unit) ∧ amount < heldUnits table intent intent.actor unit)

/-! ## Units of a holding -/

theorem unitHeld_holding (kind : HoldingKind) (subject : SubjectId) (amount : Amount) (unit asked : String) :
    unitHeld asked (kind.holding subject amount unit) = if unit = asked then amount.value else 0 := by
  cases kind <;> rfl

section Tables

variable {table : StateTable} {intent : Intent} {kind : HoldingKind} {holder subject : SubjectId}
  {amount : Amount} {unit : String}

theorem heldUnits_of_holds (had : kind.Holds (table.read (holderSlot intent holder)) subject amount unit)
    (asked : String) : heldUnits table intent holder asked = if unit = asked then amount.value else 0 := by
  obtain ⟨projection, read, payload⟩ := Option.map_eq_some_iff.mp had
  rw [heldUnits, read, Option.elim_some, payload, unitHeld_holding]

theorem actorUnit_of_holds (had : kind.Holds (table.read (holderSlot intent intent.actor)) subject amount unit) :
    actorUnit table intent = some unit := by
  obtain ⟨projection, read, payload⟩ := Option.map_eq_some_iff.mp had
  rw [actorUnit, read, Option.bind_some, payload, kind.stateField_unit]

theorem heldUnits_write (commitId : CommitId) {event : Event} (written : writtenSlot event = holderSlot intent subject)
    (after : event.after.state = kind.holding subject amount unit) (holder : SubjectId) (asked : String) :
    heldUnits (table.write commitId event) intent holder asked =
      if holder = subject then if unit = asked then amount.value else 0
      else heldUnits table intent holder asked := by
  have slots : holderSlot intent holder = holderSlot intent subject ↔ holder = subject := by
    simp [holderSlot]
  rw [heldUnits, StateTable.read_write, written]
  simp only [slots]
  split
  · rw [Option.elim_some, projectionFor, after, unitHeld_holding]
  · rfl

theorem heldUnits_le (found : (table.read (holderSlot intent holder)).elim (some Amount.zero)
    (·.state.amount kind.field) = some amount) (asked : String) :
    heldUnits table intent holder asked ≤ amount.value := by
  have nonneg := amount.value_nonneg
  cases read : table.read (holderSlot intent holder) with
  | none => rwa [heldUnits, read]
  | some projection =>
    rw [read] at found
    obtain ⟨subject, unit, payload⟩ := kind.exists_holding_of_amount found
    rw [heldUnits, read, Option.elim_some, payload, unitHeld_holding]
    split <;> linarith

end Tables

section Moves

variable {table : StateTable} {intent : Intent} {kind : HoldingKind} {toSubject : SubjectId}
  {held amount left existing next : Amount} {unit toUnit : String} {event credit : Event}

/-- A transfer keeps every unit exactly when its destination holds no other one. -/
theorem keepsUnits_transfer_iff (commitId : CommitId) (other : toSubject ≠ intent.actor)
    (transferred : Transferred kind table intent event credit toSubject held amount left existing next unit) :
    KeepsUnits intent amount.value table (table.writeAll commitId [event, credit]) ↔
      ∀ asked, unit ≠ asked → heldUnits table intent toSubject asked ≤ 0 := by
  have positive := transferred.positive
  have remains := Amount.value_checkedSub transferred.rest
  have grown := Amount.value_checkedAdd transferred.sum
  have after (holder : SubjectId) (asked : String) :
      heldUnits (table.writeAll commitId [event, credit]) intent holder asked =
        if holder = toSubject then if unit = asked then next.value else 0
        else if holder = intent.actor then if unit = asked then left.value else 0
        else heldUnits table intent holder asked := by
    rw [← heldUnits_write commitId transferred.debitSlot transferred.debitState,
      ← heldUnits_write commitId transferred.creditSlot transferred.creditState]
    rfl
  constructor
  · intro keeps asked different
    have kept := keeps.credited toSubject asked other
    rwa [after, if_pos rfl, if_neg different] at kept
  · intro none
    have gains (asked : String) : heldUnits table intent toSubject asked ≤
        if unit = asked then next.value else 0 := by
      have most := heldUnits_le transferred.found asked
      split_ifs with same
      · linarith
      · exact none asked same
    have others (holder : SubjectId) (asked : String) (notActor : holder ≠ intent.actor) :
        heldUnits table intent holder asked ≤
          heldUnits (table.writeAll commitId [event, credit]) intent holder asked := by
      rw [after, if_neg notActor]
      by_cases isDestination : holder = toSubject
      · rw [if_pos isDestination, isDestination]
        exact gains asked
      · rw [if_neg isDestination]
    refine ⟨fun holder asked => ?_, others⟩
    by_cases isActor : holder = intent.actor
    · rw [isActor, after, if_neg other.symm, if_pos rfl, heldUnits_of_holds transferred.had]
      split <;> linarith
    · have kept := others holder asked isActor
      linarith

/-- A conversion keeps every unit exactly when the actor held no more of the others than it converts. -/
theorem keepsUnits_convert_iff (commitId : CommitId)
    (had : kind.Holds (table.read (holderSlot intent intent.actor)) intent.actor held unit)
    (rest : held.checkedSub amount = some left) (written : writtenSlot event = holderSlot intent intent.actor)
    (state : event.after.state = kind.holding intent.actor left toUnit) :
    KeepsUnits intent amount.value table (table.writeAll commitId [event]) ↔
      ∀ asked, toUnit ≠ asked → heldUnits table intent intent.actor asked ≤ amount.value := by
  have positive := amount.value_nonneg
  have remains := Amount.value_checkedSub rest
  have some_left := left.value_nonneg
  have after (holder : SubjectId) (asked : String) :
      heldUnits (table.writeAll commitId [event]) intent holder asked =
        if holder = intent.actor then if toUnit = asked then left.value else 0
        else heldUnits table intent holder asked :=
    heldUnits_write commitId written state holder asked
  constructor
  · intro keeps asked different
    have kept := keeps.moved intent.actor asked
    rw [after, if_pos rfl, if_neg different] at kept
    linarith
  · intro few
    refine ⟨fun holder asked => ?_, fun holder asked notActor => by rw [after, if_neg notActor]⟩
    by_cases isActor : holder = intent.actor
    · rw [isActor, after, if_pos rfl]
      split_ifs with same
      · rw [heldUnits_of_holds had]
        split <;> linarith
      · have most := few asked same
        linarith
    · rw [after, if_neg isActor]
      linarith

end Moves

section Accepted

variable {self : Executor W} {table : StateTable} {intent : Intent} {coordinated : Bool} {kind : HoldingKind}
  {amount : Amount}

theorem writtenSlot_of_after (acceptance : self.Acceptance intent coordinated) {subject : SubjectId}
    {unit : String} (after : acceptance.after = kind.holding subject amount unit) :
    writtenSlot acceptance.event = holderSlot intent subject := by
  rw [writtenSlot, acceptance.emitted.tenantId, acceptance.emitted.resourceId, acceptance.emitted.after_state,
    after, kind.subject_holding, holderSlot]

variable (kind) (acceptance : self.Acceptance intent coordinated) (standard : self.profiles.Standard)
  (served : self.ports.Serves table) (keyed : table.HoldersKeyed) (commitId : CommitId)
  (asked : inputAmount intent.inputs kind.input = .ok amount)

include standard served keyed asked

theorem keepsUnits_of_transfer (transfers : intent.operation = kind.transfer)
    (other : intent.inputs.get? "to_subject" ≠ some (.string intent.actor.name)) :
    KeepsUnits intent amount.value table (table.writeAll commitId acceptance.events) ↔
      ¬ Redenominates table intent amount.value := by
  obtain ⟨credit, toSubject, held, taken, left, existing, next, unit, emitted, transferred⟩ :=
    transferred_of_acceptance acceptance standard served keyed transfers
  cases transferred.given.symm.trans asked
  have different : toSubject ≠ intent.actor := by
    rintro rfl
    exact other transferred.named
  rw [emitted, keepsUnits_transfer_iff commitId different transferred]
  constructor
  · rintro none (⟨-, other', unit', named, different', some_held⟩ | ⟨converts, -⟩)
    · obtain rfl := subject_eq_of_text (named.symm.trans transferred.named)
      refine absurd some_held (not_lt.mpr (none unit' fun same => different' ?_))
      rw [actorUnit_of_holds transferred.had, same]
    · rw [converts] at transfers
      cases kind <;> exact absurd transfers (by decide)
  · intro keeps unit' different'
    by_contra some_held
    refine keeps (.inl ⟨?_, toSubject, unit', transferred.named, ?_, not_le.mp some_held⟩)
    · rw [transfers]
      cases kind <;> decide
    rw [actorUnit_of_holds transferred.had]
    exact fun same => different' (Option.some.inj same)

theorem keepsUnits_of_conversion (converts : intent.operation ∈ kind.conversions) :
    KeepsUnits intent amount.value table (table.writeAll commitId acceptance.events) ↔
      ¬ Redenominates table intent amount.value := by
  have only : ∀ operation ∈ kind.conversions, operation = FungibleBalance.op.balanceConvert ∧
      operation.stateTypeHint = some kind.stateType ∧ ¬ Resource.isTransferOperation operation := by
    cases kind <;> decide
  obtain ⟨isConversion, hint, untransferred⟩ := only _ converts
  obtain ⟨builtin, typed⟩ := stateType_of_hint acceptance standard hint
  have subjectHeld : acceptance.stateType.subjectHeld = true := by
    rw [typed]
    cases kind <;> rfl
  have current := current_of_held acceptance builtin served keyed subjectHeld
  obtain ⟨subject, held, taken, left, unit, toUnit, had, named, given, rest, after⟩ :=
    HoldingKind.Effect.of_conversion kind (effect_of_acceptance acceptance builtin typed) converts
  cases given.symm.trans asked
  rw [current] at had
  obtain rfl := holder_of_holds keyed had
  have alone : acceptance.events = [acceptance.event] := by
    rw [Executor.Acceptance.events, acceptance.companions_of_other builtin untransferred]
  rw [alone, keepsUnits_convert_iff commitId had rest (writtenSlot_of_after acceptance after)
    (acceptance.emitted.after_state.trans after)]
  constructor
  · rintro few (⟨transfers, -⟩ | ⟨-, unit', different, more⟩)
    · exact absurd transfers untransferred
    · exact absurd more (not_lt.mpr (few unit' fun same => different (named.trans (by rw [same]))))
  · intro keeps unit' different
    by_contra more
    refine keeps (.inr ⟨isConversion, unit', ?_, not_le.mp more⟩)
    rw [named]
    exact fun same => different (Value.string.inj (Option.some.inj same))

end Accepted

/-- A transfer to another holder, or a conversion, takes no unit from a holder beyond its amount exactly when the
destination of the transfer holds no other unit, and when the conversion leaves nothing behind or keeps the unit. -/
theorem units_kept_iff {self : Executor W} {table : StateTable} {validated : ValidatedIntent}
    {coordinated persist : Bool} {w w' : W} {events : List Event} {amount : Amount}
    (served : self.ports.Serves table) (keyed : table.HoldersKeyed) (standard : self.profiles.Standard)
    (moves : validated.intent.operation ∈ [ConsumableStack.op.stackTransfer, FungibleBalance.op.balanceTransfer,
      FungibleBalance.op.balanceConvert])
    (distinct : Resource.isTransferOperation validated.intent.operation →
      validated.intent.inputs.get? "to_subject" ≠ some (.string validated.intent.actor.name))
    (asked : inputAmount validated.intent.inputs (transferInput validated.intent.operation) = .ok amount)
    (accepted : self.executeInner validated coordinated persist w = .ok events w') (fresh : events ≠ [])
    (commitId : CommitId) :
    KeepsUnits validated.intent amount.value table (table.writeAll commitId events) ↔
      ¬ Redenominates table validated.intent amount.value := by
  obtain ⟨acceptance, rfl⟩ := Executor.acceptance_of_fresh accepted fresh
  simp only [List.mem_cons, List.not_mem_nil, or_false] at moves
  rcases moves with transfers | transfers | converts
  · rw [transfers] at asked
    exact keepsUnits_of_transfer .stack acceptance standard served keyed commitId asked transfers
      (distinct (.inl transfers))
  · rw [transfers] at asked
    exact keepsUnits_of_transfer .balance acceptance standard served keyed commitId asked transfers
      (distinct (.inr transfers))
  · rw [converts] at asked
    exact keepsUnits_of_conversion .balance acceptance standard served keyed commitId asked
      (converts ▸ List.mem_cons_self)

open Harness

def mixedTable : StateTable :=
  tableOf [⟨tenant, gold, 1, goldBalance "alice" 100⟩,
    ⟨tenant, gold, 1, .fungibleBalance ⟨⟨"bob"⟩, Amount.ofNat 50, "silver"⟩⟩]

def sendGold (toSubject : String) : ValidatedIntent :=
  intent "int_send" "balance.transfer" "alice" gold .fungibleBalance 1
    [("amount", "30"), ("to_subject", toSubject)]

def convertGold : ValidatedIntent :=
  intent "int_convert" "balance.convert" "alice" gold .fungibleBalance 1
    [("amount", "30"), ("to_unit", "silver")]

def movedUnits (validated : ValidatedIntent) : List Event :=
  emitted ((executor .baseline mixedTable).execute validated .fresh)

/-- A transfer to a holder of nothing keeps every unit. -/
theorem transfer_to_new_holder_keeps_units :
    movedUnits (sendGold "carol") ≠ [] ∧
      KeepsUnits (sendGold "carol").intent 30 mixedTable
        (mixedTable.writeAll commitId (movedUnits (sendGold "carol"))) := by
  obtain ⟨fresh, thirty, unborn⟩ : movedUnits (sendGold "carol") ≠ [] ∧ (Amount.ofNat 30).value = 30 ∧
      mixedTable.read (holderSlot (sendGold "carol").intent ⟨"carol"⟩) = none := by
    decide +kernel
  obtain ⟨memory, returns⟩ := ok_of_emitted_ne_nil fresh
  refine ⟨fresh, ?_⟩
  rw [← thirty]
  refine (units_kept_iff (executor_serves _ _) (holdersKeyed_tableOf _) ProfileRegistry.standard_baseline
    (by decide) (fun _ => by decide) rfl returns fresh commitId).mpr ?_
  rintro (⟨-, holder, unit, named, -, held⟩ | ⟨converts, -⟩)
  · obtain rfl : holder = ⟨"carol"⟩ := (subject_eq_of_text named).symm
    replace held : 0 < heldUnits mixedTable (sendGold "carol").intent ⟨"carol"⟩ unit := held
    rw [heldUnits, unborn] at held
    exact absurd held (lt_irrefl 0)
  · exact absurd converts (by decide)

/-- Thirty gold for Bob turn Bob's silver into gold, and thirty converted gold turn the other seventy into
silver. -/
theorem units_redenominated :
    (movedUnits (sendGold "bob")).length = 2 ∧
      heldUnits mixedTable (sendGold "bob").intent ⟨"bob"⟩ "silver" = 50 ∧
      heldUnits (mixedTable.writeAll commitId (movedUnits (sendGold "bob"))) (sendGold "bob").intent ⟨"bob"⟩
        "silver" = 0 ∧
      (movedUnits convertGold).length = 1 ∧ heldUnits mixedTable convertGold.intent ⟨"alice"⟩ "gold" = 100 ∧
      heldUnits (mixedTable.writeAll commitId (movedUnits convertGold)) convertGold.intent ⟨"alice"⟩
        "gold" = 0 := by
  decide +kernel

end StateChronicle.Verified
