import StateChronicle.Verified.HolderSlots

/-!
# Transfers and the sum over holders

A transfer is a debit and a credit, both computed from the state before the transfer.  Written one
after the other they preserve the sum over all holders exactly when they hit different holders.
-/

namespace StateChronicle.Verified

open Commit StateChronicle.Core Domain Execution Foundation Profiles

variable {W : Type}

/-! ## The transfers -/

variable {operation : Operation}

def transferInput (operation : Operation) : String :=
  if operation = ConsumableStack.op.stackTransfer then "quantity" else "amount"

theorem exists_kind_of_transferField {field : String} (moves : Atomicity.transferField operation = some field) :
    ∃ kind : HoldingKind, operation = kind.transfer ∧ kind.field = field := by
  unfold Atomicity.transferField at moves
  split_ifs at moves with stack balance
  · exact ⟨.stack, stack, Option.some.inj moves⟩
  · exact ⟨.balance, balance, Option.some.inj moves⟩

/-! ## Holders -/

def holding (tenant : TenantId) (resource : ResourceId) (field : String) (slot : StateSlot)
    (projection : StateProjection) : ℚ :=
  if slot.tenant = tenant ∧ slot.resource = resource ∧ slot.subject.isSome then
    (projection.state.amount field).elim 0 Amount.value
  else 0

def holdingTotal (tenant : TenantId) (resource : ResourceId) (field : String) (table : StateTable) : ℚ :=
  total (holding tenant resource field) table

/-! ## What a transfer writes -/

/-- The two events of an accepted transfer and the amounts they move. -/
structure TransferOutcome (table : StateTable) (intent : Intent) (field : String) where
  debit : Event
  credit : Event
  toSubject : String
  amount : ℚ
  destination : intent.inputs.get? "to_subject" = some (.string toSubject)
  positive : 0 < amount
  debitSlot : writtenSlot debit = ⟨intent.tenantId, intent.resourceId, some intent.actor⟩
  creditSlot : writtenSlot credit = ⟨intent.tenantId, intent.resourceId, some ⟨toSubject⟩⟩
  debited (commitId : CommitId) :
    holding intent.tenantId intent.resourceId field (writtenSlot debit) (projectionFor commitId debit) =
      share (holding intent.tenantId intent.resourceId field) table (writtenSlot debit) - amount
  credited (commitId : CommitId) :
    holding intent.tenantId intent.resourceId field (writtenSlot credit) (projectionFor commitId credit) =
      share (holding intent.tenantId intent.resourceId field) table (writtenSlot credit) + amount

def TransferOutcome.events {table : StateTable} {intent : Intent} {field : String}
    (outcome : TransferOutcome table intent field) : List Event :=
  [outcome.debit, outcome.credit]

section

variable {tenant : TenantId} {resource : ResourceId} {field : String} {subject : SubjectId}

theorem holding_of_amount {projection : StateProjection} {amount : Amount}
    (read : projection.state.amount field = some amount) :
    holding tenant resource field ⟨tenant, resource, some subject⟩ projection = amount.value := by
  simp [holding, read]

theorem share_holding {table : StateTable} {held : Amount}
    (read : (table.read ⟨tenant, resource, some subject⟩).elim (some Amount.zero) (·.state.amount field) = some held) :
    share (holding tenant resource field) table ⟨tenant, resource, some subject⟩ = held.value := by
  change (table.read ⟨tenant, resource, some subject⟩).elim 0 _ = _
  cases found : table.read ⟨tenant, resource, some subject⟩ with
  | none =>
    rw [found] at read
    cases read
    exact Amount.value_zero.symm
  | some projection =>
    rw [found] at read
    exact holding_of_amount read

end

section Outcome

variable {self : Executor W} {table : StateTable} {intent : Intent} {coordinated : Bool} {field : String}

theorem transferOutcome_of_acceptance (served : self.ports.Serves table) (keyed : table.HoldersKeyed)
    (standard : self.profiles.Standard) (moves : Atomicity.transferField intent.operation = some field)
    (acceptance : self.Acceptance intent coordinated) :
    ∃ outcome : TransferOutcome table intent field, acceptance.events = outcome.events := by
  obtain ⟨kind, transfers, rfl⟩ := exists_kind_of_transferField moves
  obtain ⟨credit, toSubject, held, amount, left, existing, next, unit, emitted, transferred⟩ :=
    transferred_of_acceptance acceptance standard served keyed transfers
  refine ⟨⟨acceptance.event, credit, toSubject.name, amount.value, transferred.named, transferred.positive,
    transferred.debitSlot, transferred.creditSlot, fun commitId => ?_, fun commitId => ?_⟩, emitted⟩
  · have written : (projectionFor commitId acceptance.event).state.amount kind.field = some left := by
      rw [projectionFor, transferred.debitState, kind.amount_holding]
    obtain ⟨source, sourceAt, payload⟩ := Option.map_eq_some_iff.mp transferred.had
    have read : (table.read (holderSlot intent intent.actor)).elim (some Amount.zero) (·.state.amount kind.field) =
        some held := by rw [sourceAt, Option.elim_some, payload, kind.amount_holding]
    rw [transferred.debitSlot, holderSlot, holding_of_amount written, Amount.value_checkedSub transferred.rest,
      share_holding read]
  · have written : (projectionFor commitId credit).state.amount kind.field = some next := by
      rw [projectionFor, transferred.creditState, kind.amount_holding]
    rw [transferred.creditSlot, holderSlot, holding_of_amount written, Amount.value_checkedAdd transferred.sum,
      share_holding transferred.found]

section

variable (outcome : TransferOutcome table intent field) (commitId : CommitId)

/-- Two different holders: what the debit takes, the credit gives. -/
theorem TransferOutcome.total_of_ne (different : intent.actor.name ≠ outcome.toSubject) :
    holdingTotal intent.tenantId intent.resourceId field (table.writeAll commitId outcome.events) =
      holdingTotal intent.tenantId intent.resourceId field table := by
  have apart : writtenSlot outcome.credit ≠ writtenSlot outcome.debit := by
    rw [outcome.creditSlot, outcome.debitSlot]
    intro same
    injection same with _ _ subject
    exact different (congrArg SubjectId.name (Option.some.inj subject)).symm
  simp only [holdingTotal, TransferOutcome.events, StateTable.writeAll, List.foldl, StateTable.write, total_insert,
    share_insert_of_ne apart, outcome.debited, outcome.credited]
  ring

/-- One holder: both events are computed from the same holding and the credit is written last. -/
theorem TransferOutcome.total_of_eq (same : intent.actor.name = outcome.toSubject) :
    holdingTotal intent.tenantId intent.resourceId field (table.writeAll commitId outcome.events) =
      holdingTotal intent.tenantId intent.resourceId field table + outcome.amount := by
  have together : writtenSlot outcome.credit = writtenSlot outcome.debit := by
    rw [outcome.creditSlot, outcome.debitSlot, ← same]
  simp only [holdingTotal, TransferOutcome.events, StateTable.writeAll, List.foldl, StateTable.write, total_insert,
    outcome.credited]
  rw [together, share_insert]
  ring

end

/-- A transfer preserves the sum over holders exactly when it does not name its own actor as the
destination. -/
theorem transfer_conserves_iff {validated : ValidatedIntent} {w w' : W} {events : List Event}
    (served : self.ports.Serves table) (keyed : table.HoldersKeyed)
    (standard : self.profiles.Standard)
    (moves : Atomicity.transferField validated.intent.operation = some field)
    (accepted : self.execute validated w = .ok events w') (fresh : events ≠ []) (commitId : CommitId) :
    holdingTotal validated.intent.tenantId validated.intent.resourceId field
        (table.writeAll commitId events) =
      holdingTotal validated.intent.tenantId validated.intent.resourceId field table ↔
    validated.intent.inputs.get? "to_subject" ≠ some (.string validated.intent.actor.name) := by
  obtain ⟨acceptance, rfl⟩ := Executor.acceptance_of_fresh accepted fresh
  obtain ⟨outcome, emitted⟩ := transferOutcome_of_acceptance served keyed standard moves acceptance
  rw [outcome.destination, emitted]
  by_cases same : validated.intent.actor.name = outcome.toSubject
  · rw [outcome.total_of_eq commitId same]
    simp [same, outcome.positive.ne']
  · rw [outcome.total_of_ne commitId same]
    simp [Ne.symm same]

end Outcome

open Harness

def goldTable : StateTable := tableOf [⟨tenant, gold, 1, goldBalance "alice" 100⟩]

def sendThirty (toSubject : String) : List Event :=
  emitted ((executor .baseline goldTable).execute
    (intent "int_send" "balance.transfer" "alice" gold .fungibleBalance 1
      [("amount", "30"), ("to_subject", toSubject)]) .fresh)

theorem transfer_to_other_holder_conserves :
    sendThirty "bob" ≠ [] ∧
      holdingTotal tenant gold "balance" (goldTable.writeAll commitId (sendThirty "bob")) =
        holdingTotal tenant gold "balance" goldTable := by
  have fresh : sendThirty "bob" ≠ [] := by decide +kernel
  obtain ⟨memory, returns⟩ := ok_of_emitted_ne_nil fresh
  exact ⟨fresh, (transfer_conserves_iff (executor_serves _ _) (holdersKeyed_tableOf _)
    ProfileRegistry.standard_baseline rfl returns fresh commitId).mpr (by decide)⟩

/-- A transfer to oneself is accepted and mints what it moves. -/
theorem transfer_to_self_mints :
    (sendThirty "alice").length = 2 ∧ holdingTotal tenant gold "balance" goldTable = 100 ∧
      holdingTotal tenant gold "balance" (goldTable.writeAll commitId (sendThirty "alice")) = 130 := by
  decide +kernel

end StateChronicle.Verified
