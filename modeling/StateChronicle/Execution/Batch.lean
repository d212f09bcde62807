import StateChronicle.Execution.Pipeline

/-!
# Batches

The batch routes run a list of intents through the pipeline and validate the events they emitted together, within a
symbolic transaction or before a durable sink.
-/

namespace StateChronicle.Execution

open Domain Foundation Profiles
open Atomicity (TenantEventGroup TradeManifest)

variable {W α : Type} (self : Executor W)

/-! ## The boundary -/

variable (sink : Option (DurableBatchSink W))

/-- A transaction is begun only when no durable sink takes its place. -/
def beginUnlessDurable (begin : W → Except TransactionManagerError (TransactionHandle W) × W) :
    Run W (Option (TransactionHandle W)) :=
  match sink with
  | none => some <$> request begin mapTransactionManagerError
  | some _ => pure none

/-- A failed rollback is only logged. -/
def rollback : Option (TransactionHandle W) → Run W Unit
  | some handle => do
    let _ ← perform handle.rollback
    return ()
  | none => pure ()

def commit : Option (TransactionHandle W) → Run W Unit
  | some handle => request handle.commit mapTransactionManagerError
  | none => pure ()

variable (handle : Option (TransactionHandle W))

/-- Rolls back and reports what the sink said. -/
def failPersist : Except String Unit → Run W Unit
  | .ok () => pure ()
  | .error message => do
    rollback handle
    throw (.store message)

variable (intents : List ValidatedIntent) (events : List Event)

/-- Hands a batch with events to the durable sink. -/
def persist : Run W Unit :=
  match sink.filter fun _ => !events.isEmpty with
  | some sink => do
    let answer ← perform (sink.persistBatch intents events)
    failPersist handle answer
  | none => pure ()

/-- The end of a batch: a failed run or validation surfaces as an atomicity violation. -/
def conclude (events : α → List Event) : Except ExecutorError α → Run W α
  | .ok output => do
    persist sink handle intents (events output)
    commit handle
    return output
  | .error error => do
    rollback handle
    throw (.atomicityViolation error.toString)

/-- Runs and validates a batch inside its boundary. -/
def transactional (begin : W → Except TransactionManagerError (TransactionHandle W) × W)
    (intents : List ValidatedIntent) (events : α → List Event) (run : Run W α)
    (validate : α → Except ExecutorError Unit) : Run W α := do
  let handle ← beginUnlessDurable sink begin
  let result ← attempt (do
    let output ← run
    validate output
    return output)
  conclude sink handle intents events result

namespace Executor

/-! ## Running the intents -/

variable (allowCoordinated persistIntent : Bool)

/-- Runs intents in order; a replay adds no events. -/
def runBatch : List ValidatedIntent → Run W (List Event) :=
  collect fun validated => self.executeInner validated allowCoordinated persistIntent

def partialReplay (intent : Intent) : ExecutorError :=
  .atomicityViolation ("partial replay detected in batch: intent `" ++ intent.intentId.name
    ++ "` was already claimed and replayed idempotently; the batch fails closed so no partial "
    ++ "results escape")

/-- Runs one intent and rejects a replay. -/
def executeUnreplayed (validated : ValidatedIntent) : Run W (List Event) := do
  let produced ← self.executeInner validated false persistIntent
  rejectIf (produced = []) (partialReplay validated.intent)
  return produced

def runBatchFailClosed : List ValidatedIntent → Run W (List Event) := collect (self.executeUnreplayed persistIntent)

def runLeg (leg : String × List ValidatedIntent) : Run W (List TenantEventGroup) := do
  let events ← self.runBatch allowCoordinated persistIntent leg.2
  return [⟨⟨leg.1⟩, events⟩]

def runCrossTenantLegs : List (String × List ValidatedIntent) → Run W (List TenantEventGroup) :=
  collect (self.runLeg allowCoordinated persistIntent)

/-! ## One tenant -/

/-- The events of one intent, judged by the policy of the intent's profile. -/
def checkProfileGroup (entry : IntentId × List Event) : Except ExecutorError Unit := do
  let validated ← okOr (intents.find? fun validated => validated.intent.intentId = entry.1)
    (.atomicityViolation "event has no accepted intent")
  let stateType ← okOr validated.intent.stateType .stateTypeRequired
  let rules ← (self.profiles.resolve stateType validated.intent.inputs).mapError ExecutorError.ofProfile
  (rules.executionPolicy.validateEvents entry.2).mapError ExecutorError.ofProfile

def validateProfileBatch : Except ExecutorError Unit := do
  Atomicity.scanBatch (fun _ => ExecutorError.atomicityViolation "duplicate event id in batch")
    (fun _ => .atomicityViolation "mixed tenant scopes in batch") [] none events
  (SortedMap.groupBy (·.intentId) events).entries.forM (self.checkProfileGroup intents)

def executeBatchInner (sink : Option (DurableBatchSink W)) : Run W (List Event) :=
  match intents with
  | [] => throw (.atomicityViolation "empty batch")
  | first :: _ => transactional sink (self.ports.begin first.intent.tenantId) intents id
      (self.runBatchFailClosed sink.isSome intents) (self.validateProfileBatch intents)

def executeBatch : Run W (List Event) := self.executeBatchInner intents none

def executeBatchDurable (sink : DurableBatchSink W) : Run W (List Event) := self.executeBatchInner intents (some sink)

/-! ## Settlements -/

def settleIntents : List Intent :=
  (intents.filter fun validated => validated.intent.operation = UniqueAsset.op.tradeSettle).map
    (·.intent)

def validateSettle : Except ExecutorError Unit := do
  (Atomicity.validateBatchConsistency events).mapError ExecutorError.ofProfile
  (Atomicity.validateSettleBatch events (settleIntents intents)).mapError ExecutorError.ofProfile

def executeSettleInner (sink : Option (DurableBatchSink W)) : Run W (List Event) :=
  match intents with
  | [] => throw (.atomicityViolation "empty settle batch")
  | first :: _ => transactional sink (self.ports.begin first.intent.tenantId) intents id
      (self.runBatch true sink.isSome intents) (validateSettle intents)

def executeSettle : Run W (List Event) := self.executeSettleInner intents none

def executeSettleDurable (sink : DurableBatchSink W) : Run W (List Event) := self.executeSettleInner intents (some sink)

/-! ## Several tenants -/

/-- The intents of each tenant, by name, each in input order. -/
def byTenant : SortedMap String (List ValidatedIntent) := SortedMap.groupBy (·.intent.tenantId.name) intents

/-- The cross-tenant routes: they differ in their label, in the routing flag and in what they
validate. -/
def executeTenants (label : String) (allowCoordinated : Bool)
    (validate : List TenantEventGroup → Except ProfileError Unit) (intents : List ValidatedIntent)
    (sink : Option (DurableBatchSink W)) : Run W (List TenantEventGroup) := do
  rejectIf ((byTenant intents).keys.length < 2)
    (ExecutorError.atomicityViolation (label ++ " requires at least two distinct tenants"))
  transactional sink (self.ports.beginMulti ((byTenant intents).keys.map TenantId.mk)) intents
    (fun groups => groups.flatMap (·.events))
    (self.runCrossTenantLegs allowCoordinated sink.isSome (byTenant intents).entries)
    (fun groups => (validate groups).mapError ExecutorError.ofProfile)

def executeCrossTenantInner : List ValidatedIntent → Option (DurableBatchSink W) → Run W (List TenantEventGroup) :=
  self.executeTenants "cross-tenant batch" false Atomicity.validateCrossTenantConsistency

def executeCrossTenant : Run W (List TenantEventGroup) := self.executeCrossTenantInner intents none

def executeCrossTenantDurable (sink : DurableBatchSink W) : Run W (List TenantEventGroup) :=
  self.executeCrossTenantInner intents (some sink)

variable (manifest : TradeManifest)

def executeCrossTenantTradeInner : Option (DurableBatchSink W) → Run W (List TenantEventGroup) :=
  self.executeTenants "cross-tenant trade" true
    (fun groups => Atomicity.validateCrossTenantTrade groups manifest (settleIntents intents)) intents

def executeCrossTenantTrade : Run W (List TenantEventGroup) := self.executeCrossTenantTradeInner intents manifest none

def executeCrossTenantTradeDurable (sink : DurableBatchSink W) : Run W (List TenantEventGroup) :=
  self.executeCrossTenantTradeInner intents manifest (some sink)

end Executor

end StateChronicle.Execution
