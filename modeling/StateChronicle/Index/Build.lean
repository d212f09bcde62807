import StateChronicle.Domain.Trade
import StateChronicle.Foundation.KeyedList
import StateChronicle.Profiles.Atomicity

/-!
# The trade index builder

The builder folds committed batches into records keyed by trade.  Settle events gather in one side per tenant;
declared value legs are matched with the `balance.transfer` pairs of the same batch.
-/

namespace StateChronicle.Index

open StateChronicle.Core Domain Foundation Profiles
open Atomicity (ValueTuple commitmentAmount declaresValueLeg leadsBalanceTransfer valuePairDebit)

inductive IndexError where
  | missingTradeId (message : String)
  | nonTenantCommit (message : String)
  | malformedValue (message : String)
  | missingEvent (eventId : String)
deriving DecidableEq, Repr

/-- The events of one commit with the settle intents behind them. -/
structure IngestBatch where
  events : List Event
  settleIntents : List Intent
  commit : Signed Commit
deriving DecidableEq

abbrev TradeTable : Type := SortedMap String TradeRecord

/-! ## Event bodies -/

def stateStrOpt (state : ResourceState) (key : String) : Option String :=
  let value :=
    if key = "subject" then state.subject.map (·.name)
    else if key = "trade_id" then
      match state with
      | .uniqueAsset asset => asset.tradeId
      | _ => none
    else none
  value.filter (· ≠ "")

variable (event : Event)

def tradeIdOf : Except IndexError (Option String) :=
  if event.operation = UniqueAsset.op.tradeLock then
    some <$> okOr (stateStrOpt event.after.state "trade_id")
      (.missingTradeId ("trade.lock event `" ++ event.eventId.name
        ++ "` is missing `trade_id` in its after state"))
  else if event.operation = UniqueAsset.op.tradeSettle ∨ event.operation = UniqueAsset.op.tradeUnlock then
    some <$> okOr (stateStrOpt event.before.state "trade_id")
      (.missingTradeId ("trade event `" ++ event.eventId.name
        ++ "` is missing `trade_id` in its before state"))
  else .ok none

def ownerOfState (state : ResourceState) : Except IndexError String :=
  okOr ((state.owner.map (·.name)).filter (· ≠ ""))
    (.malformedValue "trade settle event state is missing a non-empty `owner`")

def commitRefFromSigned (signed : Signed Commit) : Except IndexError CommitRef := do
  let body := signed.body
  rejectIf (body.scope.kind ≠ .tenant) (.nonTenantCommit body.commitId.name)
  let _ ← okOr body.scope.tenantId (IndexError.nonTenantCommit "tenant-scoped commit is missing its tenant id")
  return ⟨body.commitId, body.sequence, body.nextStateRoot, signed.signature⟩

/-! ## Sides -/

variable (commitRef : CommitRef)

def newSide (fromOwner toOwner : String) : TradeSide where
  tenant := event.tenantId
  settleAssets := [event.resourceId]
  fromOwner := fromOwner
  toOwner := toOwner
  settleCommit := commitRef
  settleCommitsByAsset := SortedMap.empty.insert event.resourceId commitRef
  settleEventIds := [event.eventId]

/-- A later settle event of the side's tenant: the owners of the side stay those of the first. -/
def extendSide (side : TradeSide) : TradeSide :=
  { side with
    settleAssets :=
      if event.resourceId ∈ side.settleAssets then side.settleAssets
      else side.settleAssets ++ [event.resourceId]
    settleCommitsByAsset := side.settleCommitsByAsset.insert event.resourceId commitRef
    settleEventIds := side.settleEventIds ++ [event.eventId] }

variable (record : TradeRecord)

def upsertSide (event : Event) (commitRef : CommitRef) : Except IndexError TradeRecord := do
  let fromOwner ← ownerOfState event.before.state
  let toOwner ← ownerOfState event.after.state
  return { record with
    sides := upsertKey TradeSide.tenant event.tenantId (extendSide event commitRef)
      (newSide event commitRef fromOwner toOwner) record.sides }

/-! ## Trade events -/

/-- Appends an event to the record and sets the status it leads to. -/
def recordEvent (status : TradeStatus) (record : TradeRecord) (event : Event) : TradeRecord :=
  { record with status, events := record.events ++ [⟨event.eventId, event.tenantId, event.operation⟩] }

def settleStep (event : Event) : Except IndexError TradeRecord := do
  let updated ← upsertSide { record with status := .settled } event commitRef
  return recordEvent .settled updated event

variable (events : List Event)

/-- The trade events of one trade in a batch: locks first, then settles, then unlocks. -/
def applyTradeEvents (commitRef : CommitRef) : Except IndexError TradeRecord := do
  let locks := events.filter fun event => event.operation = UniqueAsset.op.tradeLock
  let settles := events.filter fun event => event.operation = UniqueAsset.op.tradeSettle
  let unlocks := events.filter fun event => event.operation = UniqueAsset.op.tradeUnlock
  let settled ← settles.foldlM (settleStep commitRef) (locks.foldl (recordEvent .open) record)
  return unlocks.foldl (recordEvent .cancelled) settled

/-- Sides in the order of their tenants' names. -/
def sideOrder (left right : TradeSide) : Prop := left.tenant.name ≤ right.tenant.name

instance : DecidableRel sideOrder := fun left right =>
  inferInstanceAs (Decidable (left.tenant.name ≤ right.tenant.name))

variable (table : TradeTable)

def recordOf (tradeId : String) : TradeRecord := (table.get? tradeId).getD (.new tradeId)

def applyTrade (entry : String × List Event) : Except IndexError TradeTable := do
  let record ← applyTradeEvents (recordOf table entry.1) entry.2 commitRef
  return table.insert entry.1 { record with sides := record.sides.insertionSort sideOrder }

/-- The trade events of a batch, each with its trade. -/
def tradeEvents : Except IndexError (List (String × Event)) := do
  let named ← events.mapM fun event => do
    let tradeId ← tradeIdOf event
    return tradeId.map fun tradeId => (tradeId, event)
  return named.filterMap id

def groupTrades (named : List (String × Event)) : List (String × List Event) :=
  (SortedMap.groupBy Prod.fst named).entries.map fun entry => (entry.1, entry.2.map Prod.snd)

/-! ## Value pairs -/

structure RecoveredValuePair where
  debit : Amount
  resource : ResourceId
  creditedSubject : Option SubjectId
  eventIds : List EventId
  tenant : TenantId
deriving DecidableEq

/-- The subject of the last event whose balance grows; an empty subject is none. -/
def creditedSubject (group : List Event) : Option SubjectId :=
  group.foldl (fun credited event =>
    if commitmentAmount event.before "balance" < commitmentAmount event.after "balance"
    then (stateStrOpt event.after.state "subject").map SubjectId.mk else credited) none

def eventIdOrder (left right : EventId) : Prop := left.name ≤ right.name

instance : DecidableRel eventIdOrder := fun left right => inferInstanceAs (Decidable (left.name ≤ right.name))

def recoverValuePair (entry : IntentId × List Event) : Except IndexError (List RecoveredValuePair) :=
  match entry.2 with
  | [] => .ok []
  | first :: _ => do
    rejectIf (entry.2.length ≠ 2) (.malformedValue ("balance.transfer intent `" ++ entry.1.name
      ++ "` is not an atomic debit + credit pair"))
    -- the debit is the executor's; its only failure is an overflow
    let debit ← (valuePairDebit entry.2).mapError fun _ => IndexError.malformedValue "debit overflow"
    return [⟨debit, first.resourceId, creditedSubject entry.2,
      (entry.2.map (·.eventId)).insertionSort eventIdOrder, first.tenantId⟩]

def recoverValuePairs : Except IndexError (List RecoveredValuePair) := do
  let groups := (SortedMap.groupBy (·.intentId) events).entries.filter leadsBalanceTransfer
  let pairs ← groups.mapM recoverValuePair
  return pairs.flatten

/-! ## Value legs -/

structure DeclaredValueLeg where
  key : ValueTuple
  tradeId : String
  amountStr : String
  toSubject : SubjectId
deriving DecidableEq

def intentStr (intent : Intent) (key : String) : Except IndexError String :=
  okOr (((intent.inputs.get? key).bind Value.asStr).filter (· ≠ ""))
    (.malformedValue ("settle intent `" ++ intent.intentId.name ++ "` is missing a non-empty `" ++ key
      ++ "` input"))

def declaredValueLeg (intent : Intent) : Except IndexError DeclaredValueLeg := do
  let resource ← intentStr intent "value_resource"
  let amount ← intentStr intent "value_amount"
  let toSubject ← intentStr intent "value_to_subject"
  let tradeId ← intentStr intent "trade_id"
  let parsed ← (Amount.tryFromStr amount).mapError fun _ =>
    IndexError.malformedValue ("malformed value_amount `" ++ amount ++ "`")
  return ⟨⟨parsed, resource, some toSubject⟩, tradeId, amount, ⟨toSubject⟩⟩

def RecoveredValuePair.key (pair : RecoveredValuePair) : ValueTuple :=
  ⟨pair.debit, pair.resource.name, pair.creditedSubject.map (·.name)⟩

/-- The leg of a declaration and the pair at the same place, when their keys are equal. -/
def valueLeg (matched : DeclaredValueLeg × RecoveredValuePair) : Option (String × TradeValueLeg) :=
  if matched.1.key.same matched.2.key then
    some (matched.1.tradeId, ⟨matched.2.resource, matched.1.amountStr, matched.1.toSubject,
      matched.2.eventIds, matched.2.tenant, commitRef⟩)
  else none

def declarationOrder (left right : DeclaredValueLeg) : Prop := left.key.order right.key

instance : DecidableRel declarationOrder := fun left right => inferInstanceAs (Decidable (left.key.order right.key))

def pairOrder (left right : RecoveredValuePair) : Prop := left.key.order right.key

instance : DecidableRel pairOrder := fun left right => inferInstanceAs (Decidable (left.key.order right.key))

def matchValueLegs (batch : IngestBatch) (pairs : List RecoveredValuePair) (commitRef : CommitRef) :
    Except IndexError (List (String × TradeValueLeg)) := do
  let declared ← (batch.settleIntents.filter declaresValueLeg).mapM declaredValueLeg
  return ((declared.insertionSort declarationOrder).zip (pairs.insertionSort pairOrder)).filterMap
    (valueLeg commitRef)

def attachValueLeg (entry : String × TradeValueLeg) : TradeTable :=
  let record := recordOf table entry.1
  table.insert entry.1 { record with
    events := record.events ++ entry.2.pairEventIds.map fun eventId =>
      ⟨eventId, entry.2.tenant, FungibleBalance.op.balanceTransfer⟩
    valueLegs := record.valueLegs ++ [entry.2] }

/-! ## Batches -/

def apply (batch : IngestBatch) : Except IndexError TradeTable := do
  let commitRef ← commitRefFromSigned batch.commit
  let valuePairs ← recoverValuePairs batch.events
  let named ← tradeEvents batch.events
  let traded ← (groupTrades named).foldlM (applyTrade commitRef) table
  let valueLegs ← matchValueLegs batch valuePairs commitRef
  return valueLegs.foldl attachValueLeg traded

/-- Batches applied in order, as a rebuild of the index does. -/
def applyAll (batches : List IngestBatch) : Except IndexError TradeTable := batches.foldlM apply .empty

end StateChronicle.Index
