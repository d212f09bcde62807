import Mathlib.Data.Prod.Lex
import Mathlib.Order.WithBot
import StateChronicle.Foundation.Sorting
import StateChronicle.Profiles.Transition

/-!
# Atomic event batches

The validators over whole event batches: a transfer is an atomic debit and credit pair, a
settlement carries the value legs it declares, and a cross-tenant trade carries exactly the legs
of its manifest.
-/

namespace StateChronicle.Profiles.Atomicity

open StateChronicle.Core Domain Foundation

/-! ## Event scans -/

/-- The scan of a batch: event ids are distinct and every event has the tenant of the first. -/
def scanBatch {ε : Type} (duplicate : EventId → ε) (mixed : String → ε) :
    List EventId → Option String → List Event → Except ε Unit
  | _, _, [] => .ok ()
  | seen, first, event :: rest => do
    rejectIf (event.eventId ∈ seen) (duplicate event.eventId)
    rejectIf (first.any (· ≠ event.tenantId.name)) (mixed (first.getD ""))
    scanBatch duplicate mixed (event.eventId :: seen) (some (first.getD event.tenantId.name)) rest

def scanTenant (mixed : String → ProfileError) : Option String → List Event → Except ProfileError Unit
  | _, [] => .ok ()
  | first, event :: rest => do
    rejectIf (first.any (· ≠ event.tenantId.name)) (mixed (first.getD ""))
    scanTenant mixed (some (first.getD event.tenantId.name)) rest

/-! ## Transfer pairs -/

/-- The amount of `field` in a commitment; a missing field reads as zero. -/
def commitmentAmount (commitment : StateCommitment) (field : String) : Amount :=
  (commitment.state.amount field).getD Amount.zero

def transferField (operation : Operation) : Option String :=
  if operation = ConsumableStack.op.stackTransfer then some "quantity"
  else if operation = FungibleBalance.op.balanceTransfer then some "balance"
  else none

variable (intentId : IntentId)

def duplicateIntentError : ProfileError :=
  .atomicityViolation ("duplicate intent id `" ++ intentId.name
    ++ "` in batch (only transfer pairs may share an intent id)")

/-- Adds one event of a pair to the running `(debit, credit)`. -/
def transferStep (field : String) (totals : Amount × Amount) (event : Event) : Except ProfileError (Amount × Amount) :=
  let before := commitmentAmount event.before field
  let after := commitmentAmount event.after field
  if before < after then do
    let delta ← okOr (after.checkedSub before) (.transferMismatch "credit overflow")
    let credit ← okOr (totals.2.checkedAdd delta) (.transferMismatch "credit overflow")
    return (totals.1, credit)
  else do
    let delta ← okOr (before.checkedSub after) (.transferMismatch "debit overflow")
    let debit ← okOr (totals.1.checkedAdd delta) (.transferMismatch "debit overflow")
    return (debit, totals.2)

def netZeroError (debit credit : Amount) : ProfileError :=
  .transferMismatch ("net-zero violated for intent `" ++ intentId.name ++ "`: debit "
    ++ debit.toCanonicalString ++ " != credit " ++ credit.toCanonicalString)

variable (group : List Event)

def validateTransferPair : Except ProfileError Unit :=
  match group with
  | [first, second] => do
    let field ← okOr (transferField first.operation) (duplicateIntentError intentId)
    rejectIf (transferField second.operation ≠ some field) (duplicateIntentError intentId)
    rejectIf (first.operation ≠ second.operation) (duplicateIntentError intentId)
    rejectIf (first.resourceId ≠ second.resourceId) (duplicateIntentError intentId)
    let totals ← [first, second].foldlM (transferStep field) (Amount.zero, Amount.zero)
    rejectIf (Amount.SameValue totals.1 Amount.zero ∨ ¬ Amount.SameValue totals.1 totals.2)
      (netZeroError intentId totals.1 totals.2)
  | _ => .error (duplicateIntentError intentId)

variable (entry : IntentId × List Event)

/-- A group of one event stands alone; a larger group must be a transfer pair. -/
def validateIntentGroup : Except ProfileError Unit :=
  if entry.2.length = 1 then .ok () else validateTransferPair entry.1 entry.2

variable (events : List Event)

def validateBatchConsistency : Except ProfileError Unit := do
  scanBatch
    (fun eventId => .atomicityViolation ("duplicate event id `" ++ eventId.name ++ "` in batch"))
    (fun first => .atomicityViolation s!"mixed tenant scopes in batch (first tenant `{first}`)")
    [] none events
  (SortedMap.groupBy (·.intentId) events).entries.forM validateIntentGroup

/-! ## Value pairs -/

structure RecoveredValuePair where
  intentId : IntentId
  debit : Amount
  resource : ResourceId
  creditedSubject : Option SubjectId
deriving DecidableEq, Repr

/-- Adds the debit of one event of a value pair. -/
def valuePairStep (debit : Amount) (event : Event) : Except ProfileError Amount :=
  let before := commitmentAmount event.before "balance"
  let after := commitmentAmount event.after "balance"
  if after < before then do
    let delta ← okOr (before.checkedSub after) (.transferMismatch "debit overflow")
    okOr (debit.checkedAdd delta) (.transferMismatch "debit overflow")
  else return debit

def valuePairDebit : Except ProfileError Amount := group.foldlM valuePairStep Amount.zero

/-- The subject of the last event whose balance grows. -/
def creditedSubject : Option SubjectId :=
  group.foldl (fun credited event =>
    if commitmentAmount event.before "balance" < commitmentAmount event.after "balance"
    then event.after.state.subject else credited) none

def leadsBalanceTransfer : Bool := entry.2.head?.any fun event => event.operation = FungibleBalance.op.balanceTransfer

def recoverValuePair : Except ProfileError RecoveredValuePair := do
  rejectIf (entry.2.length ≠ 2) (.atomicityViolation ("balance.transfer intent `" ++ entry.1.name
    ++ "` in batch is not an atomic debit + credit pair"))
  let debit ← valuePairDebit entry.2
  let resource ← okOr (entry.2.head?.map (·.resourceId))
    (.atomicityViolation "empty balance.transfer value pair")
  return ⟨entry.1, debit, resource, creditedSubject entry.2⟩

def recoverValuePairs : Except ProfileError (List RecoveredValuePair) :=
  ((SortedMap.groupBy (·.intentId) events).entries.filter leadsBalanceTransfer).mapM recoverValuePair

/-! ## Value legs -/

/-- The `(amount, resource, credited subject)` tuple value legs are matched by. -/
structure ValueTuple where
  amount : Amount
  resource : String
  recipient : Option String
deriving DecidableEq, Repr

namespace ValueTuple

def recipientLe : Option String → Option String → Prop
  | none, _ => True
  | some _, none => False
  | some a, some b => a ≤ b

instance : DecidableRel recipientLe
  | none, _ => inferInstanceAs (Decidable True)
  | some _, none => inferInstanceAs (Decidable False)
  | some a, some b => inferInstanceAs (Decidable (a ≤ b))

/-- The order tuples are sorted in: by amount, then resource, then recipient. -/
def order (a b : ValueTuple) : Prop :=
  a.amount < b.amount ∨ (a.amount.SameValue b.amount ∧
    (a.resource < b.resource ∨ (a.resource = b.resource ∧ recipientLe a.recipient b.recipient)))

instance : DecidableRel order := fun a b =>
  inferInstanceAs (Decidable (a.amount < b.amount ∨ (a.amount.SameValue b.amount ∧
    (a.resource < b.resource ∨ (a.resource = b.resource ∧ recipientLe a.recipient b.recipient)))))

def same (a b : ValueTuple) : Prop := a.amount.SameValue b.amount ∧ a.resource = b.resource ∧ a.recipient = b.recipient

instance : DecidableRel same := fun a b =>
  inferInstanceAs (Decidable (a.amount.SameValue b.amount ∧ a.resource = b.resource ∧ a.recipient = b.recipient))

end ValueTuple

/-- The two lists agree element by element once sorted. -/
def sameSorted (xs ys : List ValueTuple) : Prop :=
  List.Forall₂ ValueTuple.same (xs.insertionSort ValueTuple.order)
    (ys.insertionSort ValueTuple.order)

instance (xs ys : List ValueTuple) : Decidable (sameSorted xs ys) :=
  inferInstanceAs (Decidable (List.Forall₂ ValueTuple.same (xs.insertionSort ValueTuple.order)
    (ys.insertionSort ValueTuple.order)))

def RecoveredValuePair.tuple (pair : RecoveredValuePair) : ValueTuple :=
  ⟨pair.debit, pair.resource.name, pair.creditedSubject.map (·.name)⟩

variable (intent : Intent)

def declaresValueLeg : Bool :=
  (intent.inputs.get? "value_resource").isSome || (intent.inputs.get? "value_amount").isSome
    || (intent.inputs.get? "value_to_subject").isSome

def declaredValueLegTuple : Except ProfileError ValueTuple := do
  let label := "settle intent `" ++ intent.intentId.name ++ "`"
  let resource ← okOr (intent.inputs.get? "value_resource")
    (.atomicityViolation (label ++ " declares a value leg but is missing `value_resource`"))
  let toSubject ← okOr (intent.inputs.get? "value_to_subject")
    (.atomicityViolation (label ++ " declares a value leg but is missing `value_to_subject`"))
  let resourceText ← okOr resource.asStr
    (.atomicityViolation (label ++ " has a non-string `value_resource`"))
  let toSubjectText ← okOr toSubject.asStr
    (.atomicityViolation (label ++ " has a non-string `value_to_subject`"))
  rejectIf (resourceText = "" ∨ toSubjectText = "")
    (.atomicityViolation (label ++ " has an empty value-leg member"))
  let amountValue ← okOr (intent.inputs.get? "value_amount")
    (.atomicityViolation (label ++ " declares a value leg but is missing `value_amount`"))
  let amountText ← okOr amountValue.asStr
    (.atomicityViolation (label ++ " has a non-string `value_amount`"))
  let amount ← (Amount.tryFromStr amountText).mapError fun _ =>
    ProfileError.transferMismatch (label ++ " declares a malformed `value_amount`")
  return ⟨amount, resourceText, some toSubjectText⟩

/-! ## Single-tenant settlements -/

def declaresBundle : Bool := (intent.inputs.get? "bundle_size").isSome

/-- The declared bundle size and trade of one settle intent. -/
def readBundle : Except ProfileError (U64 × String) := do
  let label := "bundle settle intent `" ++ intent.intentId.name ++ "`"
  let sizeValue ← okOr (intent.inputs.get? "bundle_size")
    (.atomicityViolation (label ++ " is missing `bundle_size`"))
  let size ← okOr sizeValue.asU64
    (.atomicityViolation (label ++ " has a non-integer `bundle_size`"))
  rejectIf (size = 0) (.atomicityViolation (label ++ " declares a non-positive `bundle_size`"))
  let tradeValue ← okOr (intent.inputs.get? "trade_id")
    (.atomicityViolation (label ++ " is missing `trade_id`"))
  let tradeId ← okOr tradeValue.asStr
    (.atomicityViolation (label ++ " has a non-string `trade_id`"))
  rejectIf (tradeId = "") (.atomicityViolation (label ++ " has an empty `trade_id`"))
  return (size, tradeId)

def scanAssets : List ResourceId → List Event → Except ProfileError Unit
  | _, [] => .ok ()
  | seen, event :: rest =>
    if event.operation = UniqueAsset.op.tradeSettle then do
      rejectIf (event.resourceId ∈ seen) (.atomicityViolation
        ("duplicate asset `" ++ event.resourceId.name ++ "` in bundle settle batch"))
      scanAssets (event.resourceId :: seen) rest
    else scanAssets seen rest

variable (settleIntents : List Intent)

def checkBundleShape (settleEventCount : Nat) (events : List Event) : Except ProfileError Unit := do
  rejectIf (settleIntents.any fun intent => !declaresBundle intent) (.atomicityViolation
    "partial bundle declaration: some settle intents declare `bundle_size` but not all")
  let bundles ← settleIntents.mapM readBundle
  let (firstSize, firstTrade) ← okOr bundles.head?
    (.atomicityViolation "empty bundle settle intent set")
  rejectIf (bundles.any fun bundle => bundle.1 ≠ firstSize) (.atomicityViolation
    "inconsistent `bundle_size` across the bundle settle intents")
  rejectIf (bundles.any fun bundle => bundle.2 ≠ firstTrade) (.atomicityViolation
    "mixed `trade_id` across the bundle settle intents")
  rejectIf (settleEventCount ≠ firstSize.val) (.atomicityViolation
    ("bundle settle batch has " ++ toString settleEventCount
      ++ " trade.settle event(s) but declares bundle_size " ++ toString firstSize.val))
  scanAssets [] events

/-- A declared bundle fixes the number of settle events; otherwise there is one per intent. -/
def checkSettleCount (settleEventCount : Nat) (events : List Event) : Except ProfileError Unit :=
  if settleIntents.any declaresBundle then checkBundleShape settleIntents settleEventCount events
  else rejectIf (settleEventCount ≠ settleIntents.length) (.atomicityViolation
    ("settle batch has " ++ toString settleEventCount ++ " trade.settle event(s) for "
      ++ toString settleIntents.length ++ " settle intent(s)"))

def settleEvents : List Event := events.filter fun event => event.operation = UniqueAsset.op.tradeSettle

def validateSettleBatch : Except ProfileError Unit := do
  scanTenant
    (fun first => .atomicityViolation s!"mixed tenant scopes in settle batch (first tenant `{first}`)")
    none events
  checkSettleCount settleIntents (settleEvents events).length events
  let valuePairs ← recoverValuePairs events
  (SortedMap.groupBy (·.intentId) events).entries.forM fun entry =>
    rejectIf (entry.2.length > 1 ∧ entry.1 ∉ valuePairs.map (·.intentId)) (.atomicityViolation
      ("undeclared multi-event intent group `" ++ entry.1.name ++ "` in settle batch"))
  valuePairs.forM fun pair =>
    rejectIf (pair.intentId ∈ settleIntents.map (·.intentId)) (.atomicityViolation
      ("value leg intent id `" ++ pair.intentId.name ++ "` collides with a settle intent id"))
  let declaredValues ← (settleIntents.filter declaresValueLeg).mapM declaredValueLegTuple
  rejectIf (valuePairs.length ≠ declaredValues.length) (.atomicityViolation
    ("settle batch declares " ++ toString declaredValues.length ++ " value-leg settle(s) but has "
      ++ toString valuePairs.length ++ " balance.transfer pair(s)"))
  rejectIf (¬ sameSorted declaredValues (valuePairs.map (·.tuple))) (.atomicityViolation
    ("settle batch value-leg multiset mismatch: declared (amount, resource, recipient) value legs "
      ++ "do not match the batch's balance.transfer pairs"))

/-! ## Cross-tenant batches -/

structure TenantEventGroup where
  tenant : TenantId
  events : List Event
deriving DecidableEq, Repr

structure SettleLeg where
  asset : ResourceId
  settleIntentId : IntentId
deriving DecidableEq, Repr

structure ValueLeg where
  resource : ResourceId
  amount : String
  toSubject : SubjectId
deriving DecidableEq, Repr

/-- The declared linkage of a cross-tenant trade. -/
structure TradeManifest where
  tradeId : String
  settleLegs : List SettleLeg
  valueLegs : List ValueLeg
deriving DecidableEq, Repr

/-- Every event belongs to its group's tenant and the group is a consistent batch. -/
def checkGroup (batch : String) (group : TenantEventGroup) : Except ProfileError Unit := do
  group.events.forM fun event =>
    rejectIf (event.tenantId ≠ group.tenant) (.atomicityViolation
      ("tenant mismatch in " ++ batch ++ " (event tenant `" ++ event.tenantId.name
        ++ "`, group tenant `" ++ group.tenant.name ++ "`)"))
  validateBatchConsistency group.events

variable (groups : List TenantEventGroup)

/-- The tenants whose group has an event of the intent. -/
def tenantsOf (intentId : IntentId) : List String :=
  ((groups.filter fun group => group.events.any fun event => event.intentId = intentId).map
    (·.tenant.name)).dedup

def validateCrossTenantConsistency : Except ProfileError Unit := do
  groups.forM (checkGroup "cross-tenant batch")
  let intentIds := (groups.flatMap (·.events)).map (·.intentId)
  rejectIf (¬ intentIds.any fun intentId => 2 ≤ (tenantsOf groups intentId).length)
    (.atomicityViolation "cross-tenant batch has no cross-tenant intent linkage")

/-- The declared legs name distinct assets and distinct executed settle intents. -/
def checkSettleLegs (settleIntents : List Intent) :
    List ResourceId → List IntentId → List SettleLeg → Except ProfileError Unit
  | _, _, [] => .ok ()
  | assets, ids, leg :: rest => do
    rejectIf (leg.asset ∈ assets) (.atomicityViolation
      ("duplicate settle asset `" ++ leg.asset.name ++ "` across the declared settle legs"))
    rejectIf (leg.settleIntentId ∈ ids) (.atomicityViolation
      ("duplicate settle intent id `" ++ leg.settleIntentId.name
        ++ "` across the declared settle legs"))
    rejectIf (leg.settleIntentId ∉ settleIntents.map (·.intentId)) (.atomicityViolation
      ("manifest settle intent `" ++ leg.settleIntentId.name
        ++ "` is not among the batch's settle intents"))
    checkSettleLegs settleIntents (leg.asset :: assets) (leg.settleIntentId :: ids) rest

/-- The order of `(asset, intent)` name pairs. -/
def settleOrder (a b : String × String) : Prop := a.1 < b.1 ∨ (a.1 = b.1 ∧ a.2 ≤ b.2)

instance : DecidableRel settleOrder := fun a b =>
  inferInstanceAs (Decidable (a.1 < b.1 ∨ (a.1 = b.1 ∧ a.2 ≤ b.2)))

def SettleLeg.names (leg : SettleLeg) : String × String := (leg.asset.name, leg.settleIntentId.name)

def settleNames (event : Event) : String × String := (event.resourceId.name, event.intentId.name)

def ValueLeg.tuple (leg : ValueLeg) : Except ProfileError ValueTuple := do
  let amount ← (Amount.tryFromStr leg.amount).mapError fun _ =>
    ProfileError.transferMismatch
      ("manifest value leg declares a malformed amount `" ++ leg.amount ++ "`")
  return ⟨amount, leg.resource.name, some leg.toSubject.name⟩

/-- Takes the value legs declared on settle intents out of the manifest's, one by one. -/
def consumeDeclared : List ValueTuple → List Intent → Except ProfileError Unit
  | _, [] => .ok ()
  | pool, intent :: rest =>
    if declaresValueLeg intent then do
      let tuple ← declaredValueLegTuple intent
      let position ← okOr (pool.findIdx? fun candidate => candidate.same tuple)
        (.atomicityViolation ("cross-tenant trade settle-intent value-leg declarations do not "
          ++ "match the manifest's value legs"))
      consumeDeclared (swapRemove pool position) rest
    else consumeDeclared pool rest

def validateCrossTenantTrade (manifest : TradeManifest) (settleIntents : List Intent) : Except ProfileError Unit := do
  rejectIf ((groups.map (·.tenant.name)).dedup.length < 2)
    (.atomicityViolation "cross-tenant trade requires at least two distinct tenants")
  groups.forM (checkGroup "cross-tenant trade")
  let allEvents := groups.flatMap (·.events)
  rejectIf (manifest.settleLegs = []) (.atomicityViolation
    "cross-tenant trade manifest declares no settle legs (at least one required)")
  checkSettleLegs settleIntents [] [] manifest.settleLegs
  rejectIf (((settleEvents allEvents).map settleNames).insertionSort settleOrder
      ≠ (manifest.settleLegs.map (·.names)).insertionSort settleOrder) (.atomicityViolation
    ("cross-tenant trade settle events do not match the declared settle legs exactly (a declared "
      ++ "leg is missing, duplicated, or an undeclared settle event is present)"))
  let valuePairs ← recoverValuePairs allEvents
  rejectIf (valuePairs.length ≠ manifest.valueLegs.length) (.atomicityViolation
    ("cross-tenant trade declares " ++ toString manifest.valueLegs.length
      ++ " value leg(s) but the batch has " ++ toString valuePairs.length
      ++ " balance.transfer pair(s)"))
  let declaredValues ← manifest.valueLegs.mapM (·.tuple)
  rejectIf (¬ sameSorted declaredValues (valuePairs.map (·.tuple))) (.atomicityViolation
    ("cross-tenant trade value-leg multiset mismatch: declared (amount, resource, recipient) value "
      ++ "legs do not match the batch's balance.transfer pairs"))
  -- The declared values are sorted by now; the removal below starts from that order.
  consumeDeclared (declaredValues.insertionSort ValueTuple.order) settleIntents
  let settleIds := manifest.settleLegs.map (·.settleIntentId)
  let valueIds := valuePairs.map (·.intentId)
  valueIds.forM fun intentId =>
    rejectIf (intentId ∈ settleIds) (.atomicityViolation
      ("value leg intent id `" ++ intentId.name ++ "` collides with a settle leg intent id"))
  (SortedMap.groupBy (·.intentId) allEvents).keys.forM fun intentId =>
    rejectIf (intentId ∉ settleIds ∧ intentId ∉ valueIds) (.atomicityViolation
      ("undeclared intent id `" ++ intentId.name ++ "` in cross-tenant trade (every intent must "
        ++ "resolve to a declared settle leg or value leg)"))

end StateChronicle.Profiles.Atomicity
