import StateChronicle.Foundation.KeyedLoop
import StateChronicle.Index.Sides

/-!
# The index, seen from one trade

Seen from one trade, a batch is a step on that trade's record alone, and what the step does to the record's events,
status, sides and value legs can be read off the batch.
-/

namespace StateChronicle.Index

open Domain Foundation Profiles

variable {settled : List Settlement} {record' : TradeRecord}

/-! ## The step of a trade -/

variable {batch : IngestBatch} {before after : Option TradeRecord} {tradeId : String} {commitRef : CommitRef}
  {record : TradeRecord} {events : List Event}

/-- What a group of trade events makes of the record of its trade. -/
def tradeUpdate (commitRef : CommitRef) (entry : String × List Event) (before : Option TradeRecord) :
    Except IndexError TradeRecord := do
  let record ← applyTradeEvents (before.getD (.new entry.1)) entry.2 commitRef
  return { record with sides := record.sides.insertionSort sideOrder }

def pairRefs (leg : TradeValueLeg) : List TradeEventRef :=
  leg.pairEventIds.map fun eventId => ⟨eventId, leg.tenant, FungibleBalance.op.balanceTransfer⟩

/-- What a value leg makes of the record of its trade. -/
def legUpdate (entry : String × TradeValueLeg) (before : Option TradeRecord) : TradeRecord :=
  let record := before.getD (.new entry.1)
  { record with events := record.events ++ pairRefs entry.2, valueLegs := record.valueLegs ++ [entry.2] }

/-- What a batch makes of the record of one trade. -/
def advance (tradeId : String) (batch : IngestBatch) (before : Option TradeRecord) :
    Except IndexError (Option TradeRecord) := do
  let commitRef ← commitRefFromSigned batch.commit
  let valuePairs ← recoverValuePairs batch.events
  let named ← tradeEvents batch.events
  let traded ← ((groupTrades named).filter fun entry => entry.1 = tradeId).foldlM
    (valueStep (tradeUpdate commitRef)) before
  let valueLegs ← matchValueLegs batch valuePairs commitRef
  return (valueLegs.filter fun entry => entry.1 = tradeId).foldl (fun record entry => some (legUpdate entry record))
    traded

theorem applyTrade_eq (commitRef : CommitRef) : applyTrade commitRef = updateAt Prod.fst (tradeUpdate commitRef) := by
  funext table entry
  simp only [applyTrade, updateAt, tradeUpdate, recordOf, bind_assoc, pure_bind]

/-- Seen from one trade, a batch is a step on the record of that trade. -/
theorem advance_of_apply {table table' : TradeTable} (applied : apply table batch = .ok table') (tradeId : String) :
    advance tradeId batch (table.get? tradeId) = .ok (table'.get? tradeId) := by
  simp only [apply, Except.bind_eq_ok, Except.pure_eq_ok] at applied
  obtain ⟨commitRef, referred, pairs, recovered, named, identified, traded, trades, legs, matched, rfl⟩ := applied
  rw [applyTrade_eq] at trades
  have seen := get?_foldlM_updateAt trades tradeId
  have attached : (legs.foldl attachValueLeg traded).get? tradeId =
      (legs.filter fun entry => entry.1 = tradeId).foldl (fun record entry => some (legUpdate entry record))
        (traded.get? tradeId) :=
    get?_foldl_insert_at Prod.fst legUpdate legs traded tradeId
  simp only [advance, Except.bind_eq_ok, Except.pure_eq_ok]
  exact ⟨commitRef, referred, pairs, recovered, named, identified, _, seen, legs, matched, attached.symm⟩

/-! ## What is accepted -/

/-- The owners a settle event needs on both sides. -/
def OwnersNamed (event : Event) : Prop := ownerName event.before.state ≠ "" ∧ ownerName event.after.state ≠ ""

theorem exists_upsertSide {event : Event} :
    (∃ record', upsertSide record event commitRef = .ok record') ↔ OwnersNamed event := by
  simp only [upsertSide, Except.bind_eq_ok, Except.pure_eq_ok, ownerOfState_eq_ok, OwnersNamed]
  constructor
  · rintro ⟨_, _, ⟨rfl, before⟩, _, ⟨rfl, after⟩, _⟩
    exact ⟨before, after⟩
  · rintro ⟨before, after⟩
    exact ⟨_, _, ⟨rfl, before⟩, _, ⟨rfl, after⟩, rfl⟩

theorem exists_foldlM_settleStep :
    (∃ record', events.foldlM (settleStep commitRef) record = .ok record') ↔ ∀ event ∈ events, OwnersNamed event := by
  induction events generalizing record with
  | nil => simp [pure, Except.pure]
  | cons event rest ih =>
    simp only [List.foldlM_cons, Except.bind_eq_ok, settleStep, Except.pure_eq_ok, List.forall_mem_cons]
    constructor
    · rintro ⟨last, _, ⟨updated, upserted, rfl⟩, others⟩
      exact ⟨exists_upsertSide.mp ⟨updated, upserted⟩, ih.mp ⟨last, others⟩⟩
    · rintro ⟨own, others⟩
      obtain ⟨updated, upserted⟩ := exists_upsertSide.mpr own
      obtain ⟨last, continued⟩ := ih.mpr others
      exact ⟨last, _, ⟨updated, upserted, rfl⟩, continued⟩

/-- Whether the events of a trade are accepted does not depend on its record. -/
theorem exists_tradeUpdate {entry : String × List Event} :
    (∃ record, tradeUpdate commitRef entry before = .ok record) ↔
      ∀ event ∈ entry.2, event.operation = UniqueAsset.op.tradeSettle → OwnersNamed event := by
  simp only [tradeUpdate, applyTradeEvents, Except.bind_eq_ok, Except.pure_eq_ok]
  constructor
  · rintro ⟨_, _, ⟨settled, settles, rfl⟩, rfl⟩ event member settle
    exact exists_foldlM_settleStep.mp ⟨settled, settles⟩ event (List.mem_filter.mpr ⟨member, decide_eq_true settle⟩)
  · intro owned
    obtain ⟨settled, settles⟩ := exists_foldlM_settleStep.mpr fun event member =>
      owned event (List.mem_of_mem_filter member) (of_decide_eq_true (List.mem_filter.mp member).2)
    exact ⟨_, _, ⟨settled, settles, rfl⟩, rfl⟩

/-- The builder applies the batch without error to some table. -/
def Applicable (batch : IngestBatch) : Prop := ∃ table table', apply table batch = .ok table'

/-- Whether a batch is applied does not depend on the table. -/
theorem Applicable.apply (applicable : Applicable batch) (table : TradeTable) :
    ∃ table', apply table batch = .ok table' := by
  obtain ⟨start, finish, applied⟩ := applicable
  simp only [Index.apply, Except.bind_eq_ok, Except.pure_eq_ok] at applied ⊢
  obtain ⟨commitRef, referred, pairs, recovered, named, identified, traded, trades, legs, matched, -⟩ := applied
  have owned : ∀ entry ∈ groupTrades named, ∀ before, ∃ record, tradeUpdate commitRef entry before = .ok record := by
    intro entry member before
    -- seen from its own trade, the group was applied once
    rw [applyTrade_eq] at trades
    have seen := get?_foldlM_updateAt trades entry.1
    have listed : entry ∈ (groupTrades named).filter fun other => other.1 = entry.1 :=
      List.mem_filter.mpr ⟨member, decide_eq_true rfl⟩
    obtain ⟨earlier, later, split⟩ := List.append_of_mem listed
    rw [split, List.foldlM_append, Except.bind_eq_ok] at seen
    obtain ⟨middle, -, continued⟩ := seen
    obtain ⟨_, first, -⟩ := Except.bind_eq_ok.mp continued
    obtain ⟨record, updated, -⟩ := valueStep_eq_ok.mp first
    exact exists_tradeUpdate.mpr (exists_tradeUpdate.mp ⟨record, updated⟩)
  obtain ⟨traded', trades'⟩ := exists_foldlM_updateAt Prod.fst owned table
  rw [← applyTrade_eq] at trades'
  exact ⟨_, commitRef, referred, pairs, recovered, named, identified, traded', trades', legs, matched, rfl⟩

/-! ## What a batch holds of a trade -/

def eventsIn (tradeId : String) (batch : IngestBatch) : List Event :=
  batch.events.filter fun event => tradeIdOf event = .ok (some tradeId)

def operationsIn (operation : Operation) (tradeId : String) (batch : IngestBatch) : List Event :=
  (eventsIn tradeId batch).filter fun event => event.operation = operation

/-- The value legs of a batch, each with its trade. -/
def matchedLegs (batch : IngestBatch) : Except IndexError (List (String × TradeValueLeg)) := do
  let commitRef ← commitRefFromSigned batch.commit
  let valuePairs ← recoverValuePairs batch.events
  matchValueLegs batch valuePairs commitRef

def legsIn (tradeId : String) (batch : IngestBatch) : List TradeValueLeg :=
  (((matchedLegs batch).toOption.getD []).filter fun entry => entry.1 = tradeId).map Prod.snd

def eventRef (event : Event) : TradeEventRef := ⟨event.eventId, event.tenantId, event.operation⟩

def tradeRefsIn (tradeId : String) (batch : IngestBatch) : List TradeEventRef :=
  (operationsIn UniqueAsset.op.tradeLock tradeId batch ++ operationsIn UniqueAsset.op.tradeSettle tradeId batch ++
    operationsIn UniqueAsset.op.tradeUnlock tradeId batch).map eventRef

def refsIn (tradeId : String) (batch : IngestBatch) : List TradeEventRef :=
  tradeRefsIn tradeId batch ++ (legsIn tradeId batch).flatMap pairRefs

def statusAfter (tradeId : String) (batch : IngestBatch) (status : TradeStatus) : TradeStatus :=
  if operationsIn UniqueAsset.op.tradeUnlock tradeId batch ≠ [] then .cancelled
  else if operationsIn UniqueAsset.op.tradeSettle tradeId batch ≠ [] then .settled
  else if operationsIn UniqueAsset.op.tradeLock tradeId batch ≠ [] then .open
  else status

theorem filter_groupTrades {named : List (String × Event)} (identified : tradeEvents batch.events = .ok named)
    (tradeId : String) :
    ((groupTrades named).filter fun entry => entry.1 = tradeId) =
      if eventsIn tradeId batch = [] then [] else [(tradeId, eventsIn tradeId batch)] := by
  have own : (named.filter fun entry => entry.1 = tradeId).map Prod.snd = eventsIn tradeId batch :=
    filter_tradeEvents identified tradeId
  rw [groupTrades, List.filter_map]
  change ((SortedMap.groupBy Prod.fst named).entries.filter fun entry => entry.1 = tradeId).map _ = _
  rw [SortedMap.filter_entries_key]
  cases found : (SortedMap.groupBy Prod.fst named).get? tradeId with
  | none =>
    -- a group has an event, so without a group the trade has none
    have absent : ¬ ∃ group, (SortedMap.groupBy Prod.fst named).get? tradeId = some group := by simp [found]
    simp only [SortedMap.get?_groupBy, exists_eq_left, not_not] at absent
    rw [absent, List.map_nil] at own
    rw [if_pos own.symm]
    rfl
  | some group =>
    obtain ⟨rfl, nonempty⟩ := SortedMap.get?_groupBy.mp found
    have listed : eventsIn tradeId batch ≠ [] := by
      rw [← own]
      exact fun empty => nonempty (List.map_eq_nil_iff.mp empty)
    rw [if_neg listed, ← own]
    rfl

/-- The two halves of a trade's step: its events, if it has any, and then its value legs. -/
theorem advance_eq_ok (advanced : advance tradeId batch before = .ok after) :
    ∃ traded, (if eventsIn tradeId batch = [] then traded = before
        else ∃ record, tradeUpdate (referenceOf batch.commit) (tradeId, eventsIn tradeId batch) before = .ok record ∧
          traded = some record) ∧
      after = (legsIn tradeId batch).foldl (fun record leg => some (legUpdate (tradeId, leg) record)) traded := by
  simp only [advance, Except.bind_eq_ok, Except.pure_eq_ok] at advanced
  obtain ⟨commitRef, referred, pairs, recovered, named, identified, traded, trades, legs, matched, rfl⟩ := advanced
  refine ⟨traded, ?_, ?_⟩
  · rw [filter_groupTrades identified, commitRefFromSigned_eq_ok referred] at trades
    split_ifs at trades ⊢ with none
    · exact (Except.ok.inj trades).symm
    · obtain ⟨next, first, rest⟩ := Except.bind_eq_ok.mp trades
      obtain ⟨record, updated, rfl⟩ := valueStep_eq_ok.mp first
      exact ⟨record, updated, (Except.ok.inj rest).symm⟩
  · have known : matchedLegs batch = .ok legs := by
      simp only [matchedLegs, Except.bind_eq_ok]
      exact ⟨commitRef, referred, pairs, recovered, matched⟩
    have same : ((legs.filter fun entry => entry.1 = tradeId).map Prod.snd).map (Prod.mk tradeId) =
        legs.filter fun entry => entry.1 = tradeId := by
      rw [List.map_map]
      refine (List.map_congr_left fun entry member => ?_).trans (List.map_id _)
      exact Prod.ext (of_decide_eq_true (List.mem_filter.mp member).2).symm rfl
    rw [legsIn, known]
    change _ = ((legs.filter fun entry => entry.1 = tradeId).map Prod.snd).foldl _ traded
    conv_lhs => rw [← same]
    rw [List.foldl_map]

/-! ## What a step does to a record -/

theorem foldl_recordEvent (status : TradeStatus) (events : List Event) (record : TradeRecord) :
    events.foldl (recordEvent status) record =
      { record with
        status := if events = [] then record.status else status
        events := record.events ++ events.map eventRef } := by
  induction events generalizing record with
  | nil => simp
  | cons event rest ih =>
    rw [List.foldl_cons, ih]
    simp [recordEvent, eventRef]

/-- What a step leaves of a record besides its sides. -/
structure Leaves (record : TradeRecord) (status : TradeStatus) (refs : List TradeEventRef)
    (legs : List TradeValueLeg) (record' : TradeRecord) : Prop where
  tradeId : record'.tradeId = record.tradeId
  status : record'.status = status
  events : record'.events = record.events ++ refs
  valueLegs : record'.valueLegs = record.valueLegs ++ legs

theorem leaves_foldlM_settleStep (settled : events.foldlM (settleStep commitRef) record = .ok record') :
    Leaves record (if events = [] then record.status else .settled) (events.map eventRef) [] record' := by
  refine Except.foldlM_induct (fun done now =>
    Leaves record (if done = [] then record.status else .settled) (done.map eventRef) [] now) ?_ ?_ settled
  · intro done event now now' leaves stepped
    simp only [settleStep, upsertSide, Except.bind_eq_ok, Except.pure_eq_ok] at stepped
    obtain ⟨_, ⟨_, _, _, _, rfl⟩, rfl⟩ := stepped
    refine ⟨leaves.tradeId, by simp [recordEvent], ?_, leaves.valueLegs⟩
    simp only [recordEvent, leaves.events, List.map_append, List.append_assoc]
    rfl
  · exact ⟨rfl, rfl, (List.append_nil _).symm, (List.append_nil _).symm⟩

theorem leaves_tradeUpdate (updated : tradeUpdate commitRef (tradeId, eventsIn tradeId batch) before = .ok record) :
    Leaves (before.getD (.new tradeId)) (statusAfter tradeId batch (before.getD (.new tradeId)).status)
      (tradeRefsIn tradeId batch) [] record := by
  simp only [tradeUpdate, applyTradeEvents, Except.bind_eq_ok, Except.pure_eq_ok] at updated
  obtain ⟨_, ⟨settled, settles, rfl⟩, rfl⟩ := updated
  have leaves := leaves_foldlM_settleStep settles
  rw [foldl_recordEvent] at leaves
  rw [foldl_recordEvent]
  refine ⟨leaves.tradeId, ?_, ?_, leaves.valueLegs⟩
  · -- locks are recorded first and cancellations last, so a cancellation decides, then a settlement
    simp only [leaves.status, statusAfter, operationsIn]
    split_ifs <;> simp_all
  · simp only [leaves.events, tradeRefsIn, operationsIn, List.map_append, List.append_assoc]

/-- The settle events among events of one commit. -/
def settlesOf (commitRef : CommitRef) (events : List Event) : List Settlement :=
  (events.filter fun event => event.operation = UniqueAsset.op.tradeSettle).map (⟨·, commitRef⟩)

theorem Gathers.applyTradeEvents (gathers : Gathers settled record.sides)
    (applied : applyTradeEvents record events commitRef = .ok record') :
    Gathers (settled ++ settlesOf commitRef events) record'.sides := by
  simp only [Index.applyTradeEvents, foldl_recordEvent, Except.bind_eq_ok, Except.pure_eq_ok] at applied
  obtain ⟨updated, settles, rfl⟩ := applied
  refine Except.foldlM_induct
    (fun done (record : TradeRecord) => Gathers (settled ++ done.map (⟨·, commitRef⟩)) record.sides) ?_ ?_ settles
  · intro done event record record' gathers stepped
    simp only [settleStep, Except.bind_eq_ok, Except.pure_eq_ok] at stepped
    obtain ⟨updated, upserted, rfl⟩ := stepped
    have opened : Gathers (settled ++ done.map (⟨·, commitRef⟩)) { record with status := .settled }.sides := gathers
    have closed := opened.upsertSide upserted
    rw [List.append_assoc] at closed
    rw [List.map_append]
    exact closed
  · rw [List.map_nil, List.append_nil]
    exact gathers

theorem leaves_foldl_legUpdate (tradeId : String) (legs : List TradeValueLeg) (before : Option TradeRecord) :
    Leaves (before.getD (.new tradeId)) (before.getD (.new tradeId)).status (legs.flatMap pairRefs) legs
      ((legs.foldl (fun record leg => some (legUpdate (tradeId, leg) record)) before).getD (.new tradeId)) := by
  induction legs using List.reverseRecOn with
  | nil => exact ⟨rfl, rfl, (List.append_nil _).symm, (List.append_nil _).symm⟩
  | append_singleton legs last ih =>
    rw [List.foldl_append, List.foldl_cons, List.foldl_nil, Option.getD_some]
    refine ⟨ih.tradeId, ih.status, ?_, ?_⟩
    · rw [List.flatMap_append, List.flatMap_singleton, ← List.append_assoc, ← ih.events]
      rfl
    · rw [← List.append_assoc, ← ih.valueLegs]
      rfl

theorem tradeRefsIn_of_eventsIn_eq_nil (none : eventsIn tradeId batch = []) : tradeRefsIn tradeId batch = [] := by
  simp [tradeRefsIn, operationsIn, none]

theorem statusAfter_of_eventsIn_eq_nil (status : TradeStatus) (none : eventsIn tradeId batch = []) :
    statusAfter tradeId batch status = status := by
  simp [statusAfter, operationsIn, none]

/-- One batch, seen from a trade: its references and legs are appended, its status is that of its last event. -/
theorem leaves_advance (advanced : advance tradeId batch before = .ok after) :
    Leaves (before.getD (.new tradeId)) (statusAfter tradeId batch (before.getD (.new tradeId)).status)
      (refsIn tradeId batch) (legsIn tradeId batch) (after.getD (.new tradeId)) := by
  obtain ⟨traded, trades, rfl⟩ := advance_eq_ok advanced
  have attached := leaves_foldl_legUpdate tradeId (legsIn tradeId batch) traded
  split_ifs at trades with none
  · subst trades
    rw [refsIn, tradeRefsIn_of_eventsIn_eq_nil none, statusAfter_of_eventsIn_eq_nil _ none, List.nil_append]
    exact attached
  · obtain ⟨record, updated, rfl⟩ := trades
    have leaves := leaves_tradeUpdate updated
    refine ⟨attached.tradeId.trans leaves.tradeId, attached.status.trans leaves.status, ?_, ?_⟩
    · rw [attached.events, Option.getD_some, leaves.events, refsIn, List.append_assoc]
    · rw [attached.valueLegs, Option.getD_some, leaves.valueLegs, List.append_nil]

theorem sides_foldl_legUpdate (legs : List TradeValueLeg) (before : Option TradeRecord) :
    ((legs.foldl (fun record leg => some (legUpdate (tradeId, leg) record)) before).getD (.new tradeId)).sides =
      (before.getD (.new tradeId)).sides := by
  induction legs generalizing before with
  | nil => rfl
  | cons leg rest ih => exact ih _

/-- One batch adds its settlements of a trade to the trade's sides. -/
theorem Gathers.advance (gathers : Gathers settled (before.getD (.new tradeId)).sides)
    (advanced : advance tradeId batch before = .ok after) :
    Gathers (settled ++ settlementsIn tradeId batch) (after.getD (.new tradeId)).sides := by
  obtain ⟨traded, trades, rfl⟩ := advance_eq_ok advanced
  have own : settlementsIn tradeId batch = settlesOf (referenceOf batch.commit) (eventsIn tradeId batch) := by
    simp only [settlementsIn, settlesOf, eventsIn, List.filter_filter, Bool.decide_and]
  rw [sides_foldl_legUpdate, own]
  split_ifs at trades with none
  · rw [trades, none]
    exact (List.append_nil settled).symm ▸ gathers
  · obtain ⟨record, updated, rfl⟩ := trades
    obtain ⟨_, events, sorted⟩ := Except.bind_eq_ok.mp updated
    cases sorted
    exact (gathers.applyTradeEvents events).perm (List.perm_insertionSort _ _).symm

theorem advance_of_absent (advanced : advance tradeId batch before = .ok after)
    (noEvents : eventsIn tradeId batch = []) (noLegs : legsIn tradeId batch = []) : after = before := by
  obtain ⟨traded, trades, rfl⟩ := advance_eq_ok advanced
  rw [if_pos noEvents] at trades
  rw [noLegs, List.foldl_nil, trades]

theorem eq_none_of_advance (advanced : advance tradeId batch before = .ok none) : before = none := by
  obtain ⟨traded, trades, final⟩ := advance_eq_ok advanced
  rcases List.eq_nil_or_concat (legsIn tradeId batch) with empty | ⟨legs, last, split⟩
  · rw [empty, List.foldl_nil] at final
    subst final
    split_ifs at trades
    · exact trades.symm
    · obtain ⟨_, _, contradiction⟩ := trades
      cases contradiction
  · -- the last value leg would have left a record
    rw [split, List.concat_eq_append, List.foldl_append] at final
    cases final

variable {batches : List IngestBatch} {table : TradeTable}

/-- Whatever every step of one trade keeps holds of the trade's record at the end. -/
theorem applyAll_induct (tradeId : String) (motive : List IngestBatch → Option TradeRecord → Prop)
    (step : ∀ done batch before after, motive done before → advance tradeId batch before = .ok after →
      motive (done ++ [batch]) after) (start : motive [] none) (applied : applyAll batches = .ok table) :
    motive batches (table.get? tradeId) := by
  refine Except.foldlM_induct (fun done (table : TradeTable) => motive done (table.get? tradeId)) ?_ ?_ applied
  · intro done batch table table' holds stepped
    exact step done batch _ _ holds (advance_of_apply stepped tradeId)
  · exact start

variable (applied : applyAll batches = .ok table)

include applied

theorem leaves_applyAll (tradeId : String) :
    Leaves (.new tradeId) (batches.foldl (fun status batch => statusAfter tradeId batch status) .open)
      (batches.flatMap (refsIn tradeId)) (batches.flatMap (legsIn tradeId)) (recordOf table tradeId) := by
  refine applyAll_induct tradeId (fun done (record : Option TradeRecord) =>
    Leaves (.new tradeId) (done.foldl (fun status batch => statusAfter tradeId batch status) .open)
      (done.flatMap (refsIn tradeId)) (done.flatMap (legsIn tradeId)) (record.getD (.new tradeId))) ?_ ?_ applied
  · intro done batch before after leaves advanced
    have next := leaves_advance advanced
    refine ⟨next.tradeId.trans leaves.tradeId, ?_, ?_, ?_⟩
    · rw [next.status, leaves.status, List.foldl_append]
      rfl
    · rw [next.events, leaves.events, List.flatMap_append, List.flatMap_singleton, List.append_assoc]
    · rw [next.valueLegs, leaves.valueLegs, List.flatMap_append, List.flatMap_singleton, List.append_assoc]
  · exact ⟨rfl, rfl, rfl, rfl⟩

/-- A record that is found holds the references and value legs of the batches, in their order. -/
theorem listed_of_found (found : table.get? tradeId = some record) :
    record.status = batches.foldl (fun status batch => statusAfter tradeId batch status) .open ∧
      record.events = batches.flatMap (refsIn tradeId) ∧ record.valueLegs = batches.flatMap (legsIn tradeId) := by
  have leaves := leaves_applyAll applied tradeId
  rw [recordOf, found, Option.getD_some] at leaves
  exact ⟨leaves.status, leaves.events, leaves.valueLegs⟩

theorem gathers_of_found (found : table.get? tradeId = some record) :
    Gathers (settlements tradeId batches) record.sides := by
  have gathers := applyAll_induct tradeId (fun done (record : Option TradeRecord) =>
    Gathers (settlements tradeId done) (record.getD (.new tradeId)).sides) ?_ Gathers.empty applied
  · rw [found, Option.getD_some] at gathers
    exact gathers
  · intro done batch before after gathers advanced
    rw [settlements, List.flatMap_append, List.flatMap_singleton]
    exact gathers.advance advanced

end StateChronicle.Index
