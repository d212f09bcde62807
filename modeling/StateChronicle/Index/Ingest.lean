import StateChronicle.Index.Service
import StateChronicle.Index.TradeView

/-!
# Ingesting batches

A batch is ingested by loading the records of the trades it names, applying it to those, and storing what comes out; a
rebuild applies all batches to an empty index first.
-/

namespace StateChronicle.Index

open Domain Foundation Profiles
open Atomicity (declaresValueLeg)

variable {batch : IngestBatch} {table : TradeTable} {tradeId : String} {table' : TradeTable}

inductive TradeIndexError where
  | notFound
  | unavailable (message : String)
deriving DecidableEq, Repr

def TradeIndexError.toString : TradeIndexError → String
  | .notFound => "no trade record available for the requested trade id"
  | .unavailable message => s!"trade index unavailable: {message}"

/-- The store of trade records, as a port over a world. -/
structure TradeIndex (W : Type) where
  putTrade : TradeRecord → W → Except TradeIndexError Unit × W
  getTrade : String → W → Except TradeIndexError (Option TradeRecord) × W

/-- The trades a batch may create or update, in order and without repetition. -/
def batchTradeIds (batch : IngestBatch) : List String :=
  let traded := batch.events.filterMap fun event => (tradeIdOf event).toOption.join
  let declared := (batch.settleIntents.filter declaresValueLeg).filterMap fun intent =>
    (intentStr intent "trade_id").toOption
  (SortedMap.ofList ((traded ++ declared).map fun tradeId => (tradeId, ()))).keys

section Service

variable {W : Type} (port : TradeIndex W)

def seedTrade (table : TradeTable) (tradeId : String) : EStateM TradeServiceError W TradeTable := do
  let found ← request (port.getTrade tradeId) fun error => .tradeIndex error.toString
  return found.elim table (table.insert tradeId)

def storeRecords (table : TradeTable) : EStateM TradeServiceError W Unit :=
  table.values.forM fun record => request (port.putTrade record) fun error => .tradeIndex error.toString

def ingestBatch (batch : IngestBatch) : EStateM TradeServiceError W Unit := do
  let seeded ← (batchTradeIds batch).foldlM (seedTrade port) .empty
  let table ← (apply seeded batch).mapError TradeServiceError.index
  storeRecords port table

def rebuild (batches : List IngestBatch) : EStateM TradeServiceError W Unit := do
  let table ← (applyAll batches).mapError TradeServiceError.index
  storeRecords port table

end Service

/-! ## The trades a batch names -/

theorem mem_batchTradeIds :
    tradeId ∈ batchTradeIds batch ↔ (∃ event ∈ batch.events, tradeIdOf event = .ok (some tradeId)) ∨
      ∃ intent ∈ batch.settleIntents, declaresValueLeg intent = true ∧ intentStr intent "trade_id" = .ok tradeId := by
  have traded : ∀ event : Event, (tradeIdOf event).toOption.join = some tradeId ↔
      tradeIdOf event = .ok (some tradeId) := by
    intro event
    cases tradeIdOf event <;> simp [Except.toOption]
  have declared : ∀ intent : Intent, (intentStr intent "trade_id").toOption = some tradeId ↔
      intentStr intent "trade_id" = .ok tradeId := by
    intro intent
    cases intentStr intent "trade_id" <;> simp [Except.toOption]
  rw [batchTradeIds, SortedMap.mem_keys_iff]
  constructor
  · rintro ⟨⟨⟩, found⟩
    obtain ⟨named, listed, same⟩ := List.mem_map.mp (SortedMap.mem_of_get?_ofList found)
    obtain rfl := congrArg Prod.fst same
    rcases List.mem_append.mp listed with event | intent
    · obtain ⟨event, member, own⟩ := List.mem_filterMap.mp event
      exact .inl ⟨event, member, (traded event).mp own⟩
    · obtain ⟨intent, member, own⟩ := List.mem_filterMap.mp intent
      obtain ⟨listed, declares⟩ := List.mem_filter.mp member
      exact .inr ⟨intent, listed, declares, (declared intent).mp own⟩
  · intro names
    by_contra absent
    have none : (SortedMap.ofList _).get? tradeId = Option.none :=
      Option.eq_none_iff_forall_ne_some.mpr fun value found => absent ⟨value, found⟩
    refine SortedMap.get?_ofList_eq_none.mp none () (List.mem_map.mpr ⟨tradeId, ?_, rfl⟩)
    rcases names with ⟨event, member, own⟩ | ⟨intent, member, declares, own⟩
    · exact List.mem_append_left _ (List.mem_filterMap.mpr ⟨event, member, (traded event).mpr own⟩)
    · exact List.mem_append_right _
        (List.mem_filterMap.mpr ⟨intent, List.mem_filter.mpr ⟨member, declares⟩, (declared intent).mpr own⟩)

/-- A value leg of a trade pays what a settle intent declares for the trade, by a pair of the batch. -/
theorem paid_of_mem_legsIn {leg : TradeValueLeg} (member : leg ∈ legsIn tradeId batch) :
    (∃ intent ∈ batch.settleIntents, declaresValueLeg intent = true ∧ intentStr intent "trade_id" = .ok tradeId) ∧
      ∃ pairs, recoverValuePairs batch.events = .ok pairs ∧ ∃ pair ∈ pairs, leg.pairEventIds = pair.eventIds := by
  obtain ⟨⟨named, leg⟩, inLegs, rfl⟩ := List.mem_map.mp member
  obtain ⟨listed, own⟩ := List.mem_filter.mp inLegs
  obtain rfl : named = tradeId := of_decide_eq_true own
  cases made : matchedLegs batch with
  | error _ =>
    rw [made] at listed
    cases listed
  | ok legs =>
    rw [made] at listed
    simp only [matchedLegs, matchValueLegs, Except.bind_eq_ok, Except.pure_eq_ok, Except.mapM_eq_ok] at made
    obtain ⟨commitRef, -, pairs, recovered, declared, aligned, rfl⟩ := made
    obtain ⟨⟨declaration, pair⟩, zipped, matched⟩ := List.mem_filterMap.mp listed
    unfold valueLeg at matched
    split_ifs at matched
    obtain ⟨rfl, rfl⟩ := Prod.mk.inj (Option.some.inj matched)
    obtain ⟨inDeclared, inPairs⟩ := List.of_mem_zip zipped
    refine ⟨?_, pairs, recovered, pair, (List.mem_insertionSort _).mp inPairs, rfl⟩
    obtain ⟨intent, declaring, read⟩ := Aligned.exists_left aligned ((List.mem_insertionSort _).mp inDeclared)
    obtain ⟨inBatch, declares⟩ := List.mem_filter.mp declaring
    simp only [declaredValueLeg, Except.bind_eq_ok, Except.pure_eq_ok] at read
    obtain ⟨_, _, _, _, _, _, tradeId, names, _, _, rfl⟩ := read
    exact ⟨intent, inBatch, declares, names⟩

theorem absent_of_not_mem_batchTradeIds (unnamed : tradeId ∉ batchTradeIds batch) :
    eventsIn tradeId batch = [] ∧ legsIn tradeId batch = [] := by
  rw [mem_batchTradeIds, not_or] at unnamed
  refine ⟨List.filter_eq_nil_iff.mpr fun event member own => unnamed.1 ⟨event, member, of_decide_eq_true own⟩, ?_⟩
  refine List.eq_nil_iff_forall_not_mem.mpr fun leg member => ?_
  obtain ⟨declared, -⟩ := paid_of_mem_legsIn member
  exact unnamed.2 declared

/-! ## Stores -/

/-- What the store holds is what was last written: nothing is lost, and nothing fails. -/
structure ReadsBack {W : Type} (port : TradeIndex W) (content : W → String → Option TradeRecord) : Prop where
  get : ∀ tradeId w, ∃ w', port.getTrade tradeId w = (.ok (content w tradeId), w') ∧ content w' = content w
  put : ∀ record w, ∃ w', port.putTrade record w = (.ok (), w') ∧
    ∀ tradeId, content w' tradeId = if tradeId = record.tradeId then some record else content w tradeId

/-- Every record is kept under its own trade. -/
def Keyed (table : TradeTable) : Prop := ∀ tradeId record, table.get? tradeId = some record → record.tradeId = tradeId

theorem Keyed.empty : Keyed .empty := fun _ _ found => by cases found

theorem Keyed.apply (keyed : Keyed table) (applied : apply table batch = .ok table') : Keyed table' := by
  intro tradeId record found
  have leaves := leaves_advance (advance_of_apply applied tradeId)
  rw [found, Option.getD_some] at leaves
  rw [leaves.tradeId]
  cases before : table.get? tradeId with
  | none => rfl
  | some earlier => exact keyed tradeId earlier before

/-- In a keyed table the record of a trade is the one that carries its name. -/
theorem Keyed.find?_values (keyed : Keyed table) (tradeId : String) :
    table.values.reverse.find? (fun record => record.tradeId = tradeId) = table.get? tradeId := by
  have names : table.values.map (·.tradeId) = table.keys := by
    rw [SortedMap.values, SortedMap.keys, List.map_map]
    exact List.map_congr_left fun entry member => keyed entry.1 entry.2 (SortedMap.mem_entries_iff.mp member)
  have unique : (table.values.reverse.map (·.tradeId)).Nodup := by
    rw [List.map_reverse, names]
    exact List.nodup_reverse.mpr table.keys_nodup
  refine Option.ext fun record => ?_
  rw [find?_key_eq_some unique, List.mem_reverse, SortedMap.values, List.mem_map]
  constructor
  · rintro ⟨⟨⟨key, record⟩, member, rfl⟩, rfl⟩
    have found := SortedMap.mem_entries_iff.mp member
    rwa [keyed key record found]
  · intro found
    exact ⟨⟨(tradeId, record), SortedMap.mem_entries_iff.mpr found, rfl⟩, keyed tradeId record found⟩

variable {W : Type} {port : TradeIndex W} {content : W → String → Option TradeRecord} (store : ReadsBack port content)

include store

theorem seeded_eq (tradeIds : List String) (table : TradeTable) (w : W) :
    ∃ table' w', tradeIds.foldlM (seedTrade port) table w = .ok table' w' ∧ content w' = content w ∧
      ∀ tradeId, table'.get? tradeId =
        if tradeId ∈ tradeIds then (content w tradeId).or (table.get? tradeId) else table.get? tradeId := by
  induction tradeIds generalizing table w with
  | nil => exact ⟨table, w, rfl, rfl, fun _ => rfl⟩
  | cons first rest ih =>
    obtain ⟨middle, read, kept⟩ := store.get first w
    have seeded : seedTrade port table first w = .ok ((content w first).elim table (table.insert first)) middle := by
      rw [seedTrade, EStateM.bind_eq_ok]
      exact ⟨_, _, request_eq_ok.mpr read, rfl⟩
    obtain ⟨table', w', others, kept', loaded⟩ :=
      ih ((content w first).elim table (table.insert first)) middle
    refine ⟨table', w', ?_, kept'.trans kept, fun tradeId => ?_⟩
    · rw [List.foldlM_cons, EStateM.bind_apply_of_ok seeded]
      exact others
    · rw [loaded, kept]
      have own : ((content w first).elim table (table.insert first)).get? tradeId =
          if tradeId = first then (content w first).or (table.get? first) else table.get? tradeId := by
        cases content w first with
        | none =>
          rw [Option.elim_none, Option.none_or]
          split_ifs with same
          · rw [same]
          · rfl
        | some record => rw [Option.elim_some, SortedMap.get?_insert, Option.some_or]
      rw [own]
      by_cases same : tradeId = first
      · -- a trade that is asked for again is loaded again, as it was
        subst same
        simp only [if_true, List.mem_cons, true_or]
        split_ifs
        · cases content w tradeId <;> rfl
        · rfl
      · simp only [List.mem_cons, same, false_or, if_false]

theorem stored_eq (records : List TradeRecord) (w : W) :
    ∃ w', (records.forM fun record => request (port.putTrade record) fun error =>
        TradeServiceError.tradeIndex error.toString) w = .ok () w' ∧
      ∀ tradeId, content w' tradeId =
        (records.reverse.find? fun record => record.tradeId = tradeId).or (content w tradeId) := by
  induction records generalizing w with
  | nil => exact ⟨w, rfl, fun _ => rfl⟩
  | cons first rest ih =>
    obtain ⟨middle, written, updated⟩ := store.put first w
    obtain ⟨w', others, stored⟩ := ih middle
    refine ⟨w', ?_, fun tradeId => ?_⟩
    · exact (EStateM.bind_apply_of_ok (request_eq_ok.mpr written)).trans others
    · rw [stored, updated, List.reverse_cons, List.find?_append, List.find?_singleton, Option.or_assoc]
      by_cases same : first.tradeId = tradeId
      · simp [same]
      · simp [same, Ne.symm same]

theorem storeRecords_eq (keyed : Keyed table) (w : W) :
    ∃ w', storeRecords port table w = .ok () w' ∧
      ∀ tradeId, content w' tradeId = (table.get? tradeId).or (content w tradeId) := by
  obtain ⟨w', ran, stored⟩ := stored_eq store table.values w
  refine ⟨w', ran, fun tradeId => ?_⟩
  rw [stored, keyed.find?_values]

/-- Ingesting a batch into a store that holds an index leaves the store with the index after the batch. -/
theorem ingestBatch_eq (keyed : Keyed table) (applied : apply table batch = .ok table') {w : W}
    (holds : ∀ tradeId, content w tradeId = table.get? tradeId) :
    ∃ w', ingestBatch port batch w = .ok () w' ∧ ∀ tradeId, content w' tradeId = table'.get? tradeId := by
  obtain ⟨seeded, middle, loading, kept, loaded⟩ := seeded_eq store (batchTradeIds batch) .empty w
  have known : ∀ tradeId, seeded.get? tradeId = if tradeId ∈ batchTradeIds batch then table.get? tradeId else none := by
    intro tradeId
    rw [loaded, holds, SortedMap.get?_empty, Option.or_none]
  obtain ⟨updated, applied'⟩ := Applicable.apply ⟨table, table', applied⟩ seeded
  have seededKeyed : Keyed seeded := by
    intro tradeId record found
    rw [known] at found
    split_ifs at found
    exact keyed tradeId record found
  obtain ⟨w', storing, stored⟩ := storeRecords_eq store (seededKeyed.apply applied') middle
  refine ⟨w', ?_, fun tradeId => ?_⟩
  · simp only [ingestBatch, EStateM.bind_eq_ok, liftM_eq_liftExcept, liftExcept_eq_ok, Except.mapError_eq_ok]
    exact ⟨seeded, middle, loading, updated, middle, ⟨applied', rfl⟩, storing⟩
  · have whole := advance_of_apply applied tradeId
    have part := advance_of_apply applied' tradeId
    rw [stored, kept, holds]
    rw [known] at part
    split_ifs at part with named
    · -- the trade was loaded, so both tables went through the same step
      have same : updated.get? tradeId = table'.get? tradeId := Except.ok.inj (part.symm.trans whole)
      rw [same]
      cases after : table'.get? tradeId with
      | some record => rfl
      | none =>
        rw [after] at whole
        rw [eq_none_of_advance whole]
        rfl
    · -- the trade was not loaded, and the batch does nothing to it
      obtain ⟨noEvents, noLegs⟩ := absent_of_not_mem_batchTradeIds named
      rw [advance_of_absent part noEvents noLegs, advance_of_absent whole noEvents noLegs]
      rfl

end StateChronicle.Index
