import StateChronicle.Index.Harness

/-!
# Incremental indexing

Ingesting batches one by one loads only the records of the trades each batch names.  A batch leaves every other
record alone, so the store ends with what a rebuild from all batches would put there.
-/

namespace StateChronicle.Verified

open Domain Foundation Index

variable {W : Type} {port : TradeIndex W} {content : W → String → Option TradeRecord} {batches : List IngestBatch}

theorem exists_applyAll (applicable : ∀ batch ∈ batches, Applicable batch) :
    ∃ table, applyAll batches = .ok table ∧ Keyed table := by
  induction batches using List.reverseRecOn with
  | nil => exact ⟨.empty, rfl, .empty⟩
  | append_singleton batches last ih =>
    obtain ⟨table, applied, keyed⟩ := ih fun batch member =>
      applicable batch (List.mem_append_left _ member)
    obtain ⟨table', next⟩ := (applicable last (by simp)).apply table
    exact ⟨table', Except.foldlM_concat applied next, keyed.apply next⟩

section

variable (store : ReadsBack port content) {table : TradeTable} (keyed : Keyed table) {w : W}

include store keyed

theorem ingest_eq {table' : TradeTable} (applied : batches.foldlM apply table = .ok table')
    (holds : ∀ tradeId, content w tradeId = table.get? tradeId) :
    ∃ w', batches.forM (ingestBatch port) w = .ok () w' ∧ ∀ tradeId, content w' tradeId = table'.get? tradeId := by
  induction batches generalizing table w with
  | nil =>
    obtain rfl := Except.ok.inj applied
    exact ⟨w, rfl, holds⟩
  | cons batch rest ih =>
    obtain ⟨middle, first, others⟩ := Except.bind_eq_ok.mp applied
    obtain ⟨between, ingested, stored⟩ := ingestBatch_eq store keyed first holds
    obtain ⟨w', continued, final⟩ := ih (keyed.apply first) others stored
    exact ⟨w', (EStateM.bind_apply_of_ok ingested).trans continued, final⟩

theorem rebuild_eq (applied : applyAll batches = .ok table) (empty : ∀ tradeId, content w tradeId = none) :
    ∃ w', rebuild port batches w = .ok () w' ∧ ∀ tradeId, content w' tradeId = table.get? tradeId := by
  obtain ⟨w', storing, stored⟩ := storeRecords_eq store keyed w
  refine ⟨w', ?_, fun tradeId => ?_⟩
  · simp only [rebuild, EStateM.bind_eq_ok, liftM_eq_liftExcept, liftExcept_eq_ok, Except.mapError_eq_ok]
    exact ⟨table, w, ⟨applied, rfl⟩, storing⟩
  · rw [stored, empty, Option.or_none]

end

/-- Batches that the builder applies are ingested one by one, and the store ends with the records of a rebuild. -/
theorem incremental_equals_rebuild (store : ReadsBack port content) {batches : List IngestBatch}
    (applicable : ∀ batch ∈ batches, Applicable batch) {w w' : W} (empty : ∀ tradeId, content w tradeId = none)
    (empty' : ∀ tradeId, content w' tradeId = none) :
    ∃ left left', batches.forM (ingestBatch port) w = .ok () left ∧ rebuild port batches w' = .ok () left' ∧
      ∀ tradeId, content left tradeId = content left' tradeId := by
  obtain ⟨table, applied, keyed⟩ := exists_applyAll applicable
  obtain ⟨left, ingested, incremental⟩ := ingest_eq store .empty applied empty
  obtain ⟨left', rebuilt, whole⟩ := rebuild_eq store keyed applied empty'
  exact ⟨left, left', ingested, rebuilt, fun tradeId => (incremental tradeId).trans (whole tradeId).symm⟩

open Index.Harness

def swordForGold : List IngestBatch :=
  [batchOf "acme" "cmt_1" [lockedEvent "acme" "evt_1" "asset:sword" "trd_1"] [],
    batchOf "acme" "cmt_2" (settledEvent "acme" "evt_2" "asset:sword" "trd_1" :: payment "acme" "int_pay" "alice" 10)
      [declaration "int_settle" "trd_1" "10" "alice"]]

theorem swordForGold_ingested :
    ∃ left left', swordForGold.forM (ingestBatch memoryIndex) .empty = .ok () left ∧
      rebuild memoryIndex swordForGold .empty = .ok () left' ∧
      ∀ tradeId, left.get? tradeId = left'.get? tradeId := by
  have applied : ∀ batch ∈ swordForGold, (apply .empty batch).toOption.isSome := by decide +kernel
  exact incremental_equals_rebuild memoryIndex_readsBack
    (fun batch member => applicable_of_isSome (applied batch member)) (fun _ => rfl) fun _ => rfl

end StateChronicle.Verified
