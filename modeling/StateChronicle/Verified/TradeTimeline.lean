import StateChronicle.Verified.IncrementalIndex

/-!
# The timeline of a trade

A batch appends its references to the record of a trade, locks before settlements and cancellations before payments,
and sets the status its last event leads to.  So the record is in canonical order, and its status agrees with its
events, as far as the batches come in that order themselves.
-/

namespace StateChronicle.Verified

open Domain Foundation Index Profiles

variable {ref : TradeEventRef}

section Batches

variable {tradeId : String} {batch : IngestBatch} {operation : Operation}

/-- The batch settles the trade or cancels it. -/
def Closes (tradeId : String) (batch : IngestBatch) : Prop :=
  operationsIn UniqueAsset.op.tradeSettle tradeId batch ≠ [] ∨
    operationsIn UniqueAsset.op.tradeUnlock tradeId batch ≠ []

instance (tradeId : String) : DecidablePred (Closes tradeId) := fun batch =>
  inferInstanceAs (Decidable (operationsIn UniqueAsset.op.tradeSettle tradeId batch ≠ [] ∨
    operationsIn UniqueAsset.op.tradeUnlock tradeId batch ≠ []))

/-- Only locks, settlements and cancellations name a trade. -/
theorem operation_of_mem_eventsIn {event : Event} (member : event ∈ eventsIn tradeId batch) :
    event.operation = UniqueAsset.op.tradeLock ∨ event.operation = UniqueAsset.op.tradeSettle ∨
      event.operation = UniqueAsset.op.tradeUnlock := by
  have named : tradeIdOf event = .ok (some tradeId) := of_decide_eq_true (List.mem_filter.mp member).2
  unfold tradeIdOf at named
  split_ifs at named with lock close
  · exact .inl lock
  · exact .inr close
  · cases named

theorem mem_operationsIn {event : Event} :
    event ∈ operationsIn operation tradeId batch ↔ event ∈ eventsIn tradeId batch ∧ event.operation = operation := by
  rw [operationsIn, List.mem_filter, decide_eq_true_iff]

theorem operationsIn_ne_nil :
    operationsIn operation tradeId batch ≠ [] ↔ ∃ event ∈ eventsIn tradeId batch, event.operation = operation := by
  rw [operationsIn, ne_eq, List.filter_eq_nil_iff]
  simp

theorem eventsIn_ne_nil :
    eventsIn tradeId batch ≠ [] ↔ Closes tradeId batch ∨ operationsIn UniqueAsset.op.tradeLock tradeId batch ≠ [] := by
  simp only [Closes, operationsIn_ne_nil]
  constructor
  · intro nonempty
    obtain ⟨event, member⟩ := List.exists_mem_of_ne_nil _ nonempty
    rcases operation_of_mem_eventsIn member with lock | settle | unlock
    · exact .inr ⟨event, member, lock⟩
    · exact .inl (.inl ⟨event, member, settle⟩)
    · exact .inl (.inr ⟨event, member, unlock⟩)
  · rintro ((⟨event, member, -⟩ | ⟨event, member, -⟩) | ⟨event, member, -⟩) <;> exact List.ne_nil_of_mem member

/-! ## References -/

theorem mem_tradeRefsIn : ref ∈ tradeRefsIn tradeId batch ↔ ∃ event ∈ eventsIn tradeId batch, eventRef event = ref := by
  simp only [tradeRefsIn, List.mem_map, List.mem_append, mem_operationsIn]
  constructor
  · rintro ⟨event, (⟨member, -⟩ | ⟨member, -⟩) | ⟨member, -⟩, rfl⟩ <;> exact ⟨event, member, rfl⟩
  · rintro ⟨event, member, rfl⟩
    refine ⟨event, ?_, rfl⟩
    rcases operation_of_mem_eventsIn member with lock | settle | unlock
    · exact .inl (.inl ⟨member, lock⟩)
    · exact .inl (.inr ⟨member, settle⟩)
    · exact .inr ⟨member, unlock⟩

theorem operation_of_mem_pairRefs {leg : TradeValueLeg} (member : ref ∈ pairRefs leg) :
    ref.operation = FungibleBalance.op.balanceTransfer := by
  obtain ⟨_, -, rfl⟩ := List.mem_map.mp member
  rfl

/-- The references of an operation come from the events of that operation. -/
theorem exists_ref_iff (batch : IngestBatch) (trade : operation ≠ FungibleBalance.op.balanceTransfer) :
    (∃ ref ∈ refsIn tradeId batch, ref.operation = operation) ↔ operationsIn operation tradeId batch ≠ [] := by
  rw [operationsIn_ne_nil]
  constructor
  · rintro ⟨ref, member, rfl⟩
    rcases List.mem_append.mp member with traded | pair
    · obtain ⟨event, own, rfl⟩ := mem_tradeRefsIn.mp traded
      exact ⟨event, own, rfl⟩
    · obtain ⟨leg, -, inLeg⟩ := List.mem_flatMap.mp pair
      exact absurd (operation_of_mem_pairRefs inLeg) trade
  · rintro ⟨event, own, rfl⟩
    exact ⟨eventRef event, List.mem_append_left _ (mem_tradeRefsIn.mpr ⟨event, own, rfl⟩), rfl⟩

end Batches

/-! ## Status -/

/-- The status is open exactly when the record has neither a settlement nor a cancellation. -/
def StatusReflects (record : TradeRecord) : Prop :=
  record.status = .open ↔ ∀ ref ∈ record.events,
    ref.operation ≠ UniqueAsset.op.tradeSettle ∧ ref.operation ≠ UniqueAsset.op.tradeUnlock

instance (record : TradeRecord) : Decidable (StatusReflects record) :=
  inferInstanceAs (Decidable (record.status = .open ↔ ∀ ref ∈ record.events,
    ref.operation ≠ UniqueAsset.op.tradeSettle ∧ ref.operation ≠ UniqueAsset.op.tradeUnlock))

def touching (tradeId : String) (batches : List IngestBatch) : List IngestBatch :=
  batches.filter fun batch => eventsIn tradeId batch ≠ []

/-- If the trade is ever closed, the last batch with an event of it closes it. -/
def StaysClosed (tradeId : String) (batches : List IngestBatch) : Prop :=
  (∃ batch ∈ batches, Closes tradeId batch) → ∀ last ∈ (touching tradeId batches).getLast?, Closes tradeId last

section Status

variable {tradeId : String} {batches : List IngestBatch}

theorem statusAfter_eq_open_iff {batch : IngestBatch} (status : TradeStatus) (touched : eventsIn tradeId batch ≠ []) :
    statusAfter tradeId batch status = .open ↔ ¬ Closes tradeId batch := by
  rw [eventsIn_ne_nil] at touched
  unfold statusAfter
  split_ifs with unlocks settles locks
  · simp [Closes, unlocks]
  · simp [Closes, settles]
  · simp [Closes, unlocks, settles]
  · simp only [Closes, unlocks, settles, locks, or_self] at touched

/-- The last batch with events of the trade decides its status. -/
theorem foldl_statusAfter_eq_open_iff :
    batches.foldl (fun status batch => statusAfter tradeId batch status) .open = .open ↔
      ∀ last ∈ (touching tradeId batches).getLast?, ¬ Closes tradeId last := by
  induction batches using List.reverseRecOn with
  | nil => simp [touching]
  | append_singleton batches batch ih =>
    rw [List.foldl_append, List.foldl_cons, List.foldl_nil, touching, List.filter_append]
    by_cases touched : eventsIn tradeId batch = []
    · rw [statusAfter_of_eventsIn_eq_nil _ touched, List.filter_cons_of_neg (by simpa using touched),
        List.filter_nil, List.append_nil]
      exact ih
    · rw [statusAfter_eq_open_iff _ touched, List.filter_cons_of_pos (by simpa using touched), List.filter_nil,
        List.getLast?_concat]
      simp

theorem closes_iff_exists_ref (batch : IngestBatch) :
    Closes tradeId batch ↔ ∃ ref ∈ refsIn tradeId batch,
      ref.operation = UniqueAsset.op.tradeSettle ∨ ref.operation = UniqueAsset.op.tradeUnlock := by
  rw [Closes, ← exists_ref_iff batch (by decide), ← exists_ref_iff batch (by decide)]
  simp only [and_or_left, exists_or]

theorem open_refs_iff :
    (∀ ref ∈ batches.flatMap (refsIn tradeId), ref.operation ≠ UniqueAsset.op.tradeSettle ∧
        ref.operation ≠ UniqueAsset.op.tradeUnlock) ↔ ∀ batch ∈ batches, ¬ Closes tradeId batch := by
  simp only [closes_iff_exists_ref, List.mem_flatMap, not_exists, not_and, not_or]
  constructor
  · intro none batch member ref inside
    exact none ref ⟨batch, member, inside⟩
  · rintro none ref ⟨batch, member, inside⟩
    exact none batch member ref inside

end Status

/-- The status of a record agrees with its events exactly when the trade, once closed, stays closed. -/
theorem status_reflects_iff {batches : List IngestBatch} {table : TradeTable} {tradeId : String}
    {record : TradeRecord} (applied : applyAll batches = .ok table) (found : table.get? tradeId = some record) :
    StatusReflects record ↔ StaysClosed tradeId batches := by
  obtain ⟨status, events, -⟩ := listed_of_found applied found
  rw [StatusReflects, status, events, foldl_statusAfter_eq_open_iff, StaysClosed, open_refs_iff]
  have listed {batch : IngestBatch} (member : batch ∈ batches) (closes : Closes tradeId batch) :
      batch ∈ touching tradeId batches :=
    List.mem_filter.mpr ⟨member, decide_eq_true (eventsIn_ne_nil.mpr (.inl closes))⟩
  cases last : (touching tradeId batches).getLast? with
  | none =>
    -- no batch has an event of the trade, so none closes it
    have empty := List.getLast?_eq_none_iff.mp last
    have none : ∀ batch ∈ batches, ¬ Closes tradeId batch := fun batch member closes => by
      have contradiction := listed member closes
      rw [empty] at contradiction
      cases contradiction
    simpa using none
  | some batch =>
    have member : batch ∈ batches := (List.mem_filter.mp (List.mem_of_getLast? last)).1
    simp only [Option.mem_def, Option.some.injEq, forall_eq']
    constructor
    · rintro reflects ⟨other, inside, closes⟩
      by_contra stays
      exact reflects.mp stays other inside closes
    · intro stays
      exact ⟨fun stillOpen other inside closes => stillOpen (stays ⟨other, inside, closes⟩),
        fun none => none batch member⟩

/-! ## Order -/

/-- Before a lock there are only locks, and after a payment there are only payments. -/
def CanonicallyOrdered (refs : List TradeEventRef) : Prop :=
  refs.Pairwise fun earlier later =>
    (later.operation = UniqueAsset.op.tradeLock → earlier.operation = UniqueAsset.op.tradeLock) ∧
      (earlier.operation = FungibleBalance.op.balanceTransfer → later.operation = FungibleBalance.op.balanceTransfer)

instance : DecidablePred CanonicallyOrdered := fun refs =>
  inferInstanceAs (Decidable (refs.Pairwise fun earlier later =>
    (later.operation = UniqueAsset.op.tradeLock → earlier.operation = UniqueAsset.op.tradeLock) ∧
      (earlier.operation = FungibleBalance.op.balanceTransfer → later.operation = FungibleBalance.op.balanceTransfer)))

/-- No batch locks an asset after one that closes the trade, and no event of the trade comes in after a payment. -/
def InPhases (tradeId : String) (batches : List IngestBatch) : Prop :=
  batches.Pairwise fun earlier later =>
    (Closes tradeId earlier → operationsIn UniqueAsset.op.tradeLock tradeId later = []) ∧
      (legsIn tradeId earlier ≠ [] → eventsIn tradeId later = [])

section Order

variable {tradeId : String} {batch : IngestBatch}

theorem eventIds_ne_nil {events : List Event} {pairs : List RecoveredValuePair}
    (recovered : recoverValuePairs events = .ok pairs) {pair : RecoveredValuePair} (member : pair ∈ pairs) :
    pair.eventIds ≠ [] := by
  simp only [recoverValuePairs, Except.bind_eq_ok, Except.pure_eq_ok, Except.mapM_eq_ok] at recovered
  obtain ⟨groups, aligned, rfl⟩ := recovered
  obtain ⟨group, inGroups, inGroup⟩ := List.mem_flatten.mp member
  obtain ⟨⟨intentId, entries⟩, -, made⟩ := Aligned.exists_left aligned inGroups
  cases entries with
  | nil =>
    obtain rfl := Except.ok.inj made
    cases inGroup
  | cons first rest =>
    simp only [recoverValuePair, Except.bind_eq_ok, Except.pure_eq_ok] at made
    obtain ⟨_, -, _, -, rfl⟩ := made
    obtain rfl := List.mem_singleton.mp inGroup
    intro empty
    have length := congrArg List.length empty
    rw [List.length_insertionSort] at length
    cases length

theorem pairEventIds_ne_nil {leg : TradeValueLeg} (member : leg ∈ legsIn tradeId batch) : leg.pairEventIds ≠ [] := by
  obtain ⟨-, pairs, recovered, pair, inPairs, same⟩ := paid_of_mem_legsIn member
  rw [same]
  exact eventIds_ne_nil recovered inPairs

theorem operation_of_mem_tradeRefsIn (member : ref ∈ tradeRefsIn tradeId batch) :
    ref.operation ≠ FungibleBalance.op.balanceTransfer ∧
      (¬ Closes tradeId batch → ref.operation = UniqueAsset.op.tradeLock) := by
  obtain ⟨event, own, rfl⟩ := mem_tradeRefsIn.mp member
  change event.operation ≠ _ ∧ (_ → event.operation = _)
  rcases operation_of_mem_eventsIn own with lock | settle | unlock
  · rw [lock]
    exact ⟨by decide, fun _ => rfl⟩
  · have closes : Closes tradeId batch := .inl (operationsIn_ne_nil.mpr ⟨event, own, settle⟩)
    rw [settle]
    exact ⟨by decide, fun stays => absurd closes stays⟩
  · have closes : Closes tradeId batch := .inr (operationsIn_ne_nil.mpr ⟨event, own, unlock⟩)
    rw [unlock]
    exact ⟨by decide, fun stays => absurd closes stays⟩

theorem operation_of_mem_legRefs (member : ref ∈ (legsIn tradeId batch).flatMap pairRefs) :
    ref.operation = FungibleBalance.op.balanceTransfer := by
  obtain ⟨leg, -, inLeg⟩ := List.mem_flatMap.mp member
  exact operation_of_mem_pairRefs inLeg

theorem canonicallyOrdered_tradeRefsIn (tradeId : String) (batch : IngestBatch) :
    CanonicallyOrdered (tradeRefsIn tradeId batch) := by
  have ofOperation {operation : Operation} {ref : TradeEventRef}
      (member : ref ∈ (operationsIn operation tradeId batch).map eventRef) : ref.operation = operation := by
    obtain ⟨event, inside, rfl⟩ := List.mem_map.mp member
    exact (mem_operationsIn.mp inside).2
  have unpaid {ref : TradeEventRef} (member : ref ∈ tradeRefsIn tradeId batch) :
      ref.operation ≠ FungibleBalance.op.balanceTransfer := (operation_of_mem_tradeRefsIn member).1
  have locksFirst : (tradeRefsIn tradeId batch).Pairwise fun earlier later =>
      later.operation = UniqueAsset.op.tradeLock → earlier.operation = UniqueAsset.op.tradeLock := by
    rw [tradeRefsIn, List.append_assoc, List.map_append, List.map_append, List.pairwise_append]
    have unlocked : ∀ ref ∈ (operationsIn UniqueAsset.op.tradeSettle tradeId batch).map eventRef ++
        (operationsIn UniqueAsset.op.tradeUnlock tradeId batch).map eventRef,
        ref.operation ≠ UniqueAsset.op.tradeLock := by
      intro ref member
      rcases List.mem_append.mp member with settles | unlocks
      · rw [ofOperation settles]
        decide
      · rw [ofOperation unlocks]
        decide
    refine ⟨?_, ?_, ?_⟩
    · exact List.pairwise_of_forall_mem_list fun earlier inside _ _ _ => ofOperation inside
    · exact List.pairwise_of_forall_mem_list fun _ _ later inside lock => absurd lock (unlocked later inside)
    · exact fun earlier inside _ _ _ => ofOperation inside
  exact locksFirst.imp_of_mem fun inside _ first => ⟨first, fun paid => absurd paid (unpaid inside)⟩

theorem canonicallyOrdered_refsIn (tradeId : String) (batch : IngestBatch) :
    CanonicallyOrdered (refsIn tradeId batch) := by
  refine List.pairwise_append.mpr ⟨canonicallyOrdered_tradeRefsIn tradeId batch, ?_, ?_⟩
  · refine List.pairwise_of_forall_mem_list fun earlier _ later inside => ?_
    have paid := operation_of_mem_legRefs inside
    exact ⟨fun lock => absurd (lock.symm.trans paid) (by decide), fun _ => paid⟩
  · intro earlier _ later inside
    have paid := operation_of_mem_legRefs inside
    exact ⟨fun lock => absurd (lock.symm.trans paid) (by decide), fun _ => paid⟩

/-- Two batches append in canonical order when the later one has nothing that belongs before the earlier one. -/
theorem refs_in_order_iff (earlier later : IngestBatch) :
    (∀ ref ∈ refsIn tradeId earlier, ∀ ref' ∈ refsIn tradeId later,
      (ref'.operation = UniqueAsset.op.tradeLock → ref.operation = UniqueAsset.op.tradeLock) ∧
        (ref.operation = FungibleBalance.op.balanceTransfer → ref'.operation = FungibleBalance.op.balanceTransfer)) ↔
      (Closes tradeId earlier → operationsIn UniqueAsset.op.tradeLock tradeId later = []) ∧
        (legsIn tradeId earlier ≠ [] → eventsIn tradeId later = []) := by
  constructor
  · intro ordered
    constructor
    · -- a settlement or cancellation would come before a lock
      intro closes
      by_contra locks
      obtain ⟨ref, inside, closing⟩ := (closes_iff_exists_ref earlier).mp closes
      obtain ⟨ref', inside', lock⟩ := (exists_ref_iff later (by decide)).mpr locks
      have first := (ordered ref inside ref' inside').1 lock
      rcases closing with settle | unlock
      · exact absurd (first.symm.trans settle) (by decide)
      · exact absurd (first.symm.trans unlock) (by decide)
    · -- a payment would come before an event of the trade
      intro paid
      by_contra touched
      obtain ⟨leg, inLegs⟩ := List.exists_mem_of_ne_nil _ paid
      obtain ⟨eventId, inPair⟩ := List.exists_mem_of_ne_nil _ (pairEventIds_ne_nil inLegs)
      obtain ⟨event, own⟩ := List.exists_mem_of_ne_nil _ touched
      have inside : ⟨eventId, leg.tenant, FungibleBalance.op.balanceTransfer⟩ ∈ refsIn tradeId earlier :=
        List.mem_append_right _ (List.mem_flatMap.mpr ⟨leg, inLegs, List.mem_map.mpr ⟨eventId, inPair, rfl⟩⟩)
      have traded : eventRef event ∈ tradeRefsIn tradeId later := mem_tradeRefsIn.mpr ⟨event, own, rfl⟩
      exact (operation_of_mem_tradeRefsIn traded).1
        ((ordered _ inside _ (List.mem_append_left _ traded)).2 rfl)
  · rintro ⟨closed, settled⟩ ref inside ref' inside'
    constructor
    · intro lock
      have locks : operationsIn UniqueAsset.op.tradeLock tradeId later ≠ [] :=
        (exists_ref_iff later (by decide)).mp ⟨ref', inside', lock⟩
      have unpaid : legsIn tradeId earlier = [] := by
        by_contra paid
        exact eventsIn_ne_nil.mpr (.inr locks) (settled paid)
      rw [refsIn, unpaid, List.flatMap_nil, List.append_nil] at inside
      exact (operation_of_mem_tradeRefsIn inside).2 fun closes => locks (closed closes)
    · intro transfer
      rcases List.mem_append.mp inside with traded | paid
      · exact absurd transfer (operation_of_mem_tradeRefsIn traded).1
      obtain ⟨leg, inLegs, -⟩ := List.mem_flatMap.mp paid
      rcases List.mem_append.mp inside' with traded' | paid'
      · rw [tradeRefsIn_of_eventsIn_eq_nil (settled (List.ne_nil_of_mem inLegs))] at traded'
        cases traded'
      · exact operation_of_mem_legRefs paid'

end Order

/-- The references of a record are in canonical order exactly when its batches come in that order. -/
theorem canonical_order_iff {batches : List IngestBatch} {table : TradeTable} {tradeId : String}
    {record : TradeRecord} (applied : applyAll batches = .ok table) (found : table.get? tradeId = some record) :
    CanonicallyOrdered record.events ↔ InPhases tradeId batches := by
  obtain ⟨-, events, -⟩ := listed_of_found applied found
  rw [events, CanonicallyOrdered, List.pairwise_flatMap, InPhases]
  simp only [refs_in_order_iff]
  exact and_iff_right fun batch _ => canonicallyOrdered_refsIn tradeId batch

open Index.Harness

/-- A sword is traded; a shield is then locked under the same trade. -/
def shieldAfterSword : List IngestBatch :=
  swordForGold ++ [batchOf "acme" "cmt_3" [lockedEvent "acme" "evt_3" "asset:shield" "trd_1"] []]

/-- Both tenants of a trade settle, each in a commit of its own; the first also carries the payment. -/
def settledApart : List IngestBatch :=
  [batchOf "acme" "cmt_1" (settledEvent "acme" "evt_1" "asset:sword" "trd_1" :: payment "acme" "int_pay" "alice" 10)
      [declaration "int_settle" "trd_1" "10" "alice"],
    batchOf "umbra" "cmt_2" [settledEvent "umbra" "evt_2" "asset:shield" "trd_1"] []]

def recordAfter (batches : List IngestBatch) (tradeId : String) : Option TradeRecord :=
  (applyAll batches).toOption.bind (·.get? tradeId)

theorem exists_of_recordAfter {batches : List IngestBatch} {tradeId : String} {holds : TradeRecord → Bool}
    (indexed : (recordAfter batches tradeId).any holds) :
    ∃ table record, applyAll batches = .ok table ∧ table.get? tradeId = some record ∧ holds record := by
  cases outcome : applyAll batches with
  | error _ => simp [recordAfter, outcome, Except.toOption] at indexed
  | ok table =>
    cases found : table.get? tradeId with
    | none => simp [recordAfter, outcome, Except.toOption, found] at indexed
    | some record =>
      refine ⟨table, record, rfl, found, ?_⟩
      simpa [recordAfter, outcome, Except.toOption, found] using indexed

theorem sword_for_gold_settled :
    ∃ table record, applyAll swordForGold = .ok table ∧ table.get? "trd_1" = some record ∧ StatusReflects record := by
  obtain ⟨table, record, applied, found, -⟩ :=
    exists_of_recordAfter (by decide +kernel : (recordAfter swordForGold "trd_1").any fun _ => true)
  have closed : ∀ last ∈ (touching "trd_1" swordForGold).getLast?, Closes "trd_1" last := by decide +kernel
  exact ⟨table, record, applied, found, (status_reflects_iff applied found).mpr fun _ => closed⟩

/-- The trade is open again, though its sword has been settled. -/
theorem shield_reopens_trade :
    ∃ table record, applyAll shieldAfterSword = .ok table ∧ table.get? "trd_1" = some record ∧
      record.status = .open ∧ ¬ StatusReflects record := by
  obtain ⟨table, record, applied, found, reopened⟩ := exists_of_recordAfter (by decide +kernel :
    (recordAfter shieldAfterSword "trd_1").any fun record => record.status = .open ∧ ¬ StatusReflects record)
  exact ⟨table, record, applied, found, of_decide_eq_true reopened⟩

theorem sword_for_gold_ordered :
    ∃ table record, applyAll swordForGold = .ok table ∧ table.get? "trd_1" = some record ∧
      CanonicallyOrdered record.events := by
  obtain ⟨table, record, applied, found, -⟩ :=
    exists_of_recordAfter (by decide +kernel : (recordAfter swordForGold "trd_1").any fun _ => true)
  refine ⟨table, record, applied, found, (canonical_order_iff applied found).mpr ?_⟩
  have phases : swordForGold.Pairwise fun earlier later =>
      (Closes "trd_1" earlier → operationsIn UniqueAsset.op.tradeLock "trd_1" later = []) ∧
        (legsIn "trd_1" earlier ≠ [] → eventsIn "trd_1" later = []) := by decide +kernel
  exact phases

/-- The second settlement is listed after the payment that came with the first. -/
theorem settled_apart_unordered :
    ∃ table record, applyAll settledApart = .ok table ∧ table.get? "trd_1" = some record ∧
      ¬ CanonicallyOrdered record.events := by
  obtain ⟨table, record, applied, found, unordered⟩ := exists_of_recordAfter (by decide +kernel :
    (recordAfter settledApart "trd_1").any fun record => ¬ CanonicallyOrdered record.events)
  exact ⟨table, record, applied, found, of_decide_eq_true unordered⟩

end StateChronicle.Verified
