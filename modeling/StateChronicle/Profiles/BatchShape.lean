import StateChronicle.Foundation.Aligned
import StateChronicle.Profiles.Atomicity

/-!
# What the batch validators establish

Events that share an intent id are a transfer pair, the recovered value pairs are exactly the `balance.transfer`
groups, and comparing sorted tuples compares multisets.
-/

namespace StateChronicle.Profiles.Atomicity

open StateChronicle.Core Domain Foundation

variable {settleIntents : List Intent} {events group : List Event} {recipient : Option SubjectId}
  {resource : ResourceId} {intentId : IntentId} {operation : Operation} {pairs : List RecoveredValuePair}
  {groups : List TenantEventGroup} {event : Event} {pair : RecoveredValuePair} {manifest : TradeManifest} {amount : ℚ}

def eventsOf (events : List Event) (intentId : IntentId) : List Event :=
  events.filter fun event => event.intentId = intentId

theorem mem_eventsOf : event ∈ eventsOf events intentId ↔ event ∈ events ∧ event.intentId = intentId := by
  simp [eventsOf]

theorem mem_groupBy_intentId :
    (intentId, group) ∈ (SortedMap.groupBy (·.intentId) events).entries ↔
      group = eventsOf events intentId ∧ group ≠ [] := by
  rw [SortedMap.mem_entries_groupBy]
  refine and_congr_left fun _ => Eq.congr_right ?_
  exact List.filter_congr fun event _ => decide_eq_decide.mpr Iff.rfl

/-! ## Transfer pairs -/

/-- The balance a commitment records, zero when it records none. -/
def fieldValue (field : String) (commitment : StateCommitment) : ℚ := (commitmentAmount commitment field).value

/-- The two events of a transfer: one loses the positive amount the other gains. -/
structure Moves (field : String) (amount : ℚ) (debit credit : Event) : Prop where
  positive : 0 < amount
  debited : fieldValue field debit.before = fieldValue field debit.after + amount
  credited : fieldValue field credit.after = fieldValue field credit.before + amount

/-- A group of two events of one transfer operation on one resource. -/
inductive TransferPair (operation : Operation) (resource : ResourceId) (amount : ℚ)
    (recipient : Option SubjectId) : List Event → Prop
  | debitFirst {debit credit : Event} (field : String) (moving : transferField operation = some field)
      (operations : debit.operation = operation ∧ credit.operation = operation)
      (resources : debit.resourceId = resource ∧ credit.resourceId = resource)
      (moves : Moves field amount debit credit) (names : credit.after.state.subject = recipient) :
      TransferPair operation resource amount recipient [debit, credit]
  | creditFirst {debit credit : Event} (field : String) (moving : transferField operation = some field)
      (operations : debit.operation = operation ∧ credit.operation = operation)
      (resources : debit.resourceId = resource ∧ credit.resourceId = resource)
      (moves : Moves field amount debit credit) (names : credit.after.state.subject = recipient) :
      TransferPair operation resource amount recipient [credit, debit]

/-- One event moves the running totals by what its field loses or gains. -/
theorem transferStep_eq_ok {field : String} {totals next : Amount × Amount}
    (stepped : transferStep field totals event = .ok next) :
    (fieldValue field event.before < fieldValue field event.after ∧ next.1.value = totals.1.value ∧
      next.2.value = totals.2.value + (fieldValue field event.after - fieldValue field event.before)) ∨
    (fieldValue field event.after ≤ fieldValue field event.before ∧ next.2.value = totals.2.value ∧
      next.1.value = totals.1.value + (fieldValue field event.before - fieldValue field event.after)) := by
  unfold transferStep at stepped
  simp only [Amount.lt_iff_value_lt] at stepped
  split at stepped
  case isTrue grows =>
    simp only [Except.bind_eq_ok, okOr_eq_ok, Except.pure_eq_ok] at stepped
    obtain ⟨delta, taken, credit, added, rfl⟩ := stepped
    refine .inl ⟨grows, rfl, ?_⟩
    rw [Amount.value_checkedAdd added, Amount.value_checkedSub taken]
    rfl
  case isFalse shrinks =>
    simp only [Except.bind_eq_ok, okOr_eq_ok, Except.pure_eq_ok] at stepped
    obtain ⟨delta, taken, debit, added, rfl⟩ := stepped
    refine .inr ⟨not_lt.mp shrinks, rfl, ?_⟩
    rw [Amount.value_checkedAdd added, Amount.value_checkedSub taken]
    rfl

/-- The debit and the credit balance, so exactly one of the two events is the credit. -/
theorem transferPair_of_validateTransferPair (valid : validateTransferPair intentId group = .ok ()) :
    ∃ operation resource amount recipient, TransferPair operation resource amount recipient group := by
  unfold validateTransferPair at valid
  split at valid
  case h_2 => cases valid
  case h_1 first second =>
    simp only [Except.bind_eq_ok, okOr_eq_ok, rejectIf_eq_ok, not_not, not_or, Amount.sameValue_iff,
      List.foldlM_cons, List.foldlM_nil, Except.pure_eq_ok, Amount.value_zero] at valid
    obtain ⟨field, moving, -, -, -, sameOperation, -, sameResource, totals,
      ⟨middle, firstStep, _, secondStep, rfl⟩, nonzero, balanced⟩ := valid
    rcases transferStep_eq_ok firstStep with ⟨grows, debit₁, credit₁⟩ | ⟨shrinks, credit₁, debit₁⟩ <;>
      rcases transferStep_eq_ok secondStep with ⟨grows', debit₂, credit₂⟩ | ⟨shrinks', credit₂, debit₂⟩ <;>
      simp only [Amount.value_zero, zero_add] at debit₁ credit₁
    · exact absurd (debit₂.trans debit₁) nonzero
    · refine ⟨first.operation, first.resourceId, _, _, .creditFirst field moving
        ⟨sameOperation.symm, rfl⟩ ⟨sameResource.symm, rfl⟩
        ⟨sub_pos.mpr grows, ?_, (add_sub_cancel _ _).symm⟩ rfl⟩
      linarith
    · refine ⟨first.operation, first.resourceId, _, _, .debitFirst field moving
        ⟨rfl, sameOperation.symm⟩ ⟨rfl, sameResource.symm⟩
        ⟨sub_pos.mpr grows', ?_, (add_sub_cancel _ _).symm⟩ rfl⟩
      linarith
    · rw [balanced, credit₂, credit₁] at nonzero
      exact absurd rfl nonzero

/-- In a consistent batch an intent has no event, one event or a transfer pair. -/
theorem eventsOf_cases (consistent : validateBatchConsistency events = .ok ()) (intentId : IntentId) :
    (eventsOf events intentId).length ≤ 1 ∨ ∃ operation resource amount recipient,
      TransferPair operation resource amount recipient (eventsOf events intentId) := by
  simp only [validateBatchConsistency, Except.bind_eq_ok, Except.forM_eq_ok] at consistent
  obtain ⟨-, -, valid⟩ := consistent
  by_cases empty : eventsOf events intentId = []
  · exact .inl (by simp [empty])
  · have grouped : (intentId, eventsOf events intentId) ∈
        (SortedMap.groupBy (·.intentId) events).entries :=
      mem_groupBy_intentId.mpr ⟨rfl, empty⟩
    have passed := valid _ grouped
    unfold validateIntentGroup at passed
    split at passed
    case isTrue one => exact .inl one.le
    case isFalse => exact .inr (transferPair_of_validateTransferPair passed)

theorem TransferPair.operation_eq (pair : TransferPair operation resource amount recipient group)
    (member : event ∈ group) : event.operation = operation := by
  cases pair with
  | debitFirst _ _ operations =>
    rcases List.mem_pair.mp member with rfl | rfl
    · exact operations.1
    · exact operations.2
  | creditFirst _ _ operations =>
    rcases List.mem_pair.mp member with rfl | rfl
    · exact operations.2
    · exact operations.1

theorem TransferPair.transferField_isSome (pair : TransferPair operation resource amount recipient group) :
    (transferField operation).isSome := by
  cases pair with
  | debitFirst _ moving | creditFirst _ moving => simp [moving]

theorem TransferPair.length_eq (pair : TransferPair operation resource amount recipient group) : group.length = 2 := by
  cases pair <;> rfl

theorem TransferPair.exists_event (pair : TransferPair operation resource amount recipient (eventsOf events intentId)) :
    ∃ event ∈ events, event.intentId = intentId := by
  have nonempty : eventsOf events intentId ≠ [] :=
    List.ne_nil_of_length_pos (by rw [pair.length_eq]; exact Nat.succ_pos 1)
  obtain ⟨event, member⟩ := List.exists_mem_of_ne_nil _ nonempty
  exact ⟨event, mem_eventsOf.mp member⟩

/-! ## Recovered value pairs -/

theorem recoverValuePair_eq_ok {entry : IntentId × List Event} (recovered : recoverValuePair entry = .ok pair) :
    ∃ first second, entry.2 = [first, second] ∧ pair.intentId = entry.1 ∧
      valuePairDebit [first, second] = .ok pair.debit ∧ pair.resource = first.resourceId ∧
      pair.creditedSubject = creditedSubject [first, second] := by
  simp only [recoverValuePair, Except.bind_eq_ok, rejectIf_eq_ok, not_not, okOr_eq_ok, Except.pure_eq_ok] at recovered
  obtain ⟨-, two, debit, debited, resource, named, rfl⟩ := recovered
  obtain ⟨first, second, group⟩ := List.length_eq_two.mp two
  rw [group] at debited named
  cases named
  exact ⟨first, second, group, rfl, debited, rfl, by rw [group]⟩

theorem valuePairStep_eq_ok {debit next : Amount} (stepped : valuePairStep debit event = .ok next) :
    next.value = debit.value +
      max 0 (fieldValue "balance" event.before - fieldValue "balance" event.after) := by
  unfold valuePairStep at stepped
  simp only [Amount.lt_iff_value_lt] at stepped
  split at stepped
  case isTrue shrinks =>
    simp only [Except.bind_eq_ok, okOr_eq_ok] at stepped
    obtain ⟨delta, taken, added⟩ := stepped
    change fieldValue "balance" event.after < fieldValue "balance" event.before at shrinks
    rw [Amount.value_checkedAdd added, Amount.value_checkedSub taken, max_eq_right (sub_nonneg.mpr shrinks.le)]
    rfl
  case isFalse grows =>
    cases stepped
    change ¬ fieldValue "balance" event.after < fieldValue "balance" event.before at grows
    rw [max_eq_left (sub_nonpos.mpr (not_lt.mp grows)), add_zero]

theorem field_of_balanceTransfer {field : String}
    (moving : transferField FungibleBalance.op.balanceTransfer = some field) : field = "balance" :=
  (Option.some.inj moving).symm

/-- What the scan of a group recovers is the amount and the recipient of its pair. -/
theorem TransferPair.recovered {value : RecoveredValuePair}
    (pair : TransferPair FungibleBalance.op.balanceTransfer resource amount recipient group)
    (recovered : recoverValuePair (intentId, group) = .ok value) :
    value.debit.value = amount ∧ value.resource = resource ∧ value.creditedSubject = recipient := by
  obtain ⟨first, second, split, -, debited, named, credited⟩ := recoverValuePair_eq_ok recovered
  simp only [valuePairDebit, List.foldlM_cons, List.foldlM_nil, Except.bind_eq_ok, Except.pure_eq_ok] at debited
  obtain ⟨middle, firstStep, last, secondStep, total⟩ := debited
  have firstValue := valuePairStep_eq_ok firstStep
  have secondValue := valuePairStep_eq_ok secondStep
  rw [Amount.value_zero, zero_add] at firstValue
  rw [← total, secondValue, firstValue, named, credited]
  simp only [creditedSubject, List.foldl_cons, List.foldl_nil, Amount.lt_iff_value_lt]
  cases pair with
  | debitFirst field moving operations resources moves names =>
    obtain rfl := field_of_balanceTransfer moving
    cases split
    obtain ⟨positive, loses, gains⟩ := moves
    have grows : fieldValue "balance" second.before < fieldValue "balance" second.after := by
      linarith
    rw [max_eq_right (by linarith), max_eq_left (by linarith), loses]
    exact ⟨by ring, resources.1, (if_pos grows).trans names⟩
  | creditFirst field moving operations resources moves names =>
    obtain rfl := field_of_balanceTransfer moving
    cases split
    obtain ⟨positive, loses, gains⟩ := moves
    have grows : fieldValue "balance" first.before < fieldValue "balance" first.after := by
      linarith
    have shrinks : ¬ fieldValue "balance" second.before < fieldValue "balance" second.after := by
      linarith
    rw [max_eq_left (by linarith), max_eq_right (by linarith), loses]
    exact ⟨by ring, resources.2, (if_neg shrinks).trans ((if_pos grows).trans names)⟩

theorem transferPair_of_recovered (consistent : validateBatchConsistency events = .ok ())
    (built : recoverValuePair (pair.intentId, eventsOf events pair.intentId) = .ok pair)
    (leads : leadsBalanceTransfer (pair.intentId, eventsOf events pair.intentId)) :
    TransferPair FungibleBalance.op.balanceTransfer pair.resource pair.debit.value
      pair.creditedSubject (eventsOf events pair.intentId) := by
  obtain ⟨first, second, split, -⟩ := recoverValuePair_eq_ok built
  change eventsOf events pair.intentId = [first, second] at split
  rcases eventsOf_cases consistent pair.intentId with
    one | ⟨operation, resource, amount, recipient, transfer⟩
  · rw [split, List.length_cons, List.length_singleton] at one
    omega
  -- The group is led by a `balance.transfer`, so the pair is one.
  obtain rfl : operation = FungibleBalance.op.balanceTransfer := by
    rw [split] at leads transfer
    exact (transfer.operation_eq List.mem_cons_self).symm.trans (of_decide_eq_true leads)
  obtain ⟨debit, named, credited⟩ := transfer.recovered built
  rw [debit, named, credited]
  exact transfer

/-- The recovered pairs are the groups that a `balance.transfer` leads. -/
structure Recovers (events : List Event) (pairs : List RecoveredValuePair) : Prop where
  distinct : (pairs.map (·.intentId)).Nodup
  leads : ∀ intentId, intentId ∈ pairs.map (·.intentId) ↔ leadsBalanceTransfer (intentId, eventsOf events intentId)
  each : ∀ pair ∈ pairs, recoverValuePair (pair.intentId, eventsOf events pair.intentId) = .ok pair

theorem recovers_of_recoverValuePairs (recovered : recoverValuePairs events = .ok pairs) : Recovers events pairs := by
  rw [recoverValuePairs, Except.mapM_eq_ok] at recovered
  have ids : ((SortedMap.groupBy (·.intentId) events).entries.filter leadsBalanceTransfer).map
      Prod.fst = pairs.map (·.intentId) := by
    refine Aligned.map_eq recovered fun entry pair built => ?_
    obtain ⟨_, _, -, same, -⟩ := recoverValuePair_eq_ok built
    exact same.symm
  refine ⟨?_, fun intentId => ?_, fun pair member => ?_⟩
  · rw [← ids]
    exact (List.Sublist.map _ List.filter_sublist).nodup (SortedMap.keys_nodup _)
  · rw [← ids]
    simp only [List.mem_map, List.mem_filter]
    constructor
    · rintro ⟨⟨id, group⟩, ⟨grouped, leads⟩, rfl⟩
      obtain ⟨rfl, -⟩ := mem_groupBy_intentId.mp grouped
      exact leads
    · intro leads
      refine ⟨(intentId, eventsOf events intentId), ⟨mem_groupBy_intentId.mpr ⟨rfl, ?_⟩, leads⟩, rfl⟩
      intro empty
      rw [empty] at leads
      cases leads
  · obtain ⟨⟨id, group⟩, grouped, built⟩ := Aligned.exists_left recovered member
    obtain ⟨rfl, -⟩ := mem_groupBy_intentId.mp (List.mem_filter.mp grouped).1
    obtain ⟨_, _, -, same, -⟩ := recoverValuePair_eq_ok built
    rw [same]
    exact built

namespace ValueTuple

/-- A missing recipient sorts below every name. -/
def recipientRank : Option String → WithBot String
  | none => ⊥
  | some name => name

/-- The key tuples are sorted by. -/
def sortKey (tuple : ValueTuple) : ℚ ×ₗ (String ×ₗ WithBot String) :=
  toLex (tuple.amount.value, toLex (tuple.resource, recipientRank tuple.recipient))

theorem recipientRank_injective : Function.Injective recipientRank := by
  intro a b same
  cases a <;> cases b <;> simp_all [recipientRank]

theorem recipientLe_iff {a b : Option String} : recipientLe a b ↔ recipientRank a ≤ recipientRank b := by
  cases a <;> cases b <;> simp [recipientLe, recipientRank]

theorem order_iff (a b : ValueTuple) : a.order b ↔ a.sortKey ≤ b.sortKey := by
  simp only [order, sortKey, Prod.Lex.toLex_le_toLex, Amount.lt_iff_value_lt, Amount.sameValue_iff, recipientLe_iff]

theorem same_iff {a b : ValueTuple} : a.same b ↔ a.sortKey = b.sortKey := by
  simp only [same, sortKey, Amount.sameValue_iff, EmbeddingLike.apply_eq_iff_eq, Prod.mk.injEq,
    recipientRank_injective.eq_iff]

end ValueTuple

theorem sameSorted_iff {xs ys : List ValueTuple} :
    sameSorted xs ys ↔ (xs.map ValueTuple.sortKey).Perm (ys.map ValueTuple.sortKey) := by
  rw [← map_insertionSort_eq_iff ValueTuple.sortKey ValueTuple.order ValueTuple.order_iff,
    ← List.forall₂_eq_eq_eq, List.forall₂_map_left_iff, List.forall₂_map_right_iff, sameSorted]
  exact ⟨(·.imp fun _ _ => ValueTuple.same_iff.mp), (·.imp fun _ _ => ValueTuple.same_iff.mpr)⟩

theorem settleOrder_iff (a b : String × String) : settleOrder a b ↔ toLex a ≤ toLex b := by
  rw [Prod.Lex.le_iff]
  rfl

theorem insertionSort_settleOrder_eq_iff {xs ys : List (String × String)} :
    xs.insertionSort settleOrder = ys.insertionSort settleOrder ↔ xs.Perm ys := by
  have sorted := map_insertionSort_eq_iff (fun pair : String × String => toLex pair) settleOrder
    settleOrder_iff xs ys
  rwa [(List.map_injective_iff.mpr toLex.injective).eq_iff, List.map_perm_map_iff toLex.injective] at sorted

theorem checkSettleLegs_eq_ok {assets : List ResourceId} {ids : List IntentId} {legs : List SettleLeg}
    (passed : checkSettleLegs settleIntents assets ids legs = .ok ()) :
    (legs.map (·.settleIntentId)).Nodup ∧ (∀ leg ∈ legs, leg.settleIntentId ∉ ids) ∧
      ∀ leg ∈ legs, leg.settleIntentId ∈ settleIntents.map (·.intentId) := by
  induction legs generalizing assets ids with
  | nil => simp
  | cons leg rest ih =>
    simp only [checkSettleLegs, Except.bind_eq_ok, rejectIf_eq_ok, not_not] at passed
    obtain ⟨-, -, -, unused, -, executed, passed⟩ := passed
    obtain ⟨distinct, apart, known⟩ := ih passed
    refine ⟨?_, ?_, ?_⟩
    · rw [List.map_cons, List.nodup_cons]
      refine ⟨fun again => ?_, distinct⟩
      obtain ⟨other, member, same⟩ := List.mem_map.mp again
      exact apart other member (same ▸ List.mem_cons_self)
    · intro other member
      rcases List.mem_cons.mp member with rfl | later
      · exact unused
      · exact fun used => apart other later (List.mem_cons_of_mem _ used)
    · intro other member
      rcases List.mem_cons.mp member with rfl | later
      · exact executed
      · exact known other later

/-! ## Declarations -/

/-- Taking the declarations out of a pool one by one shows that the pool contains them all. -/
theorem consumeDeclared_eq_ok {pool : List ValueTuple} (consumed : consumeDeclared pool settleIntents = .ok ()) :
    ∃ tuples, List.Forall₂ (fun intent tuple => declaredValueLegTuple intent = .ok tuple)
        (settleIntents.filter declaresValueLeg) tuples ∧
      (tuples.map ValueTuple.sortKey).Subperm (pool.map ValueTuple.sortKey) := by
  induction settleIntents generalizing pool with
  | nil => exact ⟨[], .nil, List.nil_subperm⟩
  | cons intent rest ih =>
    by_cases declares : declaresValueLeg intent
    · rw [consumeDeclared, if_pos declares] at consumed
      simp only [Except.bind_eq_ok, okOr_eq_ok] at consumed
      obtain ⟨tuple, read, position, found, consumed⟩ := consumed
      obtain ⟨taken, same, split⟩ := perm_cons_of_findIdx? found
      obtain ⟨tuples, declared, contained⟩ := ih consumed
      refine ⟨tuple :: tuples, ?_, ?_⟩
      · rw [List.filter_cons_of_pos declares]
        exact .cons read declared
      · have key : taken.sortKey = tuple.sortKey := ValueTuple.same_iff.mp (of_decide_eq_true same)
        have moved := (split.map ValueTuple.sortKey).symm.subperm
        rw [List.map_cons, key] at moved
        exact ((List.subperm_cons _).mpr contained).trans moved
    · rw [consumeDeclared, if_neg declares] at consumed
      rw [List.filter_cons_of_neg declares]
      exact ih consumed

/-- A declaration on a settle intent and the recovered pair that pays it. -/
def DeclarationPaid (intent : Intent) (pair : RecoveredValuePair) : Prop :=
  ∃ tuple, declaredValueLegTuple intent = .ok tuple ∧ tuple.sortKey = pair.tuple.sortKey

/-! ## Settle batches -/

/-- The event is the settlement of the intent. -/
def SettlesIntent (intent : Intent) (event : Event) : Prop :=
  event.operation = UniqueAsset.op.tradeSettle ∧ event.tenantId = intent.tenantId ∧ event.intentId = intent.intentId

instance decidableSettlesIntent (intent : Intent) (event : Event) : Decidable (SettlesIntent intent event) :=
  instDecidableAnd

/-- In a consistent batch no two settlements share an intent id. -/
theorem settlement_unique (consistent : validateBatchConsistency events = .ok ()) (member : event ∈ events)
    (settles : event.operation = UniqueAsset.op.tradeSettle) : (eventsOf events event.intentId).length ≤ 1 := by
  rcases eventsOf_cases consistent event.intentId with single | ⟨operation, _, _, _, pair⟩
  · exact single
  · -- A pair would move an amount, which a settlement does not.
    have same := pair.operation_eq (mem_eventsOf.mpr ⟨member, rfl⟩)
    have moving := pair.transferField_isSome
    rw [← same, settles] at moving
    exact absurd moving (by decide)

def declaredBundleSize (intent : Intent) : Option U64 := (intent.inputs.get? "bundle_size").bind Value.asU64

theorem readBundle_eq_ok {intent : Intent} {bundle : U64 × String}
    (read : readBundle intent = .ok bundle) : declaredBundleSize intent = some bundle.1 := by
  simp only [readBundle, Except.bind_eq_ok, okOr_eq_ok, rejectIf_eq_ok, Except.pure_eq_ok] at read
  obtain ⟨value, found, size, isSize, -, -, _, -, _, -, -, -, rfl⟩ := read
  simp [declaredBundleSize, found, isSize]

/-- The two ways a settle batch can be counted: one event for each intent, or as many events as
every intent declares. -/
theorem counted_of_checkSettleCount {count : ℕ} (counted : checkSettleCount settleIntents count events = .ok ()) :
    (count = settleIntents.length ∧ ∀ intent ∈ settleIntents, declaredBundleSize intent = none) ∨
      settleIntents ≠ [] ∧ ∀ intent ∈ settleIntents, ∃ size,
        declaredBundleSize intent = some size ∧ size.val = count := by
  unfold checkSettleCount at counted
  split at counted
  case isTrue declared =>
    right
    simp only [checkBundleShape, Except.bind_eq_ok, okOr_eq_ok, rejectIf_eq_ok, Except.mapM_eq_ok,
      List.any_eq_true, not_exists, not_and, decide_eq_true_eq, not_not] at counted
    obtain ⟨-, -, bundles, read, ⟨firstSize, firstTrade⟩, -, ⟨⟩, sameSize, -, -, -, enough, -⟩ := counted
    obtain ⟨some, there, -⟩ := List.any_eq_true.mp declared
    refine ⟨List.ne_nil_of_mem there, fun intent supplied => ?_⟩
    obtain ⟨bundle, listed, read⟩ := Aligned.exists_right read supplied
    exact ⟨bundle.1, readBundle_eq_ok read, (congrArg Fin.val (sameSize bundle listed)).trans enough.symm⟩
  case isFalse undeclared =>
    left
    refine ⟨not_not.mp (rejectIf_eq_ok.mp counted), fun intent supplied => ?_⟩
    have plain : ¬ declaresBundle intent :=
      fun declares => undeclared (List.any_eq_true.mpr ⟨intent, supplied, declares⟩)
    rw [declaresBundle, Option.isSome_iff_ne_none, not_not] at plain
    rw [declaredBundleSize, plain]
    rfl

/-- What an accepted settle batch has established, with the recovered pairs. -/
structure SettleAccepted (events : List Event) (settleIntents : List Intent)
    (pairs : List RecoveredValuePair) : Prop where
  counted : checkSettleCount settleIntents (settleEvents events).length events = .ok ()
  recovers : Recovers events pairs
  paid : ∃ paying, paying.Perm pairs ∧ List.Forall₂ DeclarationPaid (settleIntents.filter declaresValueLeg) paying

theorem settleAccepted_of_validateSettleBatch (accepted : validateSettleBatch events settleIntents = .ok ()) :
    ∃ pairs, SettleAccepted events settleIntents pairs := by
  simp only [validateSettleBatch, Except.bind_eq_ok, rejectIf_eq_ok, Except.forM_eq_ok, not_not] at accepted
  obtain ⟨⟨⟩, -, ⟨⟩, counted, pairs, recovered, -, -, -, -, declared, parsed, -, -, matched⟩ := accepted
  refine ⟨pairs, counted, recovers_of_recoverValuePairs recovered, ?_⟩
  have same := sameSorted_iff.mp matched
  rw [List.map_map] at same
  obtain ⟨paying, rearranged, aligned⟩ := exists_aligned_of_perm_map same
  exact ⟨paying, rearranged, Aligned.comp (Except.mapM_eq_ok.mp parsed) aligned
    fun _ tuple _ read key => ⟨tuple, read, key⟩⟩

/-! ## Cross-tenant trades -/

/-- What an accepted cross-tenant trade has established, with the recovered pairs and the parsed
value legs. -/
structure TradeAccepted (groups : List TenantEventGroup) (manifest : TradeManifest)
    (settleIntents : List Intent) (pairs : List RecoveredValuePair) (declared : List ValueTuple) :
    Prop where
  consistent : ∀ group ∈ groups, validateBatchConsistency group.events = .ok ()
  legsDistinct : (manifest.settleLegs.map (·.settleIntentId)).Nodup
  legsExecuted : ∀ leg ∈ manifest.settleLegs, leg.settleIntentId ∈ settleIntents.map (·.intentId)
  settles : ((settleEvents (groups.flatMap (·.events))).map settleNames).Perm
    (manifest.settleLegs.map (·.names))
  recovers : Recovers (groups.flatMap (·.events)) pairs
  parsed : List.Forall₂ (fun leg tuple => leg.tuple = .ok tuple) manifest.valueLegs declared
  paid : (declared.map ValueTuple.sortKey).Perm (pairs.map fun pair => pair.tuple.sortKey)
  consumed : consumeDeclared (declared.insertionSort ValueTuple.order) settleIntents = .ok ()
  apart : ∀ intentId ∈ pairs.map (·.intentId), intentId ∉ manifest.settleLegs.map (·.settleIntentId)
  covered : ∀ event ∈ groups.flatMap (·.events),
    event.intentId ∈ manifest.settleLegs.map (·.settleIntentId) ∨ event.intentId ∈ pairs.map (·.intentId)

theorem tradeAccepted_of_validateCrossTenantTrade
    (accepted : validateCrossTenantTrade groups manifest settleIntents = .ok ()) :
    ∃ pairs declared, TradeAccepted groups manifest settleIntents pairs declared := by
  simp only [validateCrossTenantTrade, Except.bind_eq_ok, rejectIf_eq_ok, Except.forM_eq_ok, not_not] at accepted
  obtain ⟨-, -, ⟨⟩, checked, -, -, ⟨⟩, legs, -, settles, pairs, recovered, -, -, declared, parsed, -,
    paid, ⟨⟩, consumed, ⟨⟩, apart, covered⟩ := accepted
  obtain ⟨distinct, -, executed⟩ := checkSettleLegs_eq_ok legs
  refine ⟨pairs, declared, ⟨fun group member => ?_, distinct, executed,
    insertionSort_settleOrder_eq_iff.mp settles, recovers_of_recoverValuePairs recovered,
    Except.mapM_eq_ok.mp parsed, ?_, consumed, apart, fun event member => ?_⟩⟩
  · have passed := checked group member
    simp only [checkGroup, Except.bind_eq_ok] at passed
    obtain ⟨-, -, consistent⟩ := passed
    exact consistent
  · have matched := sameSorted_iff.mp paid
    rw [List.map_map] at matched
    exact matched
  · have grouped : event.intentId ∈
        (SortedMap.groupBy (·.intentId) (groups.flatMap (·.events))).keys :=
      SortedMap.mem_keys_groupBy.mpr ⟨event, member, rfl⟩
    by_contra neither
    exact covered _ grouped (not_or.mp neither)

/-- A value leg and the recovered pair that pays it. -/
structure LegPaid (leg : ValueLeg) (pair : RecoveredValuePair) : Prop where
  amount : ∃ amount, Amount.tryFromStr leg.amount = .ok amount ∧ pair.debit.value = amount.value
  resource : pair.resource = leg.resource
  recipient : pair.creditedSubject = some leg.toSubject

theorem legPaid_of_sortKey_eq {leg : ValueLeg} {tuple : ValueTuple} (parsed : leg.tuple = .ok tuple)
    (same : tuple.sortKey = pair.tuple.sortKey) : LegPaid leg pair := by
  simp only [ValueLeg.tuple, Except.bind_eq_ok, Except.mapError_eq_ok, Except.pure_eq_ok] at parsed
  obtain ⟨amount, read, rfl⟩ := parsed
  obtain ⟨amounts, resources, recipients⟩ := ValueTuple.same_iff.mpr same
  refine ⟨⟨amount, read, (Amount.sameValue_iff.mp amounts).symm⟩, ResourceId.name_injective resources.symm, ?_⟩
  have named : pair.creditedSubject.map (·.name) = some leg.toSubject.name := recipients.symm
  obtain ⟨subject, credited, name⟩ := Option.map_eq_some_iff.mp named
  rw [credited, SubjectId.name_injective name]

variable {declared : List ValueTuple} (trade : TradeAccepted groups manifest settleIntents pairs declared)

include trade

/-- The recovered pairs can be listed so that each pays the value leg at its place. -/
theorem TradeAccepted.legs_paid : ∃ paying, paying.Perm pairs ∧ List.Forall₂ LegPaid manifest.valueLegs paying := by
  obtain ⟨paying, rearranged, aligned⟩ := exists_aligned_of_perm_map trade.paid
  refine ⟨paying, rearranged, ?_⟩
  exact Aligned.comp trade.parsed aligned fun _ _ _ parsed same => legPaid_of_sortKey_eq parsed same

/-- The declarations on the settle intents are paid by part of the recovered pairs. -/
theorem TradeAccepted.declarations_paid :
    ∃ paying, paying.Subperm pairs ∧ List.Forall₂ DeclarationPaid (settleIntents.filter declaresValueLeg) paying := by
  obtain ⟨tuples, read, contained⟩ := consumeDeclared_eq_ok trade.consumed
  have sorted : ((declared.insertionSort ValueTuple.order).map ValueTuple.sortKey).Perm
      (pairs.map fun pair => pair.tuple.sortKey) :=
    ((List.perm_insertionSort _ declared).map _).trans trade.paid
  obtain ⟨paying, part, aligned⟩ := exists_aligned_of_subperm_map (contained.trans sorted.subperm)
  exact ⟨paying, part, Aligned.comp read aligned fun _ tuple _ read key => ⟨tuple, read, key⟩⟩

end StateChronicle.Profiles.Atomicity
