import StateChronicle.Profiles.BatchShape

/-!
# Batches up to order

The batch validators remember the first tenant, the first event of a group and the last credited subject.  Read
without order they ask for one tenant, for groups that are alike from either end, and for multisets of values.
-/

namespace StateChronicle.Profiles.Atomicity

open StateChronicle.Core Domain Foundation

/-! ## Scans -/

variable {met : Option String} {u : Unit}

/-- All events are of one tenant, which is the one met before if one was met. -/
def OneTenant (met : Option String) (events : List Event) : Prop :=
  ∃ tenant, (∀ name ∈ met, name = tenant) ∧ ∀ event ∈ events, event.tenantId.name = tenant

theorem oneTenant_cons {event : Event} {rest : List Event} :
    OneTenant met (event :: rest) ↔
      ¬ met.any (· ≠ event.tenantId.name) ∧ OneTenant (some (met.getD event.tenantId.name)) rest := by
  cases met with
  | none => simp [OneTenant]
  | some name =>
    simp only [OneTenant, Option.mem_def, Option.some.injEq, forall_eq', List.forall_mem_cons, Option.any_some,
      decide_eq_true_eq, not_not, Option.getD_some, exists_eq_left']
    exact and_congr_left' eq_comm

section

variable {events : List Event}

theorem OneTenant.perm {events' : List Event} (perm : events.Perm events') (one : OneTenant met events) :
    OneTenant met events' := by
  obtain ⟨tenant, known, each⟩ := one
  exact ⟨tenant, known, fun event member => each event (perm.mem_iff.mpr member)⟩

theorem scanTenant_eq_ok {mixed : String → ProfileError} :
    scanTenant mixed met events = .ok u ↔ OneTenant met events := by
  induction events generalizing met with
  | nil =>
    refine ⟨fun _ => ⟨met.getD "", fun name known => ?_, fun event member => absurd member List.not_mem_nil⟩,
      fun _ => rfl⟩
    rw [known, Option.getD_some]
  | cons event rest ih =>
    simp only [scanTenant, Except.bind_eq_ok, rejectIf_eq_ok, ih, oneTenant_cons, exists_const]

theorem scanBatch_eq_ok {ε : Type} {duplicate : EventId → ε} {mixed : String → ε} {seen : List EventId} :
    scanBatch duplicate mixed seen met events = .ok u ↔ Unmet seen (events.map (·.eventId)) ∧ OneTenant met events := by
  induction events generalizing seen met with
  | nil =>
    refine ⟨fun _ => ⟨⟨List.nodup_nil, fun _ member => absurd member List.not_mem_nil⟩, ?_⟩, fun _ => rfl⟩
    exact scanTenant_eq_ok.mp (rfl : scanTenant (fun _ => .floatForbidden) met [] = .ok ())
  | cons event rest ih =>
    simp only [scanBatch, Except.bind_eq_ok, rejectIf_eq_ok, ih, oneTenant_cons, exists_const,
      List.map_cons, unmet_cons]
    constructor
    · rintro ⟨unmet, same, apart, one⟩
      exact ⟨⟨unmet, apart⟩, same, one⟩
    · rintro ⟨⟨unmet, apart⟩, same, one⟩
      exact ⟨unmet, same, apart, one⟩

theorem scanAssets_eq_ok {seen : List ResourceId} :
    scanAssets seen events = .ok u ↔ Unmet seen ((settleEvents events).map (·.resourceId)) := by
  induction events generalizing seen with
  | nil => simp [scanAssets, settleEvents, Unmet]
  | cons event rest ih =>
    by_cases settles : event.operation = UniqueAsset.op.tradeSettle
    · have listed : settleEvents (event :: rest) = event :: settleEvents rest :=
        List.filter_cons_of_pos (decide_eq_true settles)
      simp only [scanAssets, if_pos settles, Except.bind_eq_ok, rejectIf_eq_ok, ih, exists_const,
        listed, List.map_cons, unmet_cons]
    · have skipped : settleEvents (event :: rest) = settleEvents rest :=
        List.filter_cons_of_neg (by simpa using settles)
      rw [scanAssets, if_neg settles, ih, skipped]

end

/-! ## Pairs in either order -/

theorem TransferPair.swap {operation : Operation} {resource : ResourceId} {amount : ℚ} {recipient : Option SubjectId}
    {first second : Event} (pair : TransferPair operation resource amount recipient [first, second]) :
    TransferPair operation resource amount recipient [second, first] := by
  cases pair with
  | debitFirst field moving operations resources moves names =>
    exact .creditFirst field moving operations resources moves names
  | creditFirst field moving operations resources moves names =>
    exact .debitFirst field moving operations resources moves names

section Moves

variable {field : String} {amount : ℚ} {debit credit : Event} (moves : Moves field amount debit credit)

include moves

theorem Moves.debit_shrinks : commitmentAmount debit.after field < commitmentAmount debit.before field ∧
    ¬ commitmentAmount debit.before field < commitmentAmount debit.after field := by
  have less : fieldValue field debit.after < fieldValue field debit.before := by
    linarith [moves.positive, moves.debited]
  rw [Amount.lt_iff_value_lt, Amount.lt_iff_value_lt]
  exact ⟨less, less.asymm⟩

theorem Moves.credit_grows : commitmentAmount credit.before field < commitmentAmount credit.after field ∧
    ¬ commitmentAmount credit.after field < commitmentAmount credit.before field := by
  have more : fieldValue field credit.before < fieldValue field credit.after := by
    linarith [moves.positive, moves.credited]
  rw [Amount.lt_iff_value_lt, Amount.lt_iff_value_lt]
  exact ⟨more, more.asymm⟩

/-- The debit and the credit of a pair are counted apart, so either can be counted first. -/
theorem Moves.transferSteps_swap {totals last : Amount × Amount} :
    [debit, credit].foldlM (transferStep field) totals = .ok last ↔
      [credit, debit].foldlM (transferStep field) totals = .ok last := by
  simp only [List.foldlM_cons, List.foldlM_nil, transferStep, if_neg moves.debit_shrinks.2,
    if_pos moves.credit_grows.1, Except.bind_eq_ok, okOr_eq_ok, Except.pure_eq_ok]
  constructor
  · rintro ⟨_, ⟨taken, took, debited, sumDebit, rfl⟩, _, ⟨given, gave, credited, sumCredit, rfl⟩, rfl⟩
    exact ⟨_, ⟨given, gave, credited, sumCredit, rfl⟩, _, ⟨taken, took, debited, sumDebit, rfl⟩, rfl⟩
  · rintro ⟨_, ⟨given, gave, credited, sumCredit, rfl⟩, _, ⟨taken, took, debited, sumDebit, rfl⟩, rfl⟩
    exact ⟨_, ⟨taken, took, debited, sumDebit, rfl⟩, _, ⟨given, gave, credited, sumCredit, rfl⟩, rfl⟩

end Moves

/-- A value pair is recovered alike from either end. -/
theorem Moves.recoverValuePair_swap {amount : ℚ} {debit credit : Event} (moves : Moves "balance" amount debit credit)
    (resources : debit.resourceId = credit.resourceId) (intentId : IntentId) :
    recoverValuePair (intentId, [debit, credit]) = recoverValuePair (intentId, [credit, debit]) := by
  have debits : valuePairDebit [debit, credit] = valuePairDebit [credit, debit] := by
    have idle (running : Amount) : valuePairStep running credit = .ok running := if_neg moves.credit_grows.2
    have afterwards : valuePairDebit [debit, credit] = valuePairStep Amount.zero debit := by
      simp only [valuePairDebit, List.foldlM_cons, List.foldlM_nil, idle]
      cases valuePairStep Amount.zero debit <;> rfl
    rw [afterwards, valuePairDebit, List.foldlM_cons, idle]
    exact (bind_pure _).symm
  have credits : creditedSubject [debit, credit] = creditedSubject [credit, debit] := by
    simp only [creditedSubject, List.foldl_cons, List.foldl_nil, if_neg moves.debit_shrinks.2]
  simp only [recoverValuePair, debits, credits, List.head?_cons, Option.map_some, resources, List.length_cons]

/-- Two lists of the events of an intent that differ only in the order of a transfer pair. -/
inductive Alike : List Event → List Event → Prop
  | same {group : List Event} : Alike group group
  | swapped {operation : Operation} {resource : ResourceId} {amount : ℚ} {recipient : Option SubjectId}
      {first second : Event} (pair : TransferPair operation resource amount recipient [first, second]) :
      Alike [first, second] [second, first]

theorem eq_or_swapped_of_perm {α : Type} {first second : α} {others : List α}
    (perm : [first, second].Perm others) : others = [first, second] ∨ others = [second, first] := by
  obtain ⟨x, y, rfl⟩ := List.length_eq_two.mp perm.length_eq.symm
  rcases List.mem_pair.mp (perm.mem_iff.mpr List.mem_cons_self) with rfl | rfl
  · exact .inl (by rw [List.perm_singleton.mp perm.cons_inv.symm])
  · have rest := ((List.Perm.swap _ _ _).trans perm).cons_inv
    exact .inr (by rw [List.perm_singleton.mp rest.symm])

theorem alike_of_perm {group group' : List Event} (perm : group.Perm group')
    (shaped : group.length ≤ 1 ∨ ∃ operation resource amount recipient,
      TransferPair operation resource amount recipient group) : Alike group group' := by
  rcases shaped with short | ⟨operation, resource, amount, recipient, pair⟩
  · cases group with
    | nil =>
      rw [perm.nil_eq]
      exact .same
    | cons only rest =>
      obtain rfl : rest = [] := List.eq_nil_of_length_eq_zero (by
        rw [List.length_cons] at short
        omega)
      rw [List.perm_singleton.mp perm.symm]
      exact .same
  · obtain ⟨first, second, rfl⟩ := List.length_eq_two.mp pair.length_eq
    rcases eq_or_swapped_of_perm perm with rfl | rfl
    · exact .same
    · exact .swapped pair

section Alike

variable {group group' : List Event} (alike : Alike group group')

include alike

theorem Alike.length_eq : group.length = group'.length := by
  cases alike <;> rfl

theorem Alike.validateIntentGroup {intentId : IntentId} (valid : validateIntentGroup (intentId, group) = .ok ()) :
    Atomicity.validateIntentGroup (intentId, group') = .ok () := by
  cases alike with
  | same => exact valid
  | @swapped operation resource amount recipient first second pair =>
    change validateTransferPair intentId [first, second] = .ok () at valid
    change validateTransferPair intentId [second, first] = .ok ()
    simp only [validateTransferPair, Except.bind_eq_ok, okOr_eq_ok, rejectIf_eq_ok, not_not, exists_const] at valid ⊢
    obtain ⟨field, moving, moving', sameOperation, sameResource, totals, steps, balanced⟩ := valid
    refine ⟨field, moving', moving, sameOperation.symm, sameResource.symm, totals, ?_, balanced⟩
    cases pair with
    | debitFirst field' asked operations _ moves =>
      rw [← operations.1, moving] at asked
      cases asked
      exact moves.transferSteps_swap.mp steps
    | creditFirst field' asked operations _ moves =>
      rw [← operations.2, moving] at asked
      cases asked
      exact moves.transferSteps_swap.mpr steps

theorem Alike.leadsBalanceTransfer_eq (intentId : IntentId) :
    leadsBalanceTransfer (intentId, group) = leadsBalanceTransfer (intentId, group') := by
  cases alike with
  | same => rfl
  | swapped pair =>
    have first := pair.operation_eq List.mem_cons_self
    have second := pair.swap.operation_eq List.mem_cons_self
    simp only [leadsBalanceTransfer, List.head?_cons, Option.any_some, first, second]

theorem Alike.recoverValuePair_eq {intentId : IntentId} (leads : leadsBalanceTransfer (intentId, group)) :
    recoverValuePair (intentId, group) = recoverValuePair (intentId, group') := by
  cases alike with
  | same => rfl
  | swapped pair =>
    have transfer := (pair.operation_eq List.mem_cons_self).symm.trans (of_decide_eq_true leads)
    cases pair with
    | debitFirst field moving _ resources moves =>
      rw [transfer] at moving
      obtain rfl := field_of_balanceTransfer moving
      exact moves.recoverValuePair_swap (resources.1.trans resources.2.symm) intentId
    | creditFirst field moving _ resources moves =>
      rw [transfer] at moving
      obtain rfl := field_of_balanceTransfer moving
      exact (moves.recoverValuePair_swap (resources.1.trans resources.2.symm) intentId).symm

end Alike

/-! ## Consistent batches -/

theorem validateBatchConsistency_eq_ok {events : List Event} :
    validateBatchConsistency events = .ok u ↔ (events.map (·.eventId)).Nodup ∧ OneTenant none events ∧
      ∀ intentId, eventsOf events intentId ≠ [] →
        validateIntentGroup (intentId, eventsOf events intentId) = .ok () := by
  simp only [validateBatchConsistency, Except.bind_eq_ok, scanBatch_eq_ok, unmet_nil, Except.forM_eq_ok, exists_const,
    and_assoc]
  refine and_congr_right fun _ => and_congr_right fun _ => ?_
  constructor
  · intro each intentId nonempty
    exact each _ (mem_groupBy_intentId.mpr ⟨rfl, nonempty⟩)
  · rintro each ⟨intentId, group⟩ member
    obtain ⟨rfl, nonempty⟩ := mem_groupBy_intentId.mp member
    exact each intentId nonempty

theorem recoverValuePairs_eq (events : List Event) :
    recoverValuePairs events =
      ((SortedMap.groupBy (·.intentId) events).keys.filter fun intentId =>
        leadsBalanceTransfer (intentId, eventsOf events intentId)).mapM fun intentId =>
          recoverValuePair (intentId, eventsOf events intentId) := by
  have fibres : (SortedMap.groupBy (·.intentId) events).entries =
      (SortedMap.groupBy (·.intentId) events).keys.map fun intentId => (intentId, eventsOf events intentId) := by
    rw [SortedMap.entries_groupBy]
    refine List.map_congr_left fun intentId _ => Prod.ext rfl ?_
    exact List.filter_congr fun event _ => decide_eq_decide.mpr Iff.rfl
  rw [recoverValuePairs, fibres, List.filter_map, List.mapM_map]
  rfl

section Batches

variable {events events' : List Event} (perm : events.Perm events')

include perm

section

variable (consistent : validateBatchConsistency events = .ok ())

include consistent

theorem alike_of_consistent (intentId : IntentId) : Alike (eventsOf events intentId) (eventsOf events' intentId) :=
  alike_of_perm (perm.filter _) (eventsOf_cases consistent intentId)

theorem validateBatchConsistency_perm : validateBatchConsistency events' = .ok () := by
  obtain ⟨distinct, one, each⟩ := validateBatchConsistency_eq_ok.mp consistent
  refine validateBatchConsistency_eq_ok.mpr ⟨(perm.map _).nodup_iff.mp distinct, one.perm perm, ?_⟩
  intro intentId nonempty
  have alike := alike_of_consistent perm consistent intentId
  refine alike.validateIntentGroup (each intentId fun empty => nonempty ?_)
  rw [← List.length_eq_zero_iff, ← alike.length_eq, empty, List.length_nil]

theorem recoverValuePairs_perm : recoverValuePairs events = recoverValuePairs events' := by
  have alike := alike_of_consistent perm consistent
  have leading : ((SortedMap.groupBy (·.intentId) events).keys.filter fun intentId =>
        leadsBalanceTransfer (intentId, eventsOf events intentId)) =
      (SortedMap.groupBy (·.intentId) events').keys.filter fun intentId =>
        leadsBalanceTransfer (intentId, eventsOf events' intentId) := by
    rw [SortedMap.keys_groupBy_perm _ perm]
    exact List.filter_congr fun intentId _ => (alike intentId).leadsBalanceTransfer_eq intentId
  rw [recoverValuePairs_eq, recoverValuePairs_eq, ← leading]
  refine Except.mapM_congr fun intentId member => (alike intentId).recoverValuePair_eq ?_
  exact (List.mem_filter.mp member).2

end

theorem settleEvents_perm : (settleEvents events).Perm (settleEvents events') := perm.filter _

end Batches

/-! ## Settle batches -/

/-- A bundle is declared by every intent alike, and settles as many distinct assets as it declares. -/
theorem checkBundleShape_eq_ok {settleIntents : List Intent} {count : ℕ} {events : List Event} :
    checkBundleShape settleIntents count events = .ok u ↔
      settleIntents ≠ [] ∧ (∀ intent ∈ settleIntents, declaresBundle intent) ∧
      (∃ size trade, (∀ intent ∈ settleIntents, readBundle intent = .ok (size, trade)) ∧ count = size.val) ∧
      ((settleEvents events).map (·.resourceId)).Nodup := by
  simp only [checkBundleShape, Except.bind_eq_ok, rejectIf_eq_ok, okOr_eq_ok, Except.mapM_eq_ok, scanAssets_eq_ok,
    unmet_nil, exists_const, List.any_eq_true, not_exists, not_and, not_not, Bool.not_eq_true', decide_eq_true_eq,
    Bool.not_eq_false]
  constructor
  · rintro ⟨declared, bundles, read, ⟨size, trade⟩, first, sizes, trades, enough, distinct⟩
    have each (intent : Intent) (supplied : intent ∈ settleIntents) : readBundle intent = .ok (size, trade) := by
      obtain ⟨bundle, listed, read⟩ := Aligned.exists_right read supplied
      rw [read, Prod.ext (sizes bundle listed) (trades bundle listed)]
    refine ⟨?_, declared, ⟨size, trade, each, enough⟩, distinct⟩
    rintro rfl
    cases read
    cases first
  · rintro ⟨nonempty, declared, ⟨size, trade, each, enough⟩, distinct⟩
    obtain ⟨first, rest, rfl⟩ := List.exists_cons_of_ne_nil nonempty
    refine ⟨declared, (first :: rest).map fun _ => (size, trade), ?_, (size, trade), rfl, ?_, ?_, enough, distinct⟩
    · rw [List.forall₂_map_right_iff, List.forall₂_same]
      exact each
    · intro bundle listed
      obtain ⟨_, -, rfl⟩ := List.mem_map.mp listed
      rfl
    · intro bundle listed
      obtain ⟨_, -, rfl⟩ := List.mem_map.mp listed
      rfl

variable {events events' : List Event} {settleIntents settleIntents' : List Intent} (perm : events.Perm events')
  (permIntents : settleIntents.Perm settleIntents')

include perm permIntents

theorem checkSettleCount_perm (counted : checkSettleCount settleIntents (settleEvents events).length events = .ok ()) :
    checkSettleCount settleIntents' (settleEvents events').length events' = .ok () := by
  have settled := settleEvents_perm perm
  rw [checkSettleCount, permIntents.any_eq, permIntents.length_eq, settled.length_eq] at counted
  rw [checkSettleCount]
  split at counted
  case isTrue bundled =>
    rw [if_pos bundled]
    obtain ⟨nonempty, declared, ⟨size, trade, each, enough⟩, distinct⟩ := checkBundleShape_eq_ok.mp counted
    refine checkBundleShape_eq_ok.mpr ⟨fun empty => nonempty ?_, fun intent supplied => ?_,
      ⟨size, trade, fun intent supplied => ?_, enough⟩, (settled.map _).nodup_iff.mp distinct⟩
    · rw [empty] at permIntents
      exact permIntents.eq_nil
    · exact declared intent (permIntents.mem_iff.mpr supplied)
    · exact each intent (permIntents.mem_iff.mpr supplied)
  case isFalse single =>
    rw [if_neg single]
    exact counted

theorem validateSettleBatch_perm (consistent : validateBatchConsistency events = .ok ())
    (accepted : validateSettleBatch events settleIntents = .ok ()) :
    validateSettleBatch events' settleIntents' = .ok () := by
  simp only [validateSettleBatch, Except.bind_eq_ok, scanTenant_eq_ok, rejectIf_eq_ok, Except.forM_eq_ok,
    exists_const, not_not, sameSorted_iff] at accepted ⊢
  obtain ⟨one, ⟨⟩, counted, pairs, recovered, grouped, apart, declared, parsed, enough, matched⟩ := accepted
  rw [recoverValuePairs_perm perm consistent] at recovered
  -- The declarations are read in their own order, and only compared as multisets.
  obtain ⟨declared', parsed', reordered⟩ :=
    List.perm_comp_forall₂ (permIntents.filter declaresValueLeg).symm (Except.mapM_eq_ok.mp parsed)
  refine ⟨one.perm perm, (), checkSettleCount_perm perm permIntents counted, pairs, recovered, ?_, ?_,
    declared', Except.mapM_eq_ok.mpr parsed', enough.trans reordered.length_eq.symm,
    (reordered.map _).trans matched⟩
  · rintro ⟨intentId, group⟩ member ⟨several, undeclared⟩
    obtain ⟨rfl, nonempty⟩ := mem_groupBy_intentId.mp member
    have alike := alike_of_consistent perm consistent intentId
    have listed : (intentId, eventsOf events intentId) ∈ (SortedMap.groupBy (·.intentId) events).entries := by
      refine mem_groupBy_intentId.mpr ⟨rfl, fun empty => nonempty ?_⟩
      rw [← List.length_eq_zero_iff, ← alike.length_eq, empty, List.length_nil]
    exact grouped _ listed ⟨alike.length_eq ▸ several, undeclared⟩
  · intro pair member collides
    exact apart pair member ((permIntents.map _).mem_iff.mpr collides)

end StateChronicle.Profiles.Atomicity
