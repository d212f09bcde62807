import StateChronicle.Execution.Harness
import StateChronicle.Profiles.BatchShape

/-!
# Settlements and their payments

A settle intent may declare a value leg.  Whatever route returns its settle event, the same call returns the transfer
that pays it: the uncoordinated routes refuse such intents, and the coordinated ones match the declarations.
-/

namespace StateChronicle.Verified

open StateChronicle.Core Domain Execution Foundation Profiles
open Atomicity

variable {W : Type} {events : List Event} {pairs : List RecoveredValuePair} {groups : List TenantEventGroup}
  {pair : RecoveredValuePair}

/-! ## The routes -/

/-- A successful call of one of the five planning routes: the intents it was given and the event
lists it returned, one for each tenant group.  The flag says whether the route coordinates value
legs. -/
inductive Returns (self : Executor W) (w w' : W) : Bool → List ValidatedIntent → List (List Event) → Prop
  | execute {validated : ValidatedIntent} {events : List Event}
      (ran : self.execute validated w = .ok events w') : Returns self w w' false [validated] [events]
  | batch {intents : List ValidatedIntent} {events : List Event}
      (ran : self.executeBatch intents w = .ok events w') : Returns self w w' false intents [events]
  | settle {intents : List ValidatedIntent} {events : List Event}
      (ran : self.executeSettle intents w = .ok events w') : Returns self w w' true intents [events]
  | crossTenant {intents : List ValidatedIntent} {groups : List TenantEventGroup}
      (ran : self.executeCrossTenant intents w = .ok groups w') :
      Returns self w w' false intents (groups.map (·.events))
  | crossTenantTrade {intents : List ValidatedIntent} {manifest : TradeManifest}
      {groups : List TenantEventGroup}
      (ran : self.executeCrossTenantTrade intents manifest w = .ok groups w') :
      Returns self w w' true intents (groups.map (·.events))

/-- The supplied settle intents that declare a value leg and whose settle event was returned. -/
def settledDeclarations (intents : List ValidatedIntent) (returned : List (List Event)) : List Intent :=
  ((Executor.settleIntents intents).filter declaresValueLeg).filter fun intent =>
    ∃ events ∈ returned, ∃ event ∈ events, SettlesIntent intent event

/-- The list at a place has exactly two events of the intent id there, and they are a
`balance.transfer` of the declared amount, on the declared resource, to the declared subject. -/
def PaysDeclaration (returned : List (List Event)) (intent : Intent) (place : ℕ × IntentId) : Prop :=
  ∃ events declared, returned[place.1]? = some events ∧ declaredValueLegTuple intent = .ok declared ∧
    TransferPair FungibleBalance.op.balanceTransfer ⟨declared.resource⟩ declared.amount.value
      (declared.recipient.map SubjectId.mk) (eventsOf events place.2)

section Runs

variable {self : Executor W} {claims : W → Claims} {w w' : W} {coordinated : Bool}
  {intents : List ValidatedIntent} {returned : List (List Event)}

/-- Every supplied intent was run, and every returned event comes from one of them. -/
structure RunsAll (executor : Executor W) (claims : Claims) (coordinated : Bool)
    (intents : List ValidatedIntent) (returned : List (List Event)) : Prop where
  all : ∀ validated ∈ intents, ∃ output, executor.Produces claims coordinated validated output
  source : ∀ events ∈ returned, ∀ event ∈ events, ∃ validated ∈ intents, ∃ output,
    executor.Produces claims coordinated validated output ∧ event ∈ output ∧ output.Sublist events

theorem runsAll_of_assembled {claims : Claims}
    (assembled : Assembled (self.Produces claims coordinated) intents events) :
    RunsAll self claims coordinated intents [events] where
  all validated supplied := by
    obtain ⟨output, produced, -⟩ := assembled.exists_output supplied
    exact ⟨output, produced⟩
  source := by
    intro events' there event inside
    obtain rfl := List.mem_singleton.mp there
    exact assembled.exists_intent inside

theorem runsAll_of_groups {claims : Claims}
    (assembled : List.Forall₂ (Executor.GroupAssembled (self.Produces claims coordinated))
      (Executor.byTenant intents).entries groups) :
    RunsAll self claims coordinated intents (groups.map (·.events)) where
  all validated supplied := by
    obtain ⟨leg, known, member⟩ := Executor.exists_leg supplied
    obtain ⟨group, -, -, events⟩ := Aligned.exists_right assembled known
    obtain ⟨output, produced, -⟩ := events.exists_output member
    exact ⟨output, produced⟩
  source := by
    intro events there event inside
    obtain ⟨group, listed, rfl⟩ := List.mem_map.mp there
    obtain ⟨leg, known, -, assembled⟩ := Aligned.exists_left assembled listed
    obtain ⟨validated, member, found⟩ := assembled.exists_intent inside
    exact ⟨validated, Executor.mem_of_mem_leg known member, found⟩

theorem runsAll_of_returns (stores : self.StoresClaims claims) (ran : Returns self w w' coordinated intents returned) :
    RunsAll self (claims w) coordinated intents returned := by
  cases ran with
  | execute ran =>
    refine runsAll_of_assembled ⟨[_], .cons (Executor.produces_of_executeInner stores ran) .nil, ?_⟩
    simp
  | batch ran => exact runsAll_of_assembled (Executor.executeBatch_produces stores ran)
  | settle ran => exact runsAll_of_assembled (Executor.executeSettle_produces stores ran)
  | crossTenant ran | crossTenantTrade ran =>
    obtain ⟨w₁, w₂, unchanged, ran, -⟩ := Executor.executeTenants_eq_ok (fun _ => .request (stores.beginMulti _)) ran
    exact unchanged ▸ runsAll_of_groups (Executor.runCrossTenantLegs_produces stores ran)

variable (standard : self.profiles.Standard) (native : ∀ validated ∈ intents, validated.intent.stateType ≠ some .custom)

include standard native

/-! ## Uncoordinated routes -/

/-- The routing gate of the built-in types. -/
theorem not_declares_of_uncoordinated {validated : ValidatedIntent} (supplied : validated ∈ intents)
    (acceptance : self.Acceptance validated.intent false)
    (settles : validated.intent.operation = UniqueAsset.op.tradeSettle) : ¬ declaresValueLeg validated.intent := by
  intro declares
  have routed := acceptance.routed
  rw [(acceptance.builtin standard (native validated supplied)).executionPolicy_eq] at routed
  simp only [Resource.resourceExecution, rejectIf_eq_ok] at routed
  exact routed ⟨Bool.false_ne_true, settles, declares⟩

/-- A returned settle event and a declaring intent with its tenant and id would both be fresh, and
the declaring one would have been refused. -/
theorem settledDeclarations_of_uncoordinated {claims : Claims}
    (runs : RunsAll self claims false intents returned) : settledDeclarations intents returned = [] := by
  rw [settledDeclarations, List.filter_eq_nil_iff]
  intro intent declaring settled
  obtain ⟨events, there, event, inside, -, tenant, id⟩ := of_decide_eq_true settled
  obtain ⟨listed, declares⟩ := List.mem_filter.mp declaring
  obtain ⟨validated, member, rfl⟩ := List.mem_map.mp listed
  obtain ⟨supplied, settles⟩ := List.mem_filter.mp member
  obtain ⟨other, _, output, produced, inside, -⟩ := runs.source events there event inside
  cases produced with
  | replay => cases inside
  | fresh unclaimed acceptance =>
    obtain ⟨tenant', id', -⟩ := acceptance.stamped inside
    have free : claims.of validated.intent = none := by
      rw [Claims.of, ← tenant, ← id, tenant', id']
      exact unclaimed
    obtain ⟨own, produced⟩ := runs.all validated supplied
    cases produced with
    | replay claimed =>
      rw [free] at claimed
      cases claimed
    | fresh _ acceptance =>
      exact not_declares_of_uncoordinated standard native supplied acceptance
        (of_decide_eq_true settles) declares

end Runs

/-! ## Coordinated routes -/

theorem paysDeclaration_of_transferPair {returned : List (List Event)} {index : ℕ} {intent : Intent}
    (found : returned[index]? = some events)
    (transfer : TransferPair FungibleBalance.op.balanceTransfer pair.resource pair.debit.value pair.creditedSubject
      (eventsOf events pair.intentId))
    (paid : DeclarationPaid intent pair) : PaysDeclaration returned intent (index, pair.intentId) := by
  obtain ⟨declared, read, key⟩ := paid
  obtain ⟨amount, resource, recipient⟩ := ValueTuple.same_iff.mpr key
  refine ⟨events, declared, found, read, ?_⟩
  have subject : declared.recipient.map SubjectId.mk = pair.creditedSubject := by
    rw [recipient]
    cases named : pair.creditedSubject <;> simp [RecoveredValuePair.tuple, named]
  rw [Amount.sameValue_iff.mp amount, resource, subject]
  exact transfer

/-- Declarations that are paid pair by pair are paid at distinct places. -/
theorem declarations_paid_at {returned : List (List Event)} {paying : List RecoveredValuePair} {declaring : List Intent}
    (distinct : (pairs.map (·.intentId)).Nodup) (part : paying.Subperm pairs)
    (paid : List.Forall₂ DeclarationPaid declaring paying)
    (located : ∀ pair ∈ pairs, ∃ (index : ℕ) (events : List Event), returned[index]? = some events ∧
      TransferPair FungibleBalance.op.balanceTransfer pair.resource pair.debit.value pair.creditedSubject
        (eventsOf events pair.intentId))
    (keep : Intent → Bool) : ∃ places : List (ℕ × IntentId), places.Nodup ∧
      List.Forall₂ (PaysDeclaration returned) (declaring.filter keep) places := by
  obtain ⟨places, aligned⟩ : ∃ places : List (ℕ × IntentId), List.Forall₂
      (fun pair place => place.2 = pair.intentId ∧
        ∀ intent, DeclarationPaid intent pair → PaysDeclaration returned intent place) paying places := by
    refine exists_aligned_of_forall_mem fun pair member => ?_
    obtain ⟨index, events, found, transfer⟩ := located pair (part.subset member)
    exact ⟨(index, pair.intentId), rfl, fun intent => paysDeclaration_of_transferPair found transfer⟩
  have ids : paying.map (·.intentId) = places.map Prod.snd :=
    Aligned.map_eq aligned fun _ _ related => related.1.symm
  have distinctPlaces : places.Nodup := by
    have nodup : (places.map Prod.snd).Nodup := by
      rw [← ids]
      obtain ⟨image, rearranged, inside⟩ := part
      exact (rearranged.map _).nodup_iff.mp ((inside.map _).nodup distinct)
    exact nodup.of_map _
  obtain ⟨kept, inside, pays⟩ := Aligned.filter_left
    (Aligned.comp paid aligned fun _ _ _ declared related => related.2 _ declared) keep
  exact ⟨kept, inside.nodup distinctPlaces, pays⟩

/-- A transfer emits its two events together, so a recovered pair lives in one tenant's group. -/
theorem located_of_runsAll {self : Executor W} {claims : Claims} {intents : List ValidatedIntent}
    {manifest : TradeManifest} {settleIntents : List Intent} {declared : List ValueTuple}
    (standard : self.profiles.Standard) (native : ∀ validated ∈ intents, validated.intent.stateType ≠ some .custom)
    (runs : RunsAll self claims true intents (groups.map (·.events)))
    (trade : TradeAccepted groups manifest settleIntents pairs declared) (member : pair ∈ pairs) :
    ∃ (index : ℕ) (events : List Event), (groups.map (·.events))[index]? = some events ∧
      TransferPair FungibleBalance.op.balanceTransfer pair.resource pair.debit.value
        pair.creditedSubject (eventsOf events pair.intentId) := by
  have built := trade.recovers.each pair member
  have leads := (trade.recovers.leads pair.intentId).mp (List.mem_map_of_mem member)
  obtain ⟨first, second, split, -⟩ := recoverValuePair_eq_ok built
  change eventsOf (groups.flatMap (·.events)) pair.intentId = [first, second] at split
  -- The leading event was emitted by a transfer intent, together with its companion.
  obtain ⟨inside, id⟩ := mem_eventsOf.mp (split ▸ List.mem_cons_self : first ∈ eventsOf _ pair.intentId)
  obtain ⟨group, listed, inside⟩ := List.mem_flatMap.mp inside
  obtain ⟨validated, supplied, output, produced, inOutput, part⟩ :=
    runs.source group.events (List.mem_map_of_mem listed) first inside
  have two : output.length = 2 ∧ ∀ event ∈ output, event.intentId = pair.intentId := by
    cases produced with
    | replay => cases inOutput
    | fresh _ acceptance =>
      obtain ⟨-, id', operation⟩ := acceptance.stamped inOutput
      have isTransfer : first.operation = FungibleBalance.op.balanceTransfer := by
        rw [split] at leads
        exact of_decide_eq_true leads
      refine ⟨?_, fun event there => ?_⟩
      · rcases acceptance.companions_cases (acceptance.builtin standard (native validated supplied))
          with ⟨other, -⟩ | ⟨-, credit, one⟩
        · exact absurd (.inr (operation.symm.trans isTransfer)) other
        · rw [Executor.Acceptance.events, one]
          rfl
      · rw [(acceptance.stamped there).2.1, ← id', id]
  have whole : eventsOf group.events pair.intentId =
      eventsOf (groups.flatMap (·.events)) pair.intentId := by
    have inGroup : (eventsOf output pair.intentId).Sublist (eventsOf group.events pair.intentId) :=
      part.filter _
    have inAll : (eventsOf group.events pair.intentId).Sublist
        (eventsOf (groups.flatMap (·.events)) pair.intentId) :=
      (List.sublist_flatten_of_mem (List.mem_map_of_mem listed)).filter _
    refine inAll.eq_of_length_le ?_
    have own : eventsOf output pair.intentId = output :=
      List.filter_eq_self.mpr fun event there => decide_eq_true (two.2 event there)
    have atLeast := inGroup.length_le
    rw [own, two.1] at atLeast
    rw [split]
    exact atLeast
  obtain ⟨index, bound, rfl⟩ := List.getElem_of_mem listed
  refine ⟨index, groups[index].events, ?_, ?_⟩
  · rw [List.getElem?_map, List.getElem?_eq_getElem bound]
    rfl
  · rw [← whole] at built leads
    exact transferPair_of_recovered (trade.consistent _ listed) built leads

/-- Every settle event that a successful call returns for an intent with a declared value leg is
paid by a transfer pair of the same call, different declarations by different pairs; the
uncoordinated routes return no such event. -/
theorem settlements_paid {self : Executor W} {claims : W → Claims} {w w' : W} {coordinated : Bool}
    {intents : List ValidatedIntent} {returned : List (List Event)}
    (standard : self.profiles.Standard) (stores : self.StoresClaims claims)
    (native : ∀ validated ∈ intents, validated.intent.stateType ≠ some .custom)
    (ran : Returns self w w' coordinated intents returned) :
    (∃ places : List (ℕ × IntentId), places.Nodup ∧
        List.Forall₂ (PaysDeclaration returned) (settledDeclarations intents returned) places) ∧
      (coordinated = false → settledDeclarations intents returned = []) := by
  have runs := runsAll_of_returns stores ran
  have uncoordinated : coordinated = false → settledDeclarations intents returned = [] := by
    rintro rfl
    exact settledDeclarations_of_uncoordinated standard native runs
  have unpaid : coordinated = false → ∃ places : List (ℕ × IntentId), places.Nodup ∧
      List.Forall₂ (PaysDeclaration returned) (settledDeclarations intents returned) places := by
    intro plain
    exact ⟨[], List.nodup_nil, uncoordinated plain ▸ .nil⟩
  refine ⟨?_, uncoordinated⟩
  cases ran with
  | execute => exact unpaid rfl
  | batch => exact unpaid rfl
  | crossTenant => exact unpaid rfl
  | @settle intents events ran =>
    cases intents with
    | nil => cases ran
    | cons first rest =>
      obtain ⟨w₁, w₂, -, -, valid⟩ := transactional_eq_ok (.request (stores.begin _)) ran
      simp only [Executor.validateSettle, Except.bind_eq_ok, Except.mapError_eq_ok] at valid
      obtain ⟨⟨⟩, consistent, settled⟩ := valid
      obtain ⟨pairs, accepted⟩ := settleAccepted_of_validateSettleBatch settled
      obtain ⟨paying, rearranged, paid⟩ := accepted.paid
      refine declarations_paid_at accepted.recovers.distinct rearranged.subperm paid ?_ _
      intro pair member
      exact ⟨0, events, rfl, transferPair_of_recovered consistent (accepted.recovers.each pair member)
        ((accepted.recovers.leads _).mp (List.mem_map_of_mem member))⟩
  | crossTenantTrade ran =>
    obtain ⟨w₁, w₂, -, -, valid⟩ := Executor.executeTenants_eq_ok (fun _ => .request (stores.beginMulti _)) ran
    obtain ⟨pairs, declared, trade⟩ := tradeAccepted_of_validateCrossTenantTrade valid
    obtain ⟨paying, part, paid⟩ := trade.declarations_paid
    exact declarations_paid_at trade.recovers.distinct part paid
      (fun pair member => located_of_runsAll standard native runs trade member) _

open Harness

def pricedIntents : List ValidatedIntent :=
  [settleSword "int_settle"
      [("value_resource", "currency:gold"), ("value_amount", "30"), ("value_to_subject", "alice")],
    payGold "int_pay"]

def pricedRun : EStateM.Result ExecutorError Memory (List TenantEventGroup) :=
  (executor .baseline swordTable).executeCrossTenantTrade pricedIntents
    ⟨"trd_sword", [⟨sword, ⟨"int_settle"⟩⟩], [⟨gold, "30", ⟨"alice"⟩⟩]⟩ .fresh

def pricedEvents : List (List Event) := (emitted pricedRun).map (·.events)

theorem priced_settlement_paid :
    (settledDeclarations pricedIntents pricedEvents).map (·.intentId) = [⟨"int_settle"⟩] ∧
      ∃ places : List (ℕ × IntentId), places.Nodup ∧ List.Forall₂ (PaysDeclaration pricedEvents)
        (settledDeclarations pricedIntents pricedEvents) places := by
  have declared : (settledDeclarations pricedIntents pricedEvents).map (·.intentId) =
      [⟨"int_settle"⟩] := by decide +kernel
  have fresh : emitted pricedRun ≠ [] := by decide +kernel
  obtain ⟨memory, returns⟩ := ok_of_emitted_ne_nil fresh
  exact ⟨declared, (settlements_paid ProfileRegistry.standard_baseline (executor_storesClaims _ _)
    (by decide) (.crossTenantTrade returns)).1⟩

end StateChronicle.Verified
