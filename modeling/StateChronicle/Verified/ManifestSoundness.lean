import StateChronicle.Execution.Harness
import StateChronicle.Profiles.BatchShape

/-!
# Cross-tenant trades and their manifest

The trade validator groups events by intent id over all tenants, the batch of each tenant is checked on its own.  What
it accepts is what the manifest declares exactly when no intent id is used in two groups.
-/

namespace StateChronicle.Verified

open StateChronicle.Core Domain Foundation Profiles
open Atomicity

/-! ## The declared trade -/

variable {intentId : IntentId} {event : Event}

/-- The group at a place has exactly two events of the intent, and they transfer the amount of the
value leg, of its resource, to its subject. -/
def PaysLeg (groups : List TenantEventGroup) (leg : ValueLeg) (place : ℕ × IntentId) : Prop :=
  ∃ group amount, groups[place.1]? = some group ∧ Amount.tryFromStr leg.amount = .ok amount ∧
    TransferPair FungibleBalance.op.balanceTransfer leg.resource amount.value (some leg.toSubject)
      (eventsOf group.events place.2)

/-- The event is the settlement of a declared leg. -/
def SettlesLeg (manifest : TradeManifest) (event : Event) : Prop :=
  event.operation = UniqueAsset.op.tradeSettle ∧
    ∃ leg ∈ manifest.settleLegs, leg.asset = event.resourceId ∧ leg.settleIntentId = event.intentId

/-- The events are the trade the manifest declares: one settle event for each settle leg, one
transfer pair inside one group for each value leg, and nothing else. -/
structure ManifestSound (groups : List TenantEventGroup) (manifest : TradeManifest) : Prop where
  legsDistinct : (manifest.settleLegs.map (·.settleIntentId)).Nodup
  settles : ((settleEvents (groups.flatMap (·.events))).map fun event =>
    (event.resourceId, event.intentId)).Perm
      (manifest.settleLegs.map fun leg => (leg.asset, leg.settleIntentId))
  pays : ∃ places : List (ℕ × IntentId), places.Nodup ∧ List.Forall₂ (PaysLeg groups) manifest.valueLegs places ∧
    ∀ index group, groups[index]? = some group → ∀ event ∈ group.events,
      SettlesLeg manifest event ∨ (index, event.intentId) ∈ places

/-- The two groups have no intent id in common. -/
def DisjointIds (group other : TenantEventGroup) : Prop :=
  ∀ event ∈ group.events, ∀ event' ∈ other.events, event.intentId ≠ event'.intentId

section Groups

variable {groups : List TenantEventGroup} {index other : ℕ} {group group' : TenantEventGroup}

theorem eventsOf_append (events events' : List Event) (intentId : IntentId) :
    eventsOf (events ++ events') intentId = eventsOf events intentId ++ eventsOf events' intentId :=
  List.filter_append _ _

theorem eventsOf_eq_nil {events : List Event} (unused : ∀ event ∈ events, event.intentId ≠ intentId) :
    eventsOf events intentId = [] := by
  simpa [eventsOf, List.filter_eq_nil_iff] using unused

section

variable (disjoint : groups.Pairwise DisjointIds) (found : groups[index]? = some group)

include disjoint found

/-- If ids are not shared, the events of an intent are those of its group. -/
theorem eventsOf_flatMap_of_disjoint (member : event ∈ group.events) :
    eventsOf (groups.flatMap (·.events)) event.intentId = eventsOf group.events event.intentId := by
  obtain ⟨before, after, rfl, -⟩ := exists_split_of_getElem? found
  rw [List.pairwise_append, List.pairwise_cons] at disjoint
  obtain ⟨-, ⟨later, -⟩, earlier⟩ := disjoint
  have noneBefore : eventsOf (before.flatMap (·.events)) event.intentId = [] := by
    refine eventsOf_eq_nil fun event' member' => ?_
    obtain ⟨first, there, member'⟩ := List.mem_flatMap.mp member'
    exact earlier first there group List.mem_cons_self event' member' event member
  have noneAfter : eventsOf (after.flatMap (·.events)) event.intentId = [] := by
    refine eventsOf_eq_nil fun event' member' => ?_
    obtain ⟨last, there, member'⟩ := List.mem_flatMap.mp member'
    exact (later last there event member event' member').symm
  rw [List.flatMap_append, List.flatMap_cons, eventsOf_append, eventsOf_append, noneBefore,
    noneAfter, List.nil_append, List.append_nil]

/-- If ids are not shared, an id has one place. -/
theorem index_unique_of_disjoint (found' : groups[other]? = some group') {event' : Event}
    (member : event ∈ group.events) (member' : event' ∈ group'.events) (same : event.intentId = event'.intentId) :
    index = other := by
  obtain ⟨inside, rfl⟩ := List.getElem?_eq_some_iff.mp found
  obtain ⟨inside', rfl⟩ := List.getElem?_eq_some_iff.mp found'
  rw [List.pairwise_iff_getElem] at disjoint
  rcases lt_trichotomy index other with below | equal | above
  · exact absurd same (disjoint index other inside inside' below event member event' member')
  · exact equal
  · exact absurd same.symm (disjoint other index inside' inside above event' member' event member)

end

/-- Two different groups contribute separately to a selection of events. -/
theorem length_select_add_le (different : index ≠ other) (found : groups[index]? = some group)
    (found' : groups[other]? = some group') (select : List Event → List Event)
    (selects : ∀ events events', select (events ++ events') = select events ++ select events') :
    (select group.events).length + (select group'.events).length ≤ (select (groups.flatMap (·.events))).length := by
  -- By symmetry `index` comes first; then the groups are split around both places.
  wlog below : index < other generalizing index other group group'
  · rw [add_comm]
    exact this different.symm found' found (by omega)
  obtain ⟨before, after, rfl, rfl⟩ := exists_split_of_getElem? found
  obtain ⟨gap, rfl⟩ : ∃ gap, other = before.length + (gap + 1) := ⟨other - before.length - 1, by omega⟩
  rw [List.getElem?_append_right (Nat.le_add_right _ _), Nat.add_sub_cancel_left, List.getElem?_cons_succ] at found'
  obtain ⟨between, rest, rfl, -⟩ := exists_split_of_getElem? found'
  simp only [List.flatMap_append, List.flatMap_cons, selects, List.length_append]
  omega

end Groups

section Trades

variable {groups : List TenantEventGroup} {manifest : TradeManifest} {settleIntents : List Intent}
  {pairs : List RecoveredValuePair} {declared : List ValueTuple}
  (trade : TradeAccepted groups manifest settleIntents pairs declared) {places : List (ℕ × IntentId)}

include trade

theorem settles_perm :
    ((settleEvents (groups.flatMap (·.events))).map fun event =>
      (event.resourceId, event.intentId)).Perm
      (manifest.settleLegs.map fun leg => (leg.asset, leg.settleIntentId)) := by
  have injective : Function.Injective fun pair : ResourceId × IntentId => (pair.1.name, pair.2.name) :=
    fun a b same => Prod.ext (ResourceId.name_injective (Prod.ext_iff.mp same).1)
      (IntentId.name_injective (Prod.ext_iff.mp same).2)
  rw [← List.map_perm_map_iff injective, List.map_map, List.map_map]
  exact trade.settles

theorem exists_settle_of_leg (declaredId : intentId ∈ manifest.settleLegs.map (·.settleIntentId)) :
    ∃ event ∈ groups.flatMap (·.events), SettlesLeg manifest event ∧ event.intentId = intentId := by
  obtain ⟨leg, member, rfl⟩ := List.mem_map.mp declaredId
  have there := (settles_perm trade).symm.subset
    (List.mem_map_of_mem (f := fun leg : SettleLeg => (leg.asset, leg.settleIntentId)) member)
  obtain ⟨event, settled, same⟩ := List.mem_map.mp there
  obtain ⟨inside, isSettle⟩ := List.mem_filter.mp settled
  obtain ⟨asset, id⟩ := Prod.ext_iff.mp same
  exact ⟨event, inside, ⟨of_decide_eq_true isSettle, leg, member, asset.symm, id.symm⟩, id⟩

theorem length_eventsOf_pair (recovered : intentId ∈ pairs.map (·.intentId)) :
    (eventsOf (groups.flatMap (·.events)) intentId).length = 2 := by
  obtain ⟨pair, member, rfl⟩ := List.mem_map.mp recovered
  obtain ⟨first, second, group, -⟩ := recoverValuePair_eq_ok (trade.recovers.each pair member)
  change eventsOf (groups.flatMap (·.events)) pair.intentId = [first, second] at group
  rw [group]
  rfl

theorem exists_event_of_pair (recovered : intentId ∈ pairs.map (·.intentId)) :
    ∃ (index : ℕ) (group : TenantEventGroup) (event : Event), groups[index]? = some group ∧
      event ∈ group.events ∧ event.intentId = intentId := by
  have nonempty : eventsOf (groups.flatMap (·.events)) intentId ≠ [] :=
    List.ne_nil_of_length_pos (by rw [length_eventsOf_pair trade recovered]; exact Nat.succ_pos 1)
  obtain ⟨event, member⟩ := List.exists_mem_of_ne_nil _ nonempty
  obtain ⟨inside, same⟩ := mem_eventsOf.mp member
  obtain ⟨group, there, inside⟩ := List.mem_flatMap.mp inside
  obtain ⟨index, bound, rfl⟩ := List.getElem_of_mem there
  exact ⟨index, groups[index], event, List.getElem?_eq_getElem bound, inside, same⟩

theorem not_settlesLeg_of_pair (recovered : event.intentId ∈ pairs.map (·.intentId)) : ¬ SettlesLeg manifest event := by
  rintro ⟨-, leg, member, -, same⟩
  exact trade.apart _ recovered (same ▸ List.mem_map_of_mem member)

/-! ### Distinct ids suffice -/

/-- A recovered pair is validated as a pair of the one group it lives in. -/
theorem exists_place_of_disjoint (disjoint : groups.Pairwise DisjointIds) {pair : RecoveredValuePair}
    (member : pair ∈ pairs) :
    ∃ place : ℕ × IntentId, place.2 = pair.intentId ∧ ∀ leg, LegPaid leg pair → PaysLeg groups leg place := by
  have recovered : pair.intentId ∈ pairs.map (·.intentId) := List.mem_map_of_mem member
  obtain ⟨index, group, event, found, inside, same⟩ := exists_event_of_pair trade recovered
  have whole := eventsOf_flatMap_of_disjoint disjoint found inside
  rw [same] at whole
  have built := trade.recovers.each pair member
  have leads := (trade.recovers.leads pair.intentId).mp recovered
  rw [whole] at built leads
  have transfer := transferPair_of_recovered (trade.consistent group (List.mem_of_getElem? found))
    built leads
  refine ⟨(index, pair.intentId), rfl, fun leg paid => ?_⟩
  obtain ⟨declaredAmount, parsed, equal⟩ := paid.amount
  refine ⟨group, declaredAmount, found, parsed, ?_⟩
  rw [← equal, ← paid.resource, ← paid.recipient]
  exact transfer

theorem manifestSound_of_disjoint (disjoint : groups.Pairwise DisjointIds) : ManifestSound groups manifest := by
  obtain ⟨paying, rearranged, paid⟩ := trade.legs_paid
  obtain ⟨places, aligned⟩ := exists_aligned_of_forall_mem fun pair (member : pair ∈ paying) =>
    exists_place_of_disjoint trade disjoint (rearranged.subset member)
  have ids : paying.map (·.intentId) = places.map Prod.snd :=
    Aligned.map_eq aligned fun _ _ related => related.1.symm
  have distinct : (places.map Prod.snd).Nodup := by
    rw [← ids]
    exact (rearranged.map _).nodup_iff.mpr trade.recovers.distinct
  have pays : List.Forall₂ (PaysLeg groups) manifest.valueLegs places :=
    Aligned.comp paid aligned fun leg _ _ legPaid related => related.2 leg legPaid
  refine ⟨trade.legsDistinct, settles_perm trade, places, distinct.of_map _, pays, ?_⟩
  intro index group found event inside
  have member : event ∈ groups.flatMap (·.events) :=
    List.mem_flatMap.mpr ⟨group, List.mem_of_getElem? found, inside⟩
  rcases trade.covered event member with declaredId | recovered
  · -- The settle event of the leg is in the same group; a transfer pair has no settle event.
    obtain ⟨settle, settleMember, settles, same⟩ := exists_settle_of_leg trade declaredId
    have whole := eventsOf_flatMap_of_disjoint disjoint found inside
    have settleHere : settle ∈ eventsOf group.events event.intentId := by
      rw [← whole]
      exact mem_eventsOf.mpr ⟨settleMember, same⟩
    have eventHere : event ∈ eventsOf group.events event.intentId := mem_eventsOf.mpr ⟨inside, rfl⟩
    rcases eventsOf_cases (trade.consistent group (List.mem_of_getElem? found)) event.intentId with
      one | ⟨operation, resource, amount, recipient, transfer⟩
    · obtain rfl : settle = event := mem_unique_of_length_le_one one settleHere eventHere
      exact .inl settles
    · have moved := transfer.operation_eq settleHere
      rw [settles.1] at moved
      exact absurd transfer.transferField_isSome (by rw [← moved]; decide)
  · -- The place of the pair can only be the group the event is in.
    have paired : event.intentId ∈ places.map Prod.snd := by
      rw [← ids]
      exact (rearranged.map _).symm.subset recovered
    obtain ⟨⟨index', intentId⟩, placed, same⟩ := List.mem_map.mp paired
    change intentId = event.intentId at same
    subst same
    obtain ⟨leg, -, group', amount, found', -, transfer⟩ := Aligned.exists_left pays placed
    obtain ⟨event', member', same'⟩ := transfer.exists_event
    obtain rfl := index_unique_of_disjoint disjoint found found' inside member' same'.symm
    exact .inr placed

/-! ### Shared ids break the correspondence -/

/-- The settle events of one id are at most one. -/
theorem length_settles_le_one (intentId : IntentId) :
    (eventsOf (settleEvents (groups.flatMap (·.events))) intentId).length ≤ 1 := by
  have ids : ((settleEvents (groups.flatMap (·.events))).map (·.intentId)).Perm
      (manifest.settleLegs.map (·.settleIntentId)) := by
    have mapped := (settles_perm trade).map Prod.snd
    rw [List.map_map, List.map_map] at mapped
    exact mapped
  have counted : (eventsOf (settleEvents (groups.flatMap (·.events))) intentId).length =
      ((settleEvents (groups.flatMap (·.events))).map (·.intentId)).count intentId := by
    rw [List.count, List.countP_map, eventsOf, ← List.countP_eq_length_filter]
    exact List.countP_congr fun event _ => by simp
  rw [counted]
  exact List.nodup_iff_count_le_one.mp (ids.nodup_iff.mpr trade.legsDistinct) intentId

section Places

variable (pays : List.Forall₂ (PaysLeg groups) manifest.valueLegs places)
  (covers : ∀ index group, groups[index]? = some group → ∀ event ∈ group.events,
    SettlesLeg manifest event ∨ (index, event.intentId) ∈ places)

include covers

include pays in
/-- A recovered pair whose id is used in two groups would need four events. -/
theorem not_shared_of_pair {index other : ℕ} {group group' : TenantEventGroup} {event' : Event}
    (recovered : event.intentId ∈ pairs.map (·.intentId)) (different : index ≠ other)
    (found : groups[index]? = some group) (found' : groups[other]? = some group') (member : event ∈ group.events)
    (member' : event' ∈ group'.events) : event.intentId ≠ event'.intentId := by
  intro same
  have two : ∀ {position : ℕ} {part : TenantEventGroup} {used : Event},
      groups[position]? = some part → used ∈ part.events → used.intentId = event.intentId →
      (eventsOf part.events event.intentId).length = 2 := by
    intro position part used there inside named
    have placed := (covers position part there used inside).resolve_left
      (not_settlesLeg_of_pair trade (named ▸ recovered))
    obtain ⟨leg, -, part', amount, there', -, transfer⟩ := Aligned.exists_left pays placed
    obtain rfl : part = part' := Option.some.inj (there.symm.trans there')
    rw [named] at transfer
    exact transfer.length_eq
  have parts := length_select_add_le different found found' (fun events => eventsOf events event.intentId)
    (fun events events' => eventsOf_append events events' event.intentId)
  have first := two found member rfl
  have second := two found' member' same.symm
  have all := length_eventsOf_pair trade recovered
  omega

theorem pairs_subset_places : pairs.map (·.intentId) ⊆ places.map Prod.snd := by
  intro intentId recovered
  obtain ⟨index, group, event, found, inside, rfl⟩ := exists_event_of_pair trade recovered
  have placed := (covers index group found event inside).resolve_left
    (not_settlesLeg_of_pair trade recovered)
  exact List.mem_map_of_mem placed

include pays in
theorem mem_pairs_of_mem_places {place : ℕ × IntentId} (placed : place ∈ places) :
    place.2 ∈ pairs.map (·.intentId) := by
  by_contra unpaired
  have distinct : (place.2 :: pairs.map (·.intentId)).Nodup :=
    List.nodup_cons.mpr ⟨unpaired, trade.recovers.distinct⟩
  have inside : place.2 :: pairs.map (·.intentId) ⊆ places.map Prod.snd :=
    List.cons_subset.mpr ⟨List.mem_map_of_mem placed, pairs_subset_places trade covers⟩
  have count := (List.subperm_of_subset distinct inside).length_le
  obtain ⟨paying, rearranged, paid⟩ := trade.legs_paid
  have legs := pays.length_eq
  have legs' := paid.length_eq
  have same := rearranged.length_eq
  simp only [List.length_cons, List.length_map] at count
  omega

end Places

theorem disjoint_of_manifestSound (sound : ManifestSound groups manifest) : groups.Pairwise DisjointIds := by
  obtain ⟨-, -, places, -, pays, covers⟩ := sound
  rw [List.pairwise_iff_getElem]
  intro index other inside inside' below event member event' member' same
  have found : groups[index]? = some groups[index] := List.getElem?_eq_getElem inside
  have found' : groups[other]? = some groups[other] := List.getElem?_eq_getElem inside'
  by_cases recovered : event.intentId ∈ pairs.map (·.intentId)
  · exact not_shared_of_pair trade pays covers recovered below.ne found found' member member' same
  -- Neither occurrence has a place, so both settle the same leg.
  have settles := (covers index _ found event member).resolve_right fun placed =>
    recovered (mem_pairs_of_mem_places trade pays covers placed)
  have settles' := (covers other _ found' event' member').resolve_right fun placed =>
    recovered (same ▸ mem_pairs_of_mem_places trade pays covers placed)
  have parts := length_select_add_le below.ne found found'
    (fun events => eventsOf (settleEvents events) event.intentId)
    (fun events events' => by rw [settleEvents, List.filter_append]; exact eventsOf_append _ _ _)
  have first : 0 < (eventsOf (settleEvents groups[index].events) event.intentId).length :=
    List.length_pos_of_mem (mem_eventsOf.mpr
      ⟨List.mem_filter.mpr ⟨member, decide_eq_true settles.1⟩, rfl⟩)
  have second : 0 < (eventsOf (settleEvents groups[other].events) event.intentId).length :=
    List.length_pos_of_mem (mem_eventsOf.mpr
      ⟨List.mem_filter.mpr ⟨member', decide_eq_true settles'.1⟩, same.symm⟩)
  have once := length_settles_le_one trade event.intentId
  omega

end Trades

/-- An accepted cross-tenant trade is the one its manifest declares exactly when no intent id is
used by two groups. -/
theorem accepted_trade_sound_iff {groups : List TenantEventGroup} {manifest : TradeManifest}
    {settleIntents : List Intent}
    (accepted : validateCrossTenantTrade groups manifest settleIntents = .ok ()) :
    ManifestSound groups manifest ↔ groups.Pairwise DisjointIds := by
  obtain ⟨pairs, declared, trade⟩ := tradeAccepted_of_validateCrossTenantTrade accepted
  exact ⟨disjoint_of_manifestSound trade, manifestSound_of_disjoint trade⟩

open Execution Harness

def swordTrade (payId : String) (valueLegs : List ValueLeg) : List TenantEventGroup :=
  emitted ((executor .baseline swordTable).executeCrossTenantTrade
    [settleSword "int_settle" [], payGold payId]
    ⟨"trd_sword", [⟨sword, ⟨"int_settle"⟩⟩], valueLegs⟩ .fresh)

def settled : List Intent := [(settleSword "int_settle" []).intent]

def priced : TradeManifest := ⟨"trd_sword", [⟨sword, ⟨"int_settle"⟩⟩], [⟨gold, "30", ⟨"alice"⟩⟩]⟩

instance : DecidableRel DisjointIds := fun group other =>
  List.decidableBAll (fun event : Event => ∀ event' ∈ other.events, event.intentId ≠ event'.intentId)
    group.events

theorem priced_trade_sound :
    (swordTrade "int_pay" priced.valueLegs).map (·.events.length) = [1, 2] ∧
      ManifestSound (swordTrade "int_pay" priced.valueLegs) priced := by
  refine ⟨by decide +kernel, ?_⟩
  have accepted : validateCrossTenantTrade (swordTrade "int_pay" priced.valueLegs) priced settled =
      .ok () := by decide +kernel
  exact (accepted_trade_sound_iff accepted).mpr (by decide +kernel)

def unpriced : TradeManifest := ⟨"trd_sword", [⟨sword, ⟨"int_settle"⟩⟩], []⟩

/-- A transfer that carries the id of the settlement is accepted although no leg declares it. -/
theorem undeclared_transfer_accepted :
    (swordTrade "int_settle" []).map (·.events.map (·.operation.name)) =
        [["trade.settle"], ["balance.transfer", "balance.transfer"]] ∧
      validateCrossTenantTrade (swordTrade "int_settle" []) unpriced settled = .ok () ∧
      ¬ ManifestSound (swordTrade "int_settle" []) unpriced := by
  refine ⟨by decide +kernel, by decide +kernel, ?_⟩
  rintro ⟨-, -, places, -, pays, covers⟩
  obtain rfl : places = [] := List.forall₂_nil_left_iff.mp pays
  have moved : ∃ group ∈ swordTrade "int_settle" [], ∃ event ∈ group.events,
      event.operation ≠ UniqueAsset.op.tradeSettle := by decide +kernel
  obtain ⟨group, there, event, inside, other⟩ := moved
  obtain ⟨index, bound, rfl⟩ := List.getElem_of_mem there
  rcases covers index _ (List.getElem?_eq_getElem bound) event inside with ⟨settles, -⟩ | placed
  · exact other settles
  · cases placed

end StateChronicle.Verified
