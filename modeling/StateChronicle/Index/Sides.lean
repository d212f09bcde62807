import StateChronicle.Index.Build

/-!
# The sides of indexed trades

Whatever the batches, a record holds one side for each tenant with a settle event of the trade, and
the side is the fold of those events in the order they were ingested.
-/

namespace StateChronicle.Index

open Domain Foundation Profiles

/-! ## Settlements -/

structure Settlement where
  event : Event
  commitRef : CommitRef
deriving DecidableEq

variable (tradeId : String) {side : TradeSide} {commitRef : CommitRef} {record : TradeRecord}
  {settled : List Settlement}

def referenceOf (signed : Signed Commit) : CommitRef :=
  ⟨signed.body.commitId, signed.body.sequence, signed.body.nextStateRoot, signed.signature⟩

def settlementsIn (batch : IngestBatch) : List Settlement :=
  (batch.events.filter fun event => event.operation = UniqueAsset.op.tradeSettle ∧
    tradeIdOf event = .ok (some tradeId)).map (⟨·, referenceOf batch.commit⟩)

def settlements (batches : List IngestBatch) : List Settlement :=
  batches.flatMap (settlementsIn tradeId)

def ownerName (state : ResourceState) : String := (state.owner.map (·.name)).getD ""

theorem ownerOfState_eq_ok {state : ResourceState} {owner : String} :
    ownerOfState state = .ok owner ↔ ownerName state = owner ∧ owner ≠ "" := by
  rw [ownerOfState, okOr_eq_ok, Option.filter_eq_some_iff, ownerName]
  cases state.owner with
  | none =>
    simp only [Option.map_none, reduceCtorEq, false_and, Option.getD_none, false_iff, not_and, not_not]
    exact Eq.symm
  | some holder => simp

/-! ## One side -/

/-- What a settle event makes of its tenant's side. -/
def absorb (side : Option TradeSide) (settlement : Settlement) : Option TradeSide :=
  some (side.elim
    (newSide settlement.event settlement.commitRef (ownerName settlement.event.before.state)
      (ownerName settlement.event.after.state))
    (extendSide settlement.event settlement.commitRef))

/-- The side of settle events of one tenant. -/
def gatherSide (settled : List Settlement) : Option TradeSide := settled.foldl absorb none

theorem gatherSide_concat (settled : List Settlement) (last : Settlement) :
    gatherSide (settled ++ [last]) = absorb (gatherSide settled) last := by
  rw [gatherSide, List.foldl_append]
  rfl

/-- A side lists the settled assets once each, under the owner of the first and the last commit of
each. -/
structure Summarises (settled : List Settlement) (side : TradeSide) : Prop where
  tenant : ∀ first, settled.head? = some first → side.tenant = first.event.tenantId
  toOwner : ∀ first, settled.head? = some first → side.toOwner = ownerName first.event.after.state
  assets : ∀ asset, asset ∈ side.settleAssets ↔ ∃ settlement ∈ settled, settlement.event.resourceId = asset
  distinct : side.settleAssets.Nodup
  commits : ∀ asset, side.settleCommitsByAsset.get? asset =
    (settled.reverse.find? fun settlement => settlement.event.resourceId = asset).map (·.commitRef)

theorem summarises_newSide (settlement : Settlement) (fromOwner : String) :
    Summarises [settlement] (newSide settlement.event settlement.commitRef fromOwner
      (ownerName settlement.event.after.state)) where
  tenant := by rintro first ⟨⟩; rfl
  toOwner := by rintro first ⟨⟩; rfl
  assets asset := by simp [newSide, eq_comm]
  distinct := List.nodup_singleton _
  commits asset := by
    rw [newSide, SortedMap.get?_insert, List.reverse_singleton, List.find?_singleton]
    by_cases same : asset = settlement.event.resourceId
    · simp [same]
    · simp [same, Ne.symm same]

theorem Summarises.extend (summarises : Summarises settled side) (nonempty : settled ≠ [])
    (last : Settlement) :
    Summarises (settled ++ [last]) (extendSide last.event last.commitRef side) where
  tenant first leads := summarises.tenant first (by rwa [List.head?_append_of_ne_nil _ nonempty] at leads)
  toOwner first leads := summarises.toOwner first (by rwa [List.head?_append_of_ne_nil _ nonempty] at leads)
  assets asset := by
    have known := summarises.assets asset
    rw [extendSide]
    split
    · next listed =>
        rw [known]
        constructor
        · rintro ⟨settlement, member, same⟩
          exact ⟨settlement, List.mem_append_left _ member, same⟩
        · rintro ⟨settlement, member, rfl⟩
          rcases List.mem_append.mp member with member | member
          · exact ⟨settlement, member, rfl⟩
          · rw [List.mem_singleton.mp member]
            exact (summarises.assets _).mp listed
    · simp only [List.mem_append, List.mem_singleton, known, or_and_right, exists_or, exists_eq_left]
      exact or_congr_right eq_comm
  distinct := by
    rw [extendSide]
    split
    · exact summarises.distinct
    · next absent =>
        rw [← List.concat_eq_append]
        exact summarises.distinct.concat absent
  commits asset := by
    rw [extendSide, SortedMap.get?_insert, summarises.commits, List.reverse_append, List.reverse_singleton,
      List.singleton_append, List.find?_cons]
    by_cases same : asset = last.event.resourceId
    · simp [same]
    · simp [same, Ne.symm same]

theorem eq_nil_of_gatherSide (absent : gatherSide settled = none) : settled = [] := by
  rcases List.eq_nil_or_concat settled with rfl | ⟨front, last, rfl⟩
  · rfl
  · rw [List.concat_eq_append, gatherSide_concat, absorb] at absent
    cases absent

theorem gatherSide_isSome (nonempty : settled ≠ []) : ∃ side, gatherSide settled = some side :=
  Option.ne_none_iff_exists'.mp (mt eq_nil_of_gatherSide nonempty)

theorem summarises_gatherSide (gathered : gatherSide settled = some side) : settled ≠ [] ∧ Summarises settled side := by
  induction settled using List.reverseRecOn generalizing side with
  | nil => cases gathered
  | append_singleton settled last ih =>
    refine ⟨by simp, ?_⟩
    rw [gatherSide_concat, absorb] at gathered
    cases earlier : gatherSide settled with
    | none =>
      rw [earlier] at gathered
      cases gathered
      rw [eq_nil_of_gatherSide earlier]
      exact summarises_newSide last _
    | some side' =>
      rw [earlier] at gathered
      cases gathered
      obtain ⟨nonempty, summarises⟩ := ih earlier
      exact summarises.extend nonempty last

/-! ## All sides -/

/-- The sides of a record are the folds of its settlements, tenant by tenant. -/
structure Gathers (settled : List Settlement) (sides : List TradeSide) : Prop where
  unique : (sides.map (·.tenant)).Nodup
  found : ∀ tenant, sides.find? (fun side => side.tenant = tenant) =
    gatherSide (settled.filter fun settlement => settlement.event.tenantId = tenant)
  owned : ∀ settlement ∈ settled, ownerName settlement.event.after.state ≠ ""

theorem Gathers.empty : Gathers [] [] := ⟨List.nodup_nil, fun _ => rfl, List.forall_mem_nil _⟩

theorem Gathers.perm {sides sides' : List TradeSide} (gathers : Gathers settled sides)
    (rearranged : sides.Perm sides') : Gathers settled sides' where
  unique := (rearranged.map _).nodup_iff.mp gathers.unique
  found tenant := (find?_key_perm rearranged gathers.unique tenant).trans (gathers.found tenant)
  owned := gathers.owned

theorem Gathers.upsertSide {record' : TradeRecord} {event : Event}
    (gathers : Gathers settled record.sides) (updated : upsertSide record event commitRef = .ok record') :
    Gathers (settled ++ [⟨event, commitRef⟩]) record'.sides := by
  simp only [Index.upsertSide, Except.bind_eq_ok, Except.pure_eq_ok, ownerOfState_eq_ok] at updated
  obtain ⟨_, ⟨rfl, _⟩, _, ⟨rfl, named⟩, rfl⟩ := updated
  have keeps : ∀ side, (extendSide event commitRef side).tenant = side.tenant := fun _ => rfl
  have own : (newSide event commitRef (ownerName event.before.state)
    (ownerName event.after.state)).tenant = event.tenantId := rfl
  refine ⟨nodup_upsertKey keeps own gathers.unique, fun tenant => ?_, ?_⟩
  · change (upsertKey TradeSide.tenant event.tenantId _ _ record.sides).find? _ = _
    rw [find?_upsertKey keeps own, gathers.found, gathers.found, List.filter_append]
    by_cases same : tenant = event.tenantId
    · rw [if_pos same, same, List.filter_cons_of_pos (by simp), List.filter_nil, gatherSide_concat]
      rfl
    · rw [if_neg same, List.filter_cons_of_neg (by simpa using Ne.symm same), List.filter_nil, List.append_nil]
  · intro settlement member
    rcases List.mem_append.mp member with member | member
    · exact gathers.owned settlement member
    · rw [List.mem_singleton.mp member]
      exact named

/-! ## Settlements and sides -/

/-- The side of a settlement: it lists the settled asset under the settlement's commit, and its owner is
that of the tenant's first settlement. -/
structure FiledUnder (settled : List Settlement) (sides : List TradeSide) (settlement : Settlement)
    (side : TradeSide) : Prop where
  listed : side ∈ sides
  tenant : side.tenant = settlement.event.tenantId
  declared : settlement.event.resourceId ∈ side.settleAssets
  commit : side.settleCommitsByAsset.get? settlement.event.resourceId = some settlement.commitRef
  first : ∃ first, settled.find? (fun other => other.event.tenantId = settlement.event.tenantId) = some first ∧
    side.toOwner = ownerName first.event.after.state

section Once

variable {sides : List TradeSide} (gathers : Gathers settled sides)
  (once : (settled.map fun settlement => (settlement.event.tenantId, settlement.event.resourceId)).Nodup)

include gathers in
/-- A listed side summarises the settlements of its tenant. -/
theorem Gathers.summarises (listed : side ∈ sides) :
    (settled.filter fun settlement => settlement.event.tenantId = side.tenant) ≠ [] ∧
      Summarises (settled.filter fun settlement => settlement.event.tenantId = side.tenant) side :=
  summarises_gatherSide ((gathers.found side.tenant).symm.trans
    ((find?_key_eq_some gathers.unique).mpr ⟨listed, rfl⟩))

include gathers once in
theorem Gathers.filedUnder {settlement : Settlement} (member : settlement ∈ settled) (listed : side ∈ sides)
    (tenant : side.tenant = settlement.event.tenantId) : FiledUnder settled sides settlement side := by
  obtain ⟨nonempty, summarises⟩ := gathers.summarises listed
  have inside : settlement ∈ settled.filter fun other => other.event.tenantId = side.tenant :=
    List.mem_filter.mpr ⟨member, decide_eq_true tenant.symm⟩
  refine ⟨listed, tenant, (summarises.assets _).mpr ⟨settlement, inside, rfl⟩, ?_, ?_⟩
  · rw [summarises.commits]
    -- the last settlement of the asset is this one, since the asset is settled once
    cases last : (settled.filter fun other => other.event.tenantId = side.tenant).reverse.find?
        fun other => other.event.resourceId = settlement.event.resourceId with
    | none =>
      have absent := List.find?_eq_none.mp last settlement (List.mem_reverse.mpr inside)
      exact absurd (decide_eq_true rfl) absent
    | some other =>
      have resource : other.event.resourceId = settlement.event.resourceId := by
        simpa using List.find?_some last
      have there := List.mem_filter.mp (List.mem_reverse.mp (List.mem_of_find?_eq_some last))
      have same : other = settlement := List.inj_on_of_nodup_map once there.1 member
        (Prod.ext ((of_decide_eq_true there.2).trans tenant) resource)
      rw [same]
      rfl
  · obtain ⟨first, leads⟩ := Option.isSome_iff_exists.mp (List.isSome_head?.mpr nonempty)
    refine ⟨first, ?_, summarises.toOwner first leads⟩
    rw [← tenant, ← List.head?_filter]
    exact leads

include gathers once in
theorem Gathers.exists_side {settlement : Settlement} (member : settlement ∈ settled) :
    ∃ side, FiledUnder settled sides settlement side := by
  have nonempty : (settled.filter fun other => other.event.tenantId = settlement.event.tenantId) ≠ [] :=
    List.ne_nil_of_mem (List.mem_filter.mpr ⟨member, decide_eq_true rfl⟩)
  obtain ⟨side, gathered⟩ := gatherSide_isSome nonempty
  obtain ⟨listed, tenant⟩ := (find?_key_eq_some gathers.unique).mp ((gathers.found _).trans gathered)
  exact ⟨side, gathers.filedUnder once member listed tenant⟩

include gathers once in
theorem Gathers.exists_settlement (listed : side ∈ sides) {asset : ResourceId} (declared : asset ∈ side.settleAssets) :
    ∃ settlement ∈ settled, settlement.event.resourceId = asset ∧ FiledUnder settled sides settlement side := by
  obtain ⟨_, summarises⟩ := gathers.summarises listed
  obtain ⟨settlement, inside, resource⟩ := (summarises.assets asset).mp declared
  obtain ⟨member, tenant⟩ := List.mem_filter.mp inside
  exact ⟨settlement, member, resource, gathers.filedUnder once member listed (of_decide_eq_true tenant).symm⟩

end Once

/-! ## Trade events -/

theorem filter_tradeEvents {events : List Event} {named : List (String × Event)}
    (identified : tradeEvents events = .ok named) (tradeId : String) :
    (named.filter fun entry => entry.1 = tradeId).map Prod.snd =
      events.filter fun event => tradeIdOf event = .ok (some tradeId) := by
  simp only [tradeEvents, Except.bind_eq_ok, Except.pure_eq_ok, Except.mapM_eq_ok] at identified
  obtain ⟨found, aligned, rfl⟩ := identified
  induction aligned with
  | nil => rfl
  | @cons event entry _ _ own _ ih =>
    obtain ⟨identifier, named, rfl⟩ := own
    cases identifier with
    | none =>
      rw [List.filter_cons_of_neg (by simp [named])]
      exact ih
    | some identifier =>
      by_cases same : identifier = tradeId
      · subst same
        rw [List.filter_cons_of_pos (by simp [named])]
        simpa using ih
      · rw [List.filter_cons_of_neg (by simp [named, same])]
        simpa [same] using ih

theorem commitRefFromSigned_eq_ok {signed : Signed Commit} (referred : commitRefFromSigned signed = .ok commitRef) :
    commitRef = referenceOf signed := by
  simp only [commitRefFromSigned, Except.bind_eq_ok, Except.pure_eq_ok] at referred
  obtain ⟨_, _, _, _, rfl⟩ := referred
  rfl

end StateChronicle.Index
