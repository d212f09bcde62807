import StateChronicle.Index.TradeView

/-!
# Trade histories

The history of a trade resolves the references of its record and lists the commits its sides and value legs were
pinned by, each tenant and commit once.
-/

namespace StateChronicle.Index

open Domain Foundation

variable {settled : List Settlement} {key : String × String}

def eventKey (ref : TradeEventRef) : String ×ₗ String := toLex (ref.tenantId.name, ref.eventId.name)

/-- What commits are told apart by. -/
def commitKey (entry : TenantId × CommitRef) : String × String := (entry.1.name, entry.2.commitId.name)

def resolveEvent (eventsById : SortedMap (String ×ₗ String) Event) (ref : TradeEventRef) :
    Except IndexError TradeEvent := do
  let event ← okOr (eventsById.get? (eventKey ref)) (.missingEvent ref.eventId.name)
  return ⟨event, ref.tenantId⟩

variable (record : TradeRecord)

/-- The commits of the sides, each side's first, and then those of the value legs. -/
def collectCommits : List (TenantId × CommitRef) :=
  let sides := record.sides.map fun side => (side.tenant, side.settleCommit)
  let legs := record.valueLegs.map fun leg => (leg.tenant, leg.commit)
  (legs.foldl (collectStep commitKey) (sides.foldl (collectStep commitKey) ⟨[], []⟩)).kept

def reconstructHistory (eventsById : SortedMap (String ×ₗ String) Event) : Except IndexError TradeHistory := do
  let events ← record.events.mapM (resolveEvent eventsById)
  return ⟨record.tradeId, record.status, events, collectCommits record⟩

/-! ## Collected commits -/

theorem commitKey_inj {entry entry' : TenantId × CommitRef} :
    commitKey entry = commitKey entry' ↔ entry.1 = entry'.1 ∧ entry.2.commitId = entry'.2.commitId := by
  obtain ⟨⟨tenant⟩, ⟨commitId⟩, _, _, _⟩ := entry
  obtain ⟨⟨tenant'⟩, ⟨commitId'⟩, _, _, _⟩ := entry'
  simp [commitKey]

theorem collectCommits_eq :
    collectCommits record =
      ((record.sides.map (fun side => (side.tenant, side.settleCommit)) ++
        record.valueLegs.map fun leg => (leg.tenant, leg.commit)).foldl (collectStep commitKey) ⟨[], []⟩).kept := by
  rw [List.foldl_append]
  rfl

theorem nodup_collectCommits : ((collectCommits record).map commitKey).Nodup := by
  rw [collectCommits_eq]
  exact (foldl_collectStep commitKey _).2.1

theorem mem_collectCommits {record : TradeRecord} : key ∈ (collectCommits record).map commitKey ↔
      (∃ side ∈ record.sides, commitKey (side.tenant, side.settleCommit) = key) ∨
        ∃ leg ∈ record.valueLegs, commitKey (leg.tenant, leg.commit) = key := by
  rw [collectCommits_eq, (foldl_collectStep commitKey _).2.2]
  simp [List.mem_append]

/-! ## The commit of a side -/

/-- A side keeps the commit of the tenant's first settlement. -/
theorem settleCommit_gatherSide {side : TradeSide} (gathered : gatherSide settled = some side) :
    ∃ first, settled.head? = some first ∧ side.settleCommit = first.commitRef := by
  induction settled using List.reverseRecOn generalizing side with
  | nil => cases gathered
  | append_singleton settled last ih =>
    rw [gatherSide_concat, absorb] at gathered
    cases earlier : gatherSide settled with
    | none =>
      rw [earlier] at gathered
      cases gathered
      rw [eq_nil_of_gatherSide earlier]
      exact ⟨last, rfl, rfl⟩
    | some side' =>
      rw [earlier] at gathered
      cases gathered
      obtain ⟨first, leads, pinned⟩ := ih earlier
      exact ⟨first, by rw [List.head?_append, leads]; rfl, pinned⟩

/-- The commits of the sides are those of the first settlement of each tenant. -/
theorem Gathers.exists_side_iff {sides : List TradeSide} (gathers : Gathers settled sides) :
    (∃ side ∈ sides, commitKey (side.tenant, side.settleCommit) = key) ↔
      ∃ tenant first, settled.find? (fun settlement => settlement.event.tenantId = tenant) = some first ∧
        commitKey (tenant, first.commitRef) = key := by
  constructor
  · rintro ⟨side, listed, rfl⟩
    have gathered := (gathers.found side.tenant).symm.trans ((find?_key_eq_some gathers.unique).mpr ⟨listed, rfl⟩)
    obtain ⟨first, leads, pinned⟩ := settleCommit_gatherSide gathered
    rw [List.head?_filter] at leads
    exact ⟨side.tenant, first, leads, by rw [pinned]⟩
  · rintro ⟨tenant, first, leads, rfl⟩
    rw [← List.head?_filter] at leads
    obtain ⟨side, gathered⟩ := gatherSide_isSome (List.ne_nil_of_mem (List.mem_of_head? leads))
    obtain ⟨first', leads', pinned⟩ := settleCommit_gatherSide gathered
    obtain rfl := Option.some.inj (leads.symm.trans leads')
    obtain ⟨listed, own⟩ := (find?_key_eq_some gathers.unique).mp ((gathers.found tenant).trans gathered)
    exact ⟨side, listed, by rw [own, pinned]⟩

end StateChronicle.Index
