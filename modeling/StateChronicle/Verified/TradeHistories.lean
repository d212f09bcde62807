import StateChronicle.Index.History
import StateChronicle.Verified.TradeTimeline

/-!
# The commits of a trade's history

A history lists the commit each tenant first settled the trade in, and the commits of its payments.  A tenant that
settles a second asset in a later commit is listed with the first commit only.
-/

namespace StateChronicle.Verified

open Domain Foundation Index

variable (tradeId : String) (batches : List IngestBatch)

/-- A settlement of the trade or one of its payments was ingested under the tenant and the commit. -/
def CommittedUnder (key : String × String) : Prop :=
  (∃ settlement ∈ settlements tradeId batches, commitKey (settlement.event.tenantId, settlement.commitRef) = key) ∨
    ∃ leg ∈ batches.flatMap (legsIn tradeId), commitKey (leg.tenant, leg.commit) = key

/-- The history lists every tenant and commit of the trade, once each, and no other. -/
structure ListsEveryCommit (tradeId : String) (batches : List IngestBatch) (history : TradeHistory) : Prop where
  once : (history.commits.map commitKey).Nodup
  all : ∀ key, key ∈ history.commits.map commitKey ↔ CommittedUnder tradeId batches key

/-- A tenant settles the trade in its first commit, or in one that also carries a payment of the trade. -/
def SettlesInListedCommits : Prop :=
  ∀ settlement ∈ settlements tradeId batches,
    (∃ first, (settlements tradeId batches).find?
        (fun other => other.event.tenantId = settlement.event.tenantId) = some first ∧
      first.commitRef.commitId = settlement.commitRef.commitId) ∨
    ∃ leg ∈ batches.flatMap (legsIn tradeId),
      leg.tenant = settlement.event.tenantId ∧ leg.commit.commitId = settlement.commitRef.commitId

/-- A history lists every commit of its trade exactly when the tenants settle in listed commits. -/
theorem history_lists_commits_iff {batches : List IngestBatch} {table : TradeTable} {tradeId : String}
    {record : TradeRecord} (applied : applyAll batches = .ok table) (found : table.get? tradeId = some record)
    {eventsById : SortedMap (String ×ₗ String) Event} {history : TradeHistory}
    (reconstructed : reconstructHistory record eventsById = .ok history) :
    ListsEveryCommit tradeId batches history ↔ SettlesInListedCommits tradeId batches := by
  obtain ⟨_, -, made⟩ := Except.bind_eq_ok.mp reconstructed
  obtain rfl := Except.pure_eq_ok.mp made
  have gathers := gathers_of_found applied found
  obtain ⟨-, -, legs⟩ := listed_of_found applied found
  -- what is listed: first settlements and payments
  have listed (key : String × String) : key ∈ (collectCommits record).map commitKey ↔
      (∃ tenant first, (settlements tradeId batches).find? (fun other => other.event.tenantId = tenant) = some first ∧
        commitKey (tenant, first.commitRef) = key) ∨
        ∃ leg ∈ batches.flatMap (legsIn tradeId), commitKey (leg.tenant, leg.commit) = key := by
    rw [mem_collectCommits, gathers.exists_side_iff, legs]
  constructor
  · intro lists settlement member
    rcases (listed _).mp ((lists.all _).mpr (.inl ⟨settlement, member, rfl⟩)) with
      ⟨tenant, first, leads, same⟩ | ⟨leg, inLegs, same⟩
    · obtain ⟨rfl, commit⟩ := commitKey_inj.mp same
      exact .inl ⟨first, leads, commit⟩
    · exact .inr ⟨leg, inLegs, commitKey_inj.mp same⟩
  · intro settles
    refine ⟨nodup_collectCommits record, fun key => (listed key).trans ?_⟩
    constructor
    · rintro (⟨tenant, first, leads, rfl⟩ | paid)
      · have own : first.event.tenantId = tenant := by simpa using List.find?_some leads
        exact .inl ⟨first, List.mem_of_find?_eq_some leads, by rw [own]⟩
      · exact .inr paid
    · rintro (⟨settlement, member, rfl⟩ | paid)
      · rcases settles settlement member with ⟨first, leads, commit⟩ | ⟨leg, inLegs, tenant, commit⟩
        · exact .inl ⟨settlement.event.tenantId, first, leads, commitKey_inj.mpr ⟨rfl, commit⟩⟩
        · exact .inr ⟨leg, inLegs, commitKey_inj.mpr ⟨tenant, commit⟩⟩
      · exact .inr paid

open Index.Harness

def settledTwice : List IngestBatch :=
  [batchOf "acme" "cmt_1" [settledEvent "acme" "evt_1" "asset:sword" "trd_1"] [],
    batchOf "acme" "cmt_2" [settledEvent "acme" "evt_2" "asset:shield" "trd_1"] []]

def eventsOf : SortedMap (String ×ₗ String) Event :=
  .ofList (batches.flatMap fun batch => batch.events.map fun event =>
    (toLex (event.tenantId.name, event.eventId.name), event))

def historyAfter (tradeId : String) : Option TradeHistory :=
  (recordAfter batches tradeId).bind fun record => (reconstructHistory record (eventsOf batches)).toOption

theorem exists_of_historyAfter {batches : List IngestBatch} {tradeId : String} {holds : TradeHistory → Bool}
    (told : (historyAfter batches tradeId).any holds) :
    ∃ table record history, applyAll batches = .ok table ∧ table.get? tradeId = some record ∧
      reconstructHistory record (eventsOf batches) = .ok history ∧ holds history := by
  cases indexed : recordAfter batches tradeId with
  | none => simp [historyAfter, indexed] at told
  | some record =>
    obtain ⟨table, record', applied, found, same⟩ := exists_of_recordAfter
      (by rw [indexed]; exact decide_eq_true rfl : (recordAfter batches tradeId).any (· = record))
    obtain rfl : record' = record := of_decide_eq_true same
    cases outcome : reconstructHistory record' (eventsOf batches) with
    | error _ => simp [historyAfter, indexed, outcome, Except.toOption] at told
    | ok history =>
      refine ⟨table, record', history, applied, found, outcome, ?_⟩
      simpa [historyAfter, indexed, outcome, Except.toOption] using told

theorem settled_apart_listed :
    ∃ table record history, applyAll settledApart = .ok table ∧ table.get? "trd_1" = some record ∧
      reconstructHistory record (eventsOf settledApart) = .ok history ∧
      ListsEveryCommit "trd_1" settledApart history := by
  obtain ⟨table, record, history, applied, found, reconstructed, -⟩ :=
    exists_of_historyAfter (by decide +kernel : (historyAfter settledApart "trd_1").any fun _ => true)
  refine ⟨table, record, history, applied, found, reconstructed,
    (history_lists_commits_iff applied found reconstructed).mpr fun settlement settled => .inl ?_⟩
  have first : ∀ settlement ∈ settlements "trd_1" settledApart,
      ∃ first ∈ (settlements "trd_1" settledApart).find?
        (fun other => other.event.tenantId = settlement.event.tenantId),
        first.commitRef.commitId = settlement.commitRef.commitId := by decide +kernel
  exact first settlement settled

/-- The second commit, in which the shield is settled, is not listed. -/
theorem second_settlement_unlisted :
    ∃ table record history, applyAll settledTwice = .ok table ∧ table.get? "trd_1" = some record ∧
      reconstructHistory record (eventsOf settledTwice) = .ok history ∧
      history.commits.map commitKey = [("acme", "cmt_1")] ∧
      CommittedUnder "trd_1" settledTwice ("acme", "cmt_2") ∧
      ¬ ListsEveryCommit "trd_1" settledTwice history := by
  obtain ⟨table, record, history, applied, found, reconstructed, listed⟩ := exists_of_historyAfter
    (by decide +kernel : (historyAfter settledTwice "trd_1").any fun history =>
      history.commits.map commitKey = [("acme", "cmt_1")])
  have shield : CommittedUnder "trd_1" settledTwice ("acme", "cmt_2") := by
    have settled : ∃ settlement ∈ settlements "trd_1" settledTwice,
      commitKey (settlement.event.tenantId, settlement.commitRef) = ("acme", "cmt_2") := by decide +kernel
    exact .inl settled
  have only := of_decide_eq_true listed
  refine ⟨table, record, history, applied, found, reconstructed, only, shield, fun lists => ?_⟩
  have there := (lists.all _).mpr shield
  rw [only] at there
  exact absurd there (by decide)

end StateChronicle.Verified
