import StateChronicle.Commit.StateTable
import StateChronicle.Execution.Ports

/-!
# Rebuilding projections

The current states are rebuilt from the committed events: the whole stream is validated first, then the
latest projection of each tenant and resource is handed to a sink.
-/

namespace StateChronicle.Index

open Commit StateChronicle.Core Domain Execution Foundation

variable {latest : SortedMap (String ×ₗ String) StateProjection} {events : List (Event × CommitId)} {event : Event}
  {commitId : CommitId}

inductive RebuildError where
  | invariant (message : String)
  | sink (message : String)
deriving DecidableEq, Repr

structure ProjectionSink (S : Type) where
  upsertProjection : StateProjection → S → Except String Unit × S

/-! ## Validation -/

def checkRebuildScope (event : Event) : Except RebuildError Unit :=
  rejectIf (event.tenantId.name = "" ∨ event.resourceId.name = "")
    (.invariant "event tenant/resource scope must not be empty")

variable {S : Type} (codec : Codec)

def rebuildDigest (state : ResourceState) : Except RebuildError ContentDigest :=
  (codec.digestState state).mapError fun error => .invariant error.toString

def validateEventForRebuild (event : Event) (commitId : CommitId) : Except RebuildError Unit := do
  rejectIf (event.schema ≠ eventSchema) (.invariant "event schema is not the supported v0 schema")
  let _ ← (CommitId.new commitId.name).mapError fun error =>
    RebuildError.invariant ("invalid projection commit id: " ++ error.toString)
  let expectedAfter ← okOr (checkedAdd event.before.version 1) (.invariant "event before-state version overflows")
  rejectIf (event.after.version ≠ expectedAfter) (.invariant "event versions must advance by exactly one")
  let beforeDigest ← rebuildDigest codec event.before.state
  rejectIf (beforeDigest ≠ event.before.stateHash)
    (.invariant "event before-state digest does not match state")
  let afterDigest ← rebuildDigest codec event.after.state
  rejectIf (afterDigest ≠ event.after.stateHash) (.invariant "event after-state digest does not match state")
  rejectIf (event.before.state.stateType ≠ event.after.state.stateType)
    (.invariant "event before/after state types must match")

def groupKey (tenant : TenantId) (resource : ResourceId) : String ×ₗ String := toLex (tenant.name, resource.name)

/-- The event ids met so far, and what the last event of each group led to. -/
structure StreamScan where
  eventIds : List EventId
  previous : SortedMap (String ×ₗ String) (U64 × ContentDigest)

def StreamScan.start : StreamScan := ⟨[], .empty⟩

def scanEvent (scan : StreamScan) (entry : Event × CommitId) : Except RebuildError StreamScan := do
  let (event, commitId) := entry
  validateEventForRebuild codec event commitId
  checkRebuildScope event
  rejectIf (event.eventId ∈ scan.eventIds)
    (.invariant ("duplicate event id `" ++ event.eventId.name ++ "` in rebuild stream"))
  let key := groupKey event.tenantId event.resourceId
  rejectIf ((scan.previous.get? key).any fun last =>
      event.before.version ≠ last.1 ∨ event.before.stateHash ≠ last.2)
    (.invariant ("event continuity mismatch for resource `" ++ event.resourceId.name ++ "`"))
  return ⟨event.eventId :: scan.eventIds, scan.previous.insert key (event.after.version, event.after.stateHash)⟩

def validateRebuildStream (events : List (Event × CommitId)) : Except RebuildError Unit := do
  let _ ← events.foldlM (scanEvent codec) .start
  return ()

/-! ## The latest projections -/

/-- The later of two projections of a group; two of one version have to be the same. -/
def recordLatest (latest : SortedMap (String ×ₗ String) StateProjection) (entry : Event × CommitId) :
    Except RebuildError (SortedMap (String ×ₗ String) StateProjection) := do
  let (event, commitId) := entry
  checkRebuildScope event
  let projection := projectionFor commitId event
  let key := groupKey projection.tenantId projection.resourceId
  match latest.get? key with
  | some existing =>
    if projection.version < existing.version then return latest
    else if projection.version = existing.version ∧
        (projection.stateHash ≠ existing.stateHash ∨ projection.lastEventId ≠ existing.lastEventId) then
      throw (.invariant ("conflicting projection version " ++ toString projection.version.val ++
        " for resource `" ++ projection.resourceId.name ++ "`"))
    else return latest.insert key projection
  | none => return latest.insert key projection

def latestProjections (events : List (Event × CommitId)) :
    Except RebuildError (SortedMap (String ×ₗ String) StateProjection) :=
  events.foldlM recordLatest SortedMap.empty

def countProjections (count : Nat) : Except RebuildError U64 :=
  if fits : count < 2 ^ 64 then .ok ⟨count, fits⟩
  else .error (.invariant "out of range integral type conversion attempted")

def rebuildProjections (sink : ProjectionSink S) (events : List (Event × CommitId)) : EStateM RebuildError S U64 := do
  validateRebuildStream codec events
  let latest ← latestProjections events
  latest.values.forM fun projection => request (sink.upsertProjection projection) RebuildError.sink
  countProjections latest.entries.length

/-! ## What is accepted -/

theorem validateEventForRebuild_eq_ok {codec : Codec} {u : Unit} :
    validateEventForRebuild codec event commitId = .ok u ↔
      event.schema = eventSchema ∧ CommitId.new commitId.name = .ok commitId ∧
      event.after.version.val = event.before.version.val + 1 ∧
      codec.digestState event.before.state = .ok event.before.stateHash ∧
      codec.digestState event.after.state = .ok event.after.stateHash ∧
      event.before.state.stateType = event.after.state.stateType := by
  have named {made : CommitId} (made? : CommitId.new commitId.name = .ok made) : made = commitId := by
    simp only [CommitId.new, Except.bind_eq_ok, Except.pure_eq_ok] at made?
    exact made?.choose_spec.2.symm
  simp only [validateEventForRebuild, rebuildDigest, Except.bind_eq_ok, rejectIf_eq_ok, Except.mapError_eq_ok,
    okOr_eq_ok, exists_const, not_not, checkedAdd_eq_some]
  constructor
  · rintro ⟨schema, made, valid, next, step, rfl, _, digest, rfl, _, digest', rfl, types⟩
    obtain rfl := named valid
    exact ⟨schema, valid, step.symm, digest, digest', types⟩
  · rintro ⟨schema, valid, step, digest, digest', types⟩
    exact ⟨schema, _, valid, _, step.symm, rfl, _, digest, rfl, _, digest', rfl, types⟩

theorem scanEvent_eq_ok {codec : Codec} {scan scan' : StreamScan} :
    scanEvent codec scan (event, commitId) = .ok scan' ↔
      validateEventForRebuild codec event commitId = .ok () ∧ event.tenantId.name ≠ "" ∧
      event.resourceId.name ≠ "" ∧ event.eventId ∉ scan.eventIds ∧
      (∀ last ∈ scan.previous.get? (groupKey event.tenantId event.resourceId),
        event.before.version = last.1 ∧ event.before.stateHash = last.2) ∧
      ⟨event.eventId :: scan.eventIds, scan.previous.insert (groupKey event.tenantId event.resourceId)
        (event.after.version, event.after.stateHash)⟩ = scan' := by
  have continues : (¬ (scan.previous.get? (groupKey event.tenantId event.resourceId)).any fun last =>
      event.before.version ≠ last.1 ∨ event.before.stateHash ≠ last.2) ↔
      ∀ last ∈ scan.previous.get? (groupKey event.tenantId event.resourceId),
        event.before.version = last.1 ∧ event.before.stateHash = last.2 := by
    cases scan.previous.get? (groupKey event.tenantId event.resourceId) <;> simp
  simp only [scanEvent, checkRebuildScope, validateEventForRebuild_eq_ok, Except.bind_eq_ok, rejectIf_eq_ok,
    exists_const, Except.pure_eq_ok, continues, not_or, ne_eq, and_assoc]

theorem groupKey_inj {tenant tenant' : TenantId} {resource resource' : ResourceId} :
    groupKey tenant resource = groupKey tenant' resource' ↔ tenant = tenant' ∧ resource = resource' := by
  rw [groupKey, groupKey, toLex_inj, Prod.mk.injEq, TenantId.name_injective.eq_iff, ResourceId.name_injective.eq_iff]

theorem recordLatest_cases {latest' : SortedMap (String ×ₗ String) StateProjection}
    (recorded : recordLatest latest (event, commitId) = .ok latest') :
    latest' = latest ∨
      latest' = latest.insert (groupKey event.tenantId event.resourceId) (projectionFor commitId event) := by
  simp only [recordLatest, Except.bind_eq_ok] at recorded
  obtain ⟨_, _, recorded⟩ := recorded
  split at recorded
  · split_ifs at recorded
    · exact .inl (Except.ok.inj recorded).symm
    · exact .inr (Except.ok.inj recorded).symm
  · exact .inr (Except.ok.inj recorded).symm

theorem recordLatest_newer (commitId : CommitId) (tenant : event.tenantId.name ≠ "")
    (resource : event.resourceId.name ≠ "")
    (newer : ∀ existing ∈ latest.get? (groupKey event.tenantId event.resourceId),
      existing.version < event.after.version) :
    recordLatest latest (event, commitId) =
      .ok (latest.insert (groupKey event.tenantId event.resourceId) (projectionFor commitId event)) := by
  have inScope : checkRebuildScope event = .ok () := by
    simp [checkRebuildScope, tenant, resource]
  have group : groupKey (projectionFor commitId event).tenantId (projectionFor commitId event).resourceId =
      groupKey event.tenantId event.resourceId := rfl
  simp only [recordLatest, inScope, group]
  cases present : latest.get? (groupKey event.tenantId event.resourceId) with
  | none => rfl
  | some existing =>
    have later : existing.version < (projectionFor commitId event).version := newer existing present
    simp only [if_neg (lt_asymm later), later.ne', false_and, if_false]
    rfl

theorem latestProjections_keyed (collected : latestProjections events = .ok latest) :
    ∀ key projection, latest.get? key = some projection → key = groupKey projection.tenantId projection.resourceId := by
  refine Except.foldlM_induct (fun _ latest => ∀ key projection, latest.get? key = some projection →
    key = groupKey projection.tenantId projection.resourceId) ?_ ?_ collected
  · rintro _ ⟨event, commitId⟩ latest latest' keyed recorded key projection found
    rcases recordLatest_cases recorded with rfl | rfl
    · exact keyed key projection found
    · rw [SortedMap.get?_insert] at found
      split_ifs at found with own
      · obtain rfl := Option.some.inj found
        exact own
      · exact keyed key projection found
  · intro key projection found
    cases found

theorem length_latestProjections_le (collected : latestProjections events = .ok latest) :
    latest.entries.length ≤ events.length := by
  have among : latest.keys ⊆ events.map fun entry => groupKey entry.1.tenantId entry.1.resourceId := by
    refine Except.foldlM_induct (fun done latest => latest.keys ⊆
      done.map fun entry => groupKey entry.1.tenantId entry.1.resourceId) ?_ (fun key found => found) collected
    rintro done ⟨event, commitId⟩ latest latest' among recorded key found
    rw [List.map_append, List.mem_append]
    rcases recordLatest_cases recorded with rfl | rfl
    · exact .inl (among found)
    · rw [SortedMap.mem_keys_iff] at found
      obtain ⟨projection, found⟩ := found
      rw [SortedMap.get?_insert] at found
      split_ifs at found with own
      · exact .inr (by simp [own])
      · exact .inl (among (SortedMap.mem_keys_iff.mpr ⟨projection, found⟩))
  have counted := (latest.keys_nodup.subperm among).length_le
  rwa [SortedMap.keys, List.length_map, List.length_map] at counted

/-- A sink that keeps what it is handed. -/
def recordingSink : ProjectionSink (List StateProjection) := ⟨fun projection handed => (.ok (), handed ++ [projection])⟩

theorem forM_recording (projections handed : List StateProjection) :
    (projections.forM fun projection => request (recordingSink.upsertProjection projection) RebuildError.sink)
      handed = .ok () (handed ++ projections) := by
  induction projections generalizing handed with
  | nil => rw [List.append_nil]; rfl
  | cons projection rest ih =>
    have continued := ih (handed ++ [projection])
    rw [List.append_assoc, List.singleton_append] at continued
    exact continued

/-- With a recording sink: a valid stream hands over the latest projection of every group. -/
theorem rebuildProjections_recording {codec : Codec} {count : U64} {handed : List StateProjection} :
    rebuildProjections codec recordingSink events [] = .ok count handed ↔
      (∃ scan, events.foldlM (scanEvent codec) .start = .ok scan) ∧
      ∃ latest, latestProjections events = .ok latest ∧ latest.values = handed ∧
        countProjections latest.entries.length = .ok count := by
  simp only [rebuildProjections, validateRebuildStream, EStateM.bind_eq_ok, liftM_eq_liftExcept, liftExcept_eq_ok,
    Except.bind_eq_ok, Except.pure_eq_ok]
  constructor
  · rintro ⟨_, _, ⟨⟨scan, scanned, _⟩, rfl⟩, latest, _, ⟨collected, rfl⟩, _, _, recorded, counted, rfl⟩
    rw [forM_recording] at recorded
    cases recorded
    exact ⟨⟨scan, scanned⟩, latest, collected, rfl, counted⟩
  · rintro ⟨⟨scan, scanned⟩, latest, collected, rfl, counted⟩
    exact ⟨(), [], ⟨⟨scan, scanned, trivial⟩, rfl⟩, latest, [], ⟨collected, rfl⟩, (), _, forM_recording _ _, counted,
      rfl⟩

end StateChronicle.Index
