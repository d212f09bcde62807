import StateChronicle.Foundation.HighestWins
import StateChronicle.Foundation.Restart
import StateChronicle.Index.Rebuild

/-!
# Resumable rebuilds

Each chunk of the stream is rebuilt on its own, and the offset after it is saved before the next one begins.  What is
kept across a crash is that everything before the saved offset has reached the sink.
-/

namespace StateChronicle.Index

open Commit Domain Execution Foundation

structure CheckpointStore (W : Type) where
  load : String → W → Except String (Option Nat) × W
  save : String → Nat → W → Except String Unit × W

structure RebuildCheckpoint where
  nextEvent : Nat
  projectionsWritten : U64
deriving DecidableEq, Repr

/-- The segment between two offsets, if there is one. -/
def slice? {α : Type} (xs : List α) (first last : Nat) : Option (List α) :=
  if first ≤ last ∧ last ≤ xs.length then some ((xs.take last).drop first) else none

section Rebuild

variable {W : Type} (codec : Codec) (sink : ProjectionSink W) (checkpoints : CheckpointStore W)
  (events : List (Event × CommitId))

def rebuildProjectionsChunk (startEvent maxEvents : Nat) : EStateM RebuildError W RebuildCheckpoint := do
  rejectIf (maxEvents = 0 ∨ events.length < startEvent) (RebuildError.invariant "invalid projection rebuild checkpoint")
  let last := min (startEvent + maxEvents) events.length
  let chunk ← okOr (slice? events startEvent last) (RebuildError.invariant "invalid projection rebuild range")
  let written ← rebuildProjections codec sink chunk
  return ⟨last, written⟩

/-- The loop over the chunks.  Every chunk moves the offset, so that as much fuel as there are events left is
enough. -/
def rebuildFrom (key : String) (chunkSize : Nat) : Nat → Nat → U64 → EStateM RebuildError W U64
  | 0, _, written => return written
  | fuel + 1, offset, written =>
    if offset < events.length then do
      let checkpoint ← rebuildProjectionsChunk codec sink events offset chunkSize
      request (checkpoints.save key checkpoint.nextEvent) RebuildError.sink
      rebuildFrom key chunkSize fuel checkpoint.nextEvent (saturatingAdd written checkpoint.projectionsWritten)
    else return written

def rebuildProjectionsResumable (key : String) (chunkSize : Nat) : EStateM RebuildError W U64 := do
  rejectIf (key = "" ∨ chunkSize = 0) (RebuildError.invariant "rebuild key and chunk size must be non-empty")
  validateRebuildStream codec events
  let stored ← request (checkpoints.load key) RebuildError.sink
  let offset := stored.getD 0
  rejectIf (events.length < offset) (RebuildError.invariant "stored rebuild checkpoint exceeds event stream")
  rebuildFrom codec sink checkpoints events key chunkSize events.length offset 0

end Rebuild

/-! ## Accepted streams -/

def underGroup (projection : StateProjection) : (String ×ₗ String) × StateProjection :=
  (groupKey projection.tenantId projection.resourceId, projection)

def projected (entry : Event × CommitId) : (String ×ₗ String) × StateProjection :=
  underGroup (projectionFor entry.2 entry.1)

/-- The versions of a group go up along the stream, and every event names its tenant and resource. -/
structure Ascending (events : List (Event × CommitId)) : Prop where
  versions : events.Pairwise fun earlier later => (projected earlier).1 = (projected later).1 →
    (projected earlier).2.version < (projected later).2.version
  inScope : ∀ entry ∈ events, entry.1.tenantId.name ≠ "" ∧ entry.1.resourceId.name ≠ ""

variable {codec : Codec} {events : List (Event × CommitId)}

theorem validateRebuildStream_eq_ok {u : Unit} :
    validateRebuildStream codec events = .ok u ↔ ∃ scan, events.foldlM (scanEvent codec) .start = .ok scan := by
  simp only [validateRebuildStream, Except.bind_eq_ok, Except.pure_eq_ok, and_true]

theorem ascending_concat {last : Event × CommitId} :
    Ascending (events ++ [last]) ↔ Ascending events ∧
      (∀ entry ∈ events, (projected entry).1 = (projected last).1 →
        (projected entry).2.version < (projected last).2.version) ∧
      last.1.tenantId.name ≠ "" ∧ last.1.resourceId.name ≠ "" := by
  constructor
  · rintro ⟨versions, inScope⟩
    obtain ⟨earlier, -, newest⟩ := List.pairwise_append.mp versions
    exact ⟨⟨earlier, fun entry member => inScope entry (List.mem_append_left _ member)⟩,
      fun entry member => newest entry member last (List.mem_singleton_self _),
      inScope last (List.mem_append_right _ (List.mem_singleton_self _))⟩
  · rintro ⟨⟨versions, inScope⟩, newest, own⟩
    refine ⟨List.pairwise_append.mpr ⟨versions, List.pairwise_singleton _ _, ?_⟩, fun entry member => ?_⟩
    · intro entry member later final
      obtain rfl := List.mem_singleton.mp final
      exact newest entry member
    · rcases List.mem_append.mp member with earlier | final
      · exact inScope entry earlier
      · obtain rfl := List.mem_singleton.mp final
        exact own

/-- The scan holds, for the group of every event, a version that is not below that of the event. -/
def StreamScan.Reaches (scan : StreamScan) (events : List (Event × CommitId)) : Prop :=
  ∀ entry ∈ events, ∃ last ∈ scan.previous.get? (projected entry).1, (projected entry).2.version ≤ last.1

/-- An event that continues its group starts at the version the scan holds, so that it exceeds all earlier ones. -/
theorem ascending_scanEvent {scan scan' : StreamScan} {entry : Event × CommitId} (ascending : Ascending events)
    (reaches : scan.Reaches events) (scans : scanEvent codec scan entry = .ok scan') :
    Ascending (events ++ [entry]) ∧ scan'.Reaches (events ++ [entry]) := by
  obtain ⟨event, commitId⟩ := entry
  obtain ⟨valid, tenant, resource, -, continues, rfl⟩ := scanEvent_eq_ok.mp scans
  have next := (validateEventForRebuild_eq_ok.mp valid).2.2.1
  have newer : ∀ earlier ∈ events, (projected earlier).1 = (projected (event, commitId)).1 →
      (projected earlier).2.version < event.after.version := by
    intro earlier member same
    obtain ⟨last, found, low⟩ := reaches earlier member
    rw [same] at found
    have before := (continues last found).1
    rw [← before, Fin.le_def] at low
    rw [Fin.lt_def]
    omega
  refine ⟨ascending_concat.mpr ⟨ascending, newer, tenant, resource⟩, fun other member => ?_⟩
  change ∃ last ∈ (scan.previous.insert _ _).get? _, _
  rw [SortedMap.get?_insert]
  -- the scan forgets the earlier version of this group only
  split_ifs with own
  · refine ⟨_, rfl, ?_⟩
    rcases List.mem_append.mp member with earlier | last
    · exact (newer other earlier own).le
    · obtain rfl := List.mem_singleton.mp last
      exact le_rfl
  · rcases List.mem_append.mp member with earlier | last
    · exact reaches other earlier
    · obtain rfl := List.mem_singleton.mp last
      exact absurd rfl own

theorem ascending_of_validateRebuildStream (accepted : validateRebuildStream codec events = .ok ()) :
    Ascending events := by
  obtain ⟨scan, scanned⟩ := validateRebuildStream_eq_ok.mp accepted
  have traced : Ascending events ∧ scan.Reaches events := by
    refine Except.foldlM_induct (fun done scan => Ascending done ∧ scan.Reaches done) ?_
      ⟨⟨.nil, by simp⟩, by simp [StreamScan.Reaches]⟩ scanned
    rintro done entry scan scan' ⟨ascending, reaches⟩ scans
    exact ascending_scanEvent ascending reaches scans
  exact traced.1

/-- A scan that has met no more than another one. -/
structure StreamScan.Below (scan scan' : StreamScan) : Prop where
  eventIds : scan.eventIds ⊆ scan'.eventIds
  previous : ∀ key, ∀ last ∈ scan.previous.get? key, scan'.previous.get? key = some last

theorem exists_scan_of_below {scan scan' left : StreamScan} (below : scan.Below scan')
    (scanned : events.foldlM (scanEvent codec) scan' = .ok left) :
    ∃ left', events.foldlM (scanEvent codec) scan = .ok left' := by
  induction events generalizing scan scan' with
  | nil => exact ⟨scan, rfl⟩
  | cons entry rest ih =>
    obtain ⟨event, commitId⟩ := entry
    obtain ⟨middle, scans, others⟩ := Except.bind_eq_ok.mp scanned
    obtain ⟨valid, tenant, resource, unmet, continues, rfl⟩ := scanEvent_eq_ok.mp scans
    have scans' : scanEvent codec scan (event, commitId) = .ok _ := scanEvent_eq_ok.mpr
      ⟨valid, tenant, resource, fun met => unmet (below.eventIds met),
        fun last found => continues last (below.previous _ last found), rfl⟩
    refine (ih ⟨?_, ?_⟩ others).imp fun left' others' =>
      Except.bind_eq_ok.mpr ⟨_, scans', others'⟩
    · exact List.cons_subset_cons _ below.eventIds
    · intro key last found
      rw [Option.mem_def, SortedMap.get?_insert] at found
      rw [SortedMap.get?_insert]
      split_ifs at found ⊢ with own
      · exact found
      · exact below.previous key last found

theorem validateRebuildStream_segment {before chunk after : List (Event × CommitId)}
    (accepted : validateRebuildStream codec (before ++ chunk ++ after) = .ok ()) :
    validateRebuildStream codec chunk = .ok () := by
  obtain ⟨scan, scanned⟩ := validateRebuildStream_eq_ok.mp accepted
  rw [List.foldlM_append, List.foldlM_append] at scanned
  obtain ⟨middle, first, -⟩ := Except.bind_eq_ok.mp scanned
  obtain ⟨start, -, segment⟩ := Except.bind_eq_ok.mp first
  refine validateRebuildStream_eq_ok.mpr (exists_scan_of_below ⟨List.nil_subset _, ?_⟩ segment)
  intro key last found
  cases found

theorem slice?_eq_some {α : Type} {xs : List α} {first last : Nat} (inside : first ≤ last) (fits : last ≤ xs.length) :
    ∃ segment, slice? xs first last = some segment ∧ xs.take last = xs.take first ++ segment ∧
      xs = xs.take first ++ segment ++ xs.drop last := by
  have split : xs.take last = xs.take first ++ (xs.take last).drop first := by
    have whole := (List.take_append_drop first (xs.take last)).symm
    rwa [List.take_take, min_eq_left inside] at whole
  refine ⟨_, if_pos ⟨inside, fits⟩, split, ?_⟩
  rw [← split, List.take_append_drop]

/-! ## The latest projections of a stream -/

theorem ranksApart_of_ascending (ascending : Ascending events) :
    RanksApart StateProjection.version (events.map projected) := by
  intro key value value' member member' same
  obtain ⟨entry, listed, made⟩ := List.mem_map.mp member
  obtain ⟨entry', listed', made'⟩ := List.mem_map.mp member'
  have group : (projected entry).1 = (projected entry').1 := by rw [made, made']
  have version : (projected entry).2.version = (projected entry').2.version := by rw [made, made', same]
  by_cases equal : entry = entry'
  · rw [equal, made'] at made
    exact (Prod.mk.inj made).2.symm
  · have apart : events.Pairwise fun one other => (projected one).1 = (projected other).1 →
        (projected one).2.version ≠ (projected other).2.version :=
      ascending.versions.imp fun lower same => (lower same).ne
    have symmetric : Std.Symm fun one other : Event × CommitId => (projected one).1 = (projected other).1 →
        (projected one).2.version ≠ (projected other).2.version :=
      ⟨fun _ _ differ same => (differ same.symm).symm⟩
    exact absurd version (apart.forall listed listed' equal group)

theorem exists_latestProjections (ascending : Ascending events) :
    ∃ latest, latestProjections events = .ok latest ∧ HeldFrom (events.map projected) latest.get? ∧
      Outranks StateProjection.version (events.map projected) latest.get? := by
  induction events using List.reverseRecOn with
  | nil =>
    refine ⟨.empty, rfl, fun key value found => ?_, fun entry member => ?_⟩
    · cases found
    · cases member
  | append_singleton done last ih =>
    obtain ⟨event, commitId⟩ := last
    obtain ⟨earlier, newest, tenant, resource⟩ := ascending_concat.mp ascending
    obtain ⟨latest, collected, heldFrom, outranks⟩ := ih earlier
    have newer : ∀ existing ∈ latest.get? (groupKey event.tenantId event.resourceId),
        existing.version < event.after.version := by
      intro existing found
      obtain ⟨entry, member, made⟩ := List.mem_map.mp (heldFrom _ existing found)
      have group : (projected entry).1 = (projected (event, commitId)).1 := by
        rw [made]
        rfl
      have lower := newest entry member group
      rwa [made] at lower
    have written : Upserts StateProjection.version (projected (event, commitId)) latest.get?
        (latest.insert (groupKey event.tenantId event.resourceId) (projectionFor commitId event)).get? := by
      refine ⟨.inl ⟨?_, fun value found => (newer value found).le⟩, fun key other => ?_⟩
      · rw [SortedMap.get?_insert]
        exact if_pos rfl
      · rw [SortedMap.get?_insert]
        exact if_neg other
    have own : projected (event, commitId) ∈ (done ++ [(event, commitId)]).map projected := by simp
    have among : done.map projected ⊆ (done ++ [(event, commitId)]).map projected := by simp
    refine ⟨_, Except.foldlM_concat collected (recordLatest_newer commitId tenant resource newer), ?_, ?_⟩
    · exact heldFrom_upserts (fun key value found => among (heldFrom key value found)) own written
    · rw [List.map_append, List.map_singleton, outranks_append]
      refine ⟨outranks_upserts outranks written, fun entry member => ?_⟩
      obtain rfl := List.mem_singleton.mp member
      exact written.outranks_self

variable {W γ : Type} {sink : ProjectionSink W} {checkpoints : CheckpointStore W}
  {content : W → String ×ₗ String → Option StateProjection} {saved : W → String → Option Nat} {crashes : W → ℕ}
  {others : W → γ} {w : W}

/-- The sink keeps, per tenant and resource, the projection of highest version that was written. -/
def KeepsHighest (sink : ProjectionSink W) (content : W → String ×ₗ String → Option StateProjection)
    (others : W → γ) (crashes : W → ℕ) : Prop :=
  ∀ projection, Crashable crashes (fun w w' => content w' = content w ∧ others w' = others w)
    (fun w w' => Upserts StateProjection.version (underGroup projection) (content w) (content w') ∧
      others w' = others w) (sink.upsertProjection projection)

/-- The checkpoint store answers with the offset saved last. -/
structure KeepsOffsets (checkpoints : CheckpointStore W) (saved : W → String → Option Nat) (others : W → γ)
    (crashes : W → ℕ) : Prop where
  load : ∀ key, Crashable crashes (fun w w' => saved w' = saved w ∧ others w' = others w)
    (fun w w' => saved w' = saved w ∧ others w' = others w) (checkpoints.load key)
  loaded : ∀ key w offset w', checkpoints.load key w = (.ok offset, w') → offset = saved w key
  save : ∀ key next, Crashable crashes (fun w w' => saved w' = saved w ∧ others w' = others w)
    (fun w w' => saved w' = Function.update (saved w) key (some next) ∧ others w' = others w)
    (checkpoints.save key next)

/-- A sink that keeps the highest versions, in memory. -/
def highestSink : ProjectionSink (SortedMap (String ×ₗ String) StateProjection) where
  upsertProjection projection held := (.ok (), held.upsert (groupKey projection.tenantId projection.resourceId)
    fun existing => if (existing.any fun value => projection.version < value.version) then existing.getD projection
      else projection)

theorem upserts_highest (projection : StateProjection) (held : SortedMap (String ×ₗ String) StateProjection) :
    Upserts StateProjection.version (underGroup projection) held.get?
      (highestSink.upsertProjection projection held).2.get? := by
  have read (key : String ×ₗ String) := SortedMap.get?_upsert held (groupKey projection.tenantId projection.resourceId)
    (fun existing => if (existing.any fun value => projection.version < value.version) then existing.getD projection
      else projection) key
  refine ⟨?_, fun key other => (read key).trans (if_neg other)⟩
  have own := (read (groupKey projection.tenantId projection.resourceId)).trans (if_pos rfl)
  cases existing : held.get? (groupKey projection.tenantId projection.resourceId) with
  | none =>
    rw [existing] at own
    exact .inl ⟨own, fun value found => by rw [underGroup, existing] at found; cases found⟩
  | some value =>
    rw [existing] at own
    by_cases lower : projection.version < value.version
    · rw [if_pos (by simpa using lower)] at own
      exact .inr ⟨own.trans existing.symm, value, existing, lower.le⟩
    · rw [if_neg (by simpa using lower)] at own
      refine .inl ⟨own, fun value' found => ?_⟩
      obtain rfl := Option.some.inj (existing.symm.trans found)
      exact not_lt.mp lower

theorem highestSink_keepsHighest : KeepsHighest highestSink (fun held => held.get?) (fun _ => ()) fun _ => 0 := by
  refine fun projection => ⟨fun held _ held' answered => ?_, fun held _ held' answered => ?_⟩
  · cases answered
    exact ⟨⟨upserts_highest projection held, rfl⟩, le_rfl⟩
  · cases answered

/-- What writing some projections did: they, and no others, were written. -/
structure Wrote (content : W → String ×ₗ String → Option StateProjection) (others : W → γ)
    (entries : List ((String ×ₗ String) × StateProjection)) (w w' : W) : Prop where
  rewrites : Rewrites StateProjection.version entries (content w) (content w')
  others : others w' = others w

section

variable {entries : List ((String ×ₗ String) × StateProjection)} {middle w' : W}

theorem Wrote.step {w : W} {projection : StateProjection} (wrote : Wrote content others entries w middle)
    (member : underGroup projection ∈ entries)
    (written : Upserts StateProjection.version (underGroup projection) (content middle) (content w'))
    (same : others w' = others middle) : Wrote content others entries w w' :=
  ⟨wrote.rewrites.tail ⟨_, member, written⟩, same.trans wrote.others⟩

theorem Wrote.unchanged (wrote : Wrote content others entries w middle) (same : content w' = content middle)
    (same' : others w' = others middle) : Wrote content others entries w w' :=
  ⟨same ▸ wrote.rewrites, same'.trans wrote.others⟩

end

theorem forM_upsertProjection_ends (keeps : KeepsHighest sink content others crashes)
    (projections : List StateProjection) (w : W) :
    Ends (projections.forM fun projection => request (sink.upsertProjection projection) RebuildError.sink) w
      (fun _ w' => Wrote content others (projections.map underGroup) w w' ∧
        Outranks StateProjection.version (projections.map underGroup) (content w') ∧ crashes w' ≤ crashes w)
      fun w' => Wrote content others (projections.map underGroup) w w' ∧ crashes w' < crashes w := by
  refine Ends.forM (fun done w' => Wrote content others (projections.map underGroup) w w' ∧
    Outranks StateProjection.version (done.map underGroup) (content w') ∧ crashes w' ≤ crashes w) ?_
    ⟨⟨.refl, rfl⟩, by simp [Outranks], le_rfl⟩
  rintro done projection middle listed ⟨wrote, outranks, fewer⟩
  have member := List.mem_map_of_mem (f := underGroup) listed
  refine ((keeps projection).request_ends _ middle).mono ?_ ?_
  · rintro _ w' ⟨-, ⟨written, same⟩, left⟩
    refine ⟨wrote.step member written same, ?_, left.trans fewer⟩
    rw [List.map_append, List.map_singleton, outranks_append]
    refine ⟨outranks_upserts outranks written, fun entry last => ?_⟩
    obtain rfl := List.mem_singleton.mp last
    exact written.outranks_self
  · rintro w' ⟨⟨same, same'⟩ | ⟨written, same⟩, left⟩
    · exact ⟨wrote.unchanged same same', left.trans_le fewer⟩
    · exact ⟨wrote.step member written same, left.trans_le fewer⟩

/-- Rebuilding an accepted stream writes nothing but its projections, and fails only by a crash of the sink. -/
theorem rebuildProjections_ends (keeps : KeepsHighest sink content others crashes)
    (accepted : validateRebuildStream codec events = .ok ()) (addressable : events.length < 2 ^ 64) (w : W) :
    Ends (rebuildProjections codec sink events) w
      (fun _ w' => Wrote content others (events.map projected) w w' ∧
        Outranks StateProjection.version (events.map projected) (content w') ∧ crashes w' ≤ crashes w)
      fun w' => Wrote content others (events.map projected) w w' ∧ crashes w' < crashes w := by
  obtain ⟨latest, collected, heldFrom, outranks⟩ :=
    exists_latestProjections (ascending_of_validateRebuildStream accepted)
  have keyed := latestProjections_keyed collected
  have fits : latest.entries.length < 2 ^ 64 := (length_latestProjections_le collected).trans_lt addressable
  -- the latest projections are projections of the stream, and outrank all of them
  have among : latest.values.map underGroup ⊆ events.map projected := by
    intro entry member
    obtain ⟨projection, value, rfl⟩ := List.mem_map.mp member
    obtain ⟨⟨key, _⟩, listed, rfl⟩ := List.mem_map.mp value
    have found := SortedMap.mem_entries_iff.mp listed
    rw [underGroup, ← keyed key _ found]
    exact heldFrom key _ found
  have higher {held : String ×ₗ String → Option StateProjection}
      (written : Outranks StateProjection.version (latest.values.map underGroup) held) :
      Outranks StateProjection.version (events.map projected) held := by
    refine outranks.trans fun key projection found => ?_
    have listed := List.mem_map_of_mem (f := Prod.snd) (SortedMap.mem_entries_iff.mpr found)
    have entered := written (underGroup projection) (List.mem_map_of_mem listed)
    rwa [underGroup, ← keyed key projection found] at entered
  have widen {w' : W} (wrote : Wrote content others (latest.values.map underGroup) w w') :
      Wrote content others (events.map projected) w w' :=
    ⟨wrote.rewrites.mono among, wrote.others⟩
  refine Ends.bind_ok accepted (Ends.bind_ok collected ?_)
  refine Ends.bind ((forM_upsertProjection_ends keeps latest.values w).mono_crashed
    fun w' ⟨wrote, fewer⟩ => ⟨widen wrote, fewer⟩) ?_
  rintro _ w' ⟨wrote, written, fewer⟩
  exact .inl ⟨⟨_, fits⟩, w', liftExcept_eq_ok.mpr ⟨dif_pos fits, rfl⟩, widen wrote, higher written, fewer⟩

/-- What holds between two runs: the sink has only projections of the stream, and has reached everything before
the saved offset. -/
structure Progress (content : W → String ×ₗ String → Option StateProjection) (saved : W → String → Option Nat)
    (events : List (Event × CommitId)) (key : String) (w : W) : Prop where
  heldFrom : HeldFrom (events.map projected) (content w)
  within : (saved w key).getD 0 ≤ events.length
  outranks : Outranks StateProjection.version ((events.take ((saved w key).getD 0)).map projected) (content w)

variable {key : String} {chunkSize : Nat}

section

variable {w' : W} (progress : Progress content saved events key w)

include progress

theorem Progress.wrote {entries : List ((String ×ₗ String) × StateProjection)}
    (wrote : Wrote content saved entries w w') (among : entries ⊆ events.map projected) :
    Progress content saved events key w' := by
  refine ⟨heldFrom_rewrites wrote.rewrites among progress.heldFrom, ?_, ?_⟩
  · rw [wrote.others]
    exact progress.within
  · rw [wrote.others]
    exact outranks_rewrites wrote.rewrites progress.outranks

theorem Progress.save {next : Nat}
    (reached : Outranks StateProjection.version ((events.take next).map projected) (content w))
    (within : next ≤ events.length) (advanced : saved w' = Function.update (saved w) key (some next))
    (same : content w' = content w) : Progress content saved events key w' ∧ (saved w' key).getD 0 = next := by
  have offset : (saved w' key).getD 0 = next := by rw [advanced, Function.update_self, Option.getD_some]
  refine ⟨⟨?_, ?_, ?_⟩, offset⟩
  · rw [same]
    exact progress.heldFrom
  · rw [offset]
    exact within
  · rw [offset, same]
    exact reached

theorem Progress.unchanged (same : saved w' = saved w) (same' : content w' = content w) :
    Progress content saved events key w' := by
  obtain ⟨heldFrom, within, outranks⟩ := progress
  rw [← same'] at heldFrom outranks
  rw [← same] at within outranks
  exact ⟨heldFrom, within, outranks⟩

end

/-- The sink holds projections of the stream only, and has reached all of it. -/
def CaughtUp (content : W → String ×ₗ String → Option StateProjection) (events : List (Event × CommitId))
    (w : W) : Prop :=
  HeldFrom (events.map projected) (content w) ∧ Outranks StateProjection.version (events.map projected) (content w)

theorem Progress.caughtUp (progress : Progress content saved events key w)
    (done : events.length ≤ (saved w key).getD 0) : CaughtUp content events w := by
  have outranks := progress.outranks
  rw [List.take_of_length_le done] at outranks
  exact ⟨progress.heldFrom, outranks⟩

variable (keeps : KeepsHighest sink content saved crashes) (offsets : KeepsOffsets checkpoints saved content crashes)
  (accepted : validateRebuildStream codec events = .ok ()) (addressable : events.length < 2 ^ 64)

include keeps accepted addressable

/-- A chunk that finished has brought the sink up to the next offset. -/
theorem rebuildProjectionsChunk_ends (positive : 0 < chunkSize) (progress : Progress content saved events key w) :
    Ends (rebuildProjectionsChunk codec sink events ((saved w key).getD 0) chunkSize) w
      (fun checkpoint w' => checkpoint.nextEvent = min ((saved w key).getD 0 + chunkSize) events.length ∧
        Progress content saved events key w' ∧
        Outranks StateProjection.version ((events.take checkpoint.nextEvent).map projected) (content w') ∧
        crashes w' ≤ crashes w)
      fun w' => Progress content saved events key w' ∧ crashes w' < crashes w := by
  have within := progress.within
  have inside : (saved w key).getD 0 ≤ min ((saved w key).getD 0 + chunkSize) events.length := by omega
  obtain ⟨chunk, sliced, upTo, whole⟩ := slice?_eq_some inside (min_le_right _ _)
  have acceptedChunk : validateRebuildStream codec chunk = .ok () := by
    rw [whole] at accepted
    exact validateRebuildStream_segment accepted
  have among : chunk.map projected ⊆ events.map projected := by
    refine List.map_subset _ fun entry member => ?_
    rw [whole]
    simp [member]
  have shorter : chunk.length < 2 ^ 64 := by
    have lengths := congrArg List.length whole
    simp only [List.length_append] at lengths
    omega
  have admissible : rejectIf (chunkSize = 0 ∨ events.length < (saved w key).getD 0)
      (RebuildError.invariant "invalid projection rebuild checkpoint") = .ok () := by
    rw [rejectIf_eq_ok]
    omega
  refine Ends.bind_ok admissible (Ends.bind_ok (okOr_eq_ok.mpr sliced) ?_)
  refine Ends.bind ((rebuildProjections_ends keeps acceptedChunk shorter w).mono_crashed
    fun w' ⟨wrote, fewer⟩ => ⟨progress.wrote wrote among, fewer⟩) ?_
  rintro written w' ⟨wrote, reached, fewer⟩
  refine Ends.pure ⟨rfl, progress.wrote wrote among, ?_, fewer⟩
  rw [upTo, List.map_append, outranks_append]
  exact ⟨outranks_rewrites wrote.rewrites progress.outranks, reached⟩

include offsets

theorem rebuildFrom_ends (positive : 0 < chunkSize) {fuel offset : Nat} {written : U64}
    (progress : Progress content saved events key w)
    (here : (saved w key).getD 0 = offset) (enough : events.length ≤ offset + fuel) :
    Ends (rebuildFrom codec sink checkpoints events key chunkSize fuel offset written) w
      (fun _ w' => CaughtUp content events w')
      fun w' => Progress content saved events key w' ∧ crashes w' < crashes w := by
  -- each chunk uses one unit of fuel and moves the offset by one at least
  induction fuel generalizing offset written w with
  | zero => exact Ends.pure (progress.caughtUp (by omega))
  | succ fuel ih =>
    rw [rebuildFrom]
    split_ifs with more
    · subst here
      refine Ends.bind (rebuildProjectionsChunk_ends keeps accepted addressable positive progress) ?_
      rintro checkpoint w₁ ⟨next, progress₁, reached, fewer₁⟩
      have within : checkpoint.nextEvent ≤ events.length := by omega
      refine Ends.bind (((offsets.save key checkpoint.nextEvent).request_ends _ w₁).mono_crashed ?_) ?_
      · -- a crash at the save leaves the old offset or the new one
        rintro w₂ ⟨⟨same, same'⟩ | ⟨advanced, same⟩, fewer₂⟩
        · exact ⟨progress₁.unchanged same same', fewer₂.trans_le fewer₁⟩
        · exact ⟨(progress₁.save reached within advanced same).1, fewer₂.trans_le fewer₁⟩
      · rintro _ w₂ ⟨-, ⟨advanced, same⟩, fewer₂⟩
        obtain ⟨progress₂, here₂⟩ := progress₁.save reached within advanced same
        have further : events.length ≤ checkpoint.nextEvent + fuel := by omega
        exact (ih progress₂ here₂ further).mono_crashed fun w' ⟨progress', fewer'⟩ =>
          ⟨progress', fewer'.trans_le (fewer₂.trans fewer₁)⟩
    · exact Ends.pure (progress.caughtUp (by omega))

/-- One run from a state with progress catches up, or crashes with no less progress. -/
theorem rebuildProjectionsResumable_ends (named : key ≠ "")
    (positive : 0 < chunkSize) (progress : Progress content saved events key w) :
    Ends (rebuildProjectionsResumable codec sink checkpoints events key chunkSize) w
      (fun _ w' => CaughtUp content events w')
      fun w' => Progress content saved events key w' ∧ crashes w' < crashes w := by
  have admissible : rejectIf (key = "" ∨ chunkSize = 0)
      (RebuildError.invariant "rebuild key and chunk size must be non-empty") = .ok () := by
    rw [rejectIf_eq_ok, not_or]
    exact ⟨named, by omega⟩
  refine Ends.bind_ok admissible (Ends.bind_ok accepted ?_)
  refine Ends.bind (((offsets.load key).request_ends _ w).mono_crashed ?_) ?_
  · -- a load changes nothing, whether it crashes before or after its effect
    rintro w₁ ⟨⟨same, same'⟩ | ⟨same, same'⟩, fewer⟩
    · exact ⟨progress.unchanged same same', fewer⟩
    · exact ⟨progress.unchanged same same', fewer⟩
  · rintro stored w₁ ⟨answered, ⟨same, same'⟩, fewer⟩
    obtain rfl := offsets.loaded key w stored w₁ answered
    have progress₁ := progress.unchanged same same'
    have inRange : rejectIf (events.length < (saved w key).getD 0)
        (RebuildError.invariant "stored rebuild checkpoint exceeds event stream") = .ok () := by
      rw [rejectIf_eq_ok, not_lt]
      exact progress.within
    refine Ends.bind_ok inRange ?_
    exact (rebuildFrom_ends keeps offsets accepted addressable positive progress₁ (by rw [same])
      (by omega)).mono_crashed fun w' ⟨progress', fewer'⟩ => ⟨progress', fewer'.trans_le fewer⟩

end StateChronicle.Index
