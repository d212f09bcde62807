import StateChronicle.Index.Rebuild
import StateChronicle.Intent.Validated
import StateChronicle.Verified.BlindOverwrite

/-!
# Rebuilding what was executed

The states of a subject-held resource are recorded per holder, but the rebuild follows one chain of versions per
tenant and resource.  It returns the recorded states if every intent stays with the one slot of its resource.
-/

namespace StateChronicle.Verified

open Commit Domain Execution Foundation Index Profiles

variable {W : Type} {codec : Codec} {table : StateTable} {event : Event} {steps : List (RunStep W)}
  {latest : SortedMap (String ×ₗ String) StateProjection} {scan : StreamScan}

def committed (steps : List (RunStep W)) : List (Event × CommitId) :=
  steps.flatMap fun step => step.events.map (·, step.commitId)

def slotOf (projection : StateProjection) : StateSlot :=
  ⟨projection.tenantId, projection.resourceId, projection.state.subject⟩

/-- The rebuild of a stream succeeds and hands over, for every recorded slot, one projection with the
version, hash and state recorded there. -/
def Reproduces (codec : Codec) (events : List (Event × CommitId)) (table : StateTable) : Prop :=
  ∃ count handed, rebuildProjections codec recordingSink events [] = .ok count handed ∧
    ∀ slot projection, table.read slot = some projection →
      (handed.filter fun handed => slotOf handed = slot).map (·.commitment) = [projection.commitment]

/-- A validated intent of a built-in type, digested with the given codec and committed under a valid id. -/
structure Regular (codec : Codec) (step : RunStep W) : Prop where
  sameCodec : step.executor.codec = codec
  validated : ValidatedIntent.tryFromIntent codec.intentBytes step.intent step.validated.signature = .ok step.validated
  native : step.intent.stateType ≠ some .custom
  commitId : CommitId.new step.commitId.name = .ok step.commitId

/-- The intent is no transfer, and any slot recorded for its tenant and resource is the one it reads and
writes. -/
def KeepsToSlot (table : StateTable) (intent : Intent) : Prop :=
  ¬ Resource.isTransferOperation intent.operation ∧
    ∀ stateType, intent.stateType = some stateType → ∀ slot, (table.read slot).isSome →
      slot.tenant = intent.tenantId → slot.resource = intent.resourceId →
      slot = currentSlot table (Resource.resourceExecution stateType) intent ∧
      slot = targetSlot stateType intent
        (table.read (currentSlot table (Resource.resourceExecution stateType) intent))

/-! ## Recorded states -/

/-- Every state sits in its own slot and under its canonical digest. -/
structure Ledgered (codec : Codec) (table : StateTable) : Prop where
  slot : ∀ {slot projection}, table.read slot = some projection → slotOf projection = slot
  digest : ∀ {slot projection}, table.read slot = some projection →
    codec.digestState projection.state = .ok projection.stateHash

theorem Ledgered.write (ledgered : Ledgered codec table) (commitId : CommitId)
    (digest : codec.digestState event.after.state = .ok event.after.stateHash) :
    Ledgered codec (table.write commitId event) := by
  have each : ∀ {slot projection}, (table.write commitId event).read slot = some projection →
      (slot = writtenSlot event ∧ projectionFor commitId event = projection) ∨ table.read slot = some projection := by
    intro slot projection found
    rw [StateTable.read_write] at found
    split_ifs at found with own
    · exact .inl ⟨own, Option.some.inj found⟩
    · exact .inr found
  refine ⟨fun found => ?_, fun found => ?_⟩
  · rcases each found with ⟨rfl, rfl⟩ | earlier
    · rfl
    · exact ledgered.slot earlier
  · rcases each found with ⟨rfl, rfl⟩ | earlier
    · exact digest
    · exact ledgered.digest earlier

/-! ## Emitted events pass the validation -/

section

variable {executor : Executor W} {intent : Intent} {coordinated : Bool} (ledgered : Ledgered executor.codec table)
  (served : executor.ports.Serves table) (acceptance : executor.Acceptance intent coordinated)
  (builtin : Builtin acceptance.stateType acceptance.rules)

include ledgered served builtin

/-- The before-state of a primary event is digested and has the type of the after-state. -/
theorem before_of_acceptance :
    executor.codec.digestState acceptance.event.before.state = .ok acceptance.event.before.stateHash ∧
      acceptance.event.before.state.stateType = acceptance.stateType := by
  have typed := (admitted_of_checkLoaded acceptance.admitted).typed
  have loaded := acceptance.current_eq served
  obtain ⟨before, digested⟩ := acceptance.emitted.before_state fun projection present =>
    ledgered.digest (loaded.symm.trans present)
  refine ⟨digested, ?_⟩
  rw [builtin.executionPolicy_eq] at before
  generalize acceptance.current = current at before typed
  cases current with
  | some projection =>
    rw [← Except.ok.inj before]
    exact (typed projection rfl).2
  | none => exact Resource.stateType_of_emptyStateFor before

theorem validated_of_acceptance {commitId : CommitId} (valid : CommitId.new commitId.name = .ok commitId) :
    validateEventForRebuild executor.codec acceptance.event commitId = .ok () := by
  obtain ⟨digested, typed⟩ := before_of_acceptance ledgered served acceptance builtin
  obtain ⟨-, version, digest, state⟩ := Executor.commitments_eq_ok acceptance.emitted.committed
  rw [Executor.digestState_eq_ok, ← state] at digest
  refine validateEventForRebuild_eq_ok.mpr
    ⟨acceptance.emitted.schema, valid, version, digested, digest, ?_⟩
  rw [typed, state, acceptance.after_stateType]

end

/-! ## The rebuild follows the table -/

/-- The scan and the latest projections of a stream mirror a table with one recorded slot per tenant and
resource. -/
structure Mirrors (scan : StreamScan) (latest : SortedMap (String ×ₗ String) StateProjection)
    (table : StateTable) : Prop where
  latest_iff : ∀ tenant resource projection, latest.get? (groupKey tenant resource) = some projection ↔
    ∃ subject, table.read ⟨tenant, resource, subject⟩ = some projection
  previous : ∀ tenant resource, scan.previous.get? (groupKey tenant resource) =
    (latest.get? (groupKey tenant resource)).map fun projection => (projection.version, projection.stateHash)

/-- An event continues the mirrored chain of its resource when it is computed from, and written to, the one
slot recorded there. -/
theorem Mirrors.step {table : StateTable} (mirrors : Mirrors scan latest table) (commitId : CommitId)
    (valid : validateEventForRebuild codec event commitId = .ok ()) (tenant : event.tenantId.name ≠ "")
    (resource : event.resourceId.name ≠ "") (unmet : event.eventId ∉ scan.eventIds)
    (only : ∀ subject projection, table.read ⟨event.tenantId, event.resourceId, subject⟩ = some projection →
      event.before = projection.commitment ∧ ⟨event.tenantId, event.resourceId, subject⟩ = writtenSlot event) :
    ∃ scan' latest', scanEvent codec scan (event, commitId) = .ok scan' ∧
      recordLatest latest (event, commitId) = .ok latest' ∧ scan'.eventIds = event.eventId :: scan.eventIds ∧
      Mirrors scan' latest' (table.write commitId event) := by
  have next := (validateEventForRebuild_eq_ok.mp valid).2.2.1
  have continues : ∀ last ∈ scan.previous.get? (groupKey event.tenantId event.resourceId),
      event.before.version = last.1 ∧ event.before.stateHash = last.2 := by
    intro last found
    rw [mirrors.previous, Option.mem_def, Option.map_eq_some_iff] at found
    obtain ⟨projection, found, rfl⟩ := found
    obtain ⟨subject, stored⟩ := (mirrors.latest_iff _ _ _).mp found
    rw [(only subject projection stored).1]
    exact ⟨rfl, rfl⟩
  have newer : ∀ existing ∈ latest.get? (groupKey event.tenantId event.resourceId),
      existing.version < event.after.version := by
    intro existing found
    obtain ⟨subject, stored⟩ := (mirrors.latest_iff _ _ _).mp found
    have before : event.before.version = existing.version :=
      congrArg StateCommitment.version (only subject existing stored).1
    rw [Fin.lt_def, ← before]
    omega
  refine ⟨_, _, scanEvent_eq_ok.mpr ⟨valid, tenant, resource, unmet, continues, rfl⟩,
    recordLatest_newer commitId tenant resource newer, rfl, ⟨fun tenant' resource' projection => ?_,
      fun tenant' resource' => ?_⟩⟩
  · rw [SortedMap.get?_insert]
    by_cases own : groupKey tenant' resource' = groupKey event.tenantId event.resourceId
    · obtain ⟨rfl, rfl⟩ := groupKey_inj.mp own
      rw [if_pos rfl]
      constructor
      · rintro ⟨⟩
        exact ⟨_, StateTable.read_write_self commitId table event⟩
      · rintro ⟨subject, stored⟩
        rw [StateTable.read_write] at stored
        split_ifs at stored with written
        · exact stored
        · exact absurd (only subject projection stored).2 written
    · rw [if_neg own, mirrors.latest_iff]
      refine exists_congr fun subject => ?_
      rw [StateTable.read_write_of_ne]
      intro same
      obtain ⟨rfl, rfl, -⟩ := StateSlot.mk.inj same
      exact own rfl
  · rw [SortedMap.get?_insert, SortedMap.get?_insert]
    split
    · rfl
    · exact mirrors.previous _ _

/-- The rebuild of a run so far: both passes succeed and mirror the table. -/
structure Rebuilt (codec : Codec) (steps : List (RunStep W)) (table : StateTable) : Prop where
  ledgered : Ledgered codec table
  folded : ∃ scan latest, (committed steps).foldlM (scanEvent codec) .start = .ok scan ∧
    latestProjections (committed steps) = .ok latest ∧
    (∀ eventId ∈ scan.eventIds, eventId ∈ (committed steps).map (·.1.eventId)) ∧ Mirrors scan latest table

theorem committed_concat (steps : List (RunStep W)) (step : RunStep W) :
    committed (steps ++ [step]) = committed steps ++ step.events.map (·, step.commitId) := by
  simp [committed]

theorem rebuilt_start : Rebuilt codec ([] : List (RunStep W)) ∅ := by
  have empty (slot : StateSlot) : (∅ : StateTable).read slot = none := by simp [StateTable.read]
  refine ⟨⟨fun found => ?_, fun found => ?_⟩, .start, .empty, rfl, rfl, ?_, ?_⟩
  · rw [empty] at found
    cases found
  · rw [empty] at found
    cases found
  · intro eventId met
    cases met
  · refine ⟨fun tenant resource projection => ?_, fun tenant resource => rfl⟩
    simp [empty]

/-- A step that keeps to its slot emits at most one event, and the rebuild follows it. -/
theorem Rebuilt.step {step : RunStep W} (rebuilt : Rebuilt codec steps step.table) (accepted : step.Accepted)
    (regular : Regular codec step) (keeps : step.events ≠ [] → KeepsToSlot step.table step.intent)
    (ids : ((committed (steps ++ [step])).map (·.1.eventId)).Nodup) : Rebuilt codec (steps ++ [step]) step.result := by
  obtain rfl := regular.sameCodec
  rcases accepted.cases with replayed | ⟨acceptance, emitted⟩
  · have same : committed (steps ++ [step]) = committed steps := by
      rw [committed_concat, replayed, List.map_nil, List.append_nil]
    refine ⟨?_, ?_⟩
    · rw [RunStep.result, replayed]
      exact rebuilt.ledgered
    · rw [same, RunStep.result, replayed]
      exact rebuilt.folded
  have builtin := acceptance.builtin accepted.standard regular.native
  obtain ⟨single, only⟩ := keeps (emitted ▸ List.cons_ne_nil _ _)
  have alone : step.events = [acceptance.event] := by
    rw [← emitted, Executor.Acceptance.events, acceptance.companions_of_other builtin single]
  obtain ⟨scan, latest, scanned, collected, met, mirrors⟩ := rebuilt.folded
  have valid := validated_of_acceptance rebuilt.ledgered accepted.served acceptance builtin regular.commitId
  obtain ⟨tenant, resource⟩ := ValidatedIntent.named_of_tryFromIntent regular.validated
  rw [← acceptance.emitted.tenantId] at tenant
  rw [← acceptance.emitted.resourceId] at resource
  have ends : committed (steps ++ [step]) = committed steps ++ [(acceptance.event, step.commitId)] := by
    rw [committed_concat, alone, List.map_singleton]
  have unmet : acceptance.event.eventId ∉ scan.eventIds := by
    intro before
    rw [ends, List.map_append, List.nodup_append] at ids
    exact ids.2.2 _ (met _ before) _ (by simp) rfl
  have loaded := acceptance.current_eq accepted.served
  rw [builtin.executionPolicy_eq] at loaded
  have here : ∀ subject projection,
      step.table.read ⟨acceptance.event.tenantId, acceptance.event.resourceId, subject⟩ = some projection →
      acceptance.event.before = projection.commitment ∧
        ⟨acceptance.event.tenantId, acceptance.event.resourceId, subject⟩ = writtenSlot acceptance.event := by
    intro subject projection stored
    obtain ⟨source, target⟩ := only _ acceptance.typed _ (Option.isSome_iff_exists.mpr ⟨projection, stored⟩)
      acceptance.emitted.tenantId acceptance.emitted.resourceId
    rw [← loaded] at target
    refine ⟨?_, target.trans (writtenSlot_of_acceptance acceptance builtin).symm⟩
    rw [source, ← loaded] at stored
    have names := acceptance.emitted.names
    rwa [stored] at names
  obtain ⟨scan', latest', scans, records, met', mirrors'⟩ :=
    mirrors.step step.commitId valid tenant resource unmet here
  have result : step.result = step.table.write step.commitId acceptance.event := by
    rw [RunStep.result, alone]
    rfl
  refine ⟨?_, scan', latest', ?_, ?_, ?_, result ▸ mirrors'⟩
  · rw [result]
    exact rebuilt.ledgered.write step.commitId (validateEventForRebuild_eq_ok.mp valid).2.2.2.2.1
  · rw [ends]
    exact Except.foldlM_concat scanned scans
  · rw [ends]
    exact Except.foldlM_concat collected records
  · intro eventId member
    rw [met'] at member
    rw [ends, List.map_append, List.mem_append]
    rcases List.mem_cons.mp member with rfl | before
    · exact .inr (by simp)
    · exact .inl (met _ before)

theorem rebuilt_of_run (run : Executed ∅ steps table) (regular : ∀ step ∈ steps, Regular codec step)
    (keeps : ∀ step ∈ steps, step.events ≠ [] → KeepsToSlot step.table step.intent)
    (ids : ((committed steps).map (·.1.eventId)).Nodup) : Rebuilt codec steps table := by
  induction run with
  | start => exact rebuilt_start
  | @step steps last run accepted ih =>
    have ended := List.mem_append_right steps (List.mem_singleton_self last)
    refine Rebuilt.step ?_ accepted (regular last ended) (keeps last ended) ids
    refine ih (fun step member => regular step (List.mem_append_left _ member))
      (fun step member => keeps step (List.mem_append_left _ member)) ?_
    rw [committed_concat, List.map_append] at ids
    exact (List.nodup_append.mp ids).1

/-! ## The rebuilt projections -/

/-- Among the projections of a mirrored table, the one of a recorded slot is the recorded one. -/
theorem Mirrors.values_of_slot (mirrors : Mirrors scan latest table) (ledgered : Ledgered codec table)
    (keyed : ∀ key projection, latest.get? key = some projection →
      key = groupKey projection.tenantId projection.resourceId)
    {slot : StateSlot} {projection : StateProjection} (stored : table.read slot = some projection) :
    latest.values.filter (fun handed => slotOf handed = slot) = [projection] := by
  have found : latest.get? (groupKey slot.tenant slot.resource) = some projection :=
    (mirrors.latest_iff _ _ _).mpr ⟨slot.subject, stored⟩
  have same : latest.entries.filter (fun entry => slotOf entry.2 = slot) =
      latest.entries.filter fun entry => entry.1 = groupKey slot.tenant slot.resource := by
    refine List.filter_congr fun entry member => decide_eq_decide.mpr ?_
    have entered := SortedMap.mem_entries_iff.mp member
    constructor
    · intro own
      rw [keyed entry.1 entry.2 entered, ← own]
      rfl
    · intro own
      rw [own, found] at entered
      rw [← Option.some.inj entered]
      exact ledgered.slot stored
  rw [SortedMap.values, List.filter_map]
  change List.map Prod.snd (latest.entries.filter fun entry => slotOf entry.2 = slot) = _
  rw [same, SortedMap.filter_entries_key, found]
  rfl

/-- A run from the empty index whose intents each keep to the slot of their resource is rebuilt to the states
it recorded. -/
theorem rebuild_reproduces_run {steps : List (RunStep W)} {table : StateTable} (run : Executed ∅ steps table)
    (regular : ∀ step ∈ steps, Regular codec step)
    (keeps : ∀ step ∈ steps, step.events ≠ [] → KeepsToSlot step.table step.intent)
    (ids : ((committed steps).map (·.1.eventId)).Nodup) (addressable : (committed steps).length < 2 ^ 64) :
    Reproduces codec (committed steps) table := by
  obtain ⟨ledgered, scan, latest, scanned, collected, -, mirrors⟩ := rebuilt_of_run run regular keeps ids
  have fits : latest.entries.length < 2 ^ 64 := (length_latestProjections_le collected).trans_lt addressable
  refine ⟨⟨_, fits⟩, latest.values, rebuildProjections_recording.mpr
    ⟨⟨scan, scanned⟩, latest, collected, rfl, dif_pos fits⟩, fun slot projection stored => ?_⟩
  rw [mirrors.values_of_slot ledgered (latestProjections_keyed collected) stored]
  rfl

open Harness

def openGold (subject : String) : ValidatedIntent :=
  intent ("int_open_" ++ subject) "balance.create" "admin" gold .fungibleBalance 0
    [("balance", "5"), ("subject", subject), ("unit", "gold")]

def openings (subjects : List String) : List (RunStep Memory) := runOf .baseline ∅ .fresh (subjects.map openGold)

theorem regular_runOf {memory : Memory} {intents : List ValidatedIntent}
    (checked : ∀ validated ∈ intents, validated.intent.stateType ≠ some .custom ∧
      ValidatedIntent.tryFromIntent Harness.codec.intentBytes validated.intent validated.signature = .ok validated) :
    ∀ step ∈ runOf .baseline table memory intents, Regular Harness.codec step := by
  have named : CommitId.new commitId.name = .ok commitId := by decide +kernel
  induction intents generalizing table memory with
  | nil => exact List.forall_mem_nil _
  | cons validated rest ih =>
    rw [List.forall_mem_cons] at checked
    exact List.forall_mem_cons.mpr ⟨⟨rfl, checked.1.2, checked.1.1, named⟩, ih checked.2⟩

def creditAlice : ValidatedIntent :=
  intent "int_credit" "balance.credit" "alice" gold .fungibleBalance 1 [("amount", "3")]

def creditedRun : List (RunStep Memory) := runOf .baseline ∅ .fresh [openGold "alice", creditAlice]

/-- The credit meets the slot that the opening recorded. -/
theorem credited_opening_reproduced :
    Reproduces Harness.codec (committed creditedRun) (tableAfter ∅ creditedRun) := by
  refine rebuild_reproduces_run (executed_baseline (by decide +kernel)) (regular_runOf (by decide +kernel)) ?_
    (by decide +kernel) (by decide +kernel)
  simp only [creditedRun, runOf, List.forall_mem_cons]
  refine ⟨fun _ => ⟨by decide, fun stateType _ slot found => ?_⟩,
    fun _ => ⟨by decide, fun stateType typed slot found _ _ => ?_⟩, List.forall_mem_nil _⟩
  · simp [stepOf, StateTable.read] at found
  · cases typed
    have recorded : (stepOf .baseline ∅ .fresh (openGold "alice")).events.map writtenSlot =
        [⟨tenant, gold, some ⟨"alice"⟩⟩] := by decide +kernel
    obtain rfl : slot = ⟨tenant, gold, some ⟨"alice"⟩⟩ := by
      by_contra other
      change (((∅ : StateTable).writeAll commitId _).read slot).isSome at found
      have unwritten : ∀ event ∈ (stepOf .baseline ∅ .fresh (openGold "alice")).events, writtenSlot event ≠ slot := by
        rintro event member rfl
        exact other (List.mem_singleton.mp (recorded ▸ List.mem_map_of_mem member))
      rw [StateTable.read_writeAll_of_forall_ne _ _ unwritten] at found
      simp [StateTable.read] at found
    decide +kernel

def rebuildFailure {S α : Type} : EStateM.Result RebuildError S α → Option String
  | .error (.invariant message) _ => some message
  | _ => none

/-- Alice and Bob each get their own balance at version 1, and the rebuild takes Bob's for a break in the chain
of Alice's. -/
theorem two_openings_not_rebuilt :
    Executed ∅ (openings ["alice", "bob"]) (tableAfter ∅ (openings ["alice", "bob"])) ∧
      (∀ step ∈ openings ["alice", "bob"], Regular Harness.codec step) ∧
      ((committed (openings ["alice", "bob"])).map (·.1.eventId)).Nodup ∧
      rebuildFailure (rebuildProjections Harness.codec recordingSink (committed (openings ["alice", "bob"])) []) =
        some "event continuity mismatch for resource `currency:gold`" ∧
      ¬ Reproduces Harness.codec (committed (openings ["alice", "bob"]))
        (tableAfter ∅ (openings ["alice", "bob"])) := by
  have fails : rebuildFailure (rebuildProjections Harness.codec recordingSink
      (committed (openings ["alice", "bob"])) []) =
        some "event continuity mismatch for resource `currency:gold`" := by decide +kernel
  refine ⟨executed_baseline (by decide +kernel), regular_runOf (by decide +kernel), by decide +kernel, fails, ?_⟩
  rintro ⟨count, handed, rebuilt, -⟩
  rw [rebuilt] at fails
  cases fails

end StateChronicle.Verified
