import StateChronicle.Execution.Harness
import StateChronicle.Index.Harness
import StateChronicle.Index.Resume

/-!
# Rebuilds across crashes

However often a rebuild crashes, at a write to the sink or at the save of an offset, the restarts from the saved
offset leave the sink with what one rebuild without a crash leaves.
-/

namespace StateChronicle.Verified

open Domain Execution Foundation Index

/-- A resumable rebuild that is restarted after each crash returns at last, and leaves the content of one
uninterrupted rebuild. -/
theorem restarted_rebuild_uninterrupted {W : Type} {codec : Codec} {sink : ProjectionSink W}
    {checkpoints : CheckpointStore W} {content : W → String ×ₗ String → Option StateProjection}
    {saved : W → String → Option Nat} {crashes : W → ℕ} (keeps : KeepsHighest sink content saved crashes)
    (offsets : KeepsOffsets checkpoints saved content crashes) {events : List (Event × CommitId)} {key : String}
    {chunkSize : Nat} (accepted : validateRebuildStream codec events = .ok ())
    (addressable : events.length < 2 ^ 64) (named : key ≠ "") (positive : 0 < chunkSize) {start : W}
    (empty : ∀ group, content start group = none) (unsaved : saved start key = none) :
    ∃ count kept, rebuildProjections codec highestSink events .empty = .ok count kept ∧
      (∃ written left, Restarted (rebuildProjectionsResumable codec sink checkpoints events key chunkSize)
        start written left) ∧
      ∀ written left, Restarted (rebuildProjectionsResumable codec sink checkpoints events key chunkSize)
        start written left → content left = kept.get? := by
  have progress : Progress content saved events key start := by
    refine ⟨fun group value found => ?_, ?_, ?_⟩
    · rw [empty] at found
      cases found
    · rw [unsaved]
      exact Nat.zero_le _
    · rw [unsaved]
      exact fun entry member => absurd member List.not_mem_nil
  have each (w : W) (reached : Progress content saved events key w) :=
    rebuildProjectionsResumable_ends keeps offsets accepted addressable named positive reached
  have apart := ranksApart_of_ascending (ascending_of_validateRebuildStream accepted)
  rcases rebuildProjections_ends highestSink_keepsHighest accepted addressable SortedMap.empty with
    ⟨count, kept, rebuilt, wrote, outranks, -⟩ | ⟨-, -, -, -, crashed⟩
  · refine ⟨count, kept, rebuilt, exists_restarted each progress, fun written left restarted => ?_⟩
    obtain ⟨heldFrom', outranks'⟩ := restarted.result each (fun _ _ crashed => crashed.1) progress
    -- both contents come from the stream and have reached all of it
    have heldFrom := heldFrom_rewrites wrote.rewrites (List.Subset.refl _) fun group value found => by cases found
    exact eq_of_outranks apart heldFrom' outranks' heldFrom outranks
  · exact absurd crashed (lt_irrefl _)

open Index.Harness

inductive Fault where
  | none
  | crashBefore
  | crashAfter
deriving DecidableEq, Repr

/-- A sink and a checkpoint store on one disk, with the fate of the calls to come. -/
structure Disk where
  held : SortedMap (String ×ₗ String) StateProjection
  offsets : SortedMap String Nat
  schedule : List Fault

namespace Disk

def crashes (disk : Disk) : ℕ := disk.schedule.countP (· ≠ .none)

/-- A call on a disk with a schedule; after the schedule, calls are no longer interrupted. -/
def call {α : Type} (effect : Disk → Disk) (answer : α) (disk : Disk) : Except String α × Disk :=
  match disk.schedule with
  | [] => (.ok answer, effect disk)
  | .none :: rest => (.ok answer, effect { disk with schedule := rest })
  | .crashBefore :: rest => (.error "crashed", { disk with schedule := rest })
  | .crashAfter :: rest => (.error "crashed", effect { disk with schedule := rest })

/-- A call takes its fate off the schedule. -/
theorem call_crashable {α : Type} {effect : Disk → Disk} {unchanged takesEffect : Disk → Disk → Prop}
    (answer : Disk → α) (schedule : ∀ disk, (effect disk).schedule = disk.schedule)
    (idle : ∀ disk rest, unchanged disk { disk with schedule := rest })
    (acts : ∀ disk rest, takesEffect disk (effect { disk with schedule := rest })) :
    Crashable crashes unchanged takesEffect fun disk => call effect (answer disk) disk := by
  constructor
  · intro disk a disk' answered
    rcases planned : disk.schedule with _ | ⟨⟨⟩ | ⟨⟩ | ⟨⟩, rest⟩
    all_goals
      simp only [call, planned] at answered
      cases answered
    · exact ⟨acts disk disk.schedule, by rw [crashes, crashes, schedule]⟩
    · exact ⟨acts disk rest, by simp [crashes, schedule, planned]⟩
  · intro disk e disk' answered
    rcases planned : disk.schedule with _ | ⟨⟨⟩ | ⟨⟩ | ⟨⟩, rest⟩
    all_goals
      simp only [call, planned] at answered
      cases answered
    · exact ⟨.inl (idle disk rest), by simp [crashes, planned]⟩
    · exact ⟨.inr (acts disk rest), by simp [crashes, schedule, planned]⟩

def sink : ProjectionSink Disk where
  upsertProjection projection disk :=
    call (fun disk => { disk with held := (highestSink.upsertProjection projection disk.held).2 }) () disk

def checkpoints : CheckpointStore Disk where
  load key disk := call id (disk.offsets.get? key) disk
  save key next disk := call (fun disk => { disk with offsets := disk.offsets.insert key next }) () disk

theorem sink_keepsHighest : KeepsHighest sink (fun disk => disk.held.get?) (fun disk => disk.offsets.get?) crashes := by
  intro projection
  exact call_crashable (fun _ => ()) (fun _ => rfl) (fun _ _ => ⟨rfl, rfl⟩)
    fun disk _ => ⟨upserts_highest projection disk.held, rfl⟩

theorem checkpoints_keepsOffsets :
    KeepsOffsets checkpoints (fun disk => disk.offsets.get?) (fun disk => disk.held.get?) crashes where
  load key := call_crashable (fun disk => disk.offsets.get? key) (fun _ => rfl) (fun _ _ => ⟨rfl, rfl⟩)
    fun _ _ => ⟨rfl, rfl⟩
  loaded key disk offset disk' answered := by
    simp only [checkpoints, call] at answered
    split at answered
    all_goals
      cases answered
    · rfl
    · rfl
  save key next := by
    refine call_crashable (fun _ => ()) (fun _ => rfl) (fun _ _ => ⟨rfl, rfl⟩) fun disk _ => ⟨?_, rfl⟩
    funext other
    rw [Function.update_apply]
    exact SortedMap.get?_insert disk.offsets key next other

end Disk

def digested (version : U64) (owner : String) : StateCommitment :=
  let state := tradedAsset owner .none
  ⟨version, Core.hashBytes Sha256.sha256 (Bcs.state state), state⟩

def passedOn (asset eventId fromOwner toOwner : String) (version : U64) : Event × CommitId :=
  (.new ⟨"game"⟩ ⟨eventId⟩ ⟨"int_" ++ eventId⟩ Profiles.UniqueAsset.op.assetTransfer ⟨asset⟩ ⟨fromOwner⟩
    (digested version fromOwner) (digested (version + 1) toOwner) .none ⟨"service:ledger"⟩ 0, ⟨"cmt_" ++ eventId⟩)

def interleaved : List (Event × CommitId) :=
  [passedOn "asset:sword" "evt_1" "alice" "bob" 0, passedOn "asset:shield" "evt_2" "bob" "alice" 4,
    passedOn "asset:sword" "evt_3" "bob" "carol" 1]

/-- The first write crashes, then a write after it took effect, then a save before it did. -/
def crashedThrice : Disk :=
  ⟨.empty, .empty, [.none, .crashBefore, .none, .none, .crashAfter, .none, .none, .none, .crashBefore]⟩

theorem crashed_thrice_rebuilt :
    ∃ count kept, rebuildProjections Harness.codec highestSink interleaved .empty = .ok count kept ∧
      (∃ written left, Restarted
        (rebuildProjectionsResumable Harness.codec Disk.sink Disk.checkpoints interleaved "projections" 2)
        crashedThrice written left) ∧
      ∀ written left, Restarted
        (rebuildProjectionsResumable Harness.codec Disk.sink Disk.checkpoints interleaved "projections" 2)
        crashedThrice written left → left.held.get? = kept.get? := by
  have accepted : validateRebuildStream Harness.codec interleaved = .ok () := by decide +kernel
  exact restarted_rebuild_uninterrupted Disk.sink_keepsHighest Disk.checkpoints_keepsOffsets accepted (by decide)
    (by decide) (by decide) (fun _ => rfl) rfl

end StateChronicle.Verified
