import StateChronicle.Commit.Builder
import StateChronicle.Verified.EventRoots
import StateChronicle.Verified.StateRoots

/-!
# Chains of commits

Each commit of a chain is built on the updates of the commits before it.  Sorting the updates by key keeps the writes
of one key in their order, so every root is the root of the last writes so far, and the continuity check accepts every
step.
-/

namespace StateChronicle.Verified

open StateChronicle.Core Accumulator Commit Domain Foundation

variable {sha256 : List UInt8 → Hash} {eventBytes : Event → Option (List UInt8)}

/-! ## Updates with the same writes -/

variable {priorUpdates updates updates' : List StateUpdate}

/-- Under every key the two lists write the same digests in the same order. -/
def SameWrites (updates updates' : List StateUpdate) : Prop :=
  ∀ key : StateKey, updates.filter (·.key = key) = updates'.filter (·.key = key)

theorem sameWrites_sortUpdates (updates : List StateUpdate) : SameWrites (sortUpdates updates) updates :=
  fun key => filter_insertionSort StateUpdate.key updateOrder (fun _ _ => Iff.rfl) key updates

theorem SameWrites.append {first first' second second' : List StateUpdate} (left : SameWrites first first')
    (right : SameWrites second second') : SameWrites (first ++ second) (first' ++ second') := by
  intro key
  rw [List.filter_append, List.filter_append, left key, right key]

def treeOf (sha256 : List UInt8 → Hash) (updates : List StateUpdate) : StateAccumulator :=
  (StateAccumulator.empty.insertBatch sha256 updates).1

theorem SameWrites.treeOf_eq (same : SameWrites updates updates') : treeOf sha256 updates = treeOf sha256 updates' := by
  refine congrArg StateAccumulator.mk (SortedMap.ext_get? fun key => ?_)
  have first := get?_insertBatch sha256 .empty updates key
  have second := get?_insertBatch sha256 .empty updates' key
  rw [find?_reverse_of_filter_eq (same key)] at first
  exact first.trans second.symm

def rootAfter (sha256 : List UInt8 → Hash) (updates : List StateUpdate) : ContentDigest :=
  ⟨(computeStateRoot sha256 updates).bytes⟩

theorem SameWrites.rootAfter_eq (same : SameWrites updates updates') :
    rootAfter sha256 updates = rootAfter sha256 updates' := by
  have trees : treeOf sha256 updates = treeOf sha256 updates' := same.treeOf_eq
  exact congrArg (fun tree : StateAccumulator => (⟨(tree.root sha256).bytes⟩ : ContentDigest)) trees

/-! ## The updates of events -/

/-- The update an event stands for. -/
def writtenUpdate (sha256 : List UInt8 → Hash) (event : Event) : StateUpdate :=
  ⟨(writtenSlot event).key sha256, event.after.stateHash.bytes⟩

theorem stateRootUpdates_eq_ok {events : List Event} :
    stateRootUpdates sha256 events = .ok updates ↔
      events ≠ [] ∧ sortUpdates (events.map (writtenUpdate sha256)) = updates := by
  have each (event : Event) : stateUpdate sha256 event = .ok (writtenUpdate sha256 event) := by
    rw [stateUpdate, inferStateKey_eq_key_writtenSlot]
    rfl
  have all : events.mapM (stateUpdate sha256) = .ok (events.map (writtenUpdate sha256)) := by
    rw [Except.mapM_eq_ok, List.forall₂_map_right_iff]
    exact List.forall₂_same.mpr fun event _ => each event
  simp only [stateRootUpdates, Except.bind_eq_ok, rejectIf_eq_ok, exists_const, all, Except.pure_eq_ok,
    Except.ok.injEq, exists_eq_left']

/-! ## Chains -/

/-- What is asked of the builder for one commit. -/
structure CommitRequest where
  builder : CommitBuilder
  batch : CommitBatch
  nextCommitId : Except CommitError CommitId

/-- One commit of a chain with the updates it was built from. -/
structure ChainStep where
  priorUpdates : List StateUpdate
  currentUpdates : List StateUpdate
  commit : Domain.Commit
deriving DecidableEq, Repr

variable {request : CommitRequest} {steps : List ChainStep} {requests : List CommitRequest}

/-- Builds commits one on top of the other: every build receives the updates of all earlier batches and
the state root of the commit before it. -/
def buildChain (sha256 : List UInt8 → Hash) (eventBytes : Event → Option (List UInt8)) :
    ContentDigest → List StateUpdate → List CommitRequest → Except CommitError (List ChainStep)
  | _, _, [] => .ok []
  | previousStateRoot, priorUpdates, request :: rest => do
    let commit ← request.builder.build sha256 eventBytes request.batch previousStateRoot priorUpdates
      request.nextCommitId
    let currentUpdates ← stateRootUpdates sha256 request.batch.events
    let later ← buildChain sha256 eventBytes commit.nextStateRoot (priorUpdates ++ currentUpdates) rest
    return ⟨priorUpdates, currentUpdates, commit⟩ :: later

/-- A chain from the empty tree. -/
def buildFromGenesis (sha256 : List UInt8 → Hash) (eventBytes : Event → Option (List UInt8)) :
    List CommitRequest → Except CommitError (List ChainStep) :=
  buildChain sha256 eventBytes ⟨StateRoot.empty.bytes⟩ []

def chainEvents (requests : List CommitRequest) : List Event := requests.flatMap (·.batch.events)

def headRoot (start : ContentDigest) (steps : List ChainStep) : ContentDigest :=
  steps.foldl (fun _ step => step.commit.nextStateRoot) start

theorem headRoot_of_getLast? {last : ChainStep} (isLast : last ∈ steps.getLast?) (start : ContentDigest) :
    headRoot start steps = last.commit.nextStateRoot := by
  obtain ⟨earlier, rfl⟩ := List.getLast?_eq_some_iff.mp isLast
  rw [headRoot, List.foldl_append]
  rfl

/-- The after-state hash of the last event that wrote a key. -/
def lastWritten (sha256 : List UInt8 → Hash) (events : List Event) (key : StateKey) : Option Hash :=
  (events.reverse.find? fun event => inferStateKey sha256 event = .ok key).map (·.after.stateHash.bytes)

theorem get?_treeOf (events : List Event) (key : StateKey) :
    (treeOf sha256 (events.map (writtenUpdate sha256))).leaves.get? key = lastWritten sha256 events key := by
  have keyed : ((fun update : StateUpdate => decide (update.key = key)) ∘ writtenUpdate sha256) =
      fun event => decide (inferStateKey sha256 event = .ok key) := by
    funext event
    refine decide_eq_decide.mpr ?_
    rw [inferStateKey_eq_key_writtenSlot, Except.ok.injEq]
    rfl
  have inserted := get?_insertBatch sha256 .empty (events.map (writtenUpdate sha256)) key
  rw [treeOf, inserted, ← List.map_reverse, List.find?_map, keyed, Option.map_map]
  exact Option.or_none

theorem verifyStateRootContinuity_eq_ok {previousStateRoot declaredNextStateRoot : ContentDigest}
    {currentUpdates : List StateUpdate} {u : Unit} :
    verifyStateRootContinuity sha256 previousStateRoot priorUpdates currentUpdates declaredNextStateRoot = .ok u ↔
      rootAfter sha256 priorUpdates = previousStateRoot ∧
      rootAfter sha256 (sortUpdates (priorUpdates ++ currentUpdates)) = declaredNextStateRoot := by
  simp only [verifyStateRootContinuity, checkStateRoot, Except.bind_eq_ok, rejectIf_eq_ok, exists_const,
    ne_eq, not_not, rootAfter]

theorem genesis_rootAfter (sha256 : List UInt8 → Hash) :
    (⟨StateRoot.empty.bytes⟩ : ContentDigest) = rootAfter sha256 [] := by
  have bare : StateAccumulator.empty.computeRoot sha256 = defaultHash treeDepth := by
    rw [StateAccumulator.computeRoot]
    exact nodeHash_nil treeDepth
  exact congrArg ContentDigest.mk bare.symm

/-- One build: the step is continuous, and the new root is the root of all updates so far. -/
theorem build_step {commit : Domain.Commit}
    (built : request.builder.build sha256 eventBytes request.batch (rootAfter sha256 priorUpdates) priorUpdates
      request.nextCommitId = .ok commit) :
    ∃ currentUpdates, stateRootUpdates sha256 request.batch.events = .ok currentUpdates ∧
      verifyStateRootContinuity sha256 commit.previousStateRoot priorUpdates currentUpdates
        commit.nextStateRoot = .ok () ∧
      commit.nextStateRoot = rootAfter sha256 (priorUpdates ++ currentUpdates) := by
  obtain ⟨currentUpdates, derived, previous, next⟩ := CommitBuilder.roots_of_build _ _ built
  refine ⟨currentUpdates, derived, ?_, next.trans (sameWrites_sortUpdates _).rootAfter_eq⟩
  exact verifyStateRootContinuity_eq_ok.mpr ⟨previous.symm, next.symm⟩

/-- A chain built on some updates: every step is continuous, and the last root is that of the updates
followed by the writes of the chain's events. -/
theorem buildChain_continuous
    (built : buildChain sha256 eventBytes (rootAfter sha256 priorUpdates) priorUpdates requests = .ok steps) :
    (∀ step ∈ steps, verifyStateRootContinuity sha256 step.commit.previousStateRoot step.priorUpdates
      step.currentUpdates step.commit.nextStateRoot = .ok ()) ∧
    headRoot (rootAfter sha256 priorUpdates) steps =
      rootAfter sha256 (priorUpdates ++ (chainEvents requests).map (writtenUpdate sha256)) := by
  induction requests generalizing priorUpdates steps with
  | nil =>
    cases built
    simp [headRoot, chainEvents]
  | cons request rest ih =>
    simp only [buildChain, Except.bind_eq_ok, Except.pure_eq_ok] at built
    obtain ⟨commit, first, currentUpdates, derived, later, others, rfl⟩ := built
    obtain ⟨_, derived', continuous, next⟩ := build_step first
    obtain rfl := Except.ok.inj (derived.symm.trans derived')
    rw [next] at others
    obtain ⟨continuousLater, lastRoot⟩ := ih others
    -- The updates of the batch write what its events write, in the same order under every key.
    have writes : SameWrites currentUpdates (request.batch.events.map (writtenUpdate sha256)) := by
      obtain ⟨_, rfl⟩ := stateRootUpdates_eq_ok.mp derived
      exact sameWrites_sortUpdates _
    have joined (tail : List StateUpdate) : rootAfter sha256 (priorUpdates ++ currentUpdates ++ tail) =
        rootAfter sha256 (priorUpdates ++ (request.batch.events.map (writtenUpdate sha256) ++ tail)) := by
      rw [← List.append_assoc]
      exact SameWrites.rootAfter_eq (.append (.append (fun _ => rfl) writes) fun _ => rfl)
    refine ⟨List.forall_mem_cons.mpr ⟨continuous, continuousLater⟩, ?_⟩
    rw [chainEvents, List.flatMap_cons, List.map_append, ← joined, headRoot, List.foldl_cons, next]
    exact lastRoot

/-- Every step of a chain from the empty tree passes the continuity check, and the last state root is the
root of the map from each key to what the last event that wrote the key left there. -/
theorem chain_commits_last_writes {requests : List CommitRequest} {steps : List ChainStep}
    (built : buildFromGenesis sha256 eventBytes requests = .ok steps) :
    (∀ step ∈ steps, verifyStateRootContinuity sha256 step.commit.previousStateRoot step.priorUpdates
      step.currentUpdates step.commit.nextStateRoot = .ok ()) ∧
    ∀ last ∈ steps.getLast?, ∃ tree : StateAccumulator,
      (∀ key, tree.leaves.get? key = lastWritten sha256 (chainEvents requests) key) ∧
      last.commit.nextStateRoot = ⟨(tree.root sha256).bytes⟩ := by
  rw [buildFromGenesis, genesis_rootAfter sha256] at built
  obtain ⟨continuous, finalRoot⟩ := buildChain_continuous built
  refine ⟨continuous, fun last isLast => ⟨treeOf sha256 ((chainEvents requests).map (writtenUpdate sha256)), ?_, ?_⟩⟩
  · exact fun key => get?_treeOf (chainEvents requests) key
  · rw [← headRoot_of_getLast? isLast, finalRoot]
    rfl

/-! ## Builds that succeed -/

theorem encoded_of_validate {batch : CommitBatch} (valid : batch.validate eventBytes = .ok ()) :
    batch.events ≠ [] ∧ batch.events.map eventBytes = (batch.events.filterMap eventBytes).map some := by
  simp only [CommitBatch.validate, Except.bind_eq_ok, rejectIf_eq_ok, exists_const] at valid
  obtain ⟨nonempty, total, summed, _⟩ := valid
  refine ⟨nonempty, ?_⟩
  refine Except.foldlM_induct (fun done _ => done.map eventBytes = (done.filterMap eventBytes).map some) ?_ rfl summed
  intro done event sum sum' encoded added
  simp only [CommitBatch.addLength, canonicalize, Except.bind_eq_ok, Except.mapError_eq_ok, okOr_eq_ok] at added
  obtain ⟨bytes, serialized, _⟩ := added
  simp [encoded, serialized]

/-- The builder has all its fields, the batch is valid and there is a commit id. -/
structure Buildable (eventBytes : Event → Option (List UInt8)) (request : CommitRequest) : Prop where
  scope : request.builder.scope.isSome
  executor : request.builder.executor.isSome
  profile : request.builder.profile.isSome
  createdAt : request.builder.createdAt.isSome
  valid : request.batch.validate eventBytes = .ok ()
  countable : request.batch.events.length < 2 ^ 64
  commitId : ∃ commitId, request.nextCommitId = .ok commitId

theorem Buildable.exists_build (buildable : Buildable eventBytes request) (previousStateRoot : ContentDigest)
    (priorUpdates : List StateUpdate) :
    ∃ commit, request.builder.build sha256 eventBytes request.batch previousStateRoot priorUpdates
      request.nextCommitId = .ok commit := by
  obtain ⟨nonempty, encoded⟩ := encoded_of_validate buildable.valid
  obtain ⟨root, rooted⟩ : ∃ root, eventRoot sha256 eventBytes request.batch.events = .ok root :=
    exists_eventRoot nonempty encoded
  have updated : stateRootUpdates sha256 request.batch.events =
      .ok (sortUpdates (request.batch.events.map (writtenUpdate sha256))) :=
    stateRootUpdates_eq_ok.mpr ⟨nonempty, rfl⟩
  obtain ⟨scope, isScope⟩ := Option.isSome_iff_exists.mp buildable.scope
  obtain ⟨executor, isExecutor⟩ := Option.isSome_iff_exists.mp buildable.executor
  obtain ⟨profile, isProfile⟩ := Option.isSome_iff_exists.mp buildable.profile
  obtain ⟨createdAt, isCreatedAt⟩ := Option.isSome_iff_exists.mp buildable.createdAt
  obtain ⟨commitId, isCommitId⟩ := buildable.commitId
  simp only [CommitBuilder.build, isScope, isExecutor, isProfile, isCreatedAt, isCommitId, okOr_some,
    buildable.valid, rooted, updated, CommitBuilder.countEvents, dif_pos buildable.countable]
  exact ⟨_, rfl⟩

theorem exists_buildChain (buildable : ∀ request ∈ requests, Buildable eventBytes request)
    (previousStateRoot : ContentDigest) (priorUpdates : List StateUpdate) :
    ∃ steps, buildChain sha256 eventBytes previousStateRoot priorUpdates requests = .ok steps ∧
      steps.length = requests.length := by
  induction requests generalizing previousStateRoot priorUpdates with
  | nil => exact ⟨[], rfl, rfl⟩
  | cons request rest ih =>
    obtain ⟨first, others⟩ := List.forall_mem_cons.mp buildable
    obtain ⟨commit, built⟩ := @Buildable.exists_build sha256 _ _ first previousStateRoot priorUpdates
    obtain ⟨currentUpdates, derived, _, _⟩ := CommitBuilder.roots_of_build _ _ built
    obtain ⟨steps, chained, counted⟩ :=
      ih others commit.nextStateRoot (priorUpdates ++ currentUpdates)
    refine ⟨⟨priorUpdates, currentUpdates, commit⟩ :: steps, ?_, congrArg (· + 1) counted⟩
    simp only [buildChain, Except.bind_eq_ok, Except.pure_eq_ok]
    exact ⟨commit, built, currentUpdates, derived, steps, chained, rfl⟩

def resold : Event :=
  { ownerEvent "sword" "bob" with
    eventId := ⟨"evt_sword_resold"⟩
    intentId := ⟨"int_sword_resold"⟩
    actor := ⟨"alice"⟩
    before := assetCommitment 42 "alice"
    after := assetCommitment 43 "bob" }

def tenantBuilder (sequence : U64) (parent : Option CommitId) : CommitBuilder where
  scope := some (.tenant ⟨"acme.game.alpha"⟩)
  sequence := sequence
  executor := some ⟨"service:statechronicle.example.net"⟩
  profile := some ⟨"baseline"⟩
  createdAt := some 1783987201
  parentCommitId := parent

def transferBatch (event : Event) : CommitBatch := ⟨.tenant ⟨"acme.game.alpha"⟩, [event]⟩

def saleChain : List CommitRequest :=
  [⟨tenantBuilder 0 none, transferBatch (ownerEvent "sword" "alice"), .ok ⟨"cmt_1"⟩⟩,
    ⟨tenantBuilder 1 (some ⟨"cmt_1"⟩), transferBatch resold, .ok ⟨"cmt_2"⟩⟩]

theorem saleChain_buildable : ∀ request ∈ saleChain, Buildable ownerEventBytes request := by
  have valid : (transferBatch (ownerEvent "sword" "alice")).validate ownerEventBytes = .ok () := by decide +kernel
  have validResold : (transferBatch resold).validate ownerEventBytes = .ok () := by decide +kernel
  refine List.forall_mem_cons.mpr ⟨?_, List.forall_mem_singleton.mpr ?_⟩
  · exact ⟨rfl, rfl, rfl, rfl, valid, by decide, _, rfl⟩
  · exact ⟨rfl, rfl, rfl, rfl, validResold, by decide, _, rfl⟩

theorem sale_chain_continuous : ∃ first second,
    buildFromGenesis Sha256.sha256 ownerEventBytes saleChain = .ok [first, second] ∧
    verifyStateRootContinuity Sha256.sha256 second.commit.previousStateRoot second.priorUpdates
      second.currentUpdates second.commit.nextStateRoot = .ok () ∧
    ∃ tree : StateAccumulator,
      (∀ key, tree.leaves.get? key = lastWritten Sha256.sha256 [ownerEvent "sword" "alice", resold] key) ∧
      second.commit.nextStateRoot = ⟨(tree.root Sha256.sha256).bytes⟩ := by
  obtain ⟨steps, built, counted⟩ : ∃ steps, buildFromGenesis Sha256.sha256 ownerEventBytes saleChain = .ok steps ∧
      steps.length = 2 := exists_buildChain saleChain_buildable _ _
  obtain ⟨first, second, rfl⟩ := List.length_eq_two.mp counted
  obtain ⟨continuous, lastRoot⟩ := chain_commits_last_writes built
  exact ⟨first, second, built, continuous second (by simp), lastRoot second rfl⟩

end StateChronicle.Verified
