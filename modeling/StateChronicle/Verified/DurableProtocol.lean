import StateChronicle.Commit.Persist
import StateChronicle.Execution.Harness

/-!
# The durable protocol

However the ledger answers, a request that is refused leaves it untouched, a failed transaction is closed once,
a replay writes nothing, and a committed mutation made exactly its writes, in order.
-/

namespace StateChronicle.Verified

open StateChronicle.Core Commit Domain Execution Foundation Traced

variable {W T : Type}

/-! ## Traces -/

variable {trace : LedgerTrace}

/-- Neither a commit nor a rollback was called. -/
def StaysOpen (trace : LedgerTrace) : Prop := ∀ entry ∈ trace, entry.1 ≠ .commit ∧ entry.1 ≠ .rollback

/-- The commit was attempted last and failed. -/
def CommitFailedLast (trace : LedgerTrace) : Prop := ∃ work, trace = work ++ [(.commit, false)] ∧ StaysOpen work

/-- The commit was never called, the rollback once, as the last call. -/
def RolledBackLast (trace : LedgerTrace) : Prop := ∃ work answer, trace = work ++ [(.rollback, answer)] ∧ StaysOpen work

theorem StaysOpen.append {xs ys : LedgerTrace} (first : StaysOpen xs) (second : StaysOpen ys) :
    StaysOpen (xs ++ ys) := by
  intro entry member
  rcases List.mem_append.mp member with before | after
  · exact first entry before
  · exact second entry after

theorem RolledBackLast.prepend {xs ys : LedgerTrace} (start : StaysOpen xs) (closed : RolledBackLast ys) :
    RolledBackLast (xs ++ ys) := by
  obtain ⟨work, answer, rfl, works⟩ := closed
  exact ⟨xs ++ work, answer, (List.append_assoc _ _ _).symm, start.append works⟩

theorem CommitFailedLast.prepend {xs ys : LedgerTrace} (start : StaysOpen xs) (closed : CommitFailedLast ys) :
    CommitFailedLast (xs ++ ys) := by
  obtain ⟨work, rfl, works⟩ := closed
  exact ⟨xs ++ work, (List.append_assoc _ _ _).symm, start.append works⟩

def reservingCalls (submitted : DurableCommitRequest) (tenant : TenantId) : List LedgerCall :=
  [.begin tenant, .claimIdempotency tenant submitted.intent submitted.payloadDigest]

def writingCalls (submitted : DurableCommitRequest) (tenant : TenantId) (attemptId : String) : List LedgerCall :=
  [.appendEvents submitted.events, .appendCommit submitted.commit] ++
    submitted.projections.map .upsertProjection ++ submitted.outbox.map .enqueueOutbox ++
    [.finalizeIdempotency tenant submitted.intent.intentId attemptId submitted.commit.body.commitId]

section

variable {submitted : DurableCommitRequest} {tenant : TenantId}

theorem staysOpen_reserving {trace : LedgerTrace} (calls : ∀ entry ∈ trace, entry.1 ∈ reservingCalls submitted tenant) :
    StaysOpen trace := by
  intro entry member
  have made := calls entry member
  simp only [reservingCalls, List.mem_cons, List.not_mem_nil, or_false] at made
  rcases made with made | made <;> simp [made]

theorem staysOpen_writing {attemptId : String}
    (calls : ∀ entry ∈ trace, entry.1 ∈ writingCalls submitted tenant attemptId) : StaysOpen trace := by
  intro entry member
  have made := calls entry member
  simp only [writingCalls, List.mem_append, List.mem_cons, List.mem_map, List.not_mem_nil, or_false] at made
  rcases made with (((made | made) | ⟨projection, -, made⟩) | ⟨record, -, made⟩) | made
  · simp [made]
  · simp [made]
  · simp [← made]
  · simp [← made]
  · simp [made]

end

theorem fst_mem_of_succeeding {script : List LedgerCall} {entry : LedgerCall × Bool}
    (member : entry ∈ succeeding script) : entry.1 ∈ script :=
  (mem_succeeding.mp member).1

/-- A script that failed was rolled back, if it neither commits nor rolls back itself. -/
theorem rolledBackLast_of_script {α ε : Type} {script : List LedgerCall} {e : ε}
    (opens : ∀ trace : LedgerTrace, (∀ entry ∈ trace, entry.1 ∈ script) → StaysOpen trace)
    (follows : FollowsScript (α := α) .rollback script (.error e) trace) : RolledBackLast trace := by
  obtain ⟨done, failed, answer, within, rfl⟩ := follows
  refine ⟨succeeding done ++ [(failed, false)], answer, by simp, opens _ fun entry member => ?_⟩
  rcases List.mem_append.mp member with earlier | last
  · exact within.subset (List.mem_append_left _ (fst_mem_of_succeeding earlier))
  · rw [List.mem_singleton.mp last]
    exact within.subset (List.mem_append_right _ List.mem_cons_self)

section Transaction

variable (ledger : LedgerStore W T) (submitted : DurableCommitRequest) (tenant : TenantId) (transaction : T)

theorem leaves_writeMutation (attemptId : String) :
    Leaves (FollowsScript .rollback (writingCalls submitted tenant attemptId))
      (writeMutation ledger.recorded submitted tenant transaction attemptId) := by
  have shape : writingCalls submitted tenant attemptId =
      [.appendEvents submitted.events] ++ ([.appendCommit submitted.commit] ++
        (submitted.projections.map .upsertProjection ++ (submitted.outbox.map .enqueueOutbox ++
          [.finalizeIdempotency tenant submitted.intent.intentId attemptId submitted.commit.body.commitId]))) := by
    simp [writingCalls]
  rw [shape]
  refine .script_bind (.orUndo _ _ _ _) fun _ => .script_bind (.orUndo _ _ _ _) fun _ => ?_
  refine .script_bind (.script_forM (fun projection => .orUndo _ _ _ _) _) fun _ => ?_
  exact .script_bind (.script_forM (fun record => .orUndo _ _ _ _) _) fun _ => .orUndo _ _ _ _

/-- What the calls after the claim look like, by how the mutation ends. -/
def SettledBy : Except CommitError DurablePersistResult → LedgerTrace → Prop
  | .ok (.replay _), trace => trace = [(.rollback, true)]
  | .ok (.committed commitId), trace => commitId = submitted.commit.body.commitId ∧
      ∃ attemptId, trace = succeeding (writingCalls submitted tenant attemptId ++ [.commit])
  | .error _, trace => CommitFailedLast trace ∨ RolledBackLast trace

theorem leaves_settleClaim (claim : IdempotencyClaim) :
    Leaves (SettledBy submitted tenant) (settleClaim ledger.recorded submitted tenant transaction claim) := by
  have rolledBack (answer : Bool) : RolledBackLast [(.rollback, answer)] :=
    ⟨[], answer, rfl, fun _ member => absurd member List.not_mem_nil⟩
  cases claim with
  | committed commitId => exact .request_bind (fun _ => .inr (rolledBack false)) fun _ => .pure rfl
  | inProgress attemptId lease | conflictDifferentPayload =>
    exact .request_bind (fun _ => .inr (rolledBack false)) fun _ => .throw (.inr (rolledBack true))
  | newReservation attemptId =>
    have opens : ∀ trace : LedgerTrace, (∀ entry ∈ trace, entry.1 ∈ writingCalls submitted tenant attemptId) →
        StaysOpen trace := fun _ calls => staysOpen_writing calls
    refine (leaves_writeMutation ledger submitted tenant transaction attemptId).bind
      (fun e written failed => .inr (rolledBackLast_of_script opens failed)) fun _ written done => ?_
    obtain rfl : written = succeeding _ := done
    -- All writes succeeded; what is left is the commit.
    exact .request_bind (fun e => .inl ⟨_, rfl, opens _ fun _ => fst_mem_of_succeeding⟩) fun _ =>
      .pure ⟨rfl, attemptId, (succeeding_append _ [_]).symm⟩

end Transaction

/-! ## The whole run -/

/-- What the calls of an opened mutation look like, by how it ends. -/
def OpenedBy (submitted : DurableCommitRequest) (tenant : TenantId) :
    Except CommitError DurablePersistResult → LedgerTrace → Prop
  | .ok (.replay _), trace => trace = succeeding (reservingCalls submitted tenant ++ [.rollback])
  | .ok (.committed commitId), trace => commitId = submitted.commit.body.commitId ∧ ∃ attemptId,
      trace = succeeding (reservingCalls submitted tenant ++ writingCalls submitted tenant attemptId ++ [.commit])
  | .error _, trace => trace = [(.begin tenant, false)] ∨ CommitFailedLast trace ∨ RolledBackLast trace

theorem openedBy_of_settledBy {submitted : DurableCommitRequest} {tenant : TenantId}
    {r : Except CommitError DurablePersistResult} (settled : SettledBy submitted tenant r trace) :
    OpenedBy submitted tenant r (succeeding (reservingCalls submitted tenant) ++ trace) := by
  have opens : StaysOpen (succeeding (reservingCalls submitted tenant)) :=
    staysOpen_reserving fun _ => fst_mem_of_succeeding
  cases r with
  | error e =>
    rcases settled with failed | undone
    · exact .inr (.inl (failed.prepend opens))
    · exact .inr (.inr (undone.prepend opens))
  | ok result =>
    cases result with
    | replay commitId =>
      rw [show trace = succeeding [.rollback] from settled, ← succeeding_append]
      rfl
    | committed commitId =>
      obtain ⟨same, attemptId, rfl⟩ := settled
      refine ⟨same, attemptId, ?_⟩
      rw [List.append_assoc, ← succeeding_append]

theorem leaves_persistChecked (ledger : LedgerStore W T) (submitted : DurableCommitRequest) (tenant : TenantId) :
    Leaves (OpenedBy submitted tenant) (persistChecked ledger.recorded submitted tenant) := by
  refine .request_bind (fun _ => .inl rfl) fun transaction => (Leaves.orUndo _ _ _ _).bind
    (fun e added failed => ?_) fun claim claimed done => ?_
  · have opens : ∀ trace : LedgerTrace, (∀ entry ∈ trace, entry.1 ∈
        [LedgerCall.claimIdempotency tenant submitted.intent submitted.payloadDigest]) → StaysOpen trace :=
      fun _ calls => staysOpen_reserving fun entry member => List.mem_cons_of_mem _ (calls entry member)
    have begun : StaysOpen [(LedgerCall.begin tenant, true)] :=
      @staysOpen_reserving submitted tenant _ fun entry member => by
        rw [List.mem_singleton.mp member]
        exact List.mem_cons_self
    exact .inr (.inr ((rolledBackLast_of_script opens failed).prepend begun))
  · obtain rfl : claimed = succeeding _ := done
    exact (leaves_settleClaim ledger submitted tenant transaction claim).mono fun _ _ => openedBy_of_settledBy

/-- The authorizer beside a record it does not write to. -/
def beside (authorizer : Authorizer W) : Authorizer (Traced LedgerCall W) where
  authorize context := unrecorded (authorizer.authorize context)

section Run

variable (codec : LedgerCodec) (ledger : LedgerStore W T) (authorizer : Authorizer W) (submitted : DurableCommitRequest)

theorem mirrors_checkRequest :
    Mirrors (checkRequest codec (beside authorizer) submitted) (checkRequest codec authorizer submitted) := by
  refine .bind (.liftExcept _) fun _ => .bind (.liftExcept _) fun tenant => .bind (.liftExcept _) fun _ => ?_
  refine .bind (.liftExcept _) fun _ => .bind (.request_unrecorded _ _) fun _ => ?_
  exact .bind (.liftExcept _) fun _ => .pure tenant

theorem mirrors_writeMutation (tenant : TenantId) (transaction : T) (attemptId : String) :
    Mirrors (writeMutation ledger.recorded submitted tenant transaction attemptId)
      (writeMutation ledger submitted tenant transaction attemptId) := by
  refine .bind (.orUndo _ _ _ _ _) fun _ => .bind (.orUndo _ _ _ _ _) fun _ => ?_
  refine .bind (.forM (fun projection => .orUndo _ _ _ _ _) _) fun _ => ?_
  exact .bind (.forM (fun record => .orUndo _ _ _ _ _) _) fun _ => .orUndo _ _ _ _ _

theorem mirrors_settleClaim (tenant : TenantId) (transaction : T) (claim : IdempotencyClaim) :
    Mirrors (settleClaim ledger.recorded submitted tenant transaction claim)
      (settleClaim ledger submitted tenant transaction claim) := by
  cases claim with
  | committed commitId => exact .bind (.request_recording _ _ _) fun _ => .pure _
  | inProgress attemptId lease | conflictDifferentPayload => exact .bind (.request_recording _ _ _) fun _ => .throw _
  | newReservation attemptId =>
    refine .bind (mirrors_writeMutation ledger submitted tenant transaction attemptId) fun _ => ?_
    exact .bind (.request_recording _ _ _) fun _ => .pure _

theorem mirrors_persistDurable :
    Mirrors (persistDurable codec ledger.recorded (beside authorizer) submitted)
      (persistDurable codec ledger authorizer submitted) := by
  refine .bind (mirrors_checkRequest codec authorizer submitted) fun tenant => ?_
  refine .bind (.request_recording _ _ _) fun transaction => .bind (.orUndo _ _ _ _ _) fun claim => ?_
  exact mirrors_settleClaim ledger submitted tenant transaction claim

def callTrace (w : W) : LedgerTrace :=
  (finalState (persistDurable codec ledger.recorded (beside authorizer) submitted ⟨[], w⟩)).calls

/-- Every validation of the request passes, and the authorizer agrees. -/
structure Admissible (w : W) (tenant : TenantId) : Prop where
  intent : validateDurableIntent codec submitted.intent = .ok ()
  named : commitTenant submitted.commit.body = .ok tenant
  digest : validatePayloadDigest codec submitted.intent submitted.payloadDigest = .ok ()
  scope : validateDurableScope submitted.intent submitted.principal tenant = .ok ()
  authorized : (authorizer.authorize (submitted.context tenant) w).1 = .ok ()
  sizes : validateSizes codec submitted.events submitted.commit = .ok ()
  events : validateCommittedEvents codec.toCodec submitted.entries = .ok ()
  bindings : ∀ event ∈ submitted.events, validateEventBinding submitted.intent tenant event = .ok ()
  projections : validateProjectionBindings submitted.commit.body.commitId submitted.entries
    submitted.projections = .ok ()
  projectionScopes : ∀ projection ∈ submitted.projections,
    validateProjectionScope tenant submitted.commit.body.commitId projection = .ok ()
  outbox : validateOutboxRecords codec submitted.outbox = .ok ()
  outboxScopes : ∀ record ∈ submitted.outbox,
    validateOutboxScope codec tenant submitted.commit.body.commitId record = .ok ()
  root : validateEventRoot codec submitted.events submitted.commit.body = .ok ()

theorem admissible_of_checkRequest {w w' : W} {tenant : TenantId}
    (checked : checkRequest codec authorizer submitted w = .ok tenant w') :
    Admissible codec authorizer submitted w tenant := by
  simp only [checkRequest, EStateM.bind_eq_ok, liftM_eq_liftExcept, liftExcept_eq_ok, request_eq_ok,
    EStateM.pure_apply, EStateM.Result.ok.injEq] at checked
  obtain ⟨⟨⟩, _, ⟨intent, rfl⟩, tenant, _, ⟨named, rfl⟩, ⟨⟩, _, ⟨digest, rfl⟩, ⟨⟩, _, ⟨scope, rfl⟩, ⟨⟩, w₁,
    authorized, ⟨⟩, _, ⟨contents, rfl⟩, rfl, -⟩ := checked
  simp only [validateContents, Except.bind_eq_ok, Except.forM_eq_ok] at contents
  obtain ⟨⟨⟩, sizes, ⟨⟩, events, ⟨⟩, bindings, ⟨⟩, projections, ⟨⟩, projectionScopes, ⟨⟩, outbox, ⟨⟩, outboxScopes,
    root⟩ := contents
  exact ⟨intent, named, digest, scope, congrArg Prod.fst authorized, sizes, events, bindings, projections,
    projectionScopes, outbox, outboxScopes, root⟩

theorem frames_checkRequest : Frames Traced.calls (checkRequest codec (beside authorizer) submitted) := by
  refine .bind (.liftExcept _) fun _ => .bind (.liftExcept _) fun tenant => .bind (.liftExcept _) fun _ => ?_
  refine .bind (.liftExcept _) fun _ => .bind (.request fun _ => rfl) fun _ => ?_
  exact .bind (.liftExcept _) fun _ => .pure tenant

/-- A run either ends in its checks, without a call, or opens the ledger for an admissible request. -/
theorem trace_cases (w : W) :
    (callTrace codec ledger authorizer submitted w = [] ∧
      ∃ error w', persistDurable codec ledger authorizer submitted w = .error error w') ∨
    ∃ tenant, Admissible codec authorizer submitted w tenant ∧
      OpenedBy submitted tenant (outcome (persistDurable codec ledger authorizer submitted w))
        (callTrace codec ledger authorizer submitted w) := by
  let start : Traced LedgerCall W := ⟨[], w⟩
  have mirrored := mirrors_checkRequest codec authorizer submitted start
  have silent := frames_checkRequest codec authorizer submitted start
  cases ran : checkRequest codec (beside authorizer) submitted start with
  | error e s₁ =>
    rw [ran] at mirrored silent
    refine .inl ⟨?_, e, s₁.state, EStateM.bind_apply_of_error mirrored.symm⟩
    rw [callTrace, show persistDurable codec ledger.recorded (beside authorizer) submitted start = .error e s₁ from
      EStateM.bind_apply_of_error ran]
    exact silent
  | ok tenant s₁ =>
    rw [ran] at mirrored silent
    refine .inr ⟨tenant, admissible_of_checkRequest codec authorizer submitted mirrored.symm, ?_⟩
    obtain ⟨added, calls, opened⟩ := leaves_persistChecked ledger submitted tenant s₁
    have whole : persistDurable codec ledger.recorded (beside authorizer) submitted start =
        persistChecked ledger.recorded submitted tenant s₁ := EStateM.bind_apply_of_ok ran
    have trace : callTrace codec ledger authorizer submitted w = added := by
      rw [callTrace, whole, calls, show s₁.calls = [] from silent, List.nil_append]
    rw [trace, ← (mirrors_persistDurable codec ledger authorizer submitted).outcome_eq start, whole]
    exact opened

/-- The protocol of durable persistence.  A request that some validation or the authorizer refuses never touches the
ledger.  An error after the transaction was begun leaves it closed: the commit was attempted last and failed, or it
was never called and the one rollback is the last call.  A replay reserves and rolls back.  A committed mutation has
made all its calls, in order and with success. -/
theorem durable_protocol (w : W) :
    ((¬ ∃ tenant, Admissible codec authorizer submitted w tenant) →
      callTrace codec ledger authorizer submitted w = [] ∧
        ∃ error w', persistDurable codec ledger authorizer submitted w = .error error w') ∧
    (∀ error w', persistDurable codec ledger authorizer submitted w = .error error w' →
      (∃ tenant, (.begin tenant, true) ∈ callTrace codec ledger authorizer submitted w) →
      CommitFailedLast (callTrace codec ledger authorizer submitted w) ∨
        RolledBackLast (callTrace codec ledger authorizer submitted w)) ∧
    (∀ commitId w', persistDurable codec ledger authorizer submitted w = .ok (.replay commitId) w' →
      ∃ tenant, commitTenant submitted.commit.body = .ok tenant ∧
        callTrace codec ledger authorizer submitted w =
          succeeding (reservingCalls submitted tenant ++ [.rollback])) ∧
    (∀ commitId w', persistDurable codec ledger authorizer submitted w = .ok (.committed commitId) w' →
      commitId = submitted.commit.body.commitId ∧
      ∃ tenant attemptId, commitTenant submitted.commit.body = .ok tenant ∧
        callTrace codec ledger authorizer submitted w = succeeding
          (reservingCalls submitted tenant ++ writingCalls submitted tenant attemptId ++ [.commit])) := by
  have cases := trace_cases codec ledger authorizer submitted w
  refine ⟨fun refused => ?_, fun error w' fails begun => ?_, fun commitId w' returns => ?_,
    fun commitId w' returns => ?_⟩
  · rcases cases with stopped | ⟨tenant, passed, -⟩
    · exact stopped
    · exact absurd ⟨tenant, passed⟩ refused
  · obtain ⟨tenant, noted⟩ := begun
    rcases cases with ⟨none, -⟩ | ⟨_, -, opened⟩
    · rw [none] at noted
      cases noted
    · rw [fails] at opened
      rcases opened with refused | closed
      · -- The ledger refused to begin: no transaction is open.
        rw [refused] at noted
        cases List.mem_singleton.mp noted
      · exact closed
  · rcases cases with ⟨-, error, w'', fails⟩ | ⟨tenant, passed, opened⟩
    · rw [returns] at fails
      cases fails
    · rw [returns] at opened
      exact ⟨tenant, passed.named, opened⟩
  · rcases cases with ⟨-, error, w'', fails⟩ | ⟨tenant, passed, opened⟩
    · rw [returns] at fails
      cases fails
    · rw [returns] at opened
      obtain ⟨same, attemptId, trace⟩ := opened
      exact ⟨same, tenant, attemptId, passed.named, trace⟩

end Run

open Harness

def transferEvent : Event :=
  let held (version : U64) (owner : String) : StateCommitment :=
    let state := ResourceState.uniqueAsset ⟨⟨owner⟩, ⟨"active"⟩, none⟩
    ⟨version, hashBytes Sha256.sha256 (Bcs.state state), state⟩
  .new tenant ⟨"evt_1"⟩ ⟨"int_1"⟩ ⟨"asset.transfer"⟩ sword ⟨"alice"⟩ (held 1 "alice") (held 2 "bob") none
    ⟨"service:executor"⟩ fixedNow

def transferIntent : Intent :=
  (intent "int_1" "asset.transfer" "alice" sword .uniqueAsset 1 [("to_owner", "bob")]).intent

def ledgerCodec : LedgerCodec where
  toCodec := Harness.codec
  eventBytes event := .ok (Bcs.event (fun _ => "2026-07-16T00:00:00Z") event)
  commitBytes commit := .ok (Bcs.commit (fun _ => "2026-07-16T00:00:00Z") commit.body ++
    Bcs.signatureBlock commit.signature)

def transferRoot : ContentDigest :=
  ⟨eventLeafHash Sha256.sha256 (Sha256.sha256 (Bcs.event (fun _ => "2026-07-16T00:00:00Z") transferEvent))⟩

def transferCommit : Domain.Commit :=
  .new (.tenant tenant) ⟨"cmt_1"⟩ none 1 1 transferRoot allowedDigest allowedDigest fixedNow
    ⟨"service:executor"⟩ ⟨"unique_asset"⟩

def transferRequest : DurableCommitRequest where
  principal := ⟨⟨"alice"⟩, "session_alice", tenant⟩
  intent := transferIntent
  payloadDigest := hashBytes Sha256.sha256 (intentBytes transferIntent)
  entries := [⟨transferEvent, .uniqueAsset⟩]
  commit := ⟨transferCommit, ⟨.ed25519, "key_commit", []⟩⟩
  projections := projectionsFor ⟨"cmt_1"⟩ [⟨transferEvent, .uniqueAsset⟩]
  outbox := []

def willing : LedgerStore Unit Unit where
  begin _ w := (.ok (), w)
  claimIdempotency _ _ _ _ w := (.ok (.newReservation "att_1"), w)
  appendEvents _ _ w := (.ok (), w)
  appendCommit _ _ w := (.ok (), w)
  upsertProjection _ _ w := (.ok (), w)
  enqueueOutbox _ _ w := (.ok (), w)
  finalizeIdempotency _ _ _ _ _ w := (.ok (), w)
  commit _ w := (.ok (), w)
  rollback _ w := (.ok (), w)

def anyone : Authorizer Unit := ⟨fun _ w => (.ok (), w)⟩

/-- The transfer is committed with all its writes. -/
theorem transfer_written : ∃ attemptId,
    callTrace ledgerCodec willing anyone transferRequest () = succeeding (reservingCalls transferRequest tenant ++
      writingCalls transferRequest tenant attemptId ++ [.commit]) := by
  have committed : outcome (persistDurable ledgerCodec willing anyone transferRequest ()) =
      .ok (.committed ⟨"cmt_1"⟩) := by decide +kernel
  obtain ⟨-, -, -, written⟩ := durable_protocol ledgerCodec willing anyone transferRequest ()
  cases ran : persistDurable ledgerCodec willing anyone transferRequest () with
  | error error w' =>
    rw [ran] at committed
    cases committed
  | ok result w' =>
    rw [ran] at committed
    cases committed
    obtain ⟨-, named, attemptId, same, trace⟩ := written _ w' ran
    cases same
    exact ⟨attemptId, trace⟩

end StateChronicle.Verified
