import Mathlib.Algebra.BigOperators.Group.List.Basic
import StateChronicle.Foundation.Sections
import StateChronicle.Verified.OutboxDispatch

/-!
# Reports of the outbox worker

A tick that fails after it has completed rows is counted as a transient error only.  So the report of a worker is
exact when the ticks that failed had completed none.
-/

namespace StateChronicle.Verified

open Foundation Outbox

variable {W : Type}

/-! ## Ticks of a trace -/

/-- The call opens a tick. -/
def opensTick : OutboxCall × Bool → Bool
  | (.claim _ _ _, _) => true
  | _ => false

/-- The calls of a run, tick by tick. -/
def ticksOf (trace : OutboxTrace) : List OutboxTrace := (Sections.cut opensTick trace).2

/-- The last call of the tick failed. -/
def stopped (tick : OutboxTrace) : Bool := tick.getLast?.any fun entry => !entry.2

theorem stopped_append {xs ys : OutboxTrace} (nonempty : ys ≠ []) : stopped (xs ++ ys) = stopped ys := by
  rw [stopped, stopped, List.getLast?_append_of_ne_nil _ nonempty]

section Shapes

variable {sha256 : List UInt8 → Vector UInt8 32} {workerId : String} {poisonPolicy : PoisonPolicy} {limit : ℕ}
  {leaseUntilUnix : ℤ}

theorem Completion.closed_calls (completion : Completion) (workerId : String) (row : OutboxRow) :
    ∀ entry ∈ completion.calls workerId row, opensTick entry = false := by
  cases completion <;> simp [Completion.calls, opensTick]

theorem Completion.stopped_calls (completion : Completion) (workerId : String) (row : OutboxRow) :
    completion.calls workerId row ≠ [] ∧ stopped (completion.calls workerId row) = false := by
  cases completion <;> simp [Completion.calls, stopped]

theorem closed_completedCalls (done : List (OutboxRow × Completion)) :
    ∀ entry ∈ completedCalls workerId done, opensTick entry = false := by
  intro entry member
  obtain ⟨completed, -, call⟩ := List.mem_flatMap.mp member
  exact completed.2.closed_calls workerId completed.1 entry call

section

variable {row : OutboxRow} {error : OutboxError} {last : OutboxTrace}
  (interrupted : Interrupted sha256 workerId poisonPolicy row error last)

include interrupted

theorem Interrupted.closed : ∀ entry ∈ last, opensTick entry = false := by
  cases interrupted <;> simp [opensTick]

/-- A row that could not be completed ends with a failed call, unless it was handed back for its digest. -/
theorem Interrupted.stopped (retryable : error.isRetryable = true) : last ≠ [] ∧ Verified.stopped last = true := by
  cases interrupted with
  | returned poisoned policy => cases retryable
  | _ => simp [Verified.stopped]

end

theorem tally_completedCalls_append (done : List (OutboxRow × Completion)) (rest : OutboxTrace) :
    tally (completedCalls workerId done ++ rest) = tally (completedCalls workerId done) + tally rest := by
  induction done with
  | nil => exact (zero_add _).symm
  | cons entry done ih =>
    have first : completedCalls workerId (entry :: done) =
        entry.2.calls workerId entry.1 ++ completedCalls workerId done := rfl
    rw [first, List.append_assoc, tally_calls, tally_calls, ih, add_assoc]

theorem stopped_completedCalls (claim : OutboxCall) (done : List (OutboxRow × Completion)) :
    stopped ((claim, true) :: completedCalls workerId done) = false := by
  rcases List.eq_nil_or_concat done with rfl | ⟨before, last, rfl⟩
  · rfl
  · obtain ⟨nonempty, succeeded⟩ := last.2.stopped_calls workerId last.1
    have ending : (claim, true) :: completedCalls workerId (before ++ [last]) =
        ((claim, true) :: completedCalls workerId before) ++ last.2.calls workerId last.1 := by
      simp [completedCalls]
    rw [List.concat_eq_append, ending, stopped_append nonempty, succeeded]

/-- What the calls of a tick show. -/
structure IsTick (r : Except OutboxError DispatchReport) (calls : OutboxTrace) : Prop where
  isSection : Sections.IsSection opensTick calls
  tally_append : ∀ rest, tally (calls ++ rest) = tally calls + tally rest
  returned : ∀ report, r = .ok report → stopped calls = false ∧ report = (tally calls).report
  failed : ∀ error, r = .error error → error.isRetryable = true → stopped calls = true

theorem isTick_of_dispatched {r : Except OutboxError DispatchReport} {calls : OutboxTrace}
    (dispatched : Dispatched sha256 workerId poisonPolicy limit leaseUntilUnix r calls) : IsTick r calls := by
  rcases dispatched with ⟨error, rfl, rfl⟩ | ⟨rows, after, rfl, left⟩
  · refine ⟨⟨_, [], rfl, rfl, List.forall_mem_nil _⟩, fun rest => ?_, fun _ impossible => ?_, fun _ _ _ => rfl⟩
    · exact (tally_claim _ _ _ _ _).trans (zero_add _).symm
    · cases impossible
  · cases r with
    | ok report =>
      obtain ⟨done, -, -, rfl, rfl⟩ := left
      refine ⟨⟨_, _, rfl, rfl, closed_completedCalls done⟩, fun rest => ?_, fun report returns => ?_,
        fun _ impossible => ?_⟩
      · rw [List.cons_append, tally_claim, tally_claim, tally_completedCalls_append]
      · rw [← Except.ok.inj returns, tally_claim, Tally.default_add_report]
        exact ⟨stopped_completedCalls _ done, rfl⟩
      · cases impossible
    | error error =>
      obtain ⟨done, row, rest, last, -, -, rfl, interrupted⟩ := left
      refine ⟨⟨_, _, rfl, rfl, List.forall_mem_append.mpr ⟨closed_completedCalls done, interrupted.closed⟩⟩,
        fun others => ?_, fun _ impossible => ?_, fun error' fails retryable => ?_⟩
      · have unfinished := tally_interrupted interrupted []
        rw [List.append_nil] at unfinished
        rw [List.cons_append, tally_claim, tally_claim, List.append_assoc, tally_completedCalls_append,
          tally_completedCalls_append, tally_interrupted interrupted, unfinished]
        exact congrArg (· + tally others) (add_zero _).symm
      · cases impossible
      · obtain rfl := Except.error.inj fails
        obtain ⟨nonempty, ended⟩ := interrupted.stopped retryable
        rw [← List.cons_append, stopped_append nonempty, ended]

end Shapes

section Draining

variable (sha256 : List UInt8 → Vector UInt8 32) (store : OutboxStore W) (publisher : OutboxPublisher W)
  (workerId : String) (limit : ℕ) (leaseUntilUnix : ℤ)

/-- A drain that returns has counted every row it completed: unlike the worker it ends at the first error. -/
def Drained (start : DispatchReport) (r : Except OutboxError DispatchReport) (added : OutboxTrace) : Prop :=
  ∀ total, r = .ok total → total = start.add (tally added).report

theorem leaves_drainPasses (remaining : ℕ) (total : DispatchReport) :
    Leaves (Drained total) (drainPasses sha256 store.recorded publisher.recorded workerId limit leaseUntilUnix remaining
      total) := by
  induction remaining generalizing total with
  | zero => exact .pure fun final returns => (Except.ok.inj returns).symm.trans (Tally.add_report_zero total).symm
  | succ remaining ih =>
    refine leaves_dispatchOnceWithPolicy.bind (fun _ _ _ _ impossible => ?_) fun report before dispatched => ?_
    · cases impossible
    · have isTick := isTick_of_dispatched dispatched
      obtain ⟨-, counted⟩ := isTick.returned report rfl
      rw [counted]
      split_ifs
      · refine .pure fun final returns => ?_
        rw [List.append_nil]
        exact (Except.ok.inj returns).symm
      · refine (ih _).mono fun r later drained final returns => ?_
        rw [drained final returns, Tally.add_report_add, isTick.tally_append]

def drainTrace (maxPasses : ℕ) (w : W) : OutboxTrace :=
  (finalState (dispatchUntilIdle sha256 store.recorded publisher.recorded workerId limit leaseUntilUnix maxPasses
    ⟨[], w⟩)).calls

theorem mirrors_drainPasses (remaining : ℕ) (total : DispatchReport) :
    Mirrors (drainPasses sha256 store.recorded publisher.recorded workerId limit leaseUntilUnix remaining total)
      (drainPasses sha256 store publisher workerId limit leaseUntilUnix remaining total) := by
  induction remaining generalizing total with
  | zero => exact .pure _
  | succ remaining ih =>
    refine .bind mirrors_dispatchOnceWithPolicy fun report => ?_
    split_ifs
    · exact .pure _
    · exact ih _

/-- The report of a drain that returns is exact. -/
theorem drain_report_eq {maxPasses : ℕ} {w w' : W} {total : DispatchReport}
    (returned : dispatchUntilIdle sha256 store publisher workerId limit leaseUntilUnix maxPasses w = .ok total w') :
    total = (tally (drainTrace sha256 store publisher workerId limit leaseUntilUnix maxPasses w)).report := by
  have mirrors : Mirrors
      (dispatchUntilIdle sha256 store.recorded publisher.recorded workerId limit leaseUntilUnix maxPasses)
      (dispatchUntilIdle sha256 store publisher workerId limit leaseUntilUnix maxPasses) :=
    .bind (.liftExcept _) fun _ => mirrors_drainPasses sha256 store publisher workerId limit leaseUntilUnix _ _
  have leaves : Leaves (Drained .default)
      (dispatchUntilIdle sha256 store.recorded publisher.recorded workerId limit leaseUntilUnix maxPasses) := by
    refine .liftExcept_bind (fun _ final impossible => ?_) fun _ =>
      leaves_drainPasses sha256 store publisher workerId limit leaseUntilUnix maxPasses .default
    cases impossible
  have mirrored := mirrors.outcome_eq ⟨[], w⟩
  rw [returned] at mirrored
  obtain ⟨added, calls, drained⟩ := leaves ⟨[], w⟩
  have trace : drainTrace sha256 store publisher workerId limit leaseUntilUnix maxPasses w = added := calls
  rw [trace]
  exact (drained total mirrored).trans (Tally.default_add_report _)

end Draining

/-! ## The worker -/

/-- The rows a worker reports. -/
def workerCounts (report : WorkerReport) : DispatchReport := ⟨report.delivered, report.retried, report.quarantined⟩

section Worker

variable (sha256 : List UInt8 → Vector UInt8 32) (store : OutboxStore W) (publisher : OutboxPublisher W)
  (workerId : String) (config : OutboxWorkerConfig) (hooks : WorkerHooks W) (ticks : List OutboxTrace) (remaining : ℕ)
  (report : WorkerReport) (errorBackoff : Duration) (ended : Except OutboxError DispatchReport)

theorem mirrors_tick :
    Mirrors (tick sha256 store.recorded publisher.recorded workerId config hooks.beside)
      (tick sha256 store publisher workerId config hooks) :=
  .bind (.perform_unrecorded _) fun _ => mirrors_dispatchOnceWithPolicy

theorem mirrors_afterTick :
    Mirrors (afterTick config hooks.beside report errorBackoff ended)
      (afterTick config hooks report errorBackoff ended) := by
  cases ended with
  | ok done =>
    refine .bind ?_ fun _ => .pure _
    unfold pauseIfIdle
    split_ifs
    · exact .perform_unrecorded _
    · exact .pure _
  | error error =>
    simp only [afterTick]
    split_ifs
    · exact .bind (.perform_unrecorded _) fun _ => .pure _
    · exact .throw _

theorem mirrors_workerTicks :
    Mirrors (workerTicks sha256 store.recorded publisher.recorded workerId config hooks.beside remaining report
      errorBackoff) (workerTicks sha256 store publisher workerId config hooks remaining report errorBackoff) := by
  induction remaining generalizing report errorBackoff with
  | zero => exact .pure _
  | succ remaining ih =>
    refine .bind (.perform_unrecorded _) fun stop => ?_
    split_ifs
    · exact .pure _
    · exact .bind (.attempt (mirrors_tick sha256 store publisher workerId config hooks)) fun ended =>
        .bind (mirrors_afterTick config hooks _ _ ended) fun next => ih _ _

theorem mirrors_runOutboxWorker :
    Mirrors (runOutboxWorker sha256 store.recorded publisher.recorded workerId config hooks.beside)
      (runOutboxWorker sha256 store publisher workerId config hooks) :=
  .bind (.liftExcept _) fun _ => mirrors_workerTicks sha256 store publisher workerId config hooks _ _ _

theorem leaves_tick : Leaves IsTick (tick sha256 store.recorded publisher.recorded workerId config hooks.beside) :=
  .unrecorded_bind fun _ => leaves_dispatchOnceWithPolicy.mono fun _ _ => isTick_of_dispatched

/-- After a tick no call is made, and the run goes on with the rows of the tick counted, or with none. -/
def Settled (r : Except OutboxError (WorkerReport × Duration)) (added : OutboxTrace) : Prop :=
  added = [] ∧ ∀ next, r = .ok next →
    (∃ done, ended = .ok done ∧ workerCounts next.1 = (workerCounts report).add done) ∨
      ∃ error, ended = .error error ∧ error.isRetryable = true ∧ workerCounts next.1 = workerCounts report

theorem leaves_afterTick : Leaves (Settled report ended) (afterTick config hooks.beside report errorBackoff ended) := by
  cases ended with
  | ok done =>
    have counted : Leaves (Settled report (.ok done))
        (Pure.pure (report.addTick done, config.errorBackoff) : EStateM OutboxError (Traced OutboxCall W) _) := by
      refine .pure ⟨rfl, fun next returns => .inl ⟨done, rfl, ?_⟩⟩
      rw [← Except.ok.inj returns]
      rfl
    simp only [afterTick, pauseIfIdle]
    split_ifs
    · exact .unrecorded_bind fun _ => counted
    · exact counted
  | error error =>
    rw [afterTick]
    split_ifs with retryable
    · refine .unrecorded_bind fun _ => .pure ⟨rfl, fun next returns => .inr ⟨error, rfl, retryable, ?_⟩⟩
      rw [← Except.ok.inj returns]
      rfl
    · refine .throw ⟨rfl, fun next impossible => ?_⟩
      cases impossible

def tallyAll : Tally := (ticks.map tally).sum

theorem tallyAll_cons (tick : OutboxTrace) (ticks : List OutboxTrace) :
    tallyAll (tick :: ticks) = tally tick + tallyAll ticks := by
  rw [tallyAll, List.map_cons, List.sum_cons]
  rfl

theorem tallyAll_eq_zero_iff {ticks : List OutboxTrace} : tallyAll ticks = 0 ↔ ∀ tick ∈ ticks, tally tick = 0 := by
  induction ticks with
  | nil => exact iff_of_true rfl (List.forall_mem_nil _)
  | cons tick ticks ih =>
    rw [tallyAll_cons, Tally.add_eq_zero_iff, ih, List.forall_mem_cons]

/-- Every tick has returned or stopped. -/
theorem tallyAll_partition :
    tallyAll (ticks.filter fun tick => !stopped tick) + tallyAll (ticks.filter stopped) = tallyAll ticks := by
  induction ticks with
  | nil => rfl
  | cons tick ticks ih =>
    rw [tallyAll_cons, ← ih]
    cases ended : stopped tick with
    | false =>
      rw [List.filter_cons_of_pos (by simp [ended]), List.filter_cons_of_neg (by simp [ended]), tallyAll_cons,
        add_assoc]
    | true =>
      rw [List.filter_cons_of_neg (by simp [ended]), List.filter_cons_of_pos ended, tallyAll_cons, add_left_comm]

/-- The calls of a run that returned: ticks, of which those that returned are counted. -/
def Worked (start : DispatchReport) (r : Except OutboxError WorkerReport) (added : OutboxTrace) : Prop :=
  ∀ report, r = .ok report → ∃ ticks : List OutboxTrace, added = ticks.flatten ∧
    (∀ tick ∈ ticks, Sections.IsSection opensTick tick) ∧ tally added = tallyAll ticks ∧
    workerCounts report = start.add (tallyAll (ticks.filter fun tick => !stopped tick)).report

theorem worked_nil : Worked (workerCounts report) (.ok report) [] := by
  intro report' returns
  rw [← Except.ok.inj returns]
  exact ⟨[], rfl, List.forall_mem_nil _, rfl, (Tally.add_report_zero _).symm⟩

theorem Worked.cons {report : WorkerReport} {ended : Except OutboxError DispatchReport} {calls after : OutboxTrace}
    (isTick : IsTick ended calls) {next : WorkerReport}
    (settled : (∃ done, ended = .ok done ∧ workerCounts next = (workerCounts report).add done) ∨
      ∃ error, ended = .error error ∧ error.isRetryable = true ∧ workerCounts next = workerCounts report)
    {r : Except OutboxError WorkerReport} (worked : Worked (workerCounts next) r after) :
    Worked (workerCounts report) r (calls ++ after) := by
  intro final returns
  obtain ⟨ticks, rfl, sections, counted, reported⟩ := worked final returns
  refine ⟨calls :: ticks, rfl, List.forall_mem_cons.mpr ⟨isTick.isSection, sections⟩, ?_, ?_⟩
  · rw [isTick.tally_append, counted, tallyAll_cons]
  · rcases settled with ⟨done, rfl, carried⟩ | ⟨error, rfl, retryable, carried⟩
    · obtain ⟨succeeded, rfl⟩ := isTick.returned done rfl
      rw [List.filter_cons_of_pos (by rw [succeeded]; rfl), reported, carried, Tally.add_report_add, tallyAll_cons]
    · rw [List.filter_cons_of_neg (by rw [isTick.failed error rfl retryable]; decide), reported, carried]

theorem leaves_workerTicks :
    Leaves (Worked (workerCounts report)) (workerTicks sha256 store.recorded publisher.recorded workerId config
      hooks.beside remaining report errorBackoff) := by
  induction remaining generalizing report errorBackoff with
  | zero => exact .pure (worked_nil report)
  | succ remaining ih =>
    refine .unrecorded_bind fun stop => ?_
    split_ifs
    · exact .pure (worked_nil report)
    · -- a tick, what follows from it, and the ticks that remain
      refine (leaves_tick sha256 store publisher workerId config hooks).attempt_bind fun ended calls isTick => ?_
      refine (leaves_afterTick config hooks _ errorBackoff ended).bind (fun _ _ _ _ impossible => ?_)
        fun next silent settled => (ih next.1 next.2).mono fun r later worked => ?_
      · cases impossible
      · obtain ⟨rfl, settled⟩ := settled
        exact Worked.cons isTick (settled next rfl) worked

def workerTrace (w : W) : OutboxTrace :=
  (finalState (runOutboxWorker sha256 store.recorded publisher.recorded workerId config hooks.beside ⟨[], w⟩)).calls

theorem leaves_runOutboxWorker :
    Leaves (Worked .default)
      (runOutboxWorker sha256 store.recorded publisher.recorded workerId config hooks.beside) := by
  refine .liftExcept_bind (fun _ report impossible => ?_) fun _ =>
    leaves_workerTicks sha256 store publisher workerId config hooks config.maxTicks .default config.errorBackoff
  cases impossible

/-- The rows reported are those completed in the ticks that returned. -/
theorem workerCounts_eq {w w' : W} {report : WorkerReport}
    (returned : runOutboxWorker sha256 store publisher workerId config hooks w = .ok report w') :
    tally (workerTrace sha256 store publisher workerId config hooks w) =
        tallyAll (ticksOf (workerTrace sha256 store publisher workerId config hooks w)) ∧
      workerCounts report = (tallyAll ((ticksOf (workerTrace sha256 store publisher workerId config hooks w)).filter
        fun tick => !stopped tick)).report := by
  have mirrored := (mirrors_runOutboxWorker sha256 store publisher workerId config hooks).outcome_eq ⟨[], w⟩
  rw [returned] at mirrored
  obtain ⟨added, calls, worked⟩ := leaves_runOutboxWorker sha256 store publisher workerId config hooks ⟨[], w⟩
  have trace : workerTrace sha256 store publisher workerId config hooks w = added := calls
  obtain ⟨ticks, rfl, sections, counted, reported⟩ := worked report mirrored
  have found : ticksOf ticks.flatten = ticks := congrArg Prod.snd (Sections.cut_flatten sections)
  rw [trace, found]
  exact ⟨counted, reported.trans (Tally.default_add_report _)⟩

/-- Counts that a machine word holds. -/
def Tally.Unsaturated (counted : Tally) : Prop :=
  counted.delivered < 2 ^ 64 ∧ counted.retried < 2 ^ 64 ∧ counted.quarantined < 2 ^ 64

/-- The report of a worker that returned is exact if and only if no tick that stopped at a failed call had completed a
row. -/
theorem worker_report_exact_iff {w w' : W} {report : WorkerReport}
    (returned : runOutboxWorker sha256 store publisher workerId config hooks w = .ok report w')
    (unsaturated : (tally (workerTrace sha256 store publisher workerId config hooks w)).Unsaturated) :
    (report.delivered.val = (tally (workerTrace sha256 store publisher workerId config hooks w)).delivered ∧
      report.retried.val = (tally (workerTrace sha256 store publisher workerId config hooks w)).retried ∧
      report.quarantined.val = (tally (workerTrace sha256 store publisher workerId config hooks w)).quarantined) ↔
    ∀ tick ∈ ticksOf (workerTrace sha256 store publisher workerId config hooks w),
      stopped tick = true → tally tick = 0 := by
  obtain ⟨counted, reported⟩ := workerCounts_eq sha256 store publisher workerId config hooks returned
  have partition := tallyAll_partition (ticksOf (workerTrace sha256 store publisher workerId config hooks w))
  have lost : (∀ tick ∈ ticksOf (workerTrace sha256 store publisher workerId config hooks w),
      stopped tick = true → tally tick = 0) ↔
      tallyAll ((ticksOf (workerTrace sha256 store publisher workerId config hooks w)).filter stopped) = 0 := by
    simp only [tallyAll_eq_zero_iff, List.mem_filter, and_imp]
  rw [lost]
  rw [counted] at unsaturated ⊢
  -- from here on there are only the counts
  generalize tallyAll ((ticksOf _).filter fun tick => !stopped tick) = finished at partition reported
  generalize tallyAll ((ticksOf _).filter stopped) = missed at partition ⊢
  generalize tallyAll (ticksOf _) = total at partition unsaturated ⊢
  subst partition
  obtain ⟨delivered, retried, quarantined⟩ := unsaturated
  simp only [workerCounts, Tally.report, DispatchReport.mk.injEq] at reported
  obtain ⟨first, second, third⟩ := reported
  rw [first, second, third]
  simp only [Tally.word, Tally.ext_iff, Tally.add_delivered, Tally.add_retried, Tally.add_quarantined,
    Tally.zero_delivered, Tally.zero_retried, Tally.zero_quarantined] at delivered retried quarantined ⊢
  omega

end Worker

/-! ## Two ticks -/

def twoTicks : OutboxWorkerConfig := ⟨10, 60, 2, 0, 0, 0, .retry⟩

def stillHooks : WorkerHooks Bool := ⟨fun w => (0, w), fun _ w => ((), w), fun w => (false, w)⟩

def pickyPublisher : OutboxPublisher Bool :=
  ⟨fun deliveryKey _ w => (if deliveryKey = "b" then .error "no such topic" else .ok (), w)⟩

/-- The first tick delivers a row and then fails on the second; the worker returns and reports no delivery. -/
theorem delivery_not_reported :
    outcome (runOutboxWorker Sha256.sha256 twoRows anyPublisher "worker" twoTicks stillHooks true) =
        .ok ⟨2, 0, 0, 0, 1⟩ ∧
      tally (workerTrace Sha256.sha256 twoRows anyPublisher "worker" twoTicks stillHooks true) = ⟨1, 0, 0⟩ := by
  decide +kernel

theorem drain_reported :
    ∃ total w', dispatchUntilIdle Sha256.sha256 twoRows pickyPublisher "worker" 10 60 3 true = .ok total w' ∧
      total = (tally (drainTrace Sha256.sha256 twoRows pickyPublisher "worker" 10 60 3 true)).report := by
  have ended : outcome (dispatchUntilIdle Sha256.sha256 twoRows pickyPublisher "worker" 10 60 3 true) =
      .ok ⟨1, 1, 0⟩ := by decide +kernel
  cases ran : dispatchUntilIdle Sha256.sha256 twoRows pickyPublisher "worker" 10 60 3 true with
  | error error w' =>
    rw [ran] at ended
    cases ended
  | ok total w' => exact ⟨total, w', rfl, drain_report_eq _ _ _ _ _ _ ran⟩

/-- A refused row is released, and both rows are reported. -/
theorem release_reported :
    ∃ report w', runOutboxWorker Sha256.sha256 twoRows pickyPublisher "worker" twoTicks stillHooks true =
        .ok report w' ∧ report.delivered.val = 1 ∧ report.retried.val = 1 ∧ report.quarantined.val = 0 := by
  have ended : outcome (runOutboxWorker Sha256.sha256 twoRows pickyPublisher "worker" twoTicks stillHooks true) =
      .ok ⟨2, 1, 1, 0, 0⟩ := by decide +kernel
  have counted : tally (workerTrace Sha256.sha256 twoRows pickyPublisher "worker" twoTicks stillHooks true) =
      ⟨1, 1, 0⟩ := by decide +kernel
  cases ran : runOutboxWorker Sha256.sha256 twoRows pickyPublisher "worker" twoTicks stillHooks true with
  | error error w' =>
    rw [ran] at ended
    cases ended
  | ok report w' =>
    have exact := (worker_report_exact_iff Sha256.sha256 twoRows pickyPublisher "worker" twoTicks stillHooks ran
      (by rw [counted]; exact ⟨by decide, by decide, by decide⟩)).mpr (by decide +kernel)
    rw [counted] at exact
    exact ⟨report, w', rfl, exact⟩

end StateChronicle.Verified
