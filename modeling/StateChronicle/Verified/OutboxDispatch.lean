import Mathlib.Algebra.Group.Defs
import StateChronicle.Foundation.Sha256
import StateChronicle.Ports.Outbox

/-!
# Dispatching a batch

However store and publisher answer, a dispatch goes through the claimed rows in order and completes each before it
turns to the next: delivered, released after a failed publish, or quarantined.  It stops at the first row it cannot
complete.
-/

namespace StateChronicle.Verified

open StateChronicle.Core Domain Foundation Outbox

variable {W : Type} {rows : List OutboxRow} {error : OutboxError} {last : OutboxTrace}

/-! ## Completions -/

/-- How a claimed row was completed. -/
inductive Completion where
  | delivered
  | retried (error : String)
  | quarantined
deriving DecidableEq, Repr

/-- The payload of a row is what its digest was recorded for. -/
def Intact (sha256 : List UInt8 → Vector UInt8 32) (row : OutboxRow) : Prop :=
  hashBytes sha256 row.2.payload = row.2.payloadDigest

namespace Completion

def calls (workerId : String) (row : OutboxRow) : Completion → OutboxTrace
  | .delivered => [(.publish row.1 row.2, true), (.markDeliveredBy row.1 workerId, true)]
  | .retried error => [(.publish row.1 row.2, false), (.releaseBy row.1 workerId error, true)]
  | .quarantined => [(.quarantineBy row.1 workerId digestMismatch, true)]

/-- Only intact rows are published, and only others are quarantined, if that is the policy. -/
def Fits (sha256 : List UInt8 → Vector UInt8 32) (poisonPolicy : PoisonPolicy) (row : OutboxRow) : Completion → Prop
  | .delivered => Intact sha256 row
  | .retried _ => Intact sha256 row
  | .quarantined => ¬ Intact sha256 row ∧ poisonPolicy = .quarantine

end Completion

/-- Rows with their completions, in order, as the calls that completed them. -/
def completedCalls (workerId : String) (done : List (OutboxRow × Completion)) : OutboxTrace :=
  done.flatMap fun entry => entry.2.calls workerId entry.1

/-- The calls for a row that was not completed, with the error the dispatch ended with. -/
inductive Interrupted (sha256 : List UInt8 → Vector UInt8 32) (workerId : String) (poisonPolicy : PoisonPolicy)
    (row : OutboxRow) : OutboxError → OutboxTrace → Prop
  | unmarked (intact : Intact sha256 row) (error : OutboxError) : Interrupted sha256 workerId poisonPolicy row error
      [(.publish row.1 row.2, true), (.markDeliveredBy row.1 workerId, false)]
  | unreleased (intact : Intact sha256 row) (message : String) (error : OutboxError) :
      Interrupted sha256 workerId poisonPolicy row error
        [(.publish row.1 row.2, false), (.releaseBy row.1 workerId message, false)]
  | unquarantined (poisoned : ¬ Intact sha256 row) (policy : poisonPolicy = .quarantine) (error : OutboxError) :
      Interrupted sha256 workerId poisonPolicy row error [(.quarantineBy row.1 workerId digestMismatch, false)]
  | unreturned (poisoned : ¬ Intact sha256 row) (policy : poisonPolicy = .retry) (error : OutboxError) :
      Interrupted sha256 workerId poisonPolicy row error [(.releaseBy row.1 workerId digestMismatch, false)]
  | returned (poisoned : ¬ Intact sha256 row) (policy : poisonPolicy = .retry) :
      Interrupted sha256 workerId poisonPolicy row (.corrupt s!"payload digest mismatch for `{row.1}`")
        [(.releaseBy row.1 workerId digestMismatch, true)]

/-! ## Counting completions -/

/-- The number of rows completed in each way. -/
@[ext]
structure Tally where
  delivered : ℕ
  retried : ℕ
  quarantined : ℕ
deriving DecidableEq, Repr

namespace Tally

instance : Zero Tally := ⟨0, 0, 0⟩

instance : Add Tally := ⟨fun a b => ⟨a.delivered + b.delivered, a.retried + b.retried, a.quarantined + b.quarantined⟩⟩

variable (a : Tally)

@[simp] theorem add_delivered (b : Tally) : (a + b).delivered = a.delivered + b.delivered := rfl

@[simp] theorem add_retried (b : Tally) : (a + b).retried = a.retried + b.retried := rfl

@[simp] theorem add_quarantined (b : Tally) : (a + b).quarantined = a.quarantined + b.quarantined := rfl

@[simp] theorem zero_delivered : (0 : Tally).delivered = 0 := rfl

@[simp] theorem zero_retried : (0 : Tally).retried = 0 := rfl

@[simp] theorem zero_quarantined : (0 : Tally).quarantined = 0 := rfl

instance : AddCommMonoid Tally where
  add_assoc a b c := by ext <;> simp [Nat.add_assoc]
  zero_add a := by ext <;> simp
  add_zero a := by ext <;> simp
  add_comm a b := by ext <;> simp [Nat.add_comm]
  nsmul := nsmulRec

theorem add_eq_zero_iff {a b : Tally} : a + b = 0 ↔ a = 0 ∧ b = 0 := by
  simp only [Tally.ext_iff, add_delivered, add_retried, add_quarantined, zero_delivered, zero_retried, zero_quarantined]
  omega

/-- A count in a machine word, which stops at the highest. -/
def word (count : ℕ) : U64 := ⟨min count (2 ^ 64 - 1), by omega⟩

theorem saturatingAdd_word_zero (a : U64) : saturatingAdd a (word 0) = a := by
  refine Fin.ext ?_
  have bound := a.isLt
  rw [val_saturatingAdd]
  simp only [word]
  omega

theorem saturatingAdd_word_add (a : U64) (m n : ℕ) :
    saturatingAdd (saturatingAdd a (word m)) (word n) = saturatingAdd a (word (m + n)) := by
  refine Fin.ext ?_
  rw [val_saturatingAdd, val_saturatingAdd, val_saturatingAdd]
  simp only [word]
  omega

def report (tally : Tally) : DispatchReport := ⟨word tally.delivered, word tally.retried, word tally.quarantined⟩

theorem add_report_zero (total : DispatchReport) : total.add (0 : Tally).report = total := by
  simp only [report, DispatchReport.add, zero_delivered, zero_retried, zero_quarantined, saturatingAdd_word_zero]

theorem add_report_add (total : DispatchReport) (a b : Tally) :
    (total.add a.report).add b.report = total.add (a + b).report := by
  simp only [report, DispatchReport.add, saturatingAdd_word_add, add_delivered, add_retried, add_quarantined]

theorem default_add_report : DispatchReport.default.add a.report = a.report := by
  have counted (n : ℕ) : saturatingAdd (0 : U64) (word n) = word n := by
    have zero : (0 : U64).val = 0 := rfl
    refine Fin.ext ?_
    rw [val_saturatingAdd, zero]
    simp only [word]
    omega
  simp only [report, DispatchReport.add, DispatchReport.default, counted]

end Tally

variable (completion : Completion) (workerId : String) (row : OutboxRow)

def Completion.tally : Completion → Tally
  | .delivered => ⟨1, 0, 0⟩
  | .retried _ => ⟨0, 1, 0⟩
  | .quarantined => ⟨0, 0, 1⟩

/-- The completions among calls: successful acknowledgements, successful releases right after a failed publish of the
same row, and successful quarantines. -/
def tally : OutboxTrace → Tally
  | [] => 0
  | (.markDeliveredBy _ _, true) :: rest => ⟨1, 0, 0⟩ + tally rest
  | (.quarantineBy _ _ _, true) :: rest => ⟨0, 0, 1⟩ + tally rest
  | (.publish deliveryKey _, false) :: (.releaseBy deliveryKey' _ _, true) :: rest =>
    if deliveryKey = deliveryKey' then ⟨0, 1, 0⟩ + tally rest else tally rest
  | _ :: rest => tally rest

/-- The call completed a row. -/
def completes : OutboxCall × Bool → Bool
  | (.markDeliveredBy _ _, true) => true
  | (.releaseBy _ _ _, true) => true
  | (.quarantineBy _ _ _, true) => true
  | _ => false

theorem countP_completes_calls : (completion.calls workerId row).countP completes = 1 := by
  cases completion <;> rfl

theorem tally_claim (limit : ℕ) (leaseUntilUnix : ℤ) (answer : Bool) (rest : OutboxTrace) :
    tally ((.claim workerId limit leaseUntilUnix, answer) :: rest) = tally rest := by
  cases rest <;> rfl

theorem tally_calls (rest : OutboxTrace) :
    tally (completion.calls workerId row ++ rest) = completion.tally + tally rest := by
  cases completion with
  | delivered => rfl
  | retried error => exact if_pos rfl
  | quarantined => rfl

theorem tally_interrupted {sha256 : List UInt8 → Vector UInt8 32} {workerId : String} {poisonPolicy : PoisonPolicy}
    {row : OutboxRow} (interrupted : Interrupted sha256 workerId poisonPolicy row error last) (rest : OutboxTrace) :
    tally (last ++ rest) = tally rest := by
  cases interrupted with
  | unmarked intact error | unreleased intact message error | unquarantined poisoned policy error
  | unreturned poisoned policy error | returned poisoned policy => cases rest <;> rfl

section Dispatch

variable (sha256 : List UInt8 → Vector UInt8 32) (store : OutboxStore W) (publisher : OutboxPublisher W)
  (workerId : String) (poisonPolicy : PoisonPolicy) {payload : OutboxPayload} {deliveryKey : String} {answer : Bool}
  (report : DispatchReport)

/-- The calls of one row by how its round ends: the row is completed and counted, or the dispatch ends there. -/
def RowLeft (row : OutboxRow) : Except OutboxError DispatchReport → OutboxTrace → Prop
  | .ok next, added => ∃ completion : Completion, completion.Fits sha256 poisonPolicy row ∧
      added = completion.calls workerId row ∧ next = report.add completion.tally.report
  | .error error, added => Interrupted sha256 workerId poisonPolicy row error added

theorem report_count :
    { report with delivered := saturatingAdd report.delivered 1 } = report.add Completion.delivered.tally.report ∧
      (∀ error, { report with retried := saturatingAdd report.retried 1 } =
        report.add (Completion.retried error).tally.report) ∧
      { report with quarantined := saturatingAdd report.quarantined 1 } =
        report.add Completion.quarantined.tally.report := by
  have one : (1 : U64) = Tally.word 1 := rfl
  simp only [Tally.report, Completion.tally, DispatchReport.add, one, Tally.saturatingAdd_word_zero, implies_true,
    and_self]

variable {sha256 store publisher workerId poisonPolicy report}

theorem leaves_dispatchRow (row : OutboxRow) :
    Leaves (RowLeft sha256 workerId poisonPolicy report row)
      (dispatchRow sha256 store.recorded publisher.recorded workerId poisonPolicy report row) := by
  obtain ⟨delivered, retried, quarantined⟩ := report_count report
  unfold dispatchRow
  split_ifs with poisoned
  · cases poisonPolicy with
    | retry =>
      exact .request_bind (fun error => .unreturned poisoned rfl error) fun _ => .throw (.returned poisoned rfl)
    | quarantine =>
      exact .request_bind (fun error => .unquarantined poisoned rfl error) fun _ =>
        .pure ⟨.quarantined, ⟨poisoned, rfl⟩, rfl, quarantined⟩
  · have intact : Intact sha256 row := not_not.mp poisoned
    -- what follows the publish depends on its answer
    refine .perform_bind fun answer => ?_
    cases answer with
    | ok u =>
      exact .request_bind (fun error => .unmarked intact error) fun _ => .pure ⟨.delivered, intact, rfl, delivered⟩
    | error message =>
      exact .request_bind (fun error => .unreleased intact message error) fun _ =>
        .pure ⟨.retried message, intact, rfl, retried message⟩

/-! ## The loop -/

variable (sha256 workerId poisonPolicy report) in
/-- The calls of the claimed rows by how the dispatch ends: all are completed, or one is not and none after it is
touched. -/
def RowsLeft (rows : List OutboxRow) : Except OutboxError DispatchReport → OutboxTrace → Prop
  | .ok final, added => ∃ done : List (OutboxRow × Completion), done.map Prod.fst = rows ∧
      (∀ entry ∈ done, entry.2.Fits sha256 poisonPolicy entry.1) ∧ added = completedCalls workerId done ∧
      final = report.add (tally added).report
  | .error error, added => ∃ (done : List (OutboxRow × Completion)) (row : OutboxRow) (rest : List OutboxRow)
      (last : OutboxTrace), rows = done.map Prod.fst ++ row :: rest ∧
      (∀ entry ∈ done, entry.2.Fits sha256 poisonPolicy entry.1) ∧ added = completedCalls workerId done ++ last ∧
      Interrupted sha256 workerId poisonPolicy row error last

theorem leaves_dispatchRows (rows : List OutboxRow) :
    Leaves (RowsLeft sha256 workerId poisonPolicy report rows)
      (rows.foldlM (dispatchRow sha256 store.recorded publisher.recorded workerId poisonPolicy) report) := by
  induction rows generalizing report with
  | nil => exact .pure ⟨[], rfl, List.forall_mem_nil _, rfl, (Tally.add_report_zero report).symm⟩
  | cons row rows ih =>
    rw [List.foldlM_cons]
    refine (leaves_dispatchRow row).bind (fun error added interrupted => ?_) fun next before done =>
      ih.mono fun r later others => ?_
    · exact ⟨[], row, rows, added, rfl, List.forall_mem_nil _, rfl, interrupted⟩
    · obtain ⟨completion, fits, rfl, rfl⟩ := done
      cases r with
      | ok final =>
        obtain ⟨done, same, allFit, rfl, rfl⟩ := others
        refine ⟨(row, completion) :: done, congrArg (row :: ·) same, List.forall_mem_cons.mpr ⟨fits, allFit⟩, rfl, ?_⟩
        rw [tally_calls, Tally.add_report_add]
      | error error =>
        obtain ⟨done, stopped, rest, last, same, allFit, rfl, interrupted⟩ := others
        refine ⟨(row, completion) :: done, stopped, rest, last, congrArg (row :: ·) same,
          List.forall_mem_cons.mpr ⟨fits, allFit⟩, ?_, interrupted⟩
        exact (List.append_assoc _ _ _).symm

/-! ## The whole dispatch -/

theorem mirrors_dispatchRow (row : OutboxRow) :
    Mirrors (dispatchRow sha256 store.recorded publisher.recorded workerId poisonPolicy report row)
      (dispatchRow sha256 store publisher workerId poisonPolicy report row) := by
  unfold dispatchRow
  split_ifs with poisoned
  · cases poisonPolicy with
    | retry => exact .bind (.request_recording _ _ _) fun _ => .throw _
    | quarantine => exact .bind (.request_recording _ _ _) fun _ => .pure _
  · refine .bind (.perform_recording _ _) fun answer => ?_
    cases answer with
    | ok u | error message => exact .bind (.request_recording _ _ _) fun _ => .pure _

variable {limit : ℕ} {leaseUntilUnix : ℤ}

theorem mirrors_dispatchOnceWithPolicy :
    Mirrors (dispatchOnceWithPolicy sha256 store.recorded publisher.recorded workerId limit leaseUntilUnix poisonPolicy)
      (dispatchOnceWithPolicy sha256 store publisher workerId limit leaseUntilUnix poisonPolicy) :=
  .bind (.request_recording _ _ _) fun _ => .foldlM (fun _ => mirrors_dispatchRow) _ _

variable (sha256 workerId poisonPolicy limit leaseUntilUnix) in
/-- The calls of a dispatch by how it ends. -/
def Dispatched (r : Except OutboxError DispatchReport) (added : OutboxTrace) : Prop :=
  (∃ error, r = .error error ∧ added = [(.claim workerId limit leaseUntilUnix, false)]) ∨
    ∃ rows after, added = (.claim workerId limit leaseUntilUnix, true) :: after ∧
      RowsLeft sha256 workerId poisonPolicy .default rows r after

theorem leaves_dispatchOnceWithPolicy :
    Leaves (Dispatched sha256 workerId poisonPolicy limit leaseUntilUnix)
      (dispatchOnceWithPolicy sha256 store.recorded publisher.recorded workerId limit leaseUntilUnix poisonPolicy) := by
  refine .request_bind (fun error => .inl ⟨error, rfl, rfl⟩) fun rows => ?_
  exact (leaves_dispatchRows rows).mono fun r after others => .inr ⟨rows, after, rfl, others⟩

variable (sha256 store publisher workerId poisonPolicy limit leaseUntilUnix)

def dispatchTrace (w : W) : OutboxTrace :=
  (finalState (dispatchOnceWithPolicy sha256 store.recorded publisher.recorded workerId limit leaseUntilUnix
    poisonPolicy ⟨[], w⟩)).calls

/-- Once rows are claimed, the calls after the claim are those of the rows. -/
theorem rowsLeft_of_claimed {w : W} (claimed : (store.claim workerId limit leaseUntilUnix w).1 = .ok rows) :
    ∃ after, dispatchTrace sha256 store publisher workerId poisonPolicy limit leaseUntilUnix w =
        (.claim workerId limit leaseUntilUnix, true) :: after ∧
      RowsLeft sha256 workerId poisonPolicy .default rows (outcome (dispatchOnceWithPolicy sha256 store publisher
        workerId limit leaseUntilUnix poisonPolicy w)) after := by
  let start : Traced OutboxCall W := ⟨[], w⟩
  let opened : Traced OutboxCall W :=
    ⟨[(.claim workerId limit leaseUntilUnix, true)], (store.claim workerId limit leaseUntilUnix w).2⟩
  have first : (request (store.recorded.claim workerId limit leaseUntilUnix) id :
      EStateM OutboxError (Traced OutboxCall W) (List OutboxRow)) start = .ok rows opened := by
    refine request_eq_ok.mpr ?_
    simp only [OutboxStore.recorded, Traced.recording, start, claimed]
    rfl
  have whole : dispatchOnceWithPolicy sha256 store.recorded publisher.recorded workerId limit leaseUntilUnix
      poisonPolicy start = rows.foldlM (dispatchRow sha256 store.recorded publisher.recorded workerId poisonPolicy)
        .default opened := EStateM.bind_apply_of_ok first
  rw [dispatchTrace, whole]
  obtain ⟨after, calls, left⟩ := leaves_dispatchRows rows opened
  refine ⟨after, calls, ?_⟩
  rw [← mirrors_dispatchOnceWithPolicy.outcome_eq start, whole]
  exact left

section Published

variable {sha256 workerId poisonPolicy}

theorem Completion.intact_of_published {completion : Completion} {row : OutboxRow}
    (fits : completion.Fits sha256 poisonPolicy row)
    (published : (.publish deliveryKey payload, answer) ∈ completion.calls workerId row) :
    (deliveryKey, payload) = row ∧ Intact sha256 row := by
  cases completion with
  | delivered | retried error =>
    simp [Completion.calls] at published
    exact ⟨Prod.ext published.1.1 published.1.2, fits⟩
  | quarantined => simp [Completion.calls] at published

theorem Interrupted.intact_of_published {row : OutboxRow}
    (interrupted : Interrupted sha256 workerId poisonPolicy row error last)
    (published : (.publish deliveryKey payload, answer) ∈ last) : (deliveryKey, payload) = row ∧ Intact sha256 row := by
  cases interrupted with
  | unmarked intact error | unreleased intact message error =>
    simp at published
    exact ⟨Prod.ext published.1.1 published.1.2, intact⟩
  | unquarantined poisoned policy error | unreturned poisoned policy error | returned poisoned policy =>
    simp at published

theorem intact_of_completed {done : List (OutboxRow × Completion)}
    (allFit : ∀ entry ∈ done, entry.2.Fits sha256 poisonPolicy entry.1)
    (published : (.publish deliveryKey payload, answer) ∈ completedCalls workerId done) :
    (deliveryKey, payload) ∈ done.map Prod.fst ∧ Intact sha256 (deliveryKey, payload) := by
  obtain ⟨entry, member, call⟩ := List.mem_flatMap.mp published
  obtain ⟨same, intact⟩ := Completion.intact_of_published (allFit entry member) call
  rw [same]
  exact ⟨List.mem_map_of_mem member, intact⟩

theorem RowsLeft.intact_of_published {report : DispatchReport} {r : Except OutboxError DispatchReport}
    {added : OutboxTrace} (left : RowsLeft sha256 workerId poisonPolicy report rows r added)
    (published : (.publish deliveryKey payload, answer) ∈ added) :
    (deliveryKey, payload) ∈ rows ∧ Intact sha256 (deliveryKey, payload) := by
  cases r with
  | ok final =>
    obtain ⟨done, rfl, allFit, rfl, -⟩ := left
    exact intact_of_completed allFit published
  | error error =>
    obtain ⟨done, row, rest, last, rfl, allFit, rfl, interrupted⟩ := left
    rcases List.mem_append.mp published with completed | stopped
    · obtain ⟨member, intact⟩ := intact_of_completed allFit completed
      exact ⟨List.mem_append_left _ member, intact⟩
    · obtain ⟨rfl, intact⟩ := interrupted.intact_of_published stopped
      exact ⟨List.mem_append_right _ List.mem_cons_self, intact⟩

end Published

/-- The protocol of a dispatch over claimed rows.  Only intact rows are published.  The rows are processed in the order
they were claimed; every row before the last processed one was completed once, in the way that its digest and the
answer of the publisher ask for.  A dispatch that returns has completed all rows, and reports how. -/
theorem dispatch_protocol {w : W} {rows : List OutboxRow}
    (claimed : (store.claim workerId limit leaseUntilUnix w).1 = .ok rows) :
    (∀ deliveryKey payload answer, (.publish deliveryKey payload, answer) ∈
        dispatchTrace sha256 store publisher workerId poisonPolicy limit leaseUntilUnix w →
      (deliveryKey, payload) ∈ rows ∧ hashBytes sha256 payload.payload = payload.payloadDigest) ∧
    (∀ report w', dispatchOnceWithPolicy sha256 store publisher workerId limit leaseUntilUnix poisonPolicy w =
        .ok report w' →
      ∃ done : List (OutboxRow × Completion), done.map Prod.fst = rows ∧
        (∀ entry ∈ done, entry.2.Fits sha256 poisonPolicy entry.1 ∧
          (entry.2.calls workerId entry.1).countP completes = 1) ∧
        dispatchTrace sha256 store publisher workerId poisonPolicy limit leaseUntilUnix w =
          (.claim workerId limit leaseUntilUnix, true) :: completedCalls workerId done ∧
        report = (tally (dispatchTrace sha256 store publisher workerId poisonPolicy limit leaseUntilUnix w)).report) ∧
    (∀ error w', dispatchOnceWithPolicy sha256 store publisher workerId limit leaseUntilUnix poisonPolicy w =
        .error error w' →
      ∃ (done : List (OutboxRow × Completion)) (row : OutboxRow) (rest : List OutboxRow) (last : OutboxTrace),
        rows = done.map Prod.fst ++ row :: rest ∧
        (∀ entry ∈ done, entry.2.Fits sha256 poisonPolicy entry.1 ∧
          (entry.2.calls workerId entry.1).countP completes = 1) ∧
        dispatchTrace sha256 store publisher workerId poisonPolicy limit leaseUntilUnix w =
          (.claim workerId limit leaseUntilUnix, true) :: (completedCalls workerId done ++ last) ∧
        Interrupted sha256 workerId poisonPolicy row error last) := by
  obtain ⟨after, calls, left⟩ :=
    rowsLeft_of_claimed sha256 store publisher workerId poisonPolicy limit leaseUntilUnix claimed
  rw [calls]
  refine ⟨fun deliveryKey payload answer published => ?_, fun report w' returns => ?_, fun error w' fails => ?_⟩
  · rcases List.mem_cons.mp published with claim | later
    · cases claim
    · exact left.intact_of_published later
  · rw [returns] at left
    obtain ⟨done, same, allFit, rfl, rfl⟩ := left
    refine ⟨done, same, fun entry member => ⟨allFit entry member, countP_completes_calls _ _ _⟩, rfl, ?_⟩
    rw [tally_claim, Tally.default_add_report]
  · rw [fails] at left
    obtain ⟨done, row, rest, last, same, allFit, rfl, interrupted⟩ := left
    exact ⟨done, row, rest, last, same, fun entry member => ⟨allFit entry member, countP_completes_calls _ _ _⟩, rfl,
      interrupted⟩

end Dispatch

/-! ## Two rows -/

def emptyRow (deliveryKey : String) : OutboxRow := (deliveryKey, ⟨⟨"acme"⟩, ⟨"cmt_1"⟩, hashBytes Sha256.sha256 [], []⟩)

/-- A store that hands out two rows once, and does not let the second one be acknowledged. -/
def twoRows : OutboxStore Bool where
  claim _ _ _ fresh := (.ok (if fresh then [emptyRow "a", emptyRow "b"] else []), false)
  markDeliveredBy deliveryKey _ fresh :=
    (if deliveryKey = "b" then .error (.unavailable "lease lost") else .ok (), fresh)
  releaseBy _ _ _ fresh := (.ok (), fresh)
  quarantineBy _ _ _ fresh := (.ok (), fresh)

def anyPublisher : OutboxPublisher Bool := ⟨fun _ _ fresh => (.ok (), fresh)⟩

theorem second_row_interrupted :
    ∃ (done : List (OutboxRow × Completion)) (row : OutboxRow) (rest : List OutboxRow) (last : OutboxTrace),
      [emptyRow "a", emptyRow "b"] = done.map Prod.fst ++ row :: rest ∧
      (∀ entry ∈ done, entry.2.Fits Sha256.sha256 .retry entry.1 ∧
        (entry.2.calls "worker" entry.1).countP completes = 1) ∧
      dispatchTrace Sha256.sha256 twoRows anyPublisher "worker" .retry 10 60 true =
        (.claim "worker" 10 60, true) :: (completedCalls "worker" done ++ last) ∧
      Interrupted Sha256.sha256 "worker" .retry row (.unavailable "lease lost") last := by
  have failed : outcome (dispatchOnceWithPolicy Sha256.sha256 twoRows anyPublisher "worker" 10 60 .retry true) =
      .error (.unavailable "lease lost") := by decide +kernel
  obtain ⟨-, -, stopped⟩ := dispatch_protocol Sha256.sha256 twoRows anyPublisher "worker" .retry 10 60
    (show (twoRows.claim "worker" 10 60 true).1 = .ok [emptyRow "a", emptyRow "b"] from rfl)
  cases ran : dispatchOnceWithPolicy Sha256.sha256 twoRows anyPublisher "worker" 10 60 .retry true with
  | ok report w' =>
    rw [ran] at failed
    cases failed
  | error error w' =>
    rw [ran] at failed
    cases failed
    exact stopped _ w' ran

end StateChronicle.Verified
