import StateChronicle.Domain.State
import StateChronicle.Foundation.Traced

/-!
# The outbox

Rows that a committed transaction left for delivery are claimed under a lease, published, and completed one by one.  A
worker does so tick by tick, backing off when it finds nothing or the store is unavailable.
-/

namespace StateChronicle.Outbox

open StateChronicle.Core Domain Foundation

/-- A notification body that the ledger does not interpret, with the digest recorded for it. -/
structure OutboxPayload where
  tenant : TenantId
  commitId : CommitId
  payloadDigest : ContentDigest
  payload : List UInt8
deriving DecidableEq, Repr

inductive OutboxError where
  | unavailable (message : String)
  | corrupt (message : String)
deriving DecidableEq, Repr

namespace OutboxError

def isRetryable : OutboxError → Bool
  | .unavailable _ => true
  | .corrupt _ => false

end OutboxError

/-- A claimed row: its delivery key and its payload. -/
abbrev OutboxRow : Type := String × OutboxPayload

/-! ## Ports -/

/-- The lease-based store of the rows, in a world `W`.  Completions name the worker that owns the lease. -/
structure OutboxStore (W : Type) where
  claim : (workerId : String) → (limit : ℕ) → (leaseUntilUnix : ℤ) → W → Except OutboxError (List OutboxRow) × W
  markDeliveredBy : (deliveryKey workerId : String) → W → Except OutboxError Unit × W
  releaseBy : (deliveryKey workerId error : String) → W → Except OutboxError Unit × W
  quarantineBy : (deliveryKey workerId error : String) → W → Except OutboxError Unit × W

structure OutboxPublisher (W : Type) where
  publish : (deliveryKey : String) → OutboxPayload → W → Except String Unit × W

/-! ## One batch -/

structure DispatchReport where
  delivered : U64
  retried : U64
  quarantined : U64
deriving DecidableEq, Repr

def DispatchReport.default : DispatchReport := ⟨0, 0, 0⟩

inductive PoisonPolicy where
  | retry
  | quarantine
deriving DecidableEq, Repr

def digestMismatch : String := "payload digest mismatch"

section Dispatch

variable {W : Type} (sha256 : List UInt8 → Vector UInt8 32) (store : OutboxStore W) (publisher : OutboxPublisher W)
  (workerId : String)

/-- Completes one claimed row and counts it. -/
def dispatchRow (poisonPolicy : PoisonPolicy) (report : DispatchReport) (row : OutboxRow) :
    EStateM OutboxError W DispatchReport :=
  if hashBytes sha256 row.2.payload ≠ row.2.payloadDigest then
    match poisonPolicy with
    | .retry => do
      request (store.releaseBy row.1 workerId digestMismatch) id
      throw (.corrupt s!"payload digest mismatch for `{row.1}`")
    | .quarantine => do
      request (store.quarantineBy row.1 workerId digestMismatch) id
      return { report with quarantined := saturatingAdd report.quarantined 1 }
  else do
    match ← perform (publisher.publish row.1 row.2) with
    | .ok () =>
      request (store.markDeliveredBy row.1 workerId) id
      return { report with delivered := saturatingAdd report.delivered 1 }
    | .error error =>
      request (store.releaseBy row.1 workerId error) id
      return { report with retried := saturatingAdd report.retried 1 }

variable (limit : ℕ) (leaseUntilUnix : ℤ)

def dispatchOnceWithPolicy (poisonPolicy : PoisonPolicy) : EStateM OutboxError W DispatchReport := do
  let claimed ← request (store.claim workerId limit leaseUntilUnix) id
  claimed.foldlM (dispatchRow sha256 store publisher workerId poisonPolicy) .default

def dispatchOnce : EStateM OutboxError W DispatchReport :=
  dispatchOnceWithPolicy sha256 store publisher workerId limit leaseUntilUnix .retry

def DispatchReport.add (total report : DispatchReport) : DispatchReport :=
  ⟨saturatingAdd total.delivered report.delivered, saturatingAdd total.retried report.retried,
    saturatingAdd total.quarantined report.quarantined⟩

/-- Passes over what is available, at most as many as remain. -/
def drainPasses (workerId : String) (limit : ℕ) (leaseUntilUnix : ℤ) :
    ℕ → DispatchReport → EStateM OutboxError W DispatchReport
  | 0, total => return total
  | remaining + 1, total => do
    let report ← dispatchOnce sha256 store publisher workerId limit leaseUntilUnix
    if report.delivered = 0 ∧ report.retried = 0 then return total.add report
    else drainPasses workerId limit leaseUntilUnix remaining (total.add report)

def dispatchUntilIdle (maxPasses : ℕ) : EStateM OutboxError W DispatchReport := do
  Foundation.liftExcept (rejectIf (limit = 0 ∨ maxPasses = 0)
    (.unavailable "outbox drain limit and max_passes must be non-zero"))
  drainPasses sha256 store publisher workerId limit leaseUntilUnix maxPasses .default

end Dispatch

/-! ## The consumer -/

inductive ConsumerDeliveryClaim where
  | new (attemptId : String)
  | alreadyApplied
  | inProgress (attemptId : String) (leaseExpiresAtUnix : ℤ)
deriving DecidableEq, Repr

structure ConsumerDedupStore (W : Type) where
  claimDelivery : (deliveryKey : String) → (leaseUntilUnix : ℤ) → W → Except OutboxError ConsumerDeliveryClaim × W
  markDeliveryApplied : (deliveryKey attemptId : String) → W → Except OutboxError Unit × W
  releaseDelivery : (deliveryKey attemptId error : String) → W → Except OutboxError Unit × W

structure OutboxConsumer (W : Type) where
  apply : (deliveryKey : String) → OutboxPayload → W → Except String Unit × W

/-- Claims and applies one delivery at the time `now`; a duplicate is acknowledged without the callback. -/
def consumeOnce {W : Type} (dedup : ConsumerDedupStore W) (consumer : OutboxConsumer W) (now : ℤ)
    (deliveryKey : String) (payload : OutboxPayload) (leaseUntilUnix : ℤ) : EStateM OutboxError W Bool := do
  Foundation.liftExcept (rejectIf (deliveryKey = "") (.unavailable "consumer delivery key must not be empty"))
  Foundation.liftExcept (rejectIf (leaseUntilUnix ≤ now)
    (.unavailable "consumer lease expiration must be in the future"))
  match ← request (dedup.claimDelivery deliveryKey leaseUntilUnix) id with
  | .alreadyApplied => return false
  | .inProgress _ _ => throw (.unavailable "consumer delivery is already in progress")
  | .new attemptId =>
    match ← perform (consumer.apply deliveryKey payload) with
    | .error error =>
      request (dedup.releaseDelivery deliveryKey attemptId error) id
      throw (.unavailable error)
    | .ok () =>
      request (dedup.markDeliveryApplied deliveryKey attemptId) id
      return true

/-! ## The worker -/

/-- Nanoseconds, up to the longest duration. -/
abbrev Duration : Type := Fin (2 ^ 64 * 10 ^ 9)

structure OutboxWorkerConfig where
  batchSize : ℕ
  leaseDurationSecs : ℤ
  maxTicks : ℕ
  idleBackoff : Duration
  errorBackoff : Duration
  maxErrorBackoff : Duration
  poisonPolicy : PoisonPolicy
deriving DecidableEq, Repr

structure WorkerReport where
  ticks : U64
  delivered : U64
  retried : U64
  quarantined : U64
  transientErrors : U64
deriving DecidableEq, Repr

def WorkerReport.default : WorkerReport := ⟨0, 0, 0, 0, 0⟩

def WorkerReport.addTick (report : WorkerReport) (tick : DispatchReport) : WorkerReport :=
  { report with
    delivered := saturatingAdd report.delivered tick.delivered
    retried := saturatingAdd report.retried tick.retried
    quarantined := saturatingAdd report.quarantined tick.quarantined }

/-- What the worker is given beside the store: the clock in seconds, the sleep hook and the shutdown predicate. -/
structure WorkerHooks (W : Type) where
  now : W → ℤ × W
  sleep : Duration → W → Unit × W
  shouldStop : W → Bool × W

/-- Addition on signed words of 64 bits, up to their bounds. -/
def saturatingAddI64 (a b : ℤ) : ℤ := max (-2 ^ 63) (min (a + b) (2 ^ 63 - 1))

section Worker

variable {W : Type} (sha256 : List UInt8 → Vector UInt8 32) (store : OutboxStore W) (publisher : OutboxPublisher W)
  (workerId : String) (config : OutboxWorkerConfig) (hooks : WorkerHooks W)

def tick : EStateM OutboxError W DispatchReport := do
  let now ← perform hooks.now
  dispatchOnceWithPolicy sha256 store publisher workerId config.batchSize
    (saturatingAddI64 now config.leaseDurationSecs) config.poisonPolicy

def pauseIfIdle (done : DispatchReport) : EStateM OutboxError W Unit :=
  if done.delivered = 0 ∧ done.retried = 0 ∧ done.quarantined = 0 then perform (hooks.sleep config.idleBackoff)
  else pure ()

/-- The report and the delay after the next transient error, once a tick has ended; permanent errors end the run. -/
def afterTick (report : WorkerReport) (errorBackoff : Duration) :
    Except OutboxError DispatchReport → EStateM OutboxError W (WorkerReport × Duration)
  | .ok done => do
    pauseIfIdle config hooks done
    return (report.addTick done, config.errorBackoff)
  | .error error =>
    if error.isRetryable then do
      perform (hooks.sleep errorBackoff)
      -- what the tick had completed before it failed is not counted
      return ({ report with transientErrors := saturatingAdd report.transientErrors 1 },
        min (saturatingMul errorBackoff ⟨2, by decide⟩) config.maxErrorBackoff)
    else throw error

/-- The ticks that remain, until the worker is told to stop. -/
def workerTicks : ℕ → WorkerReport → Duration → EStateM OutboxError W WorkerReport
  | 0, report, _ => return report
  | remaining + 1, report, errorBackoff => do
    if ← perform hooks.shouldStop then return report
    else
      let ended ← attempt (tick sha256 store publisher workerId config hooks)
      let next ← afterTick config hooks { report with ticks := saturatingAdd report.ticks 1 } errorBackoff ended
      workerTicks remaining next.1 next.2

def runOutboxWorker : EStateM OutboxError W WorkerReport := do
  Foundation.liftExcept (rejectIf (workerId = "" ∨ config.batchSize = 0 ∨ config.maxTicks = 0 ∨
    config.leaseDurationSecs ≤ 0 ∨ config.maxErrorBackoff < config.errorBackoff)
    (.unavailable "worker id and bounds must be non-empty"))
  workerTicks sha256 store publisher workerId config hooks config.maxTicks .default config.errorBackoff

end Worker

/-! ## Recorded ports -/

inductive OutboxCall where
  | claim (workerId : String) (limit : ℕ) (leaseUntilUnix : ℤ)
  | publish (deliveryKey : String) (payload : OutboxPayload)
  | markDeliveredBy (deliveryKey workerId : String)
  | releaseBy (deliveryKey workerId error : String)
  | quarantineBy (deliveryKey workerId error : String)
deriving DecidableEq, Repr

/-- The calls made to store and publisher, each with whether it succeeded. -/
abbrev OutboxTrace : Type := List (OutboxCall × Bool)

open Traced

variable {W : Type}

def OutboxStore.recorded (store : OutboxStore W) : OutboxStore (Traced OutboxCall W) where
  claim workerId limit leaseUntilUnix :=
    recording (.claim workerId limit leaseUntilUnix) (store.claim workerId limit leaseUntilUnix)
  markDeliveredBy deliveryKey workerId :=
    recording (.markDeliveredBy deliveryKey workerId) (store.markDeliveredBy deliveryKey workerId)
  releaseBy deliveryKey workerId error :=
    recording (.releaseBy deliveryKey workerId error) (store.releaseBy deliveryKey workerId error)
  quarantineBy deliveryKey workerId error :=
    recording (.quarantineBy deliveryKey workerId error) (store.quarantineBy deliveryKey workerId error)

def OutboxPublisher.recorded (publisher : OutboxPublisher W) : OutboxPublisher (Traced OutboxCall W) where
  publish deliveryKey payload := recording (.publish deliveryKey payload) (publisher.publish deliveryKey payload)

/-- The hooks beside a record. -/
def WorkerHooks.beside (hooks : WorkerHooks W) : WorkerHooks (Traced OutboxCall W) where
  now := unrecorded hooks.now
  sleep duration := unrecorded (hooks.sleep duration)
  shouldStop := unrecorded hooks.shouldStop

end StateChronicle.Outbox
