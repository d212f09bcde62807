import StateChronicle.Domain.Bcs
import StateChronicle.Execution.Runs
import StateChronicle.Foundation.Sha256

/-!
# The in-memory deployment

The ports of the integration harness: claims in a map, a fixed index, a fixed clock, an authority that allows
everything, a counter for event ids and a transaction manager that always succeeds.
-/

namespace StateChronicle.Execution.Harness

open Commit StateChronicle.Core Domain Foundation Profiles

variable {profiles : ProfileRegistry} {table : StateTable}

structure Memory where
  claims : List ((TenantId × IntentId) × Intent)
  nextEvent : Nat
deriving DecidableEq

def Memory.fresh : Memory := ⟨[], 1⟩

def Memory.holding (claimed : List ValidatedIntent) : Memory where
  claims := claimed.map fun validated =>
    ((validated.intent.tenantId, validated.intent.intentId), validated.intent)
  nextEvent := 1

def Memory.claim? (memory : Memory) (tenant : TenantId) (intentId : IntentId) : Option Intent :=
  memory.claims.lookup (tenant, intentId)

def putIntent (tenant : TenantId) (intent : Intent) (memory : Memory) : Except IntentStoreError Unit × Memory :=
  match memory.claim? tenant intent.intentId with
  | some existing => (if existing = intent then .ok () else .error .duplicate, memory)
  | none => (.ok (), { memory with claims := ((tenant, intent.intentId), intent) :: memory.claims })

def fixedNow : Timestamp := 1784160000

def nextEventId (memory : Memory) : EventId × Memory :=
  let digits := (Nat.toDigits 10 memory.nextEvent)
  (⟨"evt_" ++ String.ofList (List.replicate (20 - digits.length) '0' ++ digits)⟩,
    { memory with nextEvent := memory.nextEvent + 1 })

def intentBytes (intent : Intent) : List UInt8 :=
  [intent.schema, intent.tenantId.name, intent.intentId.name, intent.operation.name,
    intent.actor.name, intent.resourceId.name].flatMap Bcs.text

def codec : Codec where
  sha256 := Sha256.sha256
  intentBytes intent := some (intentBytes intent)
  stateBytes state := some (Bcs.state state)
  aggregateBytes domain _ digests := some (Bcs.text domain ++ digests.flatMap (·.bytes.toList))

def allowedDigest : ContentDigest := hashBytes Sha256.sha256 (Accumulator.utf8 "allowed")

def allowTrustGrant : TrustGrantPort Memory where
  evaluate _ _ _ _ memory := (.ok ⟨allowedDigest, .allow, fixedNow⟩, memory)
  checkRevocationFreshness _ memory := (.ok (), memory)

def transactionHandle : TransactionHandle Memory where
  commit memory := (.ok (), memory)
  rollback memory := (.ok (), memory)

def ports (table : StateTable) : Ports Memory where
  putIntent := putIntent
  getIntent tenant intentId memory := (.ok (memory.claim? tenant intentId), memory)
  getState tenant resource memory := (.ok (table.read ⟨tenant, resource, none⟩), memory)
  getSubjectState tenant subject resource memory :=
    (.ok (table.read ⟨tenant, resource, some subject⟩), memory)
  tenantExists _ memory := (.ok true, memory)
  trustgrant := [allowTrustGrant]
  begin _ memory := (.ok transactionHandle, memory)
  beginMulti _ memory := (.ok transactionHandle, memory)

/-- An executor over the in-memory ports; signatures are accepted unread. -/
def executor (profiles : ProfileRegistry) (table : StateTable) : Executor Memory where
  ports := ports table
  profiles := profiles
  executor := ⟨"service:executor"⟩
  now memory := (fixedNow, memory)
  eventIdFn := nextEventId
  intentVerifier _ _ memory := (.ok (), memory)
  codec := codec

theorem executor_serves (profiles : ProfileRegistry) (table : StateTable) :
    (executor profiles table).ports.Serves table where
  state _ _ _ _ _ answers := by cases answers; rfl
  subjectState _ _ _ _ _ _ answers := by cases answers; rfl

def Memory.claimed (memory : Memory) : Claims := memory.claim?

variable {memory : Memory}

theorem claimed_putIntent {intent : Intent} {memory' : Memory}
    (put : putIntent intent.tenantId intent memory = (.ok (), memory')) :
    memory'.claimed = memory.claimed.record intent := by
  unfold putIntent at put
  funext tenant intentId
  split at put
  case h_1 existing found =>
    split at put
    case isTrue same =>
      -- The store already has this very intent.
      cases put
      subst same
      unfold Claims.record
      split
      case isTrue own =>
        rw [own.1, own.2]
        exact found
      case isFalse => rfl
    case isFalse => cases put
  case h_2 =>
    cases put
    simp only [Memory.claimed, Memory.claim?, Claims.record, List.lookup_cons]
    split <;> simp_all

theorem executor_storesClaims (profiles : ProfileRegistry) (table : StateTable) :
    (executor profiles table).StoresClaims Memory.claimed where
  get _ _ _ _ _ answers := by cases answers; rfl
  getKeeps _ _ _ := rfl
  put _ _ _ put := claimed_putIntent put
  putFails intent memory error memory' fails := by
    change putIntent intent.tenantId intent memory = (.error error, memory') at fails
    unfold putIntent at fails
    split at fails
    · exact congrArg Memory.claimed (Prod.ext_iff.mp fails).2.symm
    · cases fails
  state _ _ _ := rfl
  subjectState _ _ _ _ := rfl
  tenant _ _ := rfl
  evaluate authority member _ _ _ _ _ := by
    obtain rfl : authority = allowTrustGrant := List.mem_singleton.mp member
    rfl
  freshness authority member _ _ := by
    obtain rfl : authority = allowTrustGrant := List.mem_singleton.mp member
    rfl
  begin _ _ := rfl
  beginMulti _ _ := rfl
  now _ := rfl
  eventId _ := rfl
  verifier _ _ _ := rfl

/-- The executor with a clock that can see the memory. -/
def clocked (clock : Memory → Timestamp) (profiles : ProfileRegistry) (table : StateTable) : Executor Memory :=
  { executor profiles table with now := fun memory => (clock memory, memory) }

theorem clocked_storesClaims (clock : Memory → Timestamp) (profiles : ProfileRegistry) (table : StateTable) :
    (clocked clock profiles table).StoresClaims Memory.claimed :=
  { executor_storesClaims profiles table with now := fun _ => rfl }

def unavailableSink : DurableBatchSink Memory where
  persistBatch _ _ memory := (.error "durable sink unavailable", memory)

def emitted {α : Type} : EStateM.Result ExecutorError Memory (List α) → List α
  | .ok events _ => events
  | .error _ _ => []

theorem ok_of_emitted_ne_nil {α : Type} {result : EStateM.Result ExecutorError Memory (List α)}
    (some : emitted result ≠ []) : ∃ memory, result = .ok (emitted result) memory := by
  cases result with
  | ok events memory => exact ⟨memory, rfl⟩
  | error error memory => exact absurd rfl some

/-! ## Runs -/

def remaining : EStateM.Result ExecutorError Memory (List Event) → Memory
  | .ok _ memory => memory
  | .error _ memory => memory

def commitId : CommitId := ⟨"cmt_00000000000000000001"⟩

/-- One intent, executed by itself over the given states and committed. -/
def stepOf (profiles : ProfileRegistry) (table : StateTable) (memory : Memory) (validated : ValidatedIntent) :
    RunStep Memory where
  executor := executor profiles table
  table
  validated
  coordinated := false
  persist := true
  world := memory
  world' := remaining ((executor profiles table).execute validated memory)
  events := emitted ((executor profiles table).execute validated memory)
  commitId

theorem stepOf_accepted (standard : profiles.Standard) (nativeDomains : profiles.NativeDomains)
    {validated : ValidatedIntent} (fresh : (stepOf profiles table memory validated).events ≠ []) :
    (stepOf profiles table memory validated).Accepted := by
  refine ⟨standard, nativeDomains, executor_serves profiles table, ?_⟩
  obtain ⟨left, returns⟩ := ok_of_emitted_ne_nil fresh
  change (executor profiles table).execute validated memory = .ok (emitted _) (remaining _)
  rw [returns]
  rfl

/-- Intents executed in order, each over what the earlier ones left. -/
def runOf (profiles : ProfileRegistry) : StateTable → Memory → List ValidatedIntent → List (RunStep Memory)
  | _, _, [] => []
  | table, memory, validated :: rest =>
    let step := stepOf profiles table memory validated
    step :: runOf profiles step.result step.world' rest

theorem mem_runOf {intents : List ValidatedIntent} {step : RunStep Memory}
    (member : step ∈ runOf profiles table memory intents) :
    step.executor.profiles = profiles ∧ step.validated ∈ intents := by
  induction intents generalizing table memory with
  | nil => cases member
  | cons validated rest ih =>
    rcases List.mem_cons.mp member with rfl | later
    · exact ⟨rfl, List.mem_cons_self⟩
    · obtain ⟨served, listed⟩ := ih later
      exact ⟨served, List.mem_cons_of_mem _ listed⟩

def tableAfter (start : StateTable) (steps : List (RunStep Memory)) : StateTable :=
  steps.foldl (fun _ step => step.result) start

theorem executed_runOf (standard : profiles.Standard) (nativeDomains : profiles.NativeDomains) {start : StateTable}
    {intents : List ValidatedIntent} (fresh : ∀ step ∈ runOf profiles start memory intents, step.events ≠ []) :
    Executed start (runOf profiles start memory intents) (tableAfter start (runOf profiles start memory intents)) := by
  suffices continued : ∀ {table : StateTable} {earlier : List (RunStep Memory)}, Executed start earlier table →
      (∀ step ∈ runOf profiles table memory intents, step.events ≠ []) →
      Executed start (earlier ++ runOf profiles table memory intents)
        (tableAfter table (runOf profiles table memory intents)) from continued .start fresh
  clear fresh
  induction intents generalizing memory with
  | nil =>
    intro table earlier run _
    rwa [runOf, List.append_nil]
  | cons validated rest ih =>
    intro table earlier run fresh
    rw [runOf, List.forall_mem_cons] at fresh
    have next := Executed.step run (stepOf_accepted standard nativeDomains fresh.1)
    rw [runOf, List.append_cons]
    exact ih next fresh.2

theorem stepOf_baseline_accepted {validated : ValidatedIntent}
    (fresh : (stepOf .baseline table memory validated).events ≠ []) :
    (stepOf .baseline table memory validated).Accepted :=
  stepOf_accepted ProfileRegistry.standard_baseline ProfileRegistry.nativeDomains_baseline fresh

theorem executed_baseline {start : StateTable} {memory : Memory} {intents : List ValidatedIntent}
    (fresh : ∀ step ∈ runOf .baseline start memory intents, step.events ≠ []) :
    Executed start (runOf .baseline start memory intents) (tableAfter start (runOf .baseline start memory intents)) :=
  executed_runOf ProfileRegistry.standard_baseline ProfileRegistry.nativeDomains_baseline fresh

/-! ## Fixtures -/

def tenant : TenantId := ⟨"acme.game.alpha"⟩

def gold : ResourceId := ⟨"currency:gold"⟩

/-- An unsigned intent of a tenant with the harness's defaults. -/
def intentIn (tenant : TenantId) (id operation actor : String) (resource : ResourceId)
    (stateType : StateType) (expectedVersion : U64) (inputs : List (String × Value)) :
    ValidatedIntent where
  intent :=
    { schema := intentSchema
      tenantId := tenant
      intentId := ⟨id⟩
      operation := ⟨operation⟩
      actor := ⟨actor⟩
      resourceId := resource
      stateType := some stateType
      expectedVersion
      inputs := .ofList inputs
      authority := none
      createdAt := fixedNow
      expiresAt := none
      nonce := ⟨[]⟩ }
  signature := none

def textInputs (inputs : List (String × String)) : List (String × Value) :=
  inputs.map fun input => (input.1, .string input.2)

def intent (id operation actor : String) (resource : ResourceId) (stateType : StateType)
    (expectedVersion : U64) (inputs : List (String × String)) : ValidatedIntent :=
  intentIn tenant id operation actor resource stateType expectedVersion (textInputs inputs)

def authorized (validated : ValidatedIntent) : ValidatedIntent :=
  { validated with
    intent := { validated.intent with
      authority := some
        { kind := trustgrantEvaluationKind
          evaluationDigest := allowedDigest
          result := .allow
          evaluatedAt := fixedNow } } }

/-- A stored state: where it is, its version and its payload. -/
structure Stored where
  tenant : TenantId
  resource : ResourceId
  version : U64
  state : ResourceState

def Stored.projection (stored : Stored) : StateProjection where
  tenantId := stored.tenant
  resourceId := stored.resource
  stateType := stored.state.stateType
  version := stored.version
  lastEventId := ⟨"evt_00000000000000000000"⟩
  lastCommitId := ⟨"cmt_00000000000000000000"⟩
  stateHash := hashBytes Sha256.sha256 (Bcs.state stored.state)
  state := stored.state

def Stored.slot (stored : Stored) : StateSlot := ⟨stored.tenant, stored.resource, stored.state.subject⟩

def tableOf (states : List Stored) : StateTable :=
  states.foldl (fun table stored => table.insert stored.slot stored.projection) ∅

theorem mem_of_read_tableOf {states : List Stored} {slot : StateSlot} {projection : StateProjection}
    (read : (tableOf states).read slot = some projection) :
    ∃ stored ∈ states, slot = stored.slot ∧ projection = stored.projection := by
  suffices continued : ∀ table : StateTable,
      (states.foldl (fun table stored => table.insert stored.slot stored.projection) table).read slot =
          some projection →
        table.read slot = some projection ∨
          ∃ stored ∈ states, slot = stored.slot ∧ projection = stored.projection by
    rcases continued ∅ read with nowhere | stored
    · simp [StateTable.read] at nowhere
    · exact stored
  clear read
  induction states with
  | nil => exact fun table read => .inl read
  | cons stored rest ih =>
    intro table read
    rcases ih _ read with earlier | ⟨later, member, same⟩
    · by_cases own : slot = stored.slot
      · rw [own, StateTable.read, Finmap.lookup_insert] at earlier
        exact .inr ⟨stored, List.mem_cons_self, own, (Option.some.inj earlier).symm⟩
      · rw [StateTable.read, Finmap.lookup_insert_of_ne _ own] at earlier
        exact .inl earlier
    · exact .inr ⟨later, List.mem_cons_of_mem _ member, same⟩

theorem holdersKeyed_tableOf (states : List Stored) : (tableOf states).HoldersKeyed := by
  intro slot projection held read
  obtain ⟨stored, -, rfl, rfl⟩ := mem_of_read_tableOf read
  exact ⟨rfl, rfl, rfl⟩

theorem digestState_tableOf {states : List Stored} {slot : StateSlot} {projection : StateProjection}
    (read : (tableOf states).read slot = some projection) :
    codec.digestState projection.state = .ok projection.stateHash := by
  obtain ⟨stored, -, -, rfl⟩ := mem_of_read_tableOf read
  rfl

def goldBalance (holder : String) (amount : Nat) : ResourceState :=
  .fungibleBalance ⟨⟨holder⟩, Amount.ofNat amount, "gold"⟩

def tradeHeld (owner tradeId : String) : ResourceState :=
  .uniqueAsset ⟨⟨owner⟩, UniqueAsset.status.tradeHeld, some tradeId⟩

/-! A sword of one tenant is traded for gold of another. -/

def beta : TenantId := ⟨"acme.game.beta"⟩

def sword : ResourceId := ⟨"asset:sword"⟩

def swordTable : StateTable :=
  tableOf [⟨tenant, sword, 3, tradeHeld "alice" "trd_sword"⟩, ⟨beta, gold, 1, goldBalance "bob" 100⟩]

def settleSword (id : String) (extra : List (String × String)) : ValidatedIntent :=
  authorized <| intentIn tenant id "trade.settle" "alice" sword .uniqueAsset 3
    (textInputs ([("from_owner", "alice"), ("to_owner", "bob"), ("trade_id", "trd_sword")] ++ extra))

def payGold (id : String) : ValidatedIntent :=
  intentIn beta id "balance.transfer" "bob" gold .fungibleBalance 1
    (textInputs [("amount", "30"), ("to_subject", "alice")])

end StateChronicle.Execution.Harness
