import StateChronicle.Index.Ingest

/-!
# The in-memory trade index

A store of trade records that keeps what it is given, and batches to ingest: locks and settlements of an asset,
and payments with the settle intents that declare them.
-/

namespace StateChronicle.Index.Harness

open StateChronicle.Core Domain Foundation Profiles

def memoryIndex : TradeIndex TradeTable where
  putTrade record table := (.ok (), table.insert record.tradeId record)
  getTrade tradeId table := (.ok (table.get? tradeId), table)

theorem memoryIndex_readsBack : ReadsBack memoryIndex fun table tradeId => table.get? tradeId where
  get _ table := ⟨table, rfl, rfl⟩
  put record table := ⟨_, rfl, fun tradeId => SortedMap.get?_insert table record.tradeId record tradeId⟩

theorem applicable_of_isSome {batch : IngestBatch} (applied : (apply .empty batch).toOption.isSome) :
    Applicable batch := by
  cases outcome : apply .empty batch with
  | ok table => exact ⟨_, table, outcome⟩
  | error _ =>
    rw [outcome] at applied
    cases applied

/-! ## Fixtures -/

def commitment (version : U64) (state : ResourceState) : StateCommitment := ⟨version, ⟨.replicate 32 0⟩, state⟩

def tradedAsset (owner : String) (trade : Option String) : ResourceState :=
  .uniqueAsset ⟨⟨owner⟩, if trade.isSome then UniqueAsset.status.tradeHeld else UniqueAsset.status.active, trade⟩

def assetEvent (tenant eventId asset : String) (operation : Operation) (before after : ResourceState) : Event :=
  .new ⟨tenant⟩ ⟨eventId⟩ ⟨"int_" ++ eventId⟩ operation ⟨asset⟩ ⟨"alice"⟩ (commitment 1 before) (commitment 2 after)
    none ⟨"service"⟩ 0

def lockedEvent (tenant eventId asset trade : String) : Event :=
  assetEvent tenant eventId asset UniqueAsset.op.tradeLock (tradedAsset "alice" none) (tradedAsset "alice" (some trade))

def settledEvent (tenant eventId asset trade : String) : Event :=
  assetEvent tenant eventId asset UniqueAsset.op.tradeSettle (tradedAsset "alice" (some trade))
    (tradedAsset "bob" none)

def balanceEvent (tenant eventId intentId holder : String) (before after : Nat) : Event :=
  .new ⟨tenant⟩ ⟨eventId⟩ ⟨intentId⟩ FungibleBalance.op.balanceTransfer ⟨"currency:gold"⟩ ⟨"bob"⟩
    (commitment 1 (.fungibleBalance ⟨⟨holder⟩, Amount.ofNat before, "gold"⟩))
    (commitment 2 (.fungibleBalance ⟨⟨holder⟩, Amount.ofNat after, "gold"⟩)) none ⟨"service"⟩ 0

def payment (tenant intentId payee : String) (amount : Nat) : List Event :=
  [balanceEvent tenant (intentId ++ "_debit") intentId "bob" 100 (100 - amount),
    balanceEvent tenant (intentId ++ "_credit") intentId payee 0 amount]

def declaration (intentId trade amount payee : String) : Intent where
  schema := intentSchema
  tenantId := ⟨"acme"⟩
  intentId := ⟨intentId⟩
  operation := UniqueAsset.op.tradeSettle
  actor := ⟨"alice"⟩
  resourceId := ⟨"asset:sword"⟩
  stateType := some .uniqueAsset
  expectedVersion := 1
  inputs := .ofList [("trade_id", .string trade), ("value_resource", .string "currency:gold"),
    ("value_amount", .string amount), ("value_to_subject", .string payee)]
  authority := none
  createdAt := 0
  expiresAt := none
  nonce := ⟨[]⟩

def batchOf (tenant commitId : String) (events : List Event) (settleIntents : List Intent) : IngestBatch where
  events
  settleIntents
  commit :=
    { body := .new (.tenant ⟨tenant⟩) ⟨commitId⟩ none 1 1 ⟨.replicate 32 0⟩ ⟨.replicate 32 0⟩ ⟨.replicate 32 0⟩ 0
        ⟨"service"⟩ ⟨"statechronicle.profile.resource.v0"⟩
      signature := ⟨.ed25519, "key", []⟩ }

end StateChronicle.Index.Harness
