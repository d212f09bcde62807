import StateChronicle.Index.Service
import StateChronicle.Index.TradeView
import StateChronicle.Verified.TradeProofs

/-!
# Which settled trades can be proven

The index files all settle events of a tenant under one side with the owner of the first, and the
verifier asks every asset of the side to be in that owner's hands at the commit that settled it.
-/

namespace StateChronicle.Verified

open StateChronicle.Core Accumulator Commit Domain Foundation Index Profiles Proofs

variable {last event : Event} {state : ResourceState} {side : TradeSide}

/-! ## Genuine proofs -/

variable {settlement : Settlement} {proof : ResourceStateProof} {tree : StateAccumulator} {signed : Signed Commit}
  {asset : ResourceId}

def lastEvent (batches : List IngestBatch) (commitId : CommitId) (tenant : TenantId) (asset : ResourceId) :
    Option Event :=
  ((batches.filter fun batch => batch.commit.body.commitId = commitId).flatMap (·.events)).reverse.find?
    fun event => writtenSlot event = ⟨tenant, asset, none⟩

/-- A state proof built from the tree behind the signed commit, for the state an event left. -/
def Genuine (verifier : Verifier) (commitsById : SortedMap String (Signed Commit × VerifyingKey))
    (commitRef : CommitRef) (event : Event) (proof : ResourceStateProof) : Prop :=
  ∃ signed verifyingKey accumulator inclusion authority,
    commitsById.get? commitRef.commitId.name = some (signed, verifyingKey) ∧
    Proofs.commitRef signed = .ok commitRef ∧ signed.body.scope.tenantId = some event.tenantId ∧
    verifier.verifyCommitSignatureWithKey signed verifyingKey = .ok () ∧
    (StateAccumulator.root verifier.sha256 accumulator).bytes = signed.body.nextStateRoot.bytes ∧
    canonicalizeAndDigest verifier.sha256 (verifier.stateBytes event.after.state) = .ok event.after.stateHash ∧
    accumulator.proveInclusion verifier.sha256 ((writtenSlot event).key verifier.sha256) = some inclusion ∧
    buildStateProof verifier.sha256 (projectionFor commitRef.commitId event) signed inclusion event.operation
      authority ((writtenSlot event).key verifier.sha256) = .ok proof ∧
    Verifier.checkProofSize (verifier.proofBytes proof) = .ok ()

variable {verifier : Verifier} {commitsById : SortedMap String (Signed Commit × VerifyingKey)}
  {batches : List IngestBatch} {tradeId : String}

theorem Genuine.verified (chain : DefaultChain verifier.sha256) {commitRef : CommitRef}
    (genuine : Genuine verifier commitsById commitRef event proof) (unheld : event.after.state.subject = none) :
    verifier.verifyOwnCommit commitsById proof = .ok () ∧ proof.resourceId = event.resourceId ∧
      proof.claimedState = event.after.state ∧ proof.latestEvent = ⟨event.eventId, event.operation⟩ := by
  obtain ⟨signed, verifyingKey, accumulator, inclusion, authority, known, referred, owned, signs, rooted, hashed,
    included, built, sized⟩ := genuine
  have digested : canonicalizeAndDigest verifier.sha256
      (verifier.stateBytes (projectionFor commitRef.commitId event).state) =
      .ok (projectionFor commitRef.commitId event).stateHash := hashed
  have accepted := verifyBundle_of_buildStateProof chain digested included built rooted owned signs sized
  obtain ⟨_, reference, referred', rfl⟩ := buildStateProof_eq_ok.mp built
  obtain rfl := Except.ok.inj (referred.symm.trans referred')
  refine ⟨?_, rfl, rfl, rfl⟩
  refine Verifier.verifyOwnCommit_eq_ok.mpr ⟨signed, verifyingKey, _, known, ?_, accepted⟩
  simp only [deriveStateKey, ResourceStateProof.new, projectionFor, StateSlot.key, writtenSlot, unheld]

/-! ## Settlements of the batches -/

theorem unheld_of_owned (owned : ownerName state ≠ "") : state.subject = none := by
  cases state with
  | uniqueAsset asset => rfl
  | _ => exact absurd rfl owned

theorem exists_batch (member : settlement ∈ settlements tradeId batches) :
    ∃ batch ∈ batches, settlement.event ∈ batch.events ∧ settlement.commitRef = referenceOf batch.commit := by
  obtain ⟨batch, listed, inside⟩ := List.mem_flatMap.mp member
  obtain ⟨event, filtered, rfl⟩ := List.mem_map.mp inside
  exact ⟨batch, listed, (List.mem_filter.mp filtered).1, rfl⟩

/-- A settled asset has a last event in the commit that settled it. -/
theorem exists_lastEvent (member : settlement ∈ settlements tradeId batches)
    (owned : ownerName settlement.event.after.state ≠ "") :
    ∃ last, lastEvent batches settlement.commitRef.commitId settlement.event.tenantId
      settlement.event.resourceId = some last := by
  obtain ⟨batch, listed, inside, reference⟩ := exists_batch member
  refine Option.isSome_iff_exists.mp (List.find?_isSome.mpr ⟨settlement.event, ?_, ?_⟩)
  · rw [List.mem_reverse, reference]
    exact List.mem_flatMap.mpr ⟨batch, List.mem_filter.mpr ⟨listed, decide_eq_true rfl⟩, inside⟩
  · rw [writtenSlot, unheld_of_owned owned]
    exact decide_eq_true rfl

theorem writtenSlot_of_lastEvent {commitId : CommitId} {tenant : TenantId}
    (found : lastEvent batches commitId tenant asset = some last) : writtenSlot last = ⟨tenant, asset, none⟩ := by
  simpa using List.find?_some found

theorem ownerOf_eq_ok {owner : String} : ownerOf state = .ok owner ↔ ownerName state = owner ∧ owner ≠ "" := by
  rw [← ownerOfState_eq_ok, ownerOfState, ownerOf, okOr_eq_ok, Option.filter_eq_some_iff]
  cases state.owner with
  | none => simp [Except.bind_eq_ok]
  | some holder =>
    simp only [Except.bind_eq_ok, okOr_some, Except.ok.injEq, exists_eq_left', rejectIf_eq_ok, exists_const,
      Except.pure_eq_ok, Option.map_some, Option.some.injEq, decide_eq_true_eq]
    rw [and_comm]
    exact and_congr_right fun same => by rw [same]

/-- Every asset of the trade last moved in the commit that settled it by a settlement, to the owner that
the trade's first settlement in its tenant names. -/
def SettledTogether (tradeId : String) (batches : List IngestBatch) : Prop :=
  ∀ settlement ∈ settlements tradeId batches, ∀ first last,
    (settlements tradeId batches).find? (fun other => other.event.tenantId = settlement.event.tenantId) = some first →
    lastEvent batches settlement.commitRef.commitId settlement.event.tenantId settlement.event.resourceId = some last →
    last.operation = UniqueAsset.op.tradeSettle ∧ ownerName last.after.state = ownerName first.event.after.state

/-- The proof index holds the genuine proof of every settled asset at the commit that settled it. -/
def HoldsGenuine (verifier : Verifier) (commitsById : SortedMap String (Signed Commit × VerifyingKey))
    (index : ProofIndex) (tradeId : String) (batches : List IngestBatch) : Prop :=
  ∀ settlement ∈ settlements tradeId batches, ∀ last,
    lastEvent batches settlement.commitRef.commitId settlement.event.tenantId settlement.event.resourceId = some last →
    ∃ proof, index settlement.event.tenantId settlement.event.resourceId settlement.commitRef.commitId =
      some proof ∧ Genuine verifier commitsById settlement.commitRef last proof

/-! ## Completeness -/

section

variable {index : ProofIndex} {record : TradeRecord}
  (gathers : Gathers (settlements tradeId batches) record.sides)
  (once : ((settlements tradeId batches).map fun settlement =>
    (settlement.event.tenantId, settlement.event.resourceId)).Nodup)

theorem stateProofOf_eq_ok {settled : List Settlement} {sides : List TradeSide}
    (filed : FiledUnder settled sides settlement side) :
    stateProofOf index side settlement.event.resourceId = .ok proof ↔
      index settlement.event.tenantId settlement.event.resourceId settlement.commitRef.commitId = some proof := by
  rw [stateProofOf, okOr_eq_ok, settleCommitOf, filed.commit, filed.tenant, Option.getD_some]

include gathers in
/-- A genuine proof settles its side when the asset was last settled, and to the side's owner. -/
theorem settles_iff (chain : DefaultChain verifier.sha256)
    (filed : FiledUnder (settlements tradeId batches) record.sides settlement side) {first : Settlement}
    (leads : (settlements tradeId batches).find? (fun other => other.event.tenantId = settlement.event.tenantId) =
      some first)
    (found : lastEvent batches settlement.commitRef.commitId settlement.event.tenantId settlement.event.resourceId =
      some last)
    (genuine : Genuine verifier commitsById settlement.commitRef last proof) :
    verifier.Settles commitsById side proof ↔ last.operation = UniqueAsset.op.tradeSettle ∧
      ownerName last.after.state = ownerName first.event.after.state := by
  obtain ⟨first', leads', toOwner⟩ := filed.first
  obtain rfl := Option.some.inj (leads.symm.trans leads')
  have owned := gathers.owned first (List.mem_of_find?_eq_some leads)
  obtain ⟨_, resource, unheld⟩ := StateSlot.mk.injEq .. ▸ writtenSlot_of_lastEvent found
  obtain ⟨verified, proven, claimed, latest⟩ := genuine.verified chain unheld
  constructor
  · intro settles
    have held := ownerOf_eq_ok.mp settles.owned
    rw [claimed] at held
    have operation := settles.settled
    rw [latest] at operation
    exact ⟨congrArg Operation.mk operation, held.1.trans toOwner⟩
  · rintro ⟨operation, held⟩
    refine ⟨verified, ?_, ?_, ?_⟩
    · rw [proven, resource]
      exact filed.declared
    · rw [claimed, toOwner]
      exact ownerOf_eq_ok.mpr ⟨held, owned⟩
    · rw [latest, operation]
      rfl

include gathers once in
theorem exists_assembled_of_genuine (genuine : HoldsGenuine verifier commitsById index tradeId batches) :
    ∃ proof, assembleProof index record = .ok proof ∧ Assembled index record proof := by
  refine exists_assembled (fun side listed => ?_) fun side listed asset declared => ?_
  · obtain ⟨nonempty, summarises⟩ := gathers.summarises listed
    obtain ⟨settlement, inside⟩ := List.exists_mem_of_ne_nil _ nonempty
    exact List.ne_nil_of_mem ((summarises.assets _).mpr ⟨settlement, inside, rfl⟩)
  · obtain ⟨settlement, member, rfl, filed⟩ := gathers.exists_settlement once listed declared
    obtain ⟨last, found⟩ := exists_lastEvent member (gathers.owned settlement member)
    obtain ⟨proof, stored, _⟩ := genuine settlement member last found
    exact ⟨proof, (stateProofOf_eq_ok filed).mpr stored⟩

include gathers once in
theorem verifyTradeProof_iff_settledTogether (chain : DefaultChain verifier.sha256)
    (genuine : HoldsGenuine verifier commitsById index tradeId batches) {proof : TradeProof}
    (assembled : Assembled index record proof) :
    verifier.verifyTradeProof proof commitsById = .ok () ↔ SettledTogether tradeId batches := by
  rw [assembled.verifyTradeProof_iff gathers.unique]
  constructor
  · intro settles settlement member first last leads found
    obtain ⟨side, filed⟩ := gathers.exists_side once member
    obtain ⟨stateProof, stored, made⟩ := genuine settlement member last found
    exact (settles_iff gathers chain filed leads found made).mp
      (settles side filed.listed _ filed.declared stateProof ((stateProofOf_eq_ok filed).mpr stored))
  · intro together side listed asset declared stateProof stored
    obtain ⟨settlement, member, rfl, filed⟩ := gathers.exists_settlement once listed declared
    obtain ⟨last, found⟩ := exists_lastEvent member (gathers.owned settlement member)
    obtain ⟨first, leads, _⟩ := filed.first
    obtain ⟨stateProof', stored', made⟩ := genuine settlement member last found
    obtain rfl := Option.some.inj (stored'.symm.trans ((stateProofOf_eq_ok filed).mp stored))
    exact (settles_iff gathers chain filed leads found made).mpr (together settlement member first last leads found)

include gathers once in
/-- If nothing moved an asset again in its commit, one new owner for each tenant is enough. -/
theorem settledTogether_iff (undisturbed : ∀ settlement ∈ settlements tradeId batches, lastEvent batches
      settlement.commitRef.commitId settlement.event.tenantId settlement.event.resourceId = some settlement.event) :
    SettledTogether tradeId batches ↔ ∀ settlement ∈ settlements tradeId batches,
      ∀ other ∈ settlements tradeId batches, settlement.event.tenantId = other.event.tenantId →
      ownerName settlement.event.after.state = ownerName other.event.after.state := by
  constructor
  · intro together settlement member other member' tenant
    obtain ⟨side, filed⟩ := gathers.exists_side once member
    obtain ⟨first, leads, _⟩ := filed.first
    have own := (together settlement member first _ leads (undisturbed settlement member)).2
    rw [tenant] at leads
    exact own.trans (together other member' first _ leads (undisturbed other member')).2.symm
  · intro uniform settlement member first last leads found
    obtain rfl := Option.some.inj ((undisturbed settlement member).symm.trans found)
    have tenant : first.event.tenantId = settlement.event.tenantId := by simpa using List.find?_some leads
    refine ⟨?_, uniform settlement member first (List.mem_of_find?_eq_some leads) tenant.symm⟩
    obtain ⟨batch, _, inside⟩ := List.mem_flatMap.mp member
    obtain ⟨event, filtered, rfl⟩ := List.mem_map.mp inside
    exact (of_decide_eq_true (List.mem_filter.mp filtered).2).1

end

/-- The proof of an indexed trade whose assets were settled once each is accepted exactly when the assets
of each tenant were all left by a settlement, in the hands of the owner its first settlement names.
If nothing moved an asset again in its commit, that is one new owner for each tenant. -/
theorem settled_trade_provable_iff (chain : DefaultChain verifier.sha256) {table : TradeTable}
    {record : TradeRecord} {index : ProofIndex} (applied : applyAll batches = .ok table)
    (indexed : table.get? tradeId = some record)
    (once : ((settlements tradeId batches).map fun settlement =>
      (settlement.event.tenantId, settlement.event.resourceId)).Nodup)
    (genuine : HoldsGenuine verifier commitsById index tradeId batches) :
    ((∃ proof, assembleProof index record = .ok proof ∧ verifier.verifyTradeProof proof commitsById = .ok ()) ↔
      SettledTogether tradeId batches) ∧
    ((∀ settlement ∈ settlements tradeId batches, lastEvent batches settlement.commitRef.commitId
        settlement.event.tenantId settlement.event.resourceId = some settlement.event) →
      (SettledTogether tradeId batches ↔ ∀ settlement ∈ settlements tradeId batches,
        ∀ other ∈ settlements tradeId batches, settlement.event.tenantId = other.event.tenantId →
        ownerName settlement.event.after.state = ownerName other.event.after.state)) := by
  have gathers := gathers_of_found applied indexed
  constructor
  · obtain ⟨proof, made, assembled⟩ := exists_assembled_of_genuine gathers once genuine
    rw [← verifyTradeProof_iff_settledTogether gathers once chain genuine assembled]
    constructor
    · rintro ⟨proof', made', accepted⟩
      obtain rfl := Except.ok.inj (made.symm.trans made')
      exact accepted
    · exact fun accepted => ⟨proof, made, accepted⟩
  · exact settledTogether_iff gathers once

/-! ### Settlements -/

def heldState (owner : String) : ResourceState := .uniqueAsset ⟨⟨owner⟩, ⟨"trade_held"⟩, some "trade_001"⟩

def freeState (owner : String) : ResourceState := .uniqueAsset ⟨⟨owner⟩, ⟨"active"⟩, none⟩

def commitmentTo (version : U64) (state : ResourceState) : StateCommitment :=
  ⟨version, ⟨Sha256.sha256 (Bcs.state state)⟩, state⟩

def settleEvent (eventId : String) (asset : ResourceId) (fromOwner toOwner : String) : Event :=
  .new ⟨"tenant:acme"⟩ ⟨eventId⟩ ⟨"int_" ++ asset.name⟩ UniqueAsset.op.tradeSettle asset ⟨"account:player_123"⟩
    (commitmentTo 2 (heldState fromOwner)) (commitmentTo 3 (freeState toOwner)) none
    ⟨"service:statechronicle.example.net"⟩ 1784160002

section Singleton

variable {events : List Event} (signed : Signed Commit)
  (settle : ∀ event ∈ events, event.operation = UniqueAsset.op.tradeSettle ∧ tradeIdOf event = .ok (some tradeId))

include settle

theorem settlements_singleton : settlements tradeId [⟨events, [], signed⟩] = events.map (⟨·, referenceOf signed⟩) := by
  have all : events.filter (fun event => event.operation = UniqueAsset.op.tradeSettle ∧
      tradeIdOf event = .ok (some tradeId)) = events :=
    List.filter_eq_self.mpr fun event member => decide_eq_true (settle event member)
  rw [settlements, List.flatMap_singleton, settlementsIn, all]

theorem settlements_distinct (distinct : (events.map (·.resourceId)).Nodup) :
    ((settlements tradeId [⟨events, [], signed⟩]).map fun settlement =>
      (settlement.event.tenantId, settlement.event.resourceId)).Nodup := by
  rw [settlements_singleton signed settle]
  refine List.Nodup.of_map Prod.snd ?_
  rwa [List.map_map, List.map_map]

end Singleton

theorem lastEvent_singleton (events : List Event) (signed : Signed Commit) (tenant : TenantId) (asset : ResourceId) :
    lastEvent [⟨events, [], signed⟩] signed.body.commitId tenant asset =
      events.reverse.find? fun event => writtenSlot event = ⟨tenant, asset, none⟩ := by
  rw [lastEvent, List.filter_cons_of_pos (by simp), List.filter_nil, List.flatMap_singleton]

/-! ### Ledgers of one tenant -/

/-- The bundle of the state an event left in a tree. -/
def bundleOf (tree : StateAccumulator) (signed : Signed Commit) (event : Event) : ResourceStateProof :=
  .new event.tenantId event.resourceId event.after.state (referenceOf signed)
    (.new (densePath (tree.collectSteps Sha256.sha256 ((writtenSlot event).key Sha256.sha256)))
      ⟨leafHash Sha256.sha256 ((writtenSlot event).key Sha256.sha256) event.after.stateHash.bytes⟩)
    ⟨event.eventId, event.operation⟩ none

theorem bundleOf_genuine (scope : signed.body.scope = .tenant event.tenantId)
    (rooted : (tree.root Sha256.sha256).bytes = signed.body.nextStateRoot.bytes)
    (hashed : event.after.stateHash.bytes = Sha256.sha256 (Bcs.state event.after.state))
    (held : tree.leaves.get? ((writtenSlot event).key Sha256.sha256) = some event.after.stateHash.bytes)
    (sized : Verifier.checkProofSize ((verifierOf signed).proofBytes (bundleOf tree signed event)) = .ok ()) :
    Genuine (verifierOf signed) (commitsOf signed) (referenceOf signed) event (bundleOf tree signed event) := by
  have referred : Proofs.commitRef signed = .ok (referenceOf signed) :=
    commitRef_eq_ok.mpr ⟨by rw [scope]; rfl, by rw [scope]; rfl, rfl⟩
  have digested : canonicalizeAndDigest (verifierOf signed).sha256
      ((verifierOf signed).stateBytes event.after.state) = .ok event.after.stateHash :=
    canonicalizeAndDigest_eq_ok.mpr ⟨_, rfl, congrArg ContentDigest.mk hashed.symm⟩
  have included : tree.proveInclusion (verifierOf signed).sha256 ((writtenSlot event).key (verifierOf signed).sha256) =
      some ⟨(writtenSlot event).key Sha256.sha256,
        leafHash Sha256.sha256 ((writtenSlot event).key Sha256.sha256) event.after.stateHash.bytes,
        tree.collectSteps Sha256.sha256 ((writtenSlot event).key Sha256.sha256)⟩ := by
    have found : tree.leaves.get? ((writtenSlot event).key (verifierOf signed).sha256) =
      some event.after.stateHash.bytes := held
    rw [StateAccumulator.proveInclusion, found]
    rfl
  refine ⟨signed, swordVerifyingKey, tree, _, none, commitsOf_get? signed, referred, by rw [scope]; rfl,
    verifierOf_signs signed,
    rooted, digested, included, ?_, sized⟩
  exact buildStateProof_eq_ok.mpr ⟨rfl, referenceOf signed, referred, rfl⟩

/-- The proofs of the events of one commit, by asset. -/
def ledgerIndex (tree : StateAccumulator) (signed : Signed Commit) (events : List Event) : ProofIndex :=
  fun _ asset _ => (events.find? fun event => event.resourceId = asset).map (bundleOf tree signed)

theorem ledgerIndex_holdsGenuine {events : List Event}
    (settle : ∀ event ∈ events, event.operation = UniqueAsset.op.tradeSettle ∧
      tradeIdOf event = .ok (some tradeId)) (distinct : (events.map (·.resourceId)).Nodup)
    (genuine : ∀ event ∈ events, Genuine (verifierOf signed) (commitsOf signed) (referenceOf signed) event
      (bundleOf tree signed event)) :
    HoldsGenuine (verifierOf signed) (commitsOf signed) (ledgerIndex tree signed events) tradeId
      [⟨events, [], signed⟩] := by
  intro settlement member last found
  rw [settlements_singleton signed settle] at member
  obtain ⟨event, listed, rfl⟩ := List.mem_map.mp member
  have written := writtenSlot_of_lastEvent found
  rw [referenceOf, lastEvent_singleton] at found
  have last_listed : last ∈ events := List.mem_reverse.mp (List.mem_of_find?_eq_some found)
  have resource : last.resourceId = event.resourceId := congrArg StateSlot.resource written
  obtain rfl := List.inj_on_of_nodup_map distinct last_listed listed resource
  refine ⟨bundleOf tree signed last, ?_, genuine last listed⟩
  rw [ledgerIndex, (find?_key_eq_some distinct).mpr ⟨listed, rfl⟩]
  rfl

/-- Whether the builder takes the batches and has a record of the trade. -/
def indexes (batches : List IngestBatch) (tradeId : String) : Bool :=
  match applyAll batches with
  | .ok table => (table.get? tradeId).isSome
  | .error _ => false

theorem exists_record (indexed : indexes batches tradeId = true) :
    ∃ table record, applyAll batches = .ok table ∧ table.get? tradeId = some record := by
  rw [indexes] at indexed
  cases applied : applyAll batches with
  | error error =>
    rw [applied] at indexed
    cases indexed
  | ok table =>
    rw [applied] at indexed
    obtain ⟨record, found⟩ := Option.isSome_iff_exists.mp indexed
    exact ⟨table, record, rfl, found⟩

/-! ### Two assets settled -/

def swordSettled : Event :=
  settleEvent "evt_01JZ8X2XRE5ZYW5V9R7VDQBSH4" swordAsset "account:player_123" "account:player_456"

def player (second : Bool) : String := if second then "account:player_456" else "account:player_123"

variable (exchanged : Bool)

/-- The shield is given in exchange for the sword or goes along with it. -/
def shieldSettled : Event :=
  settleEvent "evt_01JZ8X2XRE5ZYW5V9R7VDQBSH5" shieldAsset (player exchanged) (player !exchanged)

def shieldKey : StateKey := .forResource Sha256.sha256 "tenant:acme" "asset:shield_002"

def swapTree : StateAccumulator := ⟨swordTree.leaves.insert shieldKey (shieldSettled exchanged).after.stateHash.bytes⟩

def swapCommit : Signed Commit where
  body := { swordCommit.body with
    commitId := ⟨"cmt_01JZ8X5HN3C4PXG5A9FGEWQF6X"⟩
    sequence := 918274
    eventCount := 2
    nextStateRoot := ⟨((swapTree exchanged).root Sha256.sha256).bytes⟩ }
  signature := swordCommit.signature

def swapEvents : List Event := [swordSettled, shieldSettled exchanged]

abbrev swapBatches : List IngestBatch := [⟨swapEvents exchanged, [], swapCommit exchanged⟩]

abbrev swapIndex : ProofIndex := ledgerIndex (swapTree exchanged) (swapCommit exchanged) (swapEvents exchanged)

theorem swapTree_rooted :
    ((swapTree exchanged).root Sha256.sha256).bytes = (swapCommit exchanged).body.nextStateRoot.bytes := by
  simp only [swapCommit]

theorem swapTree_holds_shield :
    (swapTree exchanged).leaves.get? ((writtenSlot (shieldSettled exchanged)).key Sha256.sha256) =
      some (shieldSettled exchanged).after.stateHash.bytes := by
  rw [swapTree, SortedMap.get?_insert]
  exact if_pos rfl

theorem swapTree_holds_sword :
    (swapTree exchanged).leaves.get? ((writtenSlot swordSettled).key Sha256.sha256) =
      some swordSettled.after.stateHash.bytes := by
  have digest : swordSettled.after.stateHash.bytes = swordDigest := swordDigest_eq
  have key : (writtenSlot swordSettled).key Sha256.sha256 = swordKey := swordKey_eq
  have different : swordKey ≠ shieldKey := by decide +kernel
  rw [key, digest, swapTree, SortedMap.get?_insert, if_neg different, swordTree_get?]

theorem swapEvents_settle : ∀ event ∈ swapEvents exchanged,
    event.operation = UniqueAsset.op.tradeSettle ∧ tradeIdOf event = .ok (some "trade_001") := by
  intro event listed
  rcases List.mem_pair.mp listed with rfl | rfl <;> exact ⟨rfl, rfl⟩

theorem swapCommit_size : (Bcs.commitRef (referenceOf (swapCommit exchanged))).length ≤ 1000 := by
  have signed : (referenceOf (swapCommit exchanged)).signature.sig.length = 64 := by
    simp [referenceOf, swapCommit, swordCommit, swordSignature]
  refine (Bcs.length_commitRef_le (referenceOf (swapCommit exchanged))).trans ?_
  rw [signed]
  cases exchanged <;> decide

theorem swapEvents_genuine : ∀ event ∈ swapEvents exchanged,
    Genuine (verifierOf (swapCommit exchanged)) (commitsOf (swapCommit exchanged)) (referenceOf (swapCommit exchanged))
      event (bundleOf (swapTree exchanged) (swapCommit exchanged) event) := by
  intro event listed
  rcases List.mem_pair.mp listed with rfl | rfl
  · exact bundleOf_genuine rfl (swapTree_rooted _) rfl (swapTree_holds_sword _)
      (assetBundle_fits swordInstant _ _ (by decide) (swapCommit_size _))
  · exact bundleOf_genuine rfl (swapTree_rooted _) rfl (swapTree_holds_shield _)
      (assetBundle_fits swordInstant _ _ (by cases exchanged <;> decide) (swapCommit_size _))

theorem swapEvents_distinct : ((swapEvents exchanged).map (·.resourceId)).Nodup := by
  change [swordAsset, shieldAsset].Nodup
  decide

theorem swap_indexed : indexes (swapBatches exchanged) "trade_001" = true := by
  cases exchanged <;> decide +kernel

theorem swap_undisturbed :
    ∀ settlement ∈ settlements "trade_001" (swapBatches exchanged), lastEvent (swapBatches exchanged)
      settlement.commitRef.commitId settlement.event.tenantId settlement.event.resourceId = some settlement.event := by
  rw [settlements_singleton _ (swapEvents_settle _)]
  intro settlement member
  obtain ⟨event, listed, rfl⟩ := List.mem_map.mp member
  refine (lastEvent_singleton _ _ _ _).trans ?_
  rcases List.mem_pair.mp listed with rfl | rfl
  · have apart : shieldAsset ≠ swordAsset := by decide
    refine (List.find?_cons_of_neg ?_).trans (List.find?_cons_of_pos (decide_eq_true rfl))
    rw [decide_eq_true_eq]
    exact fun same => apart (congrArg StateSlot.resource same)
  · exact List.find?_cons_of_pos (decide_eq_true rfl)

/-- Two assets of one tenant that go to one new owner. -/
theorem joint_trade_provable :
    ∃ table record proof, applyAll (swapBatches false) = .ok table ∧ table.get? "trade_001" = some record ∧
      assembleProof (swapIndex false) record = .ok proof ∧
      (verifierOf (swapCommit false)).verifyTradeProof proof (commitsOf (swapCommit false)) = .ok () := by
  obtain ⟨table, record, applied, found⟩ := exists_record (swap_indexed false)
  obtain ⟨provable, uniform⟩ := settled_trade_provable_iff defaultChain_sha256 applied found
    (settlements_distinct _ (swapEvents_settle false) (swapEvents_distinct _))
    (ledgerIndex_holdsGenuine (swapEvents_settle _) (swapEvents_distinct _) (swapEvents_genuine _))
  have owner : ∀ settlement ∈ settlements "trade_001" (swapBatches false),
      ownerName settlement.event.after.state = "account:player_456" := by
    rw [settlements_singleton _ (swapEvents_settle _)]
    exact List.forall_mem_cons.mpr ⟨rfl, List.forall_mem_singleton.mpr rfl⟩
  obtain ⟨proof, made, accepted⟩ := provable.mpr ((uniform (swap_undisturbed _)).mpr
    fun settlement member other member' _ => (owner settlement member).trans (owner other member').symm)
  exact ⟨table, record, proof, applied, found, made, accepted⟩

/-- Two players of one tenant exchange two assets in one commit: the trade is indexed, its genuine proofs
are there, and the assembled proof is rejected. -/
theorem exchange_not_provable :
    HoldsGenuine (verifierOf (swapCommit true)) (commitsOf (swapCommit true)) (swapIndex true) "trade_001"
      (swapBatches true) ∧
    ∃ table record proof, applyAll (swapBatches true) = .ok table ∧ table.get? "trade_001" = some record ∧
      assembleProof (swapIndex true) record = .ok proof ∧
      (verifierOf (swapCommit true)).verifyTradeProof proof (commitsOf (swapCommit true)) ≠ .ok () := by
  obtain ⟨table, record, applied, found⟩ := exists_record (swap_indexed true)
  have genuine := ledgerIndex_holdsGenuine (swapEvents_settle _) (swapEvents_distinct true) (swapEvents_genuine _)
  have gathers := gathers_of_found applied found
  have once := settlements_distinct (swapCommit true) (swapEvents_settle _) (swapEvents_distinct true)
  obtain ⟨proof, made, assembled⟩ := exists_assembled_of_genuine gathers once genuine
  refine ⟨genuine, table, record, proof, applied, found, made, ?_⟩
  rw [ne_eq, verifyTradeProof_iff_settledTogether gathers once defaultChain_sha256 genuine assembled,
    settledTogether_iff gathers once (swap_undisturbed _), settlements_singleton _ (swapEvents_settle _)]
  have listed : swordSettled ∈ swapEvents true := List.mem_cons_self
  have listed' : shieldSettled true ∈ swapEvents true := List.mem_cons_of_mem _ List.mem_cons_self
  have tenant : swordSettled.tenantId = ⟨"tenant:acme"⟩ := rfl
  have tenant' : (shieldSettled true).tenantId = ⟨"tenant:acme"⟩ := rfl
  have different : ownerName swordSettled.after.state ≠ ownerName (shieldSettled true).after.state := by decide
  exact fun uniform => different (uniform _ (List.mem_map_of_mem listed) _ (List.mem_map_of_mem listed')
    (tenant.trans tenant'.symm))

end StateChronicle.Verified
