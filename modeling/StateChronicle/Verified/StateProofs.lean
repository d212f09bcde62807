import StateChronicle.Commit.StateTable
import StateChronicle.Proofs.Bundle
import StateChronicle.Verified.StateRoots

/-!
# What a verifier may conclude

An accepted proof of state speaks about the leaf map behind the commit's root, and an accepted proof of absence about
a key the map does not hold.  Collision freedom is only asked of the strings on the two paths.
-/

namespace StateChronicle.Verified

open StateChronicle.Core Accumulator Commit Domain Foundation Proofs

/-! ## Strings of a bundle -/

variable {proof : ResourceStateProof} {operation : Operation}

/-- The strings a verifier hashes from the claimed state's leaf up to the root. -/
def proofStrings (verifier : Verifier) (key : StateKey) (proof : ResourceStateProof) : List (List UInt8) :=
  pathStrings verifier.sha256 key (wireSibling proof.stateInclusionProof)
    (leafPreimage key (verifier.sha256 ((verifier.stateBytes proof.claimedState).getD [])))

/-- The strings a verifier hashes from the empty leaf up to the root. -/
def absenceStrings (verifier : Verifier) (key : StateKey) (bundle : NonMembershipProofBundle) : List (List UInt8) :=
  pathStrings verifier.sha256 key (wireSibling bundle.stateNonMembershipProof)
    (leafPreimage zeroKey zeroHash)

variable {verifier : Verifier} {key : StateKey} {root : StateRoot}

/-- The climb of an established proof, from the leaf of its claimed state. -/
theorem climb_of_establishes (established : verifier.Establishes root key proof) :
    ∃ bytes, verifier.stateBytes proof.claimedState = some bytes ∧
      HashPath.climb (internalHash verifier.sha256) (routingBit key) (wireSibling proof.stateInclusionProof)
        (verifier.sha256 (leafPreimage key (verifier.sha256 bytes))) treeDepth = root.bytes := by
  obtain ⟨⟨_, _, climbs⟩, bytes, serialized, leaf⟩ := established
  exact ⟨bytes, serialized, leaf ▸ climbs⟩

theorem climb_of_absence (chain : DefaultChain verifier.sha256) {bundle : NonMembershipProofBundle}
    (accepted : verifier.verifyNonMembership bundle root key = .ok ()) :
    HashPath.climb (internalHash verifier.sha256) (routingBit key) (wireSibling bundle.stateNonMembershipProof)
      (verifier.sha256 (leafPreimage zeroKey zeroHash)) treeDepth = root.bytes := by
  obtain ⟨_, _, _, ⟨_, _, climbs⟩, leaf⟩ := Verifier.verifyNonMembership_eq_ok.mp accepted
  rw [leaf, chain.emptyLeaf] at climbs
  exact climbs

/-- The tree behind the root holds the digest of an established state. -/
theorem get?_of_establishes (chain : DefaultChain verifier.sha256) {accumulator : StateAccumulator}
    (nonzero : key ≠ zeroKey) (collisionFree : CollisionFree verifier.sha256
      (accumulator.treeStrings verifier.sha256 key ++ proofStrings verifier key proof))
    (established : verifier.Establishes (accumulator.root verifier.sha256) key proof) :
    ∃ bytes, verifier.stateBytes proof.claimedState = some bytes ∧
      accumulator.leaves.get? key = some (verifier.sha256 bytes) := by
  obtain ⟨bytes, serialized, climbs⟩ := climb_of_establishes established
  rw [proofStrings, serialized, Option.getD_some] at collisionFree
  have slot := accumulator.slotString_eq_of_climb chain collisionFree climbs
  refine ⟨bytes, serialized, ?_⟩
  rw [StateAccumulator.slotString] at slot
  cases held : accumulator.leaves.get? key with
  | none =>
    rw [held] at slot
    exact absurd (leafPreimage_inj slot).1.symm nonzero
  | some digest =>
    rw [held] at slot
    rw [(leafPreimage_inj slot).2]

/-! ## Soundness -/

/-- An accepted bundle claims the state whose digest the tree behind the commit holds at the key, and
a derived key is that of the bundle's own tenant, resource and holder. -/
theorem accepted_bundle_sound (chain : DefaultChain verifier.sha256) {accumulator : StateAccumulator}
    {proof : ResourceStateProof} {signed : Signed Commit} {verifyingKey : VerifyingKey}
    (nonzero : key ≠ zeroKey)
    (rooted : (accumulator.root verifier.sha256).bytes = signed.body.nextStateRoot.bytes)
    (collisionFree : CollisionFree verifier.sha256
      (accumulator.treeStrings verifier.sha256 key ++ proofStrings verifier key proof))
    (accepted : verifier.verifyBundle proof signed verifyingKey key = .ok ()) :
    (∃ digest, canonicalizeAndDigest verifier.sha256 (verifier.stateBytes proof.claimedState) = .ok digest ∧
      accumulator.leaves.get? key = some digest.bytes) ∧
    (deriveStateKey verifier.sha256 proof = .ok key →
      key = StateSlot.key verifier.sha256 ⟨proof.tenantId, proof.resourceId, proof.claimedState.subject⟩) := by
  constructor
  · have established := (Verifier.verifyBundle_eq_ok.mp accepted).2
    rw [← rooted] at established
    obtain ⟨bytes, serialized, held⟩ := get?_of_establishes chain nonzero collisionFree established
    exact ⟨_, canonicalizeAndDigest_eq_ok.mpr ⟨bytes, serialized, rfl⟩, held⟩
  · intro derived
    rw [deriveStateKey] at derived
    rw [StateSlot.key]
    cases subject : proof.claimedState.subject with
    | none =>
      rw [subject] at derived
      exact (Except.ok.inj derived).symm
    | some holder =>
      rw [subject] at derived
      by_cases unnamed : holder.name = ""
      · simp only [unnamed, if_true] at derived
        cases derived
      · simp only [unnamed, if_false] at derived
        exact (Except.ok.inj derived).symm

/-- A key with an accepted proof of absence is not in the tree behind the root, and no root has
accepted proofs of state and of absence for one key. -/
theorem accepted_absence_sound (chain : DefaultChain verifier.sha256) :
    (∀ (accumulator : StateAccumulator) (key : StateKey) (bundle : NonMembershipProofBundle),
      accumulator.leaves.get? zeroKey ≠ some zeroHash →
      CollisionFree verifier.sha256
        (accumulator.treeStrings verifier.sha256 key ++ absenceStrings verifier key bundle) →
      verifier.verifyNonMembership bundle (accumulator.root verifier.sha256) key = .ok () →
      accumulator.leaves.get? key = none) ∧
    (∀ (root : StateRoot) (key : StateKey) (proof : ResourceStateProof) (bundle : NonMembershipProofBundle),
      key ≠ zeroKey →
      CollisionFree verifier.sha256 (proofStrings verifier key proof ++ absenceStrings verifier key bundle) →
      ¬ (verifier.verifyProof proof root key = .ok () ∧
        verifier.verifyNonMembership bundle root key = .ok ())) := by
  constructor
  · intro accumulator key bundle filled collisionFree accepted
    have slot := accumulator.slotString_eq_of_climb chain collisionFree (climb_of_absence chain accepted)
    rw [StateAccumulator.slotString] at slot
    cases held : accumulator.leaves.get? key with
    | none => rfl
    | some digest =>
      rw [held] at slot
      obtain ⟨rfl, rfl⟩ := leafPreimage_inj slot
      exact absurd held filled
  · rintro root key proof bundle nonzero collisionFree ⟨present, absent⟩
    obtain ⟨bytes, serialized, climbs⟩ := climb_of_establishes (Verifier.verifyProof_eq_ok.mp present).2
    rw [proofStrings, serialized, Option.getD_some] at collisionFree
    have leaves := leaf_eq_of_climb_eq collisionFree (climbs.trans (climb_of_absence chain absent).symm)
    exact nonzero (leafPreimage_inj leaves).1

/-- The tree behind a signed commit of the tenant gives a bundle of absence exactly for the keys it does not hold.  The
verifier accepts the bundle if only it fits the limit. -/
theorem absence_provable_iff (chain : DefaultChain verifier.sha256) {accumulator : StateAccumulator}
    {signed : Signed Commit} {verifyingKey : VerifyingKey} {tenant : TenantId} (resource : ResourceId)
    (rooted : (accumulator.root verifier.sha256).bytes = signed.body.nextStateRoot.bytes)
    (owned : signed.body.scope = .tenant tenant)
    (signs : verifier.verifyCommitSignatureWithKey signed verifyingKey = .ok ()) :
    accumulator.leaves.get? key = none ↔
      ∃ proof bundle, accumulator.proveNonMembership verifier.sha256 key = some proof ∧
        buildNonMembershipProof tenant resource key signed proof = .ok bundle ∧
        (verifier.verifyNonMembershipBundle bundle signed verifyingKey key = .ok () ↔
          Verifier.checkProofSize (verifier.bundleBytes bundle) = .ok ()) := by
  constructor
  · intro absent
    have named : signed.body.scope.tenantId = some tenant := by rw [owned]; rfl
    obtain ⟨reference, referenced⟩ : ∃ reference, commitRef signed = .ok reference :=
      ⟨_, commitRef_eq_ok.mpr ⟨by rw [owned]; rfl, by rw [named]; rfl, rfl⟩⟩
    have leads := leadsTo_of_absent chain absent
    rw [show accumulator.root verifier.sha256 = ⟨signed.body.nextStateRoot.bytes⟩ from congrArg StateRoot.mk rooted]
      at leads
    refine ⟨⟨key, emptyLeafHash, accumulator.collectSteps verifier.sha256 key⟩, .new tenant resource ⟨key.bytes⟩
      reference (.new (densePath (accumulator.collectSteps verifier.sha256 key)) ⟨emptyLeafHash⟩),
      if_neg (by simp [absent]), ?_, ?_⟩
    · simp only [buildNonMembershipProof, Except.bind_eq_ok, rejectIf_eq_ok, not_not, exists_const, Except.pure_eq_ok]
      exact ⟨trivial, trivial, reference, referenced, rfl⟩
    · obtain ⟨_, _, rfl⟩ := commitRef_eq_ok.mp referenced
      simp only [Verifier.verifyNonMembershipBundle, Except.bind_eq_ok, rejectIf_eq_ok, exists_const,
        Verifier.verifyCommitEnvelope_eq_ok, Verifier.verifyNonMembership_eq_ok]
      constructor
      · rintro ⟨-, -, -, sized, -⟩
        exact sized
      · intro sized
        exact ⟨not_not.mpr rfl, (), ⟨named, rfl, rfl, rfl, signs⟩, sized, rfl, rfl, leads, rfl⟩
  · rintro ⟨proof, bundle, proven, -⟩
    rw [StateAccumulator.proveNonMembership, Option.ite_none_left_eq_some] at proven
    exact Option.not_isSome_iff_eq_none.mp proven.1

/-! ### The ledger of one asset -/

def swordInstant (_ : Timestamp) : String := "2026-07-14T00:00:02Z"

def swordVerifyingKey : VerifyingKey :=
  ⟨hashOfNumber 0x197f6b23e16c8532c6abc838facd5ea789be0c76b2920334039bfa8b3d368d61⟩

def swordSignature : List UInt8 :=
  (hashOfNumber 0xa977dd636c7be190368586e4ec38ea198c2e721349604538f62842c56d04d2ef).toList ++
    (hashOfNumber 0x0869ee7c4ed5f373aac9c854e82db454d27b28bb06bdc070f9c07193169beb0f).toList

def swordCommit : Signed Commit where
  body := .new (.tenant ⟨"tenant:acme"⟩) ⟨"cmt_01JZ8X5HN3C4PXG5A9FGEWQF5W"⟩ none 918273 1
    (hashBytes Sha256.sha256 (utf8 "event-root")) ⟨defaultHash treeDepth⟩ ⟨(swordTree.root Sha256.sha256).bytes⟩
    1784160002 ⟨"service:statechronicle.example.net"⟩ ⟨"statechronicle.profile.resource.v0"⟩
  signature := ⟨.ed25519, "did:key:z6Mk#statechronicle-commit", swordSignature⟩

/-- A verifier that knows one signed body. -/
def verifierOf (signed : Signed Commit) : Verifier where
  sha256 := Sha256.sha256
  stateBytes state := some (Bcs.state state)
  commitBytes commit := some (Bcs.commit swordInstant commit)
  proofBytes proof := some (Bcs.resourceStateProof swordInstant proof)
  bundleBytes bundle := some (Bcs.nonMembershipProofBundle bundle)
  verifySignature bytes verifyingKey signature :=
    if bytes = Bcs.commit swordInstant signed.body ∧ verifyingKey = swordVerifyingKey ∧
      signature = signed.signature.sig then .ok ()
    else .error (.signatureVerification "Verification equation was not satisfied")

theorem verifierOf_signs (signed : Signed Commit) :
    (verifierOf signed).verifyCommitSignatureWithKey signed swordVerifyingKey = .ok () := by
  refine Verifier.verifyCommitSignatureWithKey_eq_ok.mpr ⟨Bcs.commit swordInstant signed.body, rfl, ?_⟩
  simp only [verifierOf, and_self, if_true]

def swordVerifier : Verifier := verifierOf swordCommit

def swordProjection : StateProjection where
  tenantId := ⟨"tenant:acme"⟩
  resourceId := ⟨"asset:sword_001"⟩
  stateType := .uniqueAsset
  version := 1
  lastEventId := ⟨"evt_01JZ8X2XRE5ZYW5V9R7VDQBSH4"⟩
  lastCommitId := swordCommit.body.commitId
  stateHash := ⟨swordDigest⟩
  state := swordState

def swordReference : CommitRef :=
  ⟨swordCommit.body.commitId, swordCommit.body.sequence, swordCommit.body.nextStateRoot, swordCommit.signature⟩

def swordProof (operation : Operation) : ResourceStateProof :=
  .new swordProjection.tenantId swordProjection.resourceId swordState swordReference
    (.new (densePath (swordTree.collectSteps Sha256.sha256 swordKey)) ⟨leafHash Sha256.sha256 swordKey swordDigest⟩)
    ⟨swordProjection.lastEventId, operation⟩ none

theorem buildStateProof_sword (operation : Operation) :
    buildStateProof Sha256.sha256 swordProjection swordCommit
      ⟨swordKey, leafHash Sha256.sha256 swordKey swordDigest, swordTree.collectSteps Sha256.sha256 swordKey⟩
      operation none swordKey = .ok (swordProof operation) := by
  refine buildStateProof_eq_ok.mpr ⟨rfl, swordReference, commitRef_eq_ok.mpr ⟨rfl, rfl, rfl⟩, ?_⟩
  rw [swordProof, sparseProofFromInclusion, swordProjection]

section

variable {tenant : TenantId} {resource : ResourceId} {reference : CommitRef}

/-- The bundle of an asset with short texts fits the limit. -/
theorem assetBundle_fits (instant : Timestamp → String) {asset : UniqueAssetState} {event : EventRef}
    (steps : List PathStep) (leaf : ContentDigest)
    (texts : tenant.name.utf8ByteSize + resource.name.utf8ByteSize + asset.owner.name.utf8ByteSize +
      asset.status.name.utf8ByteSize + (asset.tradeId.getD "").utf8ByteSize + event.eventId.name.utf8ByteSize +
        event.operation.name.utf8ByteSize ≤ 1000)
    (referred : (Bcs.commitRef reference).length ≤ 1000) :
    Verifier.checkProofSize (some (Bcs.resourceStateProof instant (.new tenant resource (.uniqueAsset asset) reference
      (.new (densePath steps) leaf) event none))) = .ok () := by
  refine Verifier.checkProofSize_eq_ok.mpr ⟨_, rfl, (Bcs.length_resourceStateProof_le instant rfl).trans ?_⟩
  have state := Bcs.length_state_uniqueAsset_le asset
  have fixed : resourceStateProofSchema.utf8ByteSize + sparseMerkleV0.utf8ByteSize + 72 * treeDepth + 3000 ≤
      maxProofBytes := by decide
  simp only [ResourceStateProof.new, SparseMerkleProof.new, length_densePath]
  omega

theorem absenceBundle_fits {key : ContentDigest} (steps : List PathStep) (leaf : ContentDigest)
    (texts : tenant.name.utf8ByteSize + resource.name.utf8ByteSize ≤ 1000)
    (referred : (Bcs.commitRef reference).length ≤ 1000) :
    Verifier.checkProofSize (some (Bcs.nonMembershipProofBundle (.new tenant resource key reference
      (.new (densePath steps) leaf)))) = .ok () := by
  refine Verifier.checkProofSize_eq_ok.mpr ⟨_, rfl, (Bcs.length_nonMembershipProofBundle_le _).trans ?_⟩
  have fixed : nonMembershipProofSchema.utf8ByteSize + sparseMerkleV0.utf8ByteSize + 72 * treeDepth + 3000 ≤
      maxProofBytes := by decide
  simp only [NonMembershipProofBundle.new, SparseMerkleProof.new, length_densePath]
  omega

end

theorem swordReference_size : (Bcs.commitRef swordReference).length ≤ 1000 := by
  have signed : swordReference.signature.sig.length = 64 := by simp [swordReference, swordCommit, swordSignature]
  refine (Bcs.length_commitRef_le swordReference).trans ?_
  rw [signed]
  decide

theorem swordProof_sized (short : operation.name.utf8ByteSize ≤ 128) :
    Verifier.checkProofSize (swordVerifier.proofBytes (swordProof operation)) = .ok () := by
  refine assetBundle_fits swordInstant _ _ ((Nat.add_le_add_left short _).trans ?_) swordReference_size
  dsimp only
  decide

theorem swordTree_rooted : (swordTree.root swordVerifier.sha256).bytes = swordCommit.body.nextStateRoot.bytes := by
  simp only [swordCommit, Commit.new, swordVerifier, verifierOf]

/-- The verifier takes the bundle whatever operation it names as its latest. -/
theorem swordProof_accepted {operation : Operation} (short : operation.name.utf8ByteSize ≤ 128) :
    swordVerifier.verifyBundle (swordProof operation) swordCommit swordVerifyingKey swordKey = .ok () := by
  have hashed : canonicalizeAndDigest swordVerifier.sha256 (swordVerifier.stateBytes swordProjection.state) =
      .ok swordProjection.stateHash :=
    canonicalizeAndDigest_eq_ok.mpr ⟨_, rfl, congrArg ContentDigest.mk swordDigest_eq⟩
  have included : swordTree.proveInclusion swordVerifier.sha256 swordKey =
      some ⟨swordKey, leafHash Sha256.sha256 swordKey swordDigest, swordTree.collectSteps Sha256.sha256 swordKey⟩ := by
    rw [StateAccumulator.proveInclusion, swordTree_get?]
    rfl
  exact verifyBundle_of_buildStateProof defaultChain_sha256 hashed included (buildStateProof_sword operation)
    swordTree_rooted rfl (verifierOf_signs _) (swordProof_sized short)

theorem proofStrings_sword (operation : Operation) :
    proofStrings swordVerifier swordKey (swordProof operation) = swordStrings := by
  have leaf : swordVerifier.sha256 ((swordVerifier.stateBytes (swordProof operation).claimedState).getD []) =
      swordDigest := swordDigest_eq
  have siblings : ∀ level < treeDepth,
      wireSibling (swordProof operation).stateInclusionProof level = defaultHash level := by
    intro level inside
    rw [swordProof, StateAccumulator.collectSteps_eq]
    exact (wireSibling_densePath _ _ inside).trans
      (congrFun (pathSibling_lone Sha256.sha256 swordKey swordDigest) level)
  rw [proofStrings, leaf, pathStrings_congr siblings, swordStrings]
  rfl

def transferOperation : Operation := ⟨"asset.transfer"⟩

theorem sword_bundle_sound :
    swordVerifier.verifyBundle (swordProof transferOperation) swordCommit swordVerifyingKey swordKey = .ok () ∧
      ∃ digest, canonicalizeAndDigest Sha256.sha256 (some (Bcs.state swordState)) = .ok digest ∧
        swordTree.leaves.get? swordKey = some digest.bytes := by
  have accepted := @swordProof_accepted transferOperation (by decide)
  have collisionFree : CollisionFree swordVerifier.sha256 (swordTree.treeStrings swordVerifier.sha256 swordKey ++
      proofStrings swordVerifier swordKey (swordProof transferOperation)) := by
    have tree : swordTree.treeStrings swordVerifier.sha256 swordKey = swordStrings := swordTree_treeStrings
    refine swordStrings_collisionFree.mono fun string listed => List.mem_append_left _ ?_
    rw [proofStrings_sword, tree] at listed
    exact (List.mem_append.mp listed).elim id id
  exact ⟨accepted, (accepted_bundle_sound defaultChain_sha256 swordKey_ne_zeroKey swordTree_rooted collisionFree
    accepted).1⟩

theorem sword_absence_provable :
    ∃ proof bundle, swordTree.proveNonMembership Sha256.sha256 zeroKey = some proof ∧
      buildNonMembershipProof ⟨"tenant:acme"⟩ ⟨"asset:shield_001"⟩ zeroKey swordCommit proof = .ok bundle ∧
      (swordVerifier.verifyNonMembershipBundle bundle swordCommit swordVerifyingKey zeroKey = .ok () ↔
        Verifier.checkProofSize (some (Bcs.nonMembershipProofBundle bundle)) = .ok ()) :=
  (absence_provable_iff defaultChain_sha256 _ swordTree_rooted rfl (verifierOf_signs _)).mp swordTree_get?_zeroKey

/-! ### Absent keys -/

def absenceBundle (tree : StateAccumulator) (key : StateKey) : NonMembershipProofBundle :=
  .new swordProjection.tenantId swordProjection.resourceId ⟨key.bytes⟩ swordReference
    (.new (densePath (tree.collectSteps Sha256.sha256 key)) ⟨emptyLeafHash⟩)

section Absent

variable {tree : StateAccumulator} {key : StateKey} (absent : tree.leaves.get? key = none)

include absent

theorem absenceBundle_accepted :
    swordVerifier.verifyNonMembership (absenceBundle tree key) (tree.root Sha256.sha256) key = .ok () := by
  have fits : Verifier.checkProofSize (swordVerifier.bundleBytes (absenceBundle tree key)) = .ok () :=
    absenceBundle_fits _ _ (by decide) swordReference_size
  exact Verifier.verifyNonMembership_eq_ok.mpr ⟨fits, rfl, rfl, leadsTo_of_absent defaultChain_sha256 absent, rfl⟩

theorem absenceStrings_absenceBundle :
    absenceStrings swordVerifier key (absenceBundle tree key) = tree.treeStrings Sha256.sha256 key := by
  rw [StateAccumulator.treeStrings, StateAccumulator.slotString, absent]
  refine pathStrings_congr (fun level inside => ?_) _
  rw [absenceBundle, StateAccumulator.collectSteps_eq]
  exact wireSibling_densePath _ _ inside

end Absent

theorem empty_treeStrings (key : StateKey) :
    StateAccumulator.empty.treeStrings Sha256.sha256 key = emptyStrings key := by
  rw [emptyStrings, ← pathSibling_nil Sha256.sha256 key]
  rfl

/-- Every node on the path of an absent key is on the path of the sword or empty. -/
theorem treeStrings_swordTree_subset {key : StateKey} (absent : swordTree.leaves.get? key = none) :
    swordTree.treeStrings Sha256.sha256 key ⊆ swordStrings ++ emptyStrings swordKey := by
  rw [← swordTree_treeStrings, ← empty_treeStrings]
  simp only [StateAccumulator.treeStrings_eq defaultChain_sha256]
  intro string listed
  rcases List.mem_cons.mp listed with rfl | above
  · have slot : swordTree.slotString key = StateAccumulator.empty.slotString swordKey := by
      rw [StateAccumulator.slotString, absent]
      rfl
    rw [slot]
    exact List.mem_append_right _ List.mem_cons_self
  obtain ⟨level, inside, rfl⟩ := List.mem_map.mp above
  have runs (target : StateKey) (depth : ℕ) : run target depth swordTree.leaves.entries =
      if agrees target depth swordKey then [(swordKey, swordDigest)] else [] :=
    List.filter_singleton.trans (Bool.cond_eq_ite _ _ _)
  rw [runs]
  split_ifs
  · refine List.mem_append_left _ (List.mem_cons_of_mem _ (List.mem_map.mpr ⟨level, inside, ?_⟩))
    rw [runs, if_pos (by simp [agrees])]
  · exact List.mem_append_right _ (List.mem_cons_of_mem _ (List.mem_map.mpr ⟨level, inside, rfl⟩))

theorem no_sword_absence_sound :
    (swordVerifier.verifyNonMembership (absenceBundle swordTree zeroKey) (swordTree.root Sha256.sha256) zeroKey =
        .ok () ∧ swordTree.leaves.get? zeroKey = none) ∧
      ¬ (swordVerifier.verifyProof (swordProof transferOperation) (swordTree.root Sha256.sha256) swordKey = .ok () ∧
        swordVerifier.verifyNonMembership (absenceBundle .empty swordKey) (swordTree.root Sha256.sha256) swordKey =
          .ok ()) := by
  obtain ⟨absent, exclusive⟩ := @accepted_absence_sound swordVerifier defaultChain_sha256
  have accepted := absenceBundle_accepted swordTree_get?_zeroKey
  refine ⟨⟨accepted, absent swordTree zeroKey _ (by simp [swordTree_get?_zeroKey]) ?_ accepted⟩,
    exclusive _ swordKey _ _ swordKey_ne_zeroKey ?_⟩
  · rw [absenceStrings_absenceBundle swordTree_get?_zeroKey]
    refine swordStrings_collisionFree.mono fun string listed => ?_
    exact treeStrings_swordTree_subset swordTree_get?_zeroKey ((List.mem_append.mp listed).elim id id)
  · rw [proofStrings_sword, absenceStrings_absenceBundle rfl, empty_treeStrings]
    exact swordStrings_collisionFree

/-! ## What the bundle does not bind -/

/-- The size of a serialised proof grows with the texts of its latest event. -/
def SizedByTexts (proofBytes : ResourceStateProof → Option (List UInt8)) : Prop :=
  ∀ (proof : ResourceStateProof) (event : EventRef) (bytes : List UInt8), proofBytes proof = some bytes →
    event.eventId.name.utf8ByteSize ≤ proof.latestEvent.eventId.name.utf8ByteSize →
    event.operation.name.utf8ByteSize ≤ proof.latestEvent.operation.name.utf8ByteSize →
    ∃ bytes', proofBytes { proof with latestEvent := event } = some bytes' ∧ bytes'.length ≤ bytes.length

/-- The verifier reads the latest event only for the size of the bundle. -/
theorem verifyBundle_with_latestEvent (sized : SizedByTexts verifier.proofBytes) {signed : Signed Commit}
    {verifyingKey : VerifyingKey} {event : EventRef}
    (identifier : event.eventId.name.utf8ByteSize ≤ proof.latestEvent.eventId.name.utf8ByteSize)
    (operation : event.operation.name.utf8ByteSize ≤ proof.latestEvent.operation.name.utf8ByteSize)
    (accepted : verifier.verifyBundle proof signed verifyingKey key = .ok ()) :
    verifier.verifyBundle { proof with latestEvent := event } signed verifyingKey key = .ok () := by
  obtain ⟨⟨fits, schema, enveloped⟩, established⟩ := Verifier.verifyBundle_eq_ok.mp accepted
  obtain ⟨bytes, serialized, small⟩ := Verifier.checkProofSize_eq_ok.mp fits
  obtain ⟨bytes', serialized', shorter⟩ := sized proof event bytes serialized identifier operation
  exact Verifier.verifyBundle_eq_ok.mpr
    ⟨⟨Verifier.checkProofSize_eq_ok.mpr ⟨bytes', serialized', shorter.trans small⟩, schema, enveloped⟩, established⟩

/-- Every operation name has another one that is no longer. -/
theorem exists_other_operation (valid : Operation.new operation.name = .ok operation) :
    ∃ other : Operation, Operation.new other.name = .ok other ∧ other ≠ operation ∧
      other.name.utf8ByteSize ≤ operation.name.utf8ByteSize := by
  have nonempty : operation.name ≠ "" := by
    intro empty
    rw [Operation.new, empty] at valid
    cases valid
  have size : 1 ≤ operation.name.utf8ByteSize := by
    rw [Nat.one_le_iff_ne_zero, ne_eq, String.utf8ByteSize_eq_zero_iff]
    exact nonempty
  by_cases same : operation = ⟨"a"⟩
  · exact ⟨⟨"b"⟩, rfl, by rw [same]; decide, by rw [same]; decide⟩
  · exact ⟨⟨"a"⟩, rfl, Ne.symm same, size⟩

/-- Accepted bundles for one commit and key claim one state.  Their latest event is not bound: with
every accepted bundle the verifier accepts one that names another operation. -/
theorem accepted_bundles_share_only_state (sized : SizedByTexts verifier.proofBytes) {signed : Signed Commit}
    {verifyingKey : VerifyingKey} {proof : ResourceStateProof}
    (accepted : verifier.verifyBundle proof signed verifyingKey key = .ok ()) :
    (∀ proof' bytes bytes', verifier.stateBytes proof.claimedState = some bytes →
      verifier.stateBytes proof'.claimedState = some bytes' →
      CollisionFree verifier.sha256
        (bytes :: bytes' :: (proofStrings verifier key proof ++ proofStrings verifier key proof')) →
      (bytes = bytes' → proof.claimedState = proof'.claimedState) →
      verifier.verifyBundle proof' signed verifyingKey key = .ok () →
      proof.claimedState = proof'.claimedState) ∧
    (Operation.new proof.latestEvent.operation.name = .ok proof.latestEvent.operation →
      ∃ proof', verifier.verifyBundle proof' signed verifyingKey key = .ok () ∧
        Operation.new proof'.latestEvent.operation.name = .ok proof'.latestEvent.operation ∧
        proof'.claimedState = proof.claimedState ∧ proof'.latestEvent ≠ proof.latestEvent) := by
  constructor
  · intro proof' bytes bytes' serialized serialized' collisionFree injective accepted'
    have established := (Verifier.verifyBundle_eq_ok.mp accepted).2
    have established' := (Verifier.verifyBundle_eq_ok.mp accepted').2
    obtain ⟨_, held, climbs⟩ := climb_of_establishes established
    obtain ⟨_, held', climbs'⟩ := climb_of_establishes established'
    obtain rfl := Option.some.inj (serialized.symm.trans held)
    obtain rfl := Option.some.inj (serialized'.symm.trans held')
    have along : CollisionFree verifier.sha256 (proofStrings verifier key proof ++ proofStrings verifier key proof') :=
      collisionFree.mono fun string listed => List.mem_cons_of_mem _ (List.mem_cons_of_mem _ listed)
    rw [proofStrings, proofStrings, serialized, serialized', Option.getD_some, Option.getD_some] at along
    have digests := (leafPreimage_inj (leaf_eq_of_climb_eq along (climbs.trans climbs'.symm))).2
    exact injective (collisionFree _ List.mem_cons_self _ (List.mem_cons_of_mem _ List.mem_cons_self) digests)
  · intro valid
    obtain ⟨other, valid', different, shorter⟩ := exists_other_operation valid
    refine ⟨{ proof with latestEvent := ⟨proof.latestEvent.eventId, other⟩ },
      verifyBundle_with_latestEvent sized (Nat.le_refl _) shorter accepted, valid', rfl, ?_⟩
    intro same
    exact different (congrArg EventRef.operation same)

def settleOperation : Operation := ⟨"trade.settle"⟩

theorem sizedByTexts_bcs (instant : Timestamp → String) :
    SizedByTexts fun proof => some (Bcs.resourceStateProof instant proof) := by
  intro proof event bytes serialized identifier operation
  cases serialized
  exact ⟨_, rfl, Bcs.length_resourceStateProof_latestEvent instant proof identifier operation⟩

theorem sword_bundles_share_only_state :
    ∃ proof', swordVerifier.verifyBundle proof' swordCommit swordVerifyingKey swordKey = .ok () ∧
      proof'.claimedState = swordState ∧ proof'.latestEvent ≠ (swordProof transferOperation).latestEvent := by
  have accepted := @swordProof_accepted transferOperation (by decide)
  obtain ⟨proof', accepted', _, claimed, different⟩ :=
    (accepted_bundles_share_only_state (sizedByTexts_bcs swordInstant) accepted).2 rfl
  exact ⟨proof', accepted', claimed, different⟩

/-- One commit and key, two accepted bundles: the holder chooses the settlement. -/
theorem sword_settlement_chosen :
    swordVerifier.verifyBundle (swordProof transferOperation) swordCommit swordVerifyingKey swordKey = .ok () ∧
      swordVerifier.verifyBundle (swordProof settleOperation) swordCommit swordVerifyingKey swordKey = .ok () ∧
      (swordProof transferOperation).latestEvent ≠ (swordProof settleOperation).latestEvent := by
  refine ⟨swordProof_accepted (by decide), swordProof_accepted (by decide), fun same => ?_⟩
  exact absurd (congrArg (fun event => event.operation.name) same) (by decide)

end StateChronicle.Verified
