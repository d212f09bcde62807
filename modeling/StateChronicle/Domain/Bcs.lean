import StateChronicle.Accumulator.Key
import StateChronicle.Domain.Proof
import StateChronicle.Foundation.Base64

/-!
# BCS bytes

Canonical bytes as the derived serialisers write them: enum tags and lengths in ULEB128, texts as length-prefixed
UTF-8, integers little-endian.  The text of an instant is left to the time library.
-/

namespace StateChronicle.Domain.Bcs

open Accumulator StateChronicle.Core Foundation

variable (digits n : Nat) {α : Type} (encode : α → List UInt8) (reference : CommitRef) (value : ContentDigest)
  (block : SignatureBlock) (proof : SparseMerkleProof)

/-- ULEB128 with at most `digits` continuation bytes. -/
def uleb128 : Nat → Nat → List UInt8
  | 0, n => [.ofNat n]
  | digits + 1, n => if n < 128 then [.ofNat n] else .ofNat (n % 128 + 128) :: uleb128 digits (n / 128)

/-- Lengths and tags are below `2 ^ 35`. -/
def length : List UInt8 := uleb128 4 n

theorem length_uleb128_le : (uleb128 digits n).length ≤ digits + 1 := by
  induction digits generalizing n with
  | zero => exact Nat.le_refl _
  | succ digits ih =>
    rw [uleb128]
    split
    · exact Nat.succ_le_succ (Nat.zero_le _)
    · exact Nat.succ_le_succ (ih _)

theorem length_length_le : (length n).length ≤ 5 := length_uleb128_le 4 n

theorem length_uleb128_mono {n m : Nat} (below : n ≤ m) : (uleb128 digits n).length ≤ (uleb128 digits m).length := by
  induction digits generalizing n m with
  | zero => exact Nat.le_refl _
  | succ digits ih =>
    rw [uleb128, uleb128]
    by_cases small : n < 128
    · rw [if_pos small]
      split
      · exact Nat.le_refl _
      · exact Nat.succ_le_succ (Nat.zero_le _)
    · rw [if_neg small, if_neg (by omega)]
      exact Nat.succ_le_succ (ih (Nat.div_le_div_right below))

def bytes (content : List UInt8) : List UInt8 := length content.length ++ content

def text (value : String) : List UInt8 := bytes (utf8 value)

theorem length_text_le (value : String) : (text value).length ≤ 5 + value.utf8ByteSize := by
  rw [text, bytes, List.length_append, length_utf8]
  exact Nat.add_le_add_right (length_length_le _) _

theorem length_text_mono {value value' : String} (below : value.utf8ByteSize ≤ value'.utf8ByteSize) :
    (text value).length ≤ (text value').length := by
  rw [text, text, bytes, bytes, List.length_append, List.length_append, length_utf8, length_utf8]
  exact Nat.add_le_add (length_uleb128_mono 4 below) below

def amount (value : Amount) : List UInt8 := text value.toCanonicalString

def optionText : Option String → List UInt8
  | none => [0]
  | some value => 1 :: text value

def bool (value : Bool) : List UInt8 := [if value then 1 else 0]

def u32 (value : U32) : List UInt8 := (List.range 4).map fun i => .ofNat (value.val >>> (8 * i))

def state : ResourceState → List UInt8
  | .uniqueAsset asset => 0 :: text asset.owner.name ++ text asset.status.name ++ optionText asset.tradeId
  | .consumableStack stack => 1 :: text stack.subject.name ++ amount stack.quantity ++ text stack.unit
  | .fungibleBalance balance =>
    2 :: text balance.subject.name ++ amount balance.balance ++ text balance.unit
  | .entitlement entitlement => 3 :: text entitlement.subject.name ++ text entitlement.status.name ++
      bool entitlement.transferable
  | .meteredResource meter => 4 :: text meter.subject.name ++ amount meter.remaining ++ amount meter.maximum
  | .listing listing => 5 :: text listing.seller.name ++ text listing.status.name
  | .escrow escrow => 6 :: text escrow.buyer.name ++ text escrow.seller.name ++ text escrow.status.name
  | .custom custom => 7 :: text custom.domain.name ++ u32 custom.schemaVersion ++ bytes custom.payload

theorem length_state_uniqueAsset_le (asset : UniqueAssetState) :
    (state (.uniqueAsset asset)).length ≤ 17 + asset.owner.name.utf8ByteSize + asset.status.name.utf8ByteSize +
      (asset.tradeId.getD "").utf8ByteSize := by
  have owner := length_text_le asset.owner.name
  have status := length_text_le asset.status.name
  have trade : (optionText asset.tradeId).length ≤ 6 + (asset.tradeId.getD "").utf8ByteSize := by
    cases asset.tradeId with
    | none => exact Nat.le_add_left _ _
    | some tradeId =>
      have bound := length_text_le tradeId
      rw [optionText, List.length_cons, Option.getD_some]
      omega
  rw [state, List.length_append, List.length_append, List.length_cons]
  omega

/-! ## Commits and proofs -/

def u64 (value : U64) : List UInt8 := (List.range 8).map fun i => .ofNat (value.val >>> (8 * i))

theorem length_u64 (value : U64) : (u64 value).length = 8 := by
  rw [u64, List.length_map, List.length_range]

def option : Option α → List UInt8
  | none => [0]
  | some value => 1 :: encode value

def sequence (values : List α) : List UInt8 :=
  length values.length ++ values.flatMap encode

def digest : List UInt8 := text value.asStr

@[simp] theorem length_digest : (digest value).length = 72 := by
  have size : (utf8 value.asStr).length = 71 := by
    have hex : (hexStr value.bytes.toList).utf8ByteSize = 64 := by
      rw [utf8ByteSize_hexStr, Vector.length_toList]
    rw [length_utf8, ContentDigest.asStr, String.utf8ByteSize_append, hex]
    rfl
  rw [digest, text, bytes, List.length_append, size]
  rfl

theorem length_sequence_digest_le (values : List ContentDigest) :
    (sequence digest values).length ≤ 5 + 72 * values.length := by
  have each : (values.flatMap digest).length = 72 * values.length := by
    induction values with
    | nil => rfl
    | cons value rest ih =>
      rw [List.flatMap_cons, List.length_append, length_digest, ih, List.length_cons]
      omega
  rw [sequence, List.length_append, each]
  exact Nat.add_le_add_right (length_length_le _) _

/-- The text form of raw bytes. -/
def b64u (bytes : List UInt8) : String := "b64u:" ++ .ofList (Base64.encode bytes)

def signatureAlg : SignatureAlg → List UInt8
  | .ed25519 => [0]

def signatureBlock : List UInt8 :=
  signatureAlg block.alg ++ text block.keyId ++ text (b64u block.sig)

theorem utf8ByteSize_ofList_le (chars : List Char) : (String.ofList chars).utf8ByteSize ≤ 4 * chars.length := by
  rw [String.utf8ByteSize_ofList]
  induction chars with
  | nil => exact Nat.zero_le _
  | cons char rest ih =>
    have size := char.utf8Size_le_four
    rw [String.utf8Len_cons, List.length_cons]
    omega

theorem length_signatureBlock_le :
    (signatureBlock block).length ≤ 16 + block.keyId.utf8ByteSize + 8 * block.sig.length := by
  have key := length_text_le block.keyId
  have signature := length_text_le (b64u block.sig)
  have encoded := Base64.length_encode_le block.sig
  have chars := utf8ByteSize_ofList_le (Base64.encode block.sig)
  have label : "b64u:".utf8ByteSize = 5 := rfl
  have algorithm : (signatureAlg block.alg).length = 1 := by cases block.alg; rfl
  rw [b64u, String.utf8ByteSize_append, label] at signature
  rw [signatureBlock, List.length_append, List.length_append, algorithm]
  rw [b64u]
  omega

def evaluationResult : EvaluationResult → List UInt8
  | .allow => [0]
  | .deny => [1]

def scopeKind : ScopeKind → List UInt8
  | .tenant => [0]
  | .globalCheckpoint => [1]

def commitScope (scope : CommitScope) : List UInt8 :=
  scopeKind scope.kind ++ option (fun tenant => text tenant.name) scope.tenantId

def sparseMerkleProof : List UInt8 :=
  text proof.kind ++ sequence digest proof.path ++ digest proof.leafHash

theorem length_sparseMerkleProof_le :
    (sparseMerkleProof proof).length ≤ proof.kind.utf8ByteSize + 72 * proof.path.length + 82 := by
  have kind := length_text_le proof.kind
  have path := length_sequence_digest_le proof.path
  rw [sparseMerkleProof, List.length_append, List.length_append, length_digest]
  omega

def commitRef : List UInt8 :=
  text reference.commitId.name ++ u64 reference.sequence ++ digest reference.stateRoot ++
    signatureBlock reference.signature

theorem length_commitRef_le :
    (commitRef reference).length ≤ 101 + reference.commitId.name.utf8ByteSize +
      reference.signature.keyId.utf8ByteSize + 8 * reference.signature.sig.length := by
  have identifier := length_text_le reference.commitId.name
  have signature := length_signatureBlock_le reference.signature
  rw [commitRef, List.length_append, List.length_append, List.length_append, length_u64, length_digest]
  omega

def eventRef (reference : EventRef) : List UInt8 := text reference.eventId.name ++ text reference.operation.name

theorem length_eventRef_le (reference : EventRef) :
    (eventRef reference).length ≤ 10 + reference.eventId.name.utf8ByteSize + reference.operation.name.utf8ByteSize := by
  have identifier := length_text_le reference.eventId.name
  have operation := length_text_le reference.operation.name
  rw [eventRef, List.length_append]
  omega

section Instants

variable (instant : Timestamp → String)

def authorityProof (proof : AuthorityProof) : List UInt8 :=
  text proof.kind ++ digest proof.evaluationDigest ++ evaluationResult proof.result ++
    text (instant proof.evaluatedAt)

def stateCommitment (commitment : StateCommitment) : List UInt8 :=
  u64 commitment.version ++ digest commitment.stateHash ++ state commitment.state

def event (event : Event) : List UInt8 :=
  text event.schema ++ text event.tenantId.name ++ text event.eventId.name ++ text event.intentId.name ++
    text event.operation.name ++ text event.resourceId.name ++ text event.actor.name ++
    stateCommitment event.before ++ stateCommitment event.after ++
    option (authorityProof instant) event.authority ++ text event.executor.name ++
    text (instant event.createdAt)

def commit (commit : Commit) : List UInt8 :=
  text commit.schema ++ commitScope commit.scope ++ text commit.commitId.name ++
    option (fun parent => text parent.name) commit.parentCommitId ++ u64 commit.sequence ++
    u64 commit.eventCount ++ digest commit.eventMerkleRoot ++ digest commit.previousStateRoot ++
    digest commit.nextStateRoot ++ text (instant commit.createdAt) ++ text commit.executor.name ++
    text commit.profile.name

def resourceStateProof (proof : ResourceStateProof) : List UInt8 :=
  text proof.schema ++ text proof.tenantId.name ++ text proof.resourceId.name ++ state proof.claimedState ++
    commitRef proof.commit ++ sparseMerkleProof proof.stateInclusionProof ++ eventRef proof.latestEvent ++
    option (authorityProof instant) proof.authority

/-- A proof with shorter texts in its latest event is no larger. -/
theorem length_resourceStateProof_latestEvent (proof : ResourceStateProof) {event : EventRef}
    (identifier : event.eventId.name.utf8ByteSize ≤ proof.latestEvent.eventId.name.utf8ByteSize)
    (operation : event.operation.name.utf8ByteSize ≤ proof.latestEvent.operation.name.utf8ByteSize) :
    (resourceStateProof instant { proof with latestEvent := event }).length ≤
      (resourceStateProof instant proof).length := by
  have shorter : (eventRef event).length ≤ (eventRef proof.latestEvent).length := by
    rw [eventRef, eventRef, List.length_append, List.length_append]
    exact Nat.add_le_add (length_text_mono identifier) (length_text_mono operation)
  simp only [resourceStateProof, List.length_append]
  omega

theorem length_resourceStateProof_le {proof : ResourceStateProof} (unauthorised : proof.authority = none) :
    (resourceStateProof instant proof).length ≤ proof.schema.utf8ByteSize + proof.tenantId.name.utf8ByteSize +
      proof.resourceId.name.utf8ByteSize + (state proof.claimedState).length + (commitRef proof.commit).length +
      proof.stateInclusionProof.kind.utf8ByteSize + 72 * proof.stateInclusionProof.path.length +
      proof.latestEvent.eventId.name.utf8ByteSize + proof.latestEvent.operation.name.utf8ByteSize + 108 := by
  have schema := length_text_le proof.schema
  have tenant := length_text_le proof.tenantId.name
  have resource := length_text_le proof.resourceId.name
  have path := length_sparseMerkleProof_le proof.stateInclusionProof
  have event := length_eventRef_le proof.latestEvent
  simp only [resourceStateProof, unauthorised, option, List.length_append, List.length_singleton]
  omega

end Instants

def nonMembershipProofBundle (bundle : NonMembershipProofBundle) : List UInt8 :=
  text bundle.schema ++ text bundle.tenantId.name ++ text bundle.resourceId.name ++
    digest bundle.claimedKey ++ commitRef bundle.commit ++
    sparseMerkleProof bundle.stateNonMembershipProof

theorem length_nonMembershipProofBundle_le (bundle : NonMembershipProofBundle) :
    (nonMembershipProofBundle bundle).length ≤ bundle.schema.utf8ByteSize + bundle.tenantId.name.utf8ByteSize +
      bundle.resourceId.name.utf8ByteSize + (commitRef bundle.commit).length +
      bundle.stateNonMembershipProof.kind.utf8ByteSize + 72 * bundle.stateNonMembershipProof.path.length + 169 := by
  have schema := length_text_le bundle.schema
  have tenant := length_text_le bundle.tenantId.name
  have resource := length_text_le bundle.resourceId.name
  have path := length_sparseMerkleProof_le bundle.stateNonMembershipProof
  simp only [nonMembershipProofBundle, List.length_append, length_digest]
  omega

end StateChronicle.Domain.Bcs
