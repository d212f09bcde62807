import StateChronicle.Accumulator.Evaluation
import StateChronicle.Commit.Roots
import StateChronicle.Domain.Bcs
import StateChronicle.Foundation.Aligned

/-!
# The event root binds the events

The tree over the events pads a level of odd length with its last node, so lists that repeat their end could share a
root.  Lists without repeated events cannot.
-/

namespace StateChronicle.Verified

open StateChronicle.Core Accumulator Commit Domain Foundation

variable {sha256 : List UInt8 → Hash} {eventBytes : Event → Option (List UInt8)}

/-! ## What the root is computed from -/

variable {events : List Event}

def eventDigests (sha256 : List UInt8 → Hash) (eventBytes : Event → Option (List UInt8)) (events : List Event) :
    List Hash :=
  (events.filterMap eventBytes).map sha256

/-- The strings hashed for an event root: the canonical bytes of the events and the nodes of the tree. -/
def eventRootStrings (sha256 : List UInt8 → Hash) (eventBytes : Event → Option (List UInt8))
    (events : List Event) : List (List UInt8) :=
  events.filterMap eventBytes ++
    MerkleTree.hashedStrings sha256 eventLeafPreimage internalPreimage (eventDigests sha256 eventBytes events)

theorem eventLevel_eq_ok {level : List Hash} :
    (events.mapM fun event => do
      let digest ← (canonicalizeAndDigest sha256 (eventBytes event)).mapError CommitError.ofCore
      return eventLeafHash sha256 digest.bytes) = .ok level ↔
    events.map eventBytes = (events.filterMap eventBytes).map some ∧
      (eventDigests sha256 eventBytes events).map (eventLeafHash sha256) = level := by
  induction events generalizing level with
  | nil => simp [eventDigests]
  | cons event rest ih =>
    simp only [List.mapM_cons, Except.bind_eq_ok, Except.pure_eq_ok, Except.mapError_eq_ok,
      canonicalizeAndDigest_eq_ok, ih]
    cases encoded : eventBytes event with
    | none =>
      have short := List.length_filterMap_le eventBytes rest
      constructor
      · rintro ⟨_, ⟨_, ⟨_, ⟨⟩, _⟩, _⟩, _⟩
      · rintro ⟨same, _⟩
        have lengths := congrArg List.length same
        simp only [List.map_cons, List.filterMap_cons_none encoded, List.length_cons, List.length_map] at lengths
        omega
    | some bytes =>
      simp [eventDigests, encoded, hashBytes]

theorem eventRoot_eq_ok {root : ContentDigest} :
    eventRoot sha256 eventBytes events = .ok root ↔ events.map eventBytes = (events.filterMap eventBytes).map some ∧
      MerkleTree.rootHash sha256 eventLeafPreimage internalPreimage (eventDigests sha256 eventBytes events) =
        some root.bytes := by
  simp only [eventRoot, Except.bind_eq_ok, rejectIf_eq_ok, okOr_eq_ok, Except.pure_eq_ok, eventLevel_eq_ok,
    exists_const]
  constructor
  · rintro ⟨_, _, ⟨encoded, rfl⟩, _, collapsed, rfl⟩
    exact ⟨encoded, collapsed⟩
  · rintro ⟨encoded, collapsed⟩
    refine ⟨?_, _, ⟨encoded, rfl⟩, root.bytes, collapsed, rfl⟩
    rintro rfl
    simp [MerkleTree.rootHash, eventDigests, MerkleTree.collapse] at collapsed

theorem exists_eventRoot (nonempty : events ≠ [])
    (encoded : events.map eventBytes = (events.filterMap eventBytes).map some) :
    ∃ root, eventRoot sha256 eventBytes events = .ok root := by
  have leaves : (eventDigests sha256 eventBytes events).map (eventLeafHash sha256) ≠ [] := by
    intro none
    have strings : events.filterMap eventBytes = [] := by simpa [eventDigests] using none
    rw [strings] at encoded
    exact nonempty (List.map_eq_nil_iff.mp encoded)
  obtain ⟨root, collapsed⟩ := MerkleTree.exists_collapse (internalHash sha256) leaves
  exact ⟨⟨root⟩, eventRoot_eq_ok.mpr ⟨encoded, collapsed⟩⟩

/-! ## Injectivity -/

theorem eventLeafPreimage_injective : Function.Injective eventLeafPreimage := by
  intro digest digest' same
  exact Vector.toList_inj.mp (List.cons.inj same).2

theorem eventLeafPreimage_ne_internalPreimage (digest left right : Hash) :
    eventLeafPreimage digest ≠ internalPreimage left right := by
  intro same
  exact absurd (List.cons.inj same).1 (by decide)

theorem eventDigests_nodup (distinct : events.Nodup) (injective : Set.InjOn eventBytes {event | event ∈ events})
    (encoded : events.map eventBytes = (events.filterMap eventBytes).map some)
    (collisionFree : CollisionFree sha256 (events.filterMap eventBytes)) :
    (eventDigests sha256 eventBytes events).Nodup := by
  have strings : (events.filterMap eventBytes).Nodup := by
    have images := distinct.map_on fun event inside event' inside' same => injective inside inside' same
    rw [encoded] at images
    exact images.of_map
  exact strings.map_on collisionFree

/-- The event root determines the list of events, among lists without repeated events. -/
theorem event_root_binds_events {xs ys : List Event} {root : ContentDigest}
    (injective : Set.InjOn eventBytes {event | event ∈ xs ++ ys})
    (collisionFree : CollisionFree sha256
      (eventRootStrings sha256 eventBytes xs ++ eventRootStrings sha256 eventBytes ys))
    (distinct : xs.Nodup) (distinct' : ys.Nodup) (rooted : eventRoot sha256 eventBytes xs = .ok root)
    (rooted' : eventRoot sha256 eventBytes ys = .ok root) : xs = ys := by
  obtain ⟨encoded, collapsed⟩ := eventRoot_eq_ok.mp rooted
  obtain ⟨encoded', collapsed'⟩ := eventRoot_eq_ok.mp rooted'
  -- Each of the three kinds of strings is among those that do not collide.
  have first : xs.filterMap eventBytes ⊆
      eventRootStrings sha256 eventBytes xs ++ eventRootStrings sha256 eventBytes ys :=
    fun bytes inside => List.mem_append_left _ (List.mem_append_left _ inside)
  have second : ys.filterMap eventBytes ⊆
      eventRootStrings sha256 eventBytes xs ++ eventRootStrings sha256 eventBytes ys :=
    fun bytes inside => List.mem_append_right _ (List.mem_append_left _ inside)
  have digests : eventDigests sha256 eventBytes xs = eventDigests sha256 eventBytes ys := by
    refine MerkleTree.rootHash_injective eventLeafPreimage_ne_internalPreimage eventLeafPreimage_injective
      internalPreimage_injective ?_ ?_ ?_ collapsed collapsed'
    · exact eventDigests_nodup distinct (injective.mono fun event inside => List.mem_append_left _ inside)
        encoded (collisionFree.mono first)
    · exact eventDigests_nodup distinct' (injective.mono fun event inside => List.mem_append_right _ inside)
        encoded' (collisionFree.mono second)
    · intro a inXs b inYs same
      exact collisionFree a (List.mem_append_left _ (List.mem_append_right _ inXs)) b
        (List.mem_append_right _ (List.mem_append_right _ inYs)) same
  have strings : xs.filterMap eventBytes = ys.filterMap eventBytes :=
    eq_of_map_eq_map digests fun a inXs b inYs => collisionFree a (first inXs) b (second inYs)
  refine eq_of_map_eq_map (encoded.trans ((congrArg _ strings).trans encoded'.symm)) ?_
  exact fun event inXs event' inYs =>
    injective (List.mem_append_left _ inXs) (List.mem_append_right _ inYs)

def assetState (owner : String) : ResourceState := .uniqueAsset ⟨⟨owner⟩, ⟨"active"⟩, none⟩

def assetCommitment (version : U64) (owner : String) : StateCommitment :=
  ⟨version, ⟨Sha256.sha256 (Bcs.state (assetState owner))⟩, assetState owner⟩

def ownerEvent (id owner : String) : Event :=
  .new ⟨"acme.game.alpha"⟩ ⟨"evt_" ++ id⟩ ⟨"int_" ++ id⟩ ⟨"asset.transfer"⟩ ⟨"asset:" ++ id⟩
    ⟨"account:example:player_123"⟩ (assetCommitment 41 "account:example:player_123") (assetCommitment 42 owner)
    none ⟨"service:statechronicle.example.net"⟩ 1783987201

def ownerEventBytes (event : Event) : Option (List UInt8) := some (Bcs.event (fun _ => "2026-07-14T00:00:01Z") event)

def twoTransfers : List Event := [ownerEvent "a" "alice", ownerEvent "b" "bob"]

def transfersBackwards : List Event := [ownerEvent "b" "bob", ownerEvent "a" "alice"]

theorem twoTransfers_strings :
    eventRootStrings Sha256.sha256 ownerEventBytes twoTransfers =
      twoTransfers.filterMap ownerEventBytes ++ MerkleTree.Tree.strings Sha256.sha256 eventLeafPreimage
        internalPreimage (.node (.leaf (Sha256.sha256 (Bcs.event (fun _ => "2026-07-14T00:00:01Z")
          (ownerEvent "a" "alice")))) (.leaf (Sha256.sha256 (Bcs.event (fun _ => "2026-07-14T00:00:01Z")
          (ownerEvent "b" "bob"))))) := by
  simp [eventRootStrings, MerkleTree.hashedStrings, MerkleTree.tree, MerkleTree.collapse, MerkleTree.pairUp,
    eventDigests, twoTransfers, ownerEventBytes]

theorem twoTransfers_collisionFree :
    CollisionFree Sha256.sha256 (eventRootStrings Sha256.sha256 ownerEventBytes twoTransfers) := by
  rw [twoTransfers_strings]
  exact collisionFree_of_nodup (by decide +kernel)

theorem two_transfers_bound :
    twoTransfers.Nodup ∧ ∃ root, eventRoot Sha256.sha256 ownerEventBytes twoTransfers = .ok root ∧
      eventRoot Sha256.sha256 ownerEventBytes transfersBackwards.reverse = .ok root ∧
      twoTransfers = transfersBackwards.reverse := by
  have distinct : twoTransfers.Nodup := by decide +kernel
  have reversed : transfersBackwards.reverse = twoTransfers := rfl
  have injective : Set.InjOn ownerEventBytes {event | event ∈ twoTransfers ++ twoTransfers} := by
    have images : (twoTransfers.map ownerEventBytes).Nodup := by decide +kernel
    intro event inside event' inside' same
    exact List.inj_on_of_nodup_map images (by simpa using inside) (by simpa using inside') same
  have collisionFree := twoTransfers_collisionFree.mono (List.append_subset.mpr ⟨fun _ => id, fun _ => id⟩)
  obtain ⟨root, rooted⟩ : ∃ root, eventRoot Sha256.sha256 ownerEventBytes twoTransfers = .ok root :=
    exists_eventRoot (List.cons_ne_nil _ _) rfl
  rw [reversed]
  exact ⟨distinct, root, rooted, rooted,
    event_root_binds_events injective collisionFree distinct distinct rooted rooted⟩

end StateChronicle.Verified
