import StateChronicle.Foundation.SortedMatch
import StateChronicle.Index.Harness
import StateChronicle.Profiles.BatchShape

/-!
# Matching value legs

The value declarations of a batch and its payments are sorted by their keys and compared place by place.  A leg is
made where equal keys come to stand at the same place, which the other keys of the batch decide.
-/

namespace StateChronicle.Verified

open StateChronicle.Core Domain Foundation Index Profiles
open Atomicity (ValueTuple declaresValueLeg)

def declarations (batch : IngestBatch) : Except IndexError (List DeclaredValueLeg) :=
  (batch.settleIntents.filter declaresValueLeg).mapM declaredValueLeg

def legKey (leg : TradeValueLeg) : Option ValueTuple :=
  (Amount.tryFromStr leg.amount).toOption.map fun amount => ⟨amount, leg.resource.name, some leg.toSubject.name⟩

/-- The legs are those of a matching of multisets: as many of each key as both sides have, and no payment twice. -/
structure MatchedAsMultisets (declared : List DeclaredValueLeg) (pairs : List RecoveredValuePair)
    (legs : List (String × TradeValueLeg)) : Prop where
  counts : ∀ key : ValueTuple, legs.countP (fun leg => (legKey leg.2).any fun own => own.same key) =
    min (declared.countP fun declaration => declaration.key.same key) (pairs.countP fun pair => pair.key.same key)
  once : (legs.map fun leg => (leg.2.pairEventIds, leg.2.tenant)).Subperm
    (pairs.map fun pair => (pair.eventIds, pair.tenant))

/-- The declarations and the payments of every key stand at places that nest. -/
def PlacesNest (declared : List DeclaredValueLeg) (pairs : List RecoveredValuePair) : Prop :=
  ∀ key : ValueTuple, RunsNest key.sortKey (declared.map (·.key.sortKey)) (pairs.map (·.key.sortKey))

section Keys

variable {declaration : DeclaredValueLeg} {pair : RecoveredValuePair} {commitRef : CommitRef}

/-- A declaration's texts are those of its key. -/
def Spelled (declaration : DeclaredValueLeg) : Prop :=
  Amount.tryFromStr declaration.amountStr = .ok declaration.key.amount ∧
    declaration.key.recipient = some declaration.toSubject.name

theorem spelled_of_declaredValueLeg {intent : Intent} (read : declaredValueLeg intent = .ok declaration) :
    Spelled declaration := by
  simp only [declaredValueLeg, Except.bind_eq_ok, Except.pure_eq_ok, Except.mapError_eq_ok] at read
  obtain ⟨_, _, _, _, _, _, _, _, _, parsed, rfl⟩ := read
  exact ⟨parsed, rfl⟩

theorem legKey_valueLeg (spelled : Spelled declaration) (key : ValueTuple) :
    ((valueLeg commitRef (declaration, pair)).map fun leg => (legKey leg.2).any fun own => own.same key).getD false =
      decide (declaration.key.sortKey = key.sortKey ∧ pair.key.sortKey = key.sortKey) := by
  unfold valueLeg
  by_cases same : declaration.key.same pair.key
  · have keys : declaration.key.sortKey = pair.key.sortKey := ValueTuple.same_iff.mp same
    have own : (⟨declaration.key.amount, pair.resource.name, some declaration.toSubject.name⟩ : ValueTuple) =
        declaration.key := by
      have resource : declaration.key.resource = pair.resource.name := same.2.1
      rw [← resource, ← spelled.2]
    rw [if_pos same]
    simp only [Option.map_some, Option.getD_some, legKey, spelled.1, Except.toOption, own, Option.any_some,
      ValueTuple.same_iff, keys, and_self]
  · have keys : declaration.key.sortKey ≠ pair.key.sortKey := fun keys => same (ValueTuple.same_iff.mpr keys)
    rw [if_neg same]
    refine (decide_eq_false ?_).symm
    rintro ⟨left, right⟩
    exact keys (left.trans right.symm)

end Keys

section Counts

variable {declared : List DeclaredValueLeg} {pairs : List RecoveredValuePair} (commitRef : CommitRef)

def legsOf (declared : List DeclaredValueLeg) (pairs : List RecoveredValuePair) (commitRef : CommitRef) :
    List (String × TradeValueLeg) :=
  ((declared.insertionSort declarationOrder).zip (pairs.insertionSort pairOrder)).filterMap (valueLeg commitRef)

theorem countP_legsOf (spelled : ∀ declaration ∈ declared, Spelled declaration) (key : ValueTuple) :
    (legsOf declared pairs commitRef).countP (fun leg => (legKey leg.2).any fun own => own.same key) =
      placesOf key.sortKey ((declared.insertionSort declarationOrder).map (·.key.sortKey))
        ((pairs.insertionSort pairOrder).map (·.key.sortKey)) := by
  rw [legsOf, List.countP_filterMap, placesOf, List.zip_map, List.countP_map]
  refine List.countP_congr fun place member => ?_
  obtain ⟨declaration, pair⟩ := place
  have listed : declaration ∈ declared := (List.mem_insertionSort _).mp (List.of_mem_zip member).1
  rw [legKey_valueLeg (spelled declaration listed)]
  rfl

theorem copiesOf_sortKey {α : Type} (keyOf : α → ValueTuple) (key : ValueTuple) (xs : List α) :
    copiesOf key.sortKey (xs.map fun x => (keyOf x).sortKey) = xs.countP fun x => (keyOf x).same key := by
  rw [copiesOf, List.countP_map]
  exact List.countP_congr fun x _ => by simp [ValueTuple.same_iff]

theorem legsOf_subperm :
    ((legsOf declared pairs commitRef).map fun leg => (leg.2.pairEventIds, leg.2.tenant)).Subperm
      (pairs.map fun pair => (pair.eventIds, pair.tenant)) := by
  have reads : ∀ (declaration : DeclaredValueLeg) (pair : RecoveredValuePair) (read : List EventId × TenantId),
      ((valueLeg commitRef (declaration, pair)).map fun leg => (leg.2.pairEventIds, leg.2.tenant)) = some read →
        read = (pair.eventIds, pair.tenant) := by
    intro declaration pair read made
    unfold valueLeg at made
    split_ifs at made
    · exact (Option.some.inj made).symm
    · cases made
  rw [legsOf, List.map_filterMap]
  exact (filterMap_zip_sublist reads _ _).subperm.trans ((List.perm_insertionSort pairOrder pairs).map _).subperm

theorem matched_legsOf_iff (spelled : ∀ declaration ∈ declared, Spelled declaration) :
    MatchedAsMultisets declared pairs (legsOf declared pairs commitRef) ↔ PlacesNest declared pairs := by
  have sorted := pairwise_map_insertionSort (fun declaration : DeclaredValueLeg => declaration.key.sortKey)
    declarationOrder (fun left right => ValueTuple.order_iff left.key right.key) declared
  have sorted' := pairwise_map_insertionSort (fun pair : RecoveredValuePair => pair.key.sortKey) pairOrder
    (fun left right => ValueTuple.order_iff left.key right.key) pairs
  have perm := (List.perm_insertionSort declarationOrder declared).map (·.key.sortKey)
  have perm' := (List.perm_insertionSort pairOrder pairs).map (·.key.sortKey)
  -- a key's legs are the places it has in both sorted lists; sorting changes neither its copies nor its rank
  have each (key : ValueTuple) :
      (legsOf declared pairs commitRef).countP (fun leg => (legKey leg.2).any fun own => own.same key) =
          min (declared.countP fun declaration => declaration.key.same key)
            (pairs.countP fun pair => pair.key.same key) ↔
        RunsNest key.sortKey (declared.map (·.key.sortKey)) (pairs.map (·.key.sortKey)) := by
    rw [countP_legsOf commitRef spelled, ← copiesOf_sortKey DeclaredValueLeg.key,
      ← copiesOf_sortKey RecoveredValuePair.key, ← copiesOf_congr perm, ← copiesOf_congr perm',
      placesOf_eq_min_iff sorted sorted', runsNest_congr perm perm']
  constructor
  · intro matched key
    exact (each key).mp (matched.counts key)
  · intro nest
    exact ⟨fun key => (each key).mpr (nest key), legsOf_subperm commitRef⟩

end Counts

/-- Over well-formed declarations and payments the matching is one of multisets exactly when, key by key, the places
of the declarations and those of the payments nest. -/
theorem value_legs_matched_iff {batch : IngestBatch} {declared : List DeclaredValueLeg}
    {pairs : List RecoveredValuePair} (declares : declarations batch = .ok declared)
    (recovered : recoverValuePairs batch.events = .ok pairs) (commitRef : CommitRef) :
    ∃ legs, (recoverValuePairs batch.events >>= fun pairs => matchValueLegs batch pairs commitRef) = .ok legs ∧
      (MatchedAsMultisets declared pairs legs ↔ PlacesNest declared pairs) := by
  refine ⟨legsOf declared pairs commitRef, ?_, matched_legsOf_iff commitRef fun declaration member => ?_⟩
  · rw [Except.bind_eq_ok]
    refine ⟨pairs, recovered, ?_⟩
    rw [matchValueLegs, Except.bind_eq_ok]
    exact ⟨declared, declares, rfl⟩
  · obtain ⟨intent, -, read⟩ := Aligned.exists_left (Except.mapM_eq_ok.mp declares) member
    exact spelled_of_declaredValueLeg read

/-- Where the declarations and the payments are the same multiset, as the settlement checks ask, the places nest. -/
theorem placesNest_of_sameSorted {declared : List DeclaredValueLeg} {pairs : List RecoveredValuePair}
    (same : Atomicity.sameSorted (declared.map (·.key)) (pairs.map (·.key))) : PlacesNest declared pairs := by
  have perm := Atomicity.sameSorted_iff.mp same
  rw [List.map_map, List.map_map] at perm
  exact fun key => runsNest_of_perm perm

open Index.Harness

def tenPaid : IngestBatch :=
  batchOf "acme" "cmt_1" (payment "acme" "int_pay" "alice" 10) [declaration "int_ten" "trd_1" "10" "alice"]

def fivePending : IngestBatch :=
  { tenPaid with
    settleIntents := [declaration "int_five" "trd_2" "5" "alice", declaration "int_ten" "trd_1" "10" "alice"] }

def tenDeclared : DeclaredValueLeg := ⟨⟨Amount.ofNat 10, "currency:gold", some "alice"⟩, "trd_1", "10", ⟨"alice"⟩⟩

def fiveDeclared : DeclaredValueLeg := ⟨⟨Amount.ofNat 5, "currency:gold", some "alice"⟩, "trd_2", "5", ⟨"alice"⟩⟩

def received (intentId : String) (amount : ℕ) : RecoveredValuePair :=
  ⟨Amount.ofNat amount, ⟨"currency:gold"⟩, some ⟨"alice"⟩, [⟨intentId ++ "_credit"⟩, ⟨intentId ++ "_debit"⟩], ⟨"acme"⟩⟩

/-- Ten is paid once more, and five is paid. -/
def allPaid : IngestBatch :=
  { fivePending with
    events := payment "acme" "int_again" "alice" 10 ++ tenPaid.events ++ payment "acme" "int_small" "alice" 5 }

def allReceived : List RecoveredValuePair := [received "int_again" 10, received "int_pay" 10, received "int_small" 5]

/-- Two keys, of which one is paid more often than it is declared. -/
theorem five_and_ten_matched :
    ∃ legs, (recoverValuePairs allPaid.events >>= fun pairs =>
        matchValueLegs allPaid pairs (referenceOf allPaid.commit)) = .ok legs ∧
      MatchedAsMultisets [fiveDeclared, tenDeclared] allReceived legs := by
  obtain ⟨legs, matched, iff⟩ := value_legs_matched_iff
    (by rfl : declarations allPaid = .ok [fiveDeclared, tenDeclared])
    (by rfl : recoverValuePairs allPaid.events = .ok allReceived) (referenceOf allPaid.commit)
  have nest : ∀ key ∈ [fiveDeclared, tenDeclared].map (·.key.sortKey),
      RunsNest key ([fiveDeclared, tenDeclared].map (·.key.sortKey)) (allReceived.map (·.key.sortKey)) := by
    unfold RunsNest
    decide +kernel
  exact ⟨legs, matched, iff.mpr fun key declared => nest _ declared declared⟩

/-- The unpaid declaration takes the place of the paid one, and the payment is left without a leg. -/
theorem pending_declaration_hides_payment :
    declarations fivePending = .ok [fiveDeclared, tenDeclared] ∧
      recoverValuePairs fivePending.events = .ok [received "int_pay" 10] ∧
      matchValueLegs fivePending [received "int_pay" 10] (referenceOf fivePending.commit) = .ok [] ∧
      ¬ MatchedAsMultisets [fiveDeclared, tenDeclared] [received "int_pay" 10] [] := by
  refine ⟨by rfl, by rfl, by rfl, fun matched => ?_⟩
  exact absurd (matched.counts tenDeclared.key) (by decide +kernel)

end StateChronicle.Verified
