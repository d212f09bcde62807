import StateChronicle.Execution.Harness

/-!
# Sales

A purchase is meant to sell a listing and to release its escrow in one commit.  The routes execute whatever intents
they are given, so the two events come together exactly where the intents do.
-/

namespace StateChronicle.Verified

open Commit Domain Execution Profiles

variable {W : Type}

/-- The two entry points: an intent by itself, and a batch. -/
inductive Enters (executor : Executor W) : List ValidatedIntent → W → List Event → W → Prop
  | execute {validated : ValidatedIntent} {w w' : W} {events : List Event}
      (returns : executor.execute validated w = .ok events w') : Enters executor [validated] w events w'
  | executeBatch {intents : List ValidatedIntent} {w w' : W} {events : List Event}
      (returns : executor.executeBatch intents w = .ok events w') : Enters executor intents w events w'

/-- A listing is bought exactly when an escrow is released. -/
def SoldTogether (events : List Event) : Prop :=
  (∃ event ∈ events, event.operation = Marketplace.op.listingBuy) ↔
    ∃ event ∈ events, event.operation = Marketplace.op.escrowRelease

/-- An intent with the operation that has not been executed before. -/
def Requests (claims : Claims) (intents : List ValidatedIntent) (operation : Operation) : Prop :=
  ∃ validated ∈ intents, claims.of validated.intent = none ∧ validated.intent.operation = operation

section Operations

variable {executor : Executor W} {claims : W → Claims} {intents : List ValidatedIntent} {w w' : W} {events : List Event}

theorem assembled_of_enters (stores : executor.StoresClaims claims) (entered : Enters executor intents w events w') :
    Assembled (executor.Produces (claims w) false) intents events := by
  cases entered with
  | execute returns =>
    exact ⟨[events], .cons (Executor.produces_of_executeInner stores returns) .nil, by simp⟩
  | executeBatch returns => exact Executor.executeBatch_produces stores returns

/-- An operation has an event exactly when an intent that was not executed before asks for it. -/
theorem event_iff_requests {claims : Claims} (assembled : Assembled (executor.Produces claims false) intents events)
    (operation : Operation) : (∃ event ∈ events, event.operation = operation) ↔ Requests claims intents operation := by
  constructor
  · rintro ⟨event, member, rfl⟩
    obtain ⟨validated, supplied, output, produced, inside, -⟩ := assembled.exists_intent member
    cases produced with
    | replay => cases inside
    | fresh unclaimed acceptance => exact ⟨validated, supplied, unclaimed, (acceptance.stamped inside).2.2.symm⟩
  · rintro ⟨validated, supplied, unclaimed, rfl⟩
    obtain ⟨output, produced, among⟩ := assembled.exists_output supplied
    cases produced with
    | replay claimed =>
      rw [unclaimed] at claimed
      cases claimed
    | fresh _ acceptance =>
      have emitted : acceptance.event ∈ acceptance.events := List.mem_cons_self
      exact ⟨acceptance.event, among emitted, (acceptance.stamped emitted).2.2⟩

end Operations

/-- On either entry point, a sale is complete exactly when the intents that were not executed before include a
purchase if and only if they include a release. -/
theorem sold_together_iff {executor : Executor W} {claims : W → Claims} {intents : List ValidatedIntent} {w w' : W}
    {events : List Event} (stores : executor.StoresClaims claims) (entered : Enters executor intents w events w') :
    SoldTogether events ↔ (Requests (claims w) intents Marketplace.op.listingBuy ↔
      Requests (claims w) intents Marketplace.op.escrowRelease) := by
  have assembled := assembled_of_enters stores entered
  rw [SoldTogether, event_iff_requests assembled, event_iff_requests assembled]

open Harness

def shopListing : ResourceId := ⟨"listing:sword"⟩

def shopEscrow : ResourceId := ⟨"escrow:sword"⟩

def shop : StateTable :=
  tableOf [⟨tenant, shopListing, 1, .listing ⟨⟨"alice"⟩, Marketplace.listingStatus.listed⟩⟩,
    ⟨tenant, shopEscrow, 1, .escrow ⟨⟨"bob"⟩, ⟨"alice"⟩, Marketplace.escrowStatus.locked⟩⟩]

def buyIntent : ValidatedIntent := intent "int_buy" "listing.buy" "bob" shopListing .listing 1 [("buyer", "bob")]

def releaseIntent : ValidatedIntent := intent "int_release" "escrow.release" "bob" shopEscrow .escrow 1 []

theorem shop_sold_together :
    SoldTogether (emitted ((executor .baseline shop).executeBatch [buyIntent, releaseIntent] .fresh)) := by
  have fresh : emitted ((executor .baseline shop).executeBatch [buyIntent, releaseIntent] .fresh) ≠ [] := by
    decide +kernel
  obtain ⟨memory, returns⟩ := ok_of_emitted_ne_nil fresh
  refine (sold_together_iff (executor_storesClaims _ _) (.executeBatch returns)).mpr (iff_of_true ?_ ?_)
  · exact ⟨buyIntent, by simp, rfl, rfl⟩
  · exact ⟨releaseIntent, by simp, rfl, rfl⟩

/-- Bob buys the sword; the escrow keeps the payment. -/
theorem listing_bought_alone :
    (emitted ((executor .baseline shop).execute buyIntent .fresh)).map (·.operation) = [Marketplace.op.listingBuy] ∧
      ¬ SoldTogether (emitted ((executor .baseline shop).execute buyIntent .fresh)) := by
  have alone : (emitted ((executor .baseline shop).execute buyIntent .fresh)).map (·.operation) =
      [Marketplace.op.listingBuy] := by decide +kernel
  refine ⟨alone, ?_⟩
  rw [SoldTogether, ← List.mem_map, ← List.mem_map, alone]
  decide

end StateChronicle.Verified
