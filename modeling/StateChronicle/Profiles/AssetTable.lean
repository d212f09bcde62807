import StateChronicle.Profiles.Transition

/-!
# The life of a unique asset

The transition table the unique asset rules document, and what the checks and the reducer do in its terms: which
statuses an operation leaves, and which asset it makes of the one before it.
-/

namespace StateChronicle.Profiles.UniqueAsset

open Domain Foundation

variable {owner : String} {projection : StateProjection} {name : String} {asset : UniqueAssetState}

/-- A row of the documented table; `sources` is `none` for the operation that needs an unborn asset. -/
structure TableRow where
  operation : Operation
  sources : Option (List Status)
  target : Status
deriving DecidableEq, Repr

/-- The transition table of the unique asset rules. -/
def transitionTable : List TableRow :=
  [⟨op.assetMint, none, status.active⟩, ⟨op.assetTransfer, some [status.active], status.active⟩,
    ⟨op.assetBurn, some [status.active], status.burned⟩,
    ⟨op.assetLock, some [status.active], status.locked⟩,
    ⟨op.assetUnlock, some [status.locked], status.active⟩,
    ⟨op.assetList, some [status.active], status.listed⟩,
    ⟨op.assetDelist, some [status.listed], status.active⟩,
    ⟨op.assetEscrow, some [status.active], status.escrowed⟩,
    ⟨op.assetRelease, some [status.escrowed], status.active⟩,
    ⟨op.assetRedeem, some [status.listed], status.redeemed⟩,
    ⟨op.assetAttachContent, some [status.active], status.active⟩,
    ⟨op.assetDetachContent, some [status.active], status.active⟩,
    ⟨op.assetUpdateMetadata, some [status.active], status.active⟩,
    ⟨op.assetRestrict, some restrictFrom, status.restricted⟩,
    ⟨op.assetRestore, some [status.restricted, status.quarantined, status.unsupported], status.active⟩,
    ⟨op.tradeLock, some [status.active], status.tradeHeld⟩,
    ⟨op.tradeUnlock, some [status.tradeHeld], status.active⟩,
    ⟨op.tradeSettle, some [status.tradeHeld], status.active⟩]

/-- The state before is one the row starts from. -/
def TableRow.Admits (row : TableRow) : Option StateProjection → Prop
  | none => row.sources = none
  | some projection => ∃ sources, row.sources = some sources ∧ ∃ status ∈ sources, projection.state.status = some status

theorem owner_of_stateStr (isAsset : projection.state = .uniqueAsset asset)
    (recorded : stateStr projection "owner" = .ok owner) : asset.owner = ⟨owner⟩ := by
  rw [stateStr, stateStrWith_eq_ok, isAsset] at recorded
  exact congrArg SubjectId.mk (Option.some.inj recorded.1)

section Checks

variable {operation : Operation} {current : Option StateProjection} {inputs : Inputs} {u : Unit} {sources : List Status}

theorem checkMint_eq_ok (checked : checkMint current inputs = .ok u) : current = none := by
  cases current with
  | none => rfl
  | some projection =>
    simp only [checkMint, Except.bind_eq_ok, Except.throw_ne_ok, and_false, exists_false] at checked

/-- The asset has one of the statuses, and the inputs name its owner as the one it is taken from. -/
def NamesOwner (current : Option StateProjection) (inputs : Inputs) (name : String) (sources : List Status) : Prop :=
  ∃ projection owner, requireFrom current name sources = .ok projection ∧
    stateStr projection "owner" = .ok owner ∧ inputs.get? "from_owner" = some (.string owner)

theorem owner_of_checkTransfer (checked : checkTransfer current inputs = .ok u) :
    NamesOwner current inputs "asset.transfer" [status.active] := by
  simp only [checkTransfer, Except.bind_eq_ok, rejectIf_eq_ok, not_not, inputStr_eq_ok] at checked
  obtain ⟨projection, found, fromOwner, ⟨named, -⟩, _, -, owner, recorded, rfl⟩ := checked
  exact ⟨projection, fromOwner, found, recorded, named⟩

theorem owner_of_checkTradeSettle (checked : checkTradeSettle current inputs = .ok u) :
    NamesOwner current inputs "trade.settle" [status.tradeHeld] := by
  simp only [checkTradeSettle, Except.bind_eq_ok, rejectIf_eq_ok, not_not, inputStr_eq_ok] at checked
  obtain ⟨projection, found, fromOwner, ⟨named, -⟩, _, -, _, -, -, -, owner, recorded, -, -, -, rfl, -⟩ := checked
  exact ⟨projection, fromOwner, found, recorded, named⟩

theorem owner_of_checkTradeLock (checked : checkTradeLock current inputs = .ok u) :
    NamesOwner current inputs "trade.lock" [status.active] := by
  simp only [checkTradeLock, Except.bind_eq_ok, rejectIf_eq_ok, not_not, inputStr_eq_ok] at checked
  obtain ⟨projection, found, fromOwner, ⟨named, -⟩, _, -, owner, recorded, rfl⟩ := checked
  exact ⟨projection, fromOwner, found, recorded, named⟩

/-- Every check but that of a mint begins by looking for the asset in one of the statuses of its row. -/
theorem row_of_requireFrom {next : StateProjection → Except ProfileError Unit}
    (listed : ∃ row ∈ transitionTable, row.operation = operation ∧ row.sources = some sources)
    (checked : (requireFrom current name sources >>= next) = .ok u) :
    ∃ row ∈ transitionTable, row.operation = operation ∧ row.Admits current := by
  obtain ⟨row, documented, rfl, starts⟩ := listed
  obtain ⟨projection, allowed, -⟩ := Except.bind_eq_ok.mp checked
  refine ⟨row, documented, rfl, ?_⟩
  rw [current_of_requireFrom allowed]
  exact ⟨sources, starts, status_of_requireFrom allowed⟩

section

variable (checked : check operation current inputs = .ok u)

include checked

theorem mem_all_of_check : operation ∈ op.all := by
  by_contra unlisted
  rw [check, if_pos unlisted] at checked
  cases checked

theorem row_of_check : ∃ row ∈ transitionTable, row.operation = operation ∧ row.Admits current := by
  have listed := mem_all_of_check checked
  simp only [op.all, List.mem_cons, List.not_mem_nil, or_false] at listed
  rcases listed with rfl | listed
  · exact ⟨⟨_, none, status.active⟩, by decide, rfl, by rw [checkMint_eq_ok checked]; rfl⟩
  rcases listed with rfl | rfl | rfl | rfl | rfl | rfl | rfl | rfl | rfl | rfl | rfl | rfl | rfl | rfl | rfl |
    rfl | rfl
  all_goals exact row_of_requireFrom (by decide) checked

theorem exists_of_check (notMint : operation ≠ op.assetMint) : ∃ projection, current = some projection := by
  have only : ∀ row ∈ transitionTable, row.sources = none → row.operation = op.assetMint := by decide
  obtain ⟨row, listed, rfl, admits⟩ := row_of_check checked
  cases current with
  | none => exact absurd (only row listed admits) notMint
  | some projection => exact ⟨projection, rfl⟩

end

/-- The paid rules ask everything the plain rules ask, except of a hard delete and a restoration. -/
theorem plain_of_paid (checked : PaidUniqueAsset.check operation current inputs = .ok u)
    (notDelete : operation ≠ PaidUniqueAsset.op.assetHardDelete) (notRestore : operation ≠ op.assetRestore) :
    check operation current inputs = .ok () := by
  rw [PaidUniqueAsset.check, if_neg notDelete, if_neg notRestore] at checked
  rcases Except.ite_eq_ok.mp checked with ⟨-, refused⟩ | ⟨-, checked⟩
  · cases refused
  · obtain ⟨⟨⟩, plain, -⟩ := Except.bind_eq_ok.mp checked
    exact plain

/-- The operations the paid rules ask the owner's consent for when somebody else acts. -/
def consentOperations : List Operation := [op.assetTransfer, op.tradeLock, op.tradeSettle]

/-- What such an operation has shown: it names the owner, and has the owner's consent if its `actor` input names
somebody else. -/
structure OwnerAsked (current : Option StateProjection) (inputs : Inputs) (owner : String) : Prop where
  recorded : ∃ projection, current = some projection ∧ stateStr projection "owner" = .ok owner
  fromOwner : inputs.get? "from_owner" = some (.string owner)
  consent : ∀ actor, inputs.get? "actor" = some (.string actor) → actor = owner ∨ PaidUniqueAsset.ownerConsents inputs

theorem ownerAsked_of_overlay (named : NamesOwner current inputs name sources)
    (overlay : PaidUniqueAsset.checkOwnerConsentOverlay current inputs name sources = .ok u) :
    ∃ owner, OwnerAsked current inputs owner := by
  obtain ⟨projection, owner, allowed, recorded, fromOwner⟩ := named
  refine ⟨owner, ⟨projection, current_of_requireFrom allowed, recorded⟩, fromOwner, fun actor acting => ?_⟩
  simp only [PaidUniqueAsset.checkOwnerConsentOverlay, Except.bind_eq_ok, allowed, recorded, Except.ok.injEq,
    exists_eq_left'] at overlay
  rw [acting] at overlay
  have permitted : ¬ (actor ≠ owner ∧ ¬ PaidUniqueAsset.ownerConsents inputs) := rejectIf_eq_ok.mp overlay
  rwa [not_and_or, not_not, not_not] at permitted

theorem ownerAsked_of_paid (checked : PaidUniqueAsset.check operation current inputs = .ok u)
    (asks : operation ∈ consentOperations) : ∃ owner, OwnerAsked current inputs owner := by
  simp only [consentOperations, List.mem_cons, List.not_mem_nil, or_false] at asks
  rcases asks with rfl | rfl | rfl
  · obtain ⟨_, plain, overlay⟩ := Except.bind_eq_ok.mp checked
    exact ownerAsked_of_overlay (owner_of_checkTransfer plain) overlay
  · obtain ⟨_, plain, overlay⟩ := Except.bind_eq_ok.mp checked
    exact ownerAsked_of_overlay (owner_of_checkTradeLock plain) overlay
  · obtain ⟨_, plain, overlay⟩ := Except.bind_eq_ok.mp checked
    exact ownerAsked_of_overlay (owner_of_checkTradeSettle plain) overlay

theorem consent_of_hardDelete (checked : PaidUniqueAsset.checkHardDelete current inputs = .ok u) :
    ∃ projection owner, current = some projection ∧ stateStr projection "owner" = .ok owner ∧
      inputs.get? "actor" = some (.string owner) ∧ PaidUniqueAsset.ownerConsents inputs := by
  simp only [PaidUniqueAsset.checkHardDelete, Except.bind_eq_ok, requireCurrent_eq_ok, inputStr_eq_ok,
    rejectIf_eq_ok, not_not, exists_const] at checked
  obtain ⟨projection, present, owner, recorded, actor, ⟨named, -⟩, rfl, consents⟩ := checked
  exact ⟨projection, actor, present, recorded, named, consents⟩

end Checks

/-! ## The reducer -/

def statusRows : List (Operation × Status) :=
  [(op.assetBurn, status.burned), (op.assetLock, status.locked), (op.assetUnlock, status.active),
    (op.assetList, status.listed), (op.assetDelist, status.active), (op.assetEscrow, status.escrowed),
    (op.assetRelease, status.active), (op.assetRedeem, status.redeemed), (op.assetRestore, status.active),
    (PaidUniqueAsset.op.assetHardDelete, status.tombstoned), (op.tradeUnlock, status.active)]

/-- The operations that give the asset to the owner they name. -/
def handingOperations : List Operation := [op.assetMint, op.assetTransfer, op.tradeSettle]

def contentOperations : List Operation := [op.assetAttachContent, op.assetDetachContent, op.assetUpdateMetadata]

/-- The status a restriction asks for. -/
def restrictTarget (inputs : Inputs) : Status := ⟨((inputs.get? "status").bind Value.asStr).getD "restricted"⟩

/-- What the reducer makes of the asset before it. -/
inductive Reduces (before : Option StateProjection) (inputs : Inputs) : Operation → ResourceState → Prop
  | handed {operation : Operation} {toOwner : String} (hands : operation ∈ handingOperations)
      (named : inputStr inputs "to_owner" = .ok toOwner) :
      Reduces before inputs operation (.uniqueAsset ⟨⟨toOwner⟩, status.active, none⟩)
  | moved {operation : Operation} {owner : String} {status : Status} (row : (operation, status) ∈ statusRows)
      (owned : Transition.ownerBefore before = .ok owner) :
      Reduces before inputs operation (.uniqueAsset ⟨⟨owner⟩, status, none⟩)
  | restricted {owner : String} (owned : Transition.ownerBefore before = .ok owner) :
      Reduces before inputs op.assetRestrict (.uniqueAsset ⟨⟨owner⟩, restrictTarget inputs, none⟩)
  | held {owner tradeId : String} (owned : Transition.ownerBefore before = .ok owner)
      (named : inputStr inputs "trade_id" = .ok tradeId) :
      Reduces before inputs op.tradeLock (.uniqueAsset ⟨⟨owner⟩, status.tradeHeld, some tradeId⟩)
  | kept {operation : Operation} {state : ResourceState} (content : operation ∈ contentOperations)
      (present : before.map (·.state) = some state) : Reduces before inputs operation state

variable {before : Option StateProjection} {operation : Operation} {inputs : Inputs} {after : ResourceState}

theorem yields_uniqueAsset {property : ResourceState → Prop} {status : String} {tradeId : Option String}
    (holds : property (.uniqueAsset ⟨⟨owner⟩, ⟨status⟩, tradeId⟩)) :
    Yields property (Transition.uniqueAsset owner status tradeId) := by
  refine .bindFrom fun parsed read => .ok ?_
  rw [Transition.newStatus, Except.mapError_eq_ok] at read
  rwa [eq_of_tryFromStr read]

theorem owner_of_ownerBefore (isAsset : projection.state = .uniqueAsset asset)
    (recorded : Transition.ownerBefore (some projection) = .ok owner) : asset.owner = ⟨owner⟩ := by
  rw [Transition.ownerBefore, Transition.stateStr, stateStrWith_eq_ok, isAsset] at recorded
  exact congrArg SubjectId.mk (Option.some.inj recorded.1)

theorem ownerBefore_of_requireCurrent {current : StateProjection}
    (present : Transition.requireCurrent before operation = .ok current)
    (recorded : Transition.stateStr current "owner" = .ok owner) : Transition.ownerBefore before = .ok owner := by
  rw [Transition.requireCurrent, okOr_eq_ok] at present
  rw [present]
  exact recorded

/-- What an applied operation makes of an asset. -/
theorem reduces_of_applyUniqueAsset :
    Yields (Reduces before inputs operation) (Transition.applyUniqueAsset before operation inputs) := by
  refine .bindFrom fun owner owned => ?_
  have moves (status : Status) (row : (operation, status) ∈ statusRows) :
      Yields (Reduces before inputs operation) (Transition.uniqueAsset owner status.name none) :=
    yields_uniqueAsset (.moved row owned)
  refine .cases (fun hands => .bindFrom fun _ named => yields_uniqueAsset (.handed ?_ named)) ?_
  · rcases hands with rfl | rfl <;> decide
  refine .cases (fun burn => moves status.burned (by rw [burn]; decide)) ?_
  refine .cases (fun lock => moves status.locked (by rw [lock]; decide)) ?_
  refine .cases (fun unlock => moves status.active (by rw [unlock]; decide)) ?_
  refine .cases (fun list => moves status.listed (by rw [list]; decide)) ?_
  refine .cases (fun delist => moves status.active (by rw [delist]; decide)) ?_
  refine .cases (fun escrow => moves status.escrowed (by rw [escrow]; decide)) ?_
  refine .cases (fun release => moves status.active (by rw [release]; decide)) ?_
  refine .cases (fun redeem => moves status.redeemed (by rw [redeem]; decide)) ?_
  refine .cases (fun restrict => yields_uniqueAsset (by rw [restrict]; exact .restricted owned)) ?_
  refine .cases (fun restore => moves status.active (by rw [restore]; decide)) ?_
  refine .cases (fun hardDelete => moves status.tombstoned (by rw [hardDelete]; decide)) ?_
  refine .cases (fun lock => .bindFrom fun _ present => .bind fun _ => .bindFrom fun _ named =>
    .bindFrom fun _ recorded => yields_uniqueAsset ?_) ?_
  · rw [lock]
    exact .held (ownerBefore_of_requireCurrent present recorded) named
  refine .cases (fun unlock => .bindFrom fun _ present => .bind fun _ => .bindFrom fun _ recorded =>
    yields_uniqueAsset (.moved (by rw [unlock]; decide) (ownerBefore_of_requireCurrent present recorded))) ?_
  refine .cases (fun settle => .bind fun _ => .bind fun _ => .bindFrom fun _ named => .bind fun _ =>
    yields_uniqueAsset (.handed (by rw [settle]; decide) named)) ?_
  refine .cases (fun content state kept => .kept ?_ (okOr_eq_ok.mp kept)) (.throw _)
  rcases content with rfl | rfl | rfl <;> decide

theorem status_of_restricted (reduces : Reduces before inputs op.assetRestrict after) :
    after.status = some (restrictTarget inputs) := by
  generalize restricts : op.assetRestrict = operation at reduces
  cases reduces with
  | restricted => rfl
  | handed hands =>
    rw [← restricts] at hands
    exact absurd hands (by decide)
  | moved row =>
    have unlisted : ∀ move ∈ statusRows, move.1 ≠ op.assetRestrict := by decide
    exact absurd restricts.symm (unlisted _ row)
  | held => exact absurd restricts (by decide)
  | kept content =>
    rw [← restricts] at content
    exact absurd content (by decide)

/-- An operation that restricts to `restricted`, if it restricts at all, reaches the status of its row. -/
theorem status_of_reduces {row : TableRow} (reduces : Reduces before inputs row.operation after)
    (listed : row ∈ transitionTable) (admits : row.Admits before)
    (plain : row.operation = op.assetRestrict → restrictTarget inputs = status.restricted) :
    after.status = some row.target := by
  generalize operated : row.operation = operation at reduces
  cases reduces with
  | handed hands =>
    have target : ∀ row ∈ transitionTable, row.operation ∈ handingOperations → row.target = status.active := by
      decide
    rw [target row listed (operated ▸ hands)]
    rfl
  | moved moves =>
    have target : ∀ row ∈ transitionTable, ∀ move ∈ statusRows, row.operation = move.1 → row.target = move.2 := by
      decide
    rw [target row listed _ moves operated]
    rfl
  | restricted =>
    have target : ∀ row ∈ transitionTable, row.operation = op.assetRestrict → row.target = status.restricted := by
      decide
    rw [target row listed operated, ← plain operated]
    rfl
  | held =>
    have target : ∀ row ∈ transitionTable, row.operation = op.tradeLock → row.target = status.tradeHeld := by
      decide
    rw [target row listed operated]
    rfl
  | kept content present =>
    -- The state stays, and the row stays in the one status it starts from.
    have stays : ∀ row ∈ transitionTable, row.operation ∈ contentOperations →
        row.sources = some [row.target] := by decide
    obtain ⟨projection, rfl, rfl⟩ := Option.map_eq_some_iff.mp present
    obtain ⟨sources, documented, status, allowed, recorded⟩ := admits
    obtain rfl := Option.some.inj (documented.symm.trans (stays row listed (operated ▸ content)))
    rw [recorded, List.mem_singleton.mp allowed]

/-- A unique asset stores a trade exactly while it is held for one. -/
def TradeRecorded (state : ResourceState) : Prop :=
  ∀ asset, state = .uniqueAsset asset → (asset.status = status.tradeHeld ↔ asset.tradeId.isSome)

theorem tradeRecorded_of_reduces (reduces : Reduces before inputs operation after)
    (recorded : ∀ projection, before = some projection → TradeRecorded projection.state)
    (plain : operation = op.assetRestrict → restrictTarget inputs = status.restricted) : TradeRecorded after := by
  cases reduces with
  | handed =>
    have released : status.active ≠ status.tradeHeld := by decide
    rintro _ ⟨⟩
    simpa using released
  | moved row =>
    have released : ∀ move ∈ statusRows, move.2 ≠ status.tradeHeld := by decide
    rintro _ ⟨⟩
    simpa using released _ row
  | restricted =>
    have released : status.restricted ≠ status.tradeHeld := by decide
    rintro _ ⟨⟩
    simpa [plain rfl] using released
  | held =>
    rintro _ ⟨⟩
    simp
  | kept content present =>
    obtain ⟨projection, rfl, rfl⟩ := Option.map_eq_some_iff.mp present
    exact recorded projection rfl

end StateChronicle.Profiles.UniqueAsset
