import StateChronicle.Execution.Acceptance

/-!
# Claims

The intent store seen through an observation: which intent is claimed under which id.  A run of the pipeline changes
it exactly when it accepts a fresh intent and persists it.
-/

namespace StateChronicle.Execution

open Domain Foundation Profiles

variable {W : Type}

/-- The intents claimed, by tenant and intent id. -/
abbrev Claims : Type := TenantId → IntentId → Option Intent

/-- The claims after an intent has been recorded under its id. -/
def Claims.record (claims : Claims) (intent : Intent) : Claims := fun tenant intentId =>
  if tenant = intent.tenantId ∧ intentId = intent.intentId then some intent else claims tenant intentId

/-- The claim an intent would be recorded under. -/
def Claims.of (claims : Claims) (intent : Intent) : Option Intent := claims intent.tenantId intent.intentId

/-- The intent store behind the ports: reads answer from the claims, a put that succeeds records
the intent, and no other component touches the claims. -/
structure Executor.RecordsClaims (executor : Executor W) (claims : W → Claims) : Prop where
  get : ∀ tenant intentId w found w', executor.ports.getIntent tenant intentId w = (.ok found, w') →
    found = claims w tenant intentId
  getKeeps : ∀ tenant intentId w, claims (executor.ports.getIntent tenant intentId w).2 = claims w
  put : ∀ (intent : Intent) w w', executor.ports.putIntent intent.tenantId intent w = (.ok (), w') →
    claims w' = (claims w).record intent
  state : ∀ tenant resource w, claims (executor.ports.getState tenant resource w).2 = claims w
  subjectState : ∀ tenant subject resource w,
    claims (executor.ports.getSubjectState tenant subject resource w).2 = claims w
  tenant : ∀ tenant w, claims (executor.ports.tenantExists tenant w).2 = claims w
  evaluate : ∀ authority ∈ executor.ports.trustgrant, ∀ tenant actor operation resource w,
    claims (authority.evaluate tenant actor operation resource w).2 = claims w
  freshness : ∀ authority ∈ executor.ports.trustgrant, ∀ proof w,
    claims (authority.checkRevocationFreshness proof w).2 = claims w
  begin : ∀ tenant w, claims (executor.ports.begin tenant w).2 = claims w
  beginMulti : ∀ tenants w, claims (executor.ports.beginMulti tenants w).2 = claims w
  now : ∀ w, claims (executor.now w).2 = claims w
  eventId : ∀ w, claims (executor.eventIdFn w).2 = claims w
  verifier : ∀ block bytes w, claims (executor.intentVerifier block bytes w).2 = claims w

/-- A store that leaves the claims alone when a put fails. -/
structure Executor.StoresClaims (executor : Executor W) (claims : W → Claims) : Prop
    extends executor.RecordsClaims claims where
  putFails : ∀ (intent : Intent) w error w',
    executor.ports.putIntent intent.tenantId intent w = (.error error, w') → claims w' = claims w

namespace Executor

variable {self : Executor W} {claims : W → Claims} (stores : self.RecordsClaims claims)

include stores

variable (policy : ExecutionPolicy) (intent : Intent) (current : Option StateProjection)
  (authority : Option AuthorityProof)

/-! ## Stages that leave the claims alone -/

theorem frames_checkBody : Frames claims (self.checkBody intent) :=
  .bind (.liftExcept _) fun _ => .bind (.liftExcept _) fun _ => .bind (.perform stores.now) fun _ =>
    .bind (.liftExcept _) fun _ => .pure _

theorem frames_findClaim : Frames claims (self.findClaim intent) := .request (stores.getKeeps _ _)

theorem frames_verifySignature (signature : Option SignatureBlock) (bytes : List UInt8) :
    Frames claims (self.verifySignature signature bytes) := by
  cases signature with
  | none => exact .pure _
  | some block => exact .request (stores.verifier _ _)

theorem frames_checkFreshness (proof : AuthorityProof) : Frames claims (self.checkFreshness proof) := by
  unfold checkFreshness
  split
  case h_1 primary rest found =>
    exact .request (stores.freshness primary (by simp [found]) proof)
  case h_2 => exact .pure _

theorem frames_checkPresentedProof : Frames claims (self.checkPresentedProof authority) := by
  cases authority with
  | none => exact .pure _
  | some proof => exact frames_checkFreshness stores proof

theorem frames_checkTenant : Frames claims (self.checkTenant intent) :=
  .bind (.liftExcept _) fun _ => .bind (.request (stores.tenant _)) fun _ => .liftExcept _

theorem frames_load (tenant : TenantId) (resource : ResourceId) (subject : Option SubjectId) :
    Frames claims (self.load tenant resource subject) := by
  cases subject with
  | none => exact .request (stores.state _ _)
  | some subject => exact .request (stores.subjectState _ _ _)

theorem frames_reload : Frames claims (self.reload policy intent current) := by
  unfold reload
  split
  · exact frames_load stores _ _ _
  · exact .pure _

theorem frames_loadCurrent : Frames claims (self.loadCurrent policy intent) :=
  .bind (frames_load stores _ _ _) fun _ => frames_reload stores _ _ _

/-- By induction over the authorities that are still to be asked. -/
theorem frames_evaluateMembers (members : List (TrustGrantPort W))
    (known : ∀ member ∈ members, member ∈ self.ports.trustgrant) (tally : AuthorityTally) :
    Frames claims (evaluateMembers intent members tally) := by
  induction members generalizing tally with
  | nil => exact .pure _
  | cons member rest ih =>
    exact .bind (.perform (stores.evaluate member (known member List.mem_cons_self) _ _ _ _))
      fun _ => ih (fun other later => known other (List.mem_cons_of_mem _ later)) _

theorem frames_evaluatedAt (outcomes : List TrustGrantOutcome) : Frames claims (self.evaluatedAt outcomes) := by
  unfold evaluatedAt
  split
  · exact .pure _
  · exact .perform stores.now

theorem frames_aggregateAuthority (policy : AggregationPolicy) (intent : Intent) :
    Frames claims (self.aggregateAuthority policy intent) :=
  .bind (.liftExcept _) fun _ => .bind (frames_evaluateMembers stores _ _ (fun _ => id) _) fun _ =>
    .bind (.liftExcept _) fun _ => .bind (frames_evaluatedAt stores _) fun _ =>
      .bind (frames_checkFreshness stores _) fun _ => .pure _

theorem frames_evaluateAuthority (rules : ProfileRules) (intent : Intent) :
    Frames claims (self.evaluateAuthority rules intent) := by
  unfold evaluateAuthority
  split
  · exact (frames_aggregateAuthority stores _ _).map _
  · exact .bind (.liftExcept _) fun _ => .pure _

theorem frames_emit (resource : ResourceId) (commitments : StateCommitment × StateCommitment)
    (authority : Option AuthorityProof) : Frames claims (self.emit intent resource commitments authority) :=
  .bind (.perform stores.eventId) fun _ => .bind (.perform stores.now) fun _ => .pure _

theorem frames_emitCompanions (target : Option StateAddress) :
    Frames claims (self.emitCompanions policy intent current authority target) := by
  cases target with
  | none => exact .pure _
  | some target =>
    have companion : Frames claims (self.emitCompanion policy intent current authority target) :=
      .bind (frames_load stores _ _ _) fun _ => .bind (.liftExcept _) fun _ =>
        .bind (.liftExcept _) fun _ => .bind (.liftExcept _) fun _ => frames_emit stores _ _ _ _
    exact .bind companion fun _ => .pure _

theorem frames_executeFresh (validated : ValidatedIntent) (bytes : List UInt8) (coordinated : Bool) :
    Frames claims (self.executeFresh validated bytes coordinated) :=
  .bind (frames_verifySignature stores _ _) fun _ => .bind (frames_checkPresentedProof stores _) fun _ =>
    .bind (frames_checkTenant stores _) fun _ => .bind (.liftExcept _) fun _ =>
    .bind (.liftExcept _) fun _ => .bind (.liftExcept _) fun _ =>
    .bind (frames_loadCurrent stores _ _) fun _ => .bind (.liftExcept _) fun _ =>
    .bind (frames_evaluateAuthority stores _ _) fun _ => .bind (.liftExcept _) fun _ =>
    .bind (.liftExcept _) fun _ => .bind (frames_emit stores _ _ _ _) fun _ =>
    .bind (.liftExcept _) fun _ => .bind (frames_emitCompanions stores _ _ _ _ _) fun _ => .pure _

/-! ## The pipeline -/

variable {validated : ValidatedIntent} {coordinated persist : Bool} {w w' : W}

/-- What a successful run did to the claims: a replay found its own intent, a fresh acceptance
found none and records its intent when it persists. -/
theorem claims_of_executeInner {events : List Event}
    (returns : self.executeInner validated coordinated persist w = .ok events w') :
    (events = [] ∧ (claims w).of validated.intent = some validated.intent ∧ claims w' = claims w) ∨
      (∃ acceptance : self.Acceptance validated.intent coordinated, acceptance.events = events) ∧
        (claims w).of validated.intent = none ∧
        claims w' = if persist then (claims w).record validated.intent else claims w := by
  obtain ⟨bytes, w₁, existing, w₂, body, found, run⟩ := executeInner_steps.mp returns
  have same₁ := (frames_checkBody stores _).of_ok body
  have same₂ := ((frames_findClaim stores _).of_ok found).trans same₁
  have answer : existing = (claims w).of validated.intent := by
    rw [Claims.of, ← same₁]
    exact stores.get _ _ _ _ _ (request_eq_ok.mp found)
  rcases run with ⟨own, none, rfl⟩ | ⟨unclaimed, w₃, fresh, claimed⟩
  · exact .inl ⟨none, answer.symm.trans own, same₂⟩
  · have same₃ := ((frames_executeFresh stores _ _ _).of_ok fresh).trans same₂
    refine .inr ⟨acceptance_of_executeFresh fresh, answer.symm.trans unclaimed, ?_⟩
    cases persist with
    | false =>
      cases claimed
      exact same₃
    | true =>
      rw [stores.put _ _ _ (request_eq_ok.mp claimed), same₃]
      rfl

/-- A run that does not persist never changes the claims. -/
theorem frames_executeInner (validated : ValidatedIntent) (coordinated : Bool) :
    Frames claims (self.executeInner validated coordinated false) := by
  refine .bind (frames_checkBody stores _) fun bytes => .bind (frames_findClaim stores _) fun existing => ?_
  cases existing with
  | some existing => exact .bind (.liftExcept _) fun _ => .pure _
  | none => exact .bind (frames_executeFresh stores _ _ _) fun _ => .bind (.pure _) fun _ => .pure _

omit stores in
/-- A run that persists is one that does not, followed by the claim if the intent is fresh. -/
theorem executeInner_true : self.executeInner validated coordinated true =
    self.executeInner validated coordinated false >>= fun events =>
      if events = [] then pure [] else self.claim validated.intent true >>= fun _ => pure events := by
  simp only [executeInner, bind_assoc]
  refine congrArg _ (funext fun bytes => congrArg _ (funext fun existing => ?_))
  cases existing with
  | some existing => simp [executeUnlessClaimed]
  | none => simp [executeUnlessClaimed, executeFresh, claim]

omit stores in
theorem claims_of_executeInner_error (stores : self.StoresClaims claims) {error : ExecutorError}
    (fails : self.executeInner validated coordinated persist w = .error error w') : claims w' = claims w := by
  cases persist with
  | false => exact (frames_executeInner stores.toRecordsClaims _ _).of_error fails
  | true =>
    rw [executeInner_true, EStateM.bind_eq_error] at fails
    rcases fails with failed | ⟨events, w₁, ran, failed⟩
    · exact (frames_executeInner stores.toRecordsClaims _ _).of_error failed
    have same := (frames_executeInner stores.toRecordsClaims _ _).of_ok ran
    split at failed
    · cases failed
    · simp only [claim, if_true, EStateM.bind_eq_error, EStateM.pure_apply, reduceCtorEq, and_false, exists_false,
        or_false] at failed
      obtain ⟨storeError, put, -⟩ := request_eq_error.mp failed
      exact (stores.putFails _ _ _ _ put).trans same

omit stores in
/-- No run takes a claim back or gives its id to another intent. -/
theorem claim_kept (stores : self.StoresClaims claims) {tenant : TenantId} {intentId : IntentId} {intent : Intent}
    (claimed : claims w tenant intentId = some intent) :
    claims (finalState (self.executeInner validated coordinated persist w)) tenant intentId = some intent := by
  cases ran : self.executeInner validated coordinated persist w with
  | error error w₁ => rw [finalState, claims_of_executeInner_error stores ran, claimed]
  | ok events w₁ =>
    rcases claims_of_executeInner stores.toRecordsClaims ran with ⟨-, -, same⟩ | ⟨-, unclaimed, recorded⟩
    · rw [finalState, same, claimed]
    · rw [finalState, recorded]
      split_ifs
      · rw [Claims.record, if_neg, claimed]
        -- A fresh intent has an id that nobody has claimed.
        rintro ⟨rfl, rfl⟩
        rw [Claims.of, claimed] at unclaimed
        cases unclaimed
      · exact claimed

theorem claimed_of_executeInner {events : List Event}
    (returns : self.executeInner validated coordinated true w = .ok events w') :
    (claims w').of validated.intent = some validated.intent := by
  rcases claims_of_executeInner stores returns with ⟨-, claimed, same⟩ | ⟨-, -, recorded⟩
  · rw [same, claimed]
  · rw [recorded, if_pos rfl, Claims.of, Claims.record, if_pos ⟨rfl, rfl⟩]

end Executor

end StateChronicle.Execution
