import StateChronicle.Accumulator.Evaluation
import StateChronicle.Domain.BcsCodes
import StateChronicle.Intent.Validated

/-!
# What an intent digest binds

The canonical bytes of an intent determine every field of fixed type.  The inputs are written without tags, so their
bytes determine them only among values of one shape: `true` and `[null]` have the same bytes.
-/

namespace StateChronicle.Verified

open Accumulator StateChronicle.Core Domain Execution Foundation

/-! ## Shapes -/

variable {fields : List (String × Value)} {items : List Value}

def sameSign : Number → Number → Bool
  | .posInt _, .posInt _ => true
  | .negInt _, .negInt _ => true
  | .float _, .float _ => true
  | _, _ => false

mutual

/-- The values are of one kind, and so are their parts at every common place. -/
def sameShape : Value → Value → Bool
  | .null, .null => true
  | .bool _, .bool _ => true
  | .number n, .number n' => sameSign n n'
  | .string _, .string _ => true
  | .array items, .array items' => sameShapeItems items items'
  | .object fields, .object fields' => sameShapeFields fields fields'
  | _, _ => false

def sameShapeItems : List Value → List Value → Bool
  | item :: rest, item' :: rest' => sameShape item item' && sameShapeItems rest rest'
  | _, _ => true

def sameShapeFields : List (String × Value) → List (String × Value) → Bool
  | [], _ => true
  | (key, content) :: rest, fields =>
    (fields.all fun field => key ≠ field.1 || sameShape content field.2) && sameShapeFields rest fields

end

theorem sameShapeItems_forall₂ {items' : List Value} (counted : items.length = items'.length)
    (shaped : sameShapeItems items items') : List.Forall₂ (fun item item' => sameShape item item') items items' := by
  induction items generalizing items' with
  | nil =>
    rw [List.length_eq_zero_iff.mp counted.symm]
    exact .nil
  | cons item rest ih =>
    obtain ⟨item', rest', rfl⟩ := List.exists_cons_of_length_eq_add_one counted.symm
    rw [sameShapeItems, Bool.and_eq_true] at shaped
    exact .cons shaped.1 (ih (Nat.succ.inj counted) shaped.2)

theorem sameShapeFields_iff (fields fields' : List (String × Value)) :
    sameShapeFields fields fields' ↔
      ∀ field ∈ fields, ∀ field' ∈ fields', field.1 = field'.1 → sameShape field.2 field'.2 := by
  induction fields with
  | nil => simp [sameShapeFields]
  | cons field rest ih =>
    obtain ⟨key, content⟩ := field
    rw [sameShapeFields, Bool.and_eq_true, ih, List.forall_mem_cons]
    refine and_congr_left fun _ => ?_
    simp [List.all_eq_true, or_iff_not_imp_left]

/-! ## Reading values back -/

/-- The code of the value is told apart from the codes of values of its shape. -/
def Recoverable (v : Value) : Prop :=
  ∀ w : Value, v.writable → w.writable → v.ordered → w.ordered → sameShape v w → Cancels Bcs.readable Bcs.value v w

theorem readable_of_le {n : ℕ} (short : n ≤ maxSequenceLength) : n < Bcs.readable := short.trans_lt (by decide)

theorem recoverable_array (each : ∀ item ∈ items, Recoverable item) : Recoverable (.array items) := by
  intro w writable writable' ordered ordered' shaped rest rest' short same
  cases w with
  | array items' =>
    simp only [Value.writable, Bool.and_eq_true, decide_eq_true_eq, Value.writableItems_iff] at writable writable'
    simp only [Value.ordered, Value.orderedItems_iff] at ordered ordered'
    simp only [Bcs.value, List.append_assoc, Bcs.itemBytes_eq] at short same
    obtain ⟨counted, others⟩ :=
      Bcs.length_cancels (readable_of_le writable.1) (readable_of_le writable'.1) same
    have aligned : List.Forall₂ (Cancels Bcs.readable Bcs.value) items items' := by
      have shapes := sameShapeItems_forall₂ counted shaped
      rw [List.forall₂_iff_zip] at shapes ⊢
      refine ⟨counted, fun {item item'} paired => ?_⟩
      obtain ⟨inItems, inItems'⟩ := List.of_mem_zip paired
      exact each item inItems item' (writable.2 _ inItems) (writable'.2 _ inItems') (ordered _ inItems)
        (ordered' _ inItems') (shapes.2 paired)
    rw [List.length_append] at short
    obtain ⟨rfl, rests⟩ := cancels_flatMap aligned (by omega) others
    exact ⟨rfl, rests⟩
  | _ => cases shaped

/-- Fields sorted by key and by serialised key: the second order only rearranges the first. -/
theorem entries_eq (fields : List (String × Value)) :
    Bcs.entries (Bcs.fieldPairs fields) = Bcs.length fields.length ++
      (fields.insertionSort fun left right => Bcs.text left.1 ≤ Bcs.text right.1).flatMap
        fun field => Bcs.text field.1 ++ Bcs.value field.2 := by
  have sorted := List.map_insertionSort (fun left right : String × Value => Bcs.text left.1 ≤ Bcs.text right.1)
    Bcs.entryOrder (fun field : String × Value => (Bcs.text field.1, Bcs.value field.2)) fields fun _ _ _ _ => Iff.rfl
  rw [Bcs.entries, Bcs.fieldPairs_eq, ← sorted, List.length_map, List.flatMap_map]

theorem fields_cancel {fields' : List (String × Value)} (each : ∀ field ∈ fields, Recoverable field.2)
    (counted : fields.length ≤ maxSequenceLength) (counted' : fields'.length ≤ maxSequenceLength)
    (writable : Value.writableFields fields) (writable' : Value.writableFields fields')
    (keyed : (fields.map Prod.fst).Pairwise (· < ·)) (keyed' : (fields'.map Prod.fst).Pairwise (· < ·))
    (ordered : Value.orderedFields fields) (ordered' : Value.orderedFields fields')
    (shaped : sameShapeFields fields fields') {rest rest' : List UInt8}
    (short : (Bcs.entries (Bcs.fieldPairs fields) ++ rest).length < Bcs.readable)
    (same : Bcs.entries (Bcs.fieldPairs fields) ++ rest = Bcs.entries (Bcs.fieldPairs fields') ++ rest') :
    fields = fields' ∧ rest = rest' := by
  rw [sameShapeFields_iff] at shaped
  rw [Value.orderedFields_iff] at ordered ordered'
  simp only [entries_eq, List.append_assoc] at short same
  obtain ⟨lengths, others⟩ := Bcs.length_cancels (readable_of_le counted) (readable_of_le counted') same
  rw [List.length_append] at short
  have values : ∀ k v w, (k, v) ∈ (fields.insertionSort fun left right => Bcs.text left.1 ≤ Bcs.text right.1) →
      (k, w) ∈ (fields'.insertionSort fun left right => Bcs.text left.1 ≤ Bcs.text right.1) →
      Cancels Bcs.readable Bcs.value v w := by
    intro k v w listed listed'
    rw [List.mem_insertionSort] at listed listed'
    exact each _ listed w (Value.writable_of_mem_fields writable listed)
      (Value.writable_of_mem_fields writable' listed') (ordered _ listed) (ordered' _ listed')
      (shaped _ listed _ listed' rfl)
  obtain ⟨sorted, rests⟩ := cancels_entries Bcs.text_delimits (by simpa using lengths) values (by omega) others
  -- Both lists are in key order, so the rearrangement is undone.
  refine ⟨?_, rests⟩
  have rearranged : fields.Perm fields' :=
    (List.perm_insertionSort _ fields).symm.trans (sorted ▸ List.perm_insertionSort _ fields')
  rw [List.pairwise_map] at keyed keyed'
  exact rearranged.eq_of_pairwise (fun _ _ _ _ below above => absurd below (lt_asymm above)) keyed keyed'

theorem recoverable_object (each : ∀ field ∈ fields, Recoverable field.2) : Recoverable (.object fields) := by
  intro w writable writable' ordered ordered' shaped rest rest' short same
  cases w with
  | object fields' =>
    simp only [Value.writable, Bool.and_eq_true, decide_eq_true_eq] at writable writable'
    simp only [Value.ordered, Bool.and_eq_true, decide_eq_true_eq] at ordered ordered'
    obtain ⟨rfl, rests⟩ := fields_cancel each writable.1 writable'.1 writable.2 writable'.2 ordered.1 ordered'.1
      ordered.2 ordered'.2 shaped short same
    exact ⟨rfl, rests⟩
  | _ => cases shaped

theorem recoverable_number (n : Number) : Recoverable (.number n) := by
  intro w writable _ _ _ shaped rest rest' short same
  cases w with
  | number n' =>
    cases n with
    | posInt value =>
      cases n' with
      | posInt value' =>
        obtain ⟨rfl, rests⟩ := Bcs.u64_delimits value value' short same
        exact ⟨rfl, rests⟩
      | _ => cases shaped
    | negInt magnitude =>
      cases n' with
      | negInt magnitude' =>
        obtain ⟨complements, rests⟩ := Bcs.u64_delimits _ _ short same
        have magnitudes : magnitude = magnitude' := by
          have values := Fin.mk.inj complements
          exact Fin.ext (by omega)
        rw [magnitudes]
        exact ⟨rfl, rests⟩
      | _ => cases shaped
    | float bits => cases writable
  | _ => cases shaped

mutual

theorem recoverable : (v : Value) → Recoverable v
  | .null => by
    intro w _ _ _ _ shaped rest rest' _ same
    cases w with
    | null => exact ⟨rfl, same⟩
    | _ => cases shaped
  | .bool flag => by
    intro w _ _ _ _ shaped rest rest' short same
    cases w with
    | bool flag' =>
      obtain ⟨rfl, rests⟩ := Bcs.bool_delimits flag flag' short same
      exact ⟨rfl, rests⟩
    | _ => cases shaped
  | .number n => recoverable_number n
  | .string content => by
    intro w _ _ _ _ shaped rest rest' short same
    cases w with
    | string content' =>
      obtain ⟨rfl, rests⟩ := Bcs.text_delimits content content' short same
      exact ⟨rfl, rests⟩
    | _ => cases shaped
  | .array items => recoverable_array (recoverable_items items)
  | .object fields => recoverable_object (recoverable_fields fields)

theorem recoverable_items : (items : List Value) → ∀ item ∈ items, Recoverable item
  | [] => fun _ member => nomatch member
  | first :: rest => List.forall_mem_cons.mpr ⟨recoverable first, recoverable_items rest⟩

theorem recoverable_fields : (fields : List (String × Value)) → ∀ field ∈ fields, Recoverable field.2
  | [] => fun _ member => nomatch member
  | (_, content) :: rest => List.forall_mem_cons.mpr ⟨recoverable content, recoverable_fields rest⟩

end

/-! ## Equal values have equal shapes -/

theorem sameShapeItems_self (each : ∀ item ∈ items, sameShape item item) : sameShapeItems items items := by
  induction items with
  | nil => rfl
  | cons item rest ih =>
    rw [List.forall_mem_cons] at each
    rw [sameShapeItems, Bool.and_eq_true]
    exact ⟨each.1, ih each.2⟩

theorem sameShapeFields_self (keyed : (fields.map Prod.fst).Pairwise (· < ·))
    (each : ∀ field ∈ fields, sameShape field.2 field.2) : sameShapeFields fields fields := by
  refine (sameShapeFields_iff _ _).mpr fun field member field' member' sameKey => ?_
  obtain rfl := List.inj_on_of_nodup_map (keyed.imp ne_of_lt) member member' sameKey
  exact each field member

mutual

theorem sameShape_self : (v : Value) → v.ordered → sameShape v v
  | .null, _ => rfl
  | .bool _, _ => rfl
  | .number n, _ => by cases n <;> rfl
  | .string _, _ => rfl
  | .array items, ordered =>
    sameShapeItems_self (sameShape_items items ((Value.orderedItems_iff items).mp ordered))
  | .object fields, ordered => by
    rw [Value.ordered, Bool.and_eq_true, decide_eq_true_eq] at ordered
    exact sameShapeFields_self ordered.1 (sameShape_fields fields ((Value.orderedFields_iff fields).mp ordered.2))

theorem sameShape_items : (items : List Value) → (∀ item ∈ items, item.ordered) → ∀ item ∈ items, sameShape item item
  | [], _ => fun _ member => nomatch member
  | first :: rest, ordered => by
    rw [List.forall_mem_cons] at ordered ⊢
    exact ⟨sameShape_self first ordered.1, sameShape_items rest ordered.2⟩

theorem sameShape_fields : (fields : List (String × Value)) → (∀ field ∈ fields, field.2.ordered) →
    ∀ field ∈ fields, sameShape field.2 field.2
  | [], _ => fun _ member => nomatch member
  | (_, content) :: rest, ordered => by
    rw [List.forall_mem_cons] at ordered ⊢
    exact ⟨sameShape_self content ordered.1, sameShape_fields rest ordered.2⟩

end

/-! ## Intents -/

/-- The instants an intent names. -/
def instants (intent : Intent) : List Timestamp :=
  intent.createdAt :: (intent.expiresAt.toList ++ (intent.authority.map (·.evaluatedAt)).toList)

section Intents

variable {instant : Timestamp → String} {first second : Intent}

/-- Intents with the same bytes and inputs of the same shape are the same, field by field. -/
theorem eq_of_intentBytes {bytes : List UInt8} (ordered : Value.orderedFields first.inputs.entries)
    (ordered' : Value.orderedFields second.inputs.entries)
    (apart : Set.InjOn instant {time | time ∈ instants first ++ instants second})
    (encoded : Bcs.intent instant first = some bytes) (encoded' : Bcs.intent instant second = some bytes)
    (short : bytes.length < Bcs.readable)
    (shaped : sameShapeFields first.inputs.entries second.inputs.entries) : first = second := by
  obtain ⟨⟨counted, writable⟩, body⟩ := Bcs.intent_eq_some.mp encoded
  obtain ⟨⟨counted', writable'⟩, body'⟩ := Bcs.intent_eq_some.mp encoded'
  have same : Bcs.intentBody instant first ++ [] = Bcs.intentBody instant second ++ [] := by rw [body, body']
  rw [← body, ← List.append_nil (Bcs.intentBody instant first)] at short
  have told {time time' : Timestamp} (inFirst : time ∈ instants first) (inSecond : time' ∈ instants second) :
      instant time = instant time' → time = time' :=
    apart (List.mem_append_left _ inFirst) (List.mem_append_right _ inSecond)
  simp only [Bcs.intentBody, List.append_assoc] at short same
  obtain ⟨schema, short, same⟩ := Bcs.text_delimits.read short same
  obtain ⟨tenantId, short, same⟩ := Bcs.text_delimits.read short same
  obtain ⟨intentId, short, same⟩ := Bcs.text_delimits.read short same
  obtain ⟨operation, short, same⟩ := Bcs.text_delimits.read short same
  obtain ⟨actor, short, same⟩ := Bcs.text_delimits.read short same
  obtain ⟨resourceId, short, same⟩ := Bcs.text_delimits.read short same
  obtain ⟨stateType, short, same⟩ :=
    (Bcs.option_cancels fun _ _ _ _ => Bcs.stateType_delimits _ _).read short same
  obtain ⟨expectedVersion, short, same⟩ := Bcs.u64_delimits.read short same
  obtain ⟨inputs, same⟩ := fields_cancel (recoverable_fields _) counted counted' writable writable'
    first.inputs.keys_sorted second.inputs.keys_sorted ordered ordered' shaped short same
  rw [List.length_append] at short
  obtain ⟨authority, short, same⟩ := (Bcs.option_cancels fun proof isFirst proof' isSecond =>
    Bcs.authorityProof_cancels (told (by simp [instants, Option.mem_def.mp isFirst])
      (by simp [instants, Option.mem_def.mp isSecond]))).read (by omega) same
  obtain ⟨createdAt, short, same⟩ :=
    (Bcs.instant_cancels (told List.mem_cons_self List.mem_cons_self)).read short same
  obtain ⟨expiresAt, short, same⟩ := (Bcs.option_cancels fun expiry isFirst expiry' isSecond =>
    Bcs.instant_cancels (told (by simp [instants, Option.mem_def.mp isFirst])
      (by simp [instants, Option.mem_def.mp isSecond]))).read short same
  obtain ⟨nonce, _, _⟩ := Bcs.text_delimits.read short same
  cases first
  cases second
  rw [Intent.mk.injEq]
  exact ⟨schema, TenantId.name_injective tenantId, IntentId.name_injective intentId,
    congrArg Operation.mk operation, SubjectId.name_injective actor, ResourceId.name_injective resourceId,
    stateType, expectedVersion, SortedMap.ext_get? fun key => congrArg (SortedMap.lookupEntries key) inputs,
    authority, createdAt, expiresAt, congrArg Nonce.mk (Bcs.b64u_injective nonce)⟩

/-- For accepted intents with the same digest, or the same canonical bytes under a signature, in BCS's layout:
they are the same intent exactly when their inputs have the same shape. -/
theorem payload_digest_binds_iff {sha256 : List UInt8 → Hash} {signature signature' : Option SignatureBlock}
    {validated validated' : ValidatedIntent} {intentBytes : Intent → Option (List UInt8)}
    (layout : ∀ intent, intentBytes intent = Bcs.intent instant intent)
    (ordered : Value.orderedFields first.inputs.entries) (ordered' : Value.orderedFields second.inputs.entries)
    (apart : Set.InjOn instant {time | time ∈ instants first ++ instants second})
    (collisionFree : CollisionFree sha256 ((intentBytes first).toList ++ (intentBytes second).toList))
    (accepted : ValidatedIntent.tryFromIntent intentBytes first signature = .ok validated)
    (accepted' : ValidatedIntent.tryFromIntent intentBytes second signature' = .ok validated') :
    (validated.payloadDigest sha256 intentBytes = validated'.payloadDigest sha256 intentBytes →
      (first = second ↔ sameShapeFields first.inputs.entries second.inputs.entries)) ∧
    (intentBytes first = intentBytes second →
      (first = second ↔ sameShapeFields first.inputs.entries second.inputs.entries)) := by
  obtain rfl : intentBytes = Bcs.intent instant := funext layout
  obtain ⟨rfl, _, bytes, encoded, short⟩ := ValidatedIntent.tryFromIntent_eq_ok accepted
  obtain ⟨rfl, _, bytes', encoded', _⟩ := ValidatedIntent.tryFromIntent_eq_ok accepted'
  have binds (same : bytes = bytes') :
      first = second ↔ sameShapeFields first.inputs.entries second.inputs.entries := by
    constructor
    · rintro rfl
      exact sameShapeFields_self first.inputs.keys_sorted
        (sameShape_fields _ ((Value.orderedFields_iff _).mp ordered))
    · exact eq_of_intentBytes ordered ordered' apart encoded (same ▸ encoded')
        (short.trans_lt (by decide))
  constructor
  · intro digests
    refine binds (collisionFree bytes (by simp [encoded]) bytes' (by simp [encoded']) ?_)
    simp only [ValidatedIntent.payloadDigest, encoded, encoded'] at digests
    exact ContentDigest.mk.inj (Except.ok.inj digests)
  · intro strings
    exact binds (Option.some.inj (encoded.symm.trans (strings.trans encoded')))

end Intents

def flagBytes : Intent → Option (List UInt8) := Bcs.intent fun _ => "2026-07-14T00:00:01Z"

def flagged (flag : Value) : Intent where
  schema := intentSchema
  tenantId := ⟨"acme.game.alpha"⟩
  intentId := ⟨"int_01JZ8X2XRE5ZYW5V9R7VDQBSH4"⟩
  operation := ⟨"asset.lock"⟩
  actor := ⟨"account:example:player_123"⟩
  resourceId := ⟨"asset:sword"⟩
  stateType := some .uniqueAsset
  expectedVersion := 41
  inputs := .insert .empty "flag" flag
  authority := none
  createdAt := 1783987201
  expiresAt := none
  nonce := ⟨[0x6e, 0x6f, 0x6e, 0x63, 0x65]⟩

theorem flagged_apart (flag flag' : Value) :
    Set.InjOn (fun _ => "2026-07-14T00:00:01Z")
      {time | time ∈ instants (flagged flag) ++ instants (flagged flag')} := by
  have one : ∀ time ∈ instants (flagged flag) ++ instants (flagged flag'), time = 1783987201 := by
    simp [instants, flagged]
  exact fun time inside time' inside' _ => (one time inside).trans (one time' inside').symm

theorem text_flag_bound :
    ∃ validated, ValidatedIntent.tryFromIntent flagBytes (flagged (.string "on")) none = .ok validated ∧
      (flagged (.string "on") = flagged (.string "on") ↔
        sameShapeFields (flagged (.string "on")).inputs.entries (flagged (.string "on")).inputs.entries) := by
  have accepted : ValidatedIntent.tryFromIntent flagBytes (flagged (.string "on")) none =
      .ok ⟨flagged (.string "on"), none⟩ := by decide +kernel
  have ordered : Value.orderedFields (flagged (.string "on")).inputs.entries := by decide +kernel
  have collisionFree : CollisionFree Sha256.sha256
      ((flagBytes (flagged (.string "on"))).toList ++ (flagBytes (flagged (.string "on"))).toList) := by
    intro a inA b inB _
    rw [List.mem_append, or_self, Option.mem_toList] at inA inB
    exact Option.mem_unique inA inB
  obtain ⟨bound, _⟩ :=
    payload_digest_binds_iff (fun _ => rfl) ordered ordered (flagged_apart _ _) collisionFree accepted accepted
  exact ⟨_, accepted, bound rfl⟩

/-- A flag that is set and a list with one null have the same bytes, and so the same digest. -/
theorem set_flag_and_null_list_share_digest :
    ValidatedIntent.tryFromIntent flagBytes (flagged (.bool true)) none = .ok ⟨flagged (.bool true), none⟩ ∧
    ValidatedIntent.tryFromIntent flagBytes (flagged (.array [.null])) none =
      .ok ⟨flagged (.array [.null]), none⟩ ∧
    (ValidatedIntent.mk (flagged (.bool true)) none).payloadDigest Sha256.sha256 flagBytes =
      (ValidatedIntent.mk (flagged (.array [.null])) none).payloadDigest Sha256.sha256 flagBytes ∧
    flagBytes (flagged (.bool true)) = flagBytes (flagged (.array [.null])) ∧
    flagged (.bool true) ≠ flagged (.array [.null]) := by
  decide +kernel

end StateChronicle.Verified
