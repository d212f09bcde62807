import StateChronicle.Core.AmountText
import StateChronicle.Domain.Bcs
import StateChronicle.Foundation.Sha256

/-!
# Amounts

An amount stands for a rational number.  Comparison is comparison of the numbers, arithmetic is exact and fails only
where an aligned mantissa does not fit, and the canonical text names the number.
-/

namespace StateChronicle.Verified

open StateChronicle.Core Domain Foundation

/-! ## Order -/

/-- Amounts are compared by the numbers they stand for, so that the order is total and transitive across scales. -/
theorem amounts_compare_values :
    (∀ a b : Amount, a.cmp b =
      compare (a.mantissa.val / 10 ^ a.scale.val : ℚ) (b.mantissa.val / 10 ^ b.scale.val)) ∧
    (∀ a b : Amount, a.SameValue b ↔
      (a.mantissa.val / 10 ^ a.scale.val : ℚ) = b.mantissa.val / 10 ^ b.scale.val) ∧
    (∀ a b : Amount, a.cmp b ≠ .gt ∨ b.cmp a ≠ .gt) ∧
    ∀ a b c : Amount, a.cmp b ≠ .gt → b.cmp c ≠ .gt → a.cmp c ≠ .gt := by
  have upTo (a b : Amount) : a.cmp b ≠ .gt ↔ a.value ≤ b.value := by
    rw [Amount.cmp_eq_compare_value, compare_le_iff_le]
  refine ⟨Amount.cmp_eq_compare_value, fun a b => Amount.sameValue_iff, fun a b => ?_, fun a b c => ?_⟩
  · rw [upTo, upTo]
    exact le_total a.value b.value
  · rw [upTo, upTo, upTo]
    exact le_trans

/-! ## Arithmetic -/

/-- Addition and subtraction return exactly when the mantissas over the larger scale and their sum fit, or their
difference is not negative; what they return has that scale and is exact. -/
theorem checked_arithmetic_exact (a b : Amount) :
    ((∃ r, a.checkedAdd b = some r) ↔
      a.alignedTo (max a.scale b.scale) < 2 ^ 128 ∧ b.alignedTo (max a.scale b.scale) < 2 ^ 128 ∧
        a.alignedTo (max a.scale b.scale) + b.alignedTo (max a.scale b.scale) < 2 ^ 128) ∧
    ((∃ r, a.checkedSub b = some r) ↔
      a.alignedTo (max a.scale b.scale) < 2 ^ 128 ∧ b.alignedTo (max a.scale b.scale) < 2 ^ 128 ∧
        b.alignedTo (max a.scale b.scale) ≤ a.alignedTo (max a.scale b.scale)) ∧
    (∀ r, a.checkedAdd b = some r → r.scale = max a.scale b.scale ∧ r.value = a.value + b.value) ∧
    ∀ r, a.checkedSub b = some r → r.scale = max a.scale b.scale ∧ r.value = a.value - b.value := by
  refine ⟨?_, ?_, fun r added => ?_, fun r subtracted => ?_⟩
  · simp only [Amount.checkedAdd_eq_some]
    constructor
    · rintro ⟨r, -, sum⟩
      have fits := r.mantissa.isLt
      omega
    · rintro ⟨-, -, fits⟩
      exact ⟨⟨⟨_, fits⟩, max a.scale b.scale⟩, rfl, rfl⟩
  · simp only [Amount.checkedSub_eq_some]
    constructor
    · rintro ⟨r, -, fits, difference⟩
      omega
    · rintro ⟨left, -, available⟩
      exact ⟨⟨⟨_, (Nat.sub_le _ _).trans_lt left⟩, max a.scale b.scale⟩, rfl, left,
        (Nat.sub_add_cancel available).symm⟩
  · exact ⟨(Amount.checkedAdd_eq_some.mp added).1, Amount.value_checkedAdd added⟩
  · exact ⟨(Amount.checkedSub_eq_some.mp subtracted).1, Amount.value_checkedSub subtracted⟩

/-! ## Text -/

theorem amount_bytes_eq {a b : Amount} (same : a.SameValue b) : Bcs.amount a = Bcs.amount b := by
  rw [Bcs.amount, Bcs.amount, Amount.toCanonicalString_eq_iff.mpr (Amount.sameValue_iff.mp same)]

theorem state_bytes_eq {state state' : ResourceState} (equal : state.Equal state') :
    Bcs.state state = Bcs.state state' := by
  -- states with amounts compare these by value, all others are the same
  unfold ResourceState.Equal at equal
  split at equal
  · obtain ⟨subject, quantity, unit⟩ := equal
    rw [Bcs.state, Bcs.state, subject, amount_bytes_eq quantity, unit]
  · obtain ⟨subject, balance, unit⟩ := equal
    rw [Bcs.state, Bcs.state, subject, amount_bytes_eq balance, unit]
  · obtain ⟨subject, remaining, maximum⟩ := equal
    rw [Bcs.state, Bcs.state, subject, amount_bytes_eq remaining, amount_bytes_eq maximum]
  · rw [equal]

/-- The canonical text names the number an amount stands for, and so equal states have one digest. -/
theorem canonical_strings_represent_values {stateBytes : ResourceState → Option (List UInt8)}
    (layout : ∀ state, stateBytes state = some (Bcs.state state)) :
    (∀ a b : Amount, a.toCanonicalString = b.toCanonicalString ↔
      (a.mantissa.val / 10 ^ a.scale.val : ℚ) = b.mantissa.val / 10 ^ b.scale.val) ∧
    ∀ (sha256 : List UInt8 → Vector UInt8 32) (state state' : ResourceState), state.Equal state' →
      canonicalizeAndDigest sha256 (stateBytes state) = canonicalizeAndDigest sha256 (stateBytes state') := by
  refine ⟨fun a b => Amount.toCanonicalString_eq_iff, fun sha256 state state' equal => ?_⟩
  rw [layout, layout, state_bytes_eq equal]

def halfGold (amount : Amount) : ResourceState := .fungibleBalance ⟨⟨"account:alice"⟩, amount, "gold"⟩

theorem halves_share_digest :
    Amount.toCanonicalString ⟨5, 1⟩ = Amount.toCanonicalString ⟨50, 2⟩ ∧
      canonicalizeAndDigest Sha256.sha256 (some (Bcs.state (halfGold ⟨5, 1⟩))) =
        canonicalizeAndDigest Sha256.sha256 (some (Bcs.state (halfGold ⟨50, 2⟩))) := by
  obtain ⟨texts, digests⟩ := canonical_strings_represent_values fun _ => rfl
  exact ⟨(texts _ _).mpr (by norm_num [maxScale]), digests Sha256.sha256 _ _ ⟨rfl, by decide, rfl⟩⟩

/-! ## The wire -/

/-- What is written is read back with its value exactly for whole amounts: reading knows digits only. -/
theorem wire_round_trip_iff (a : Amount) :
    (∃ b, Amount.deserialize a.serialize = .ok b ∧ b.SameValue a) ↔ 10 ^ a.scale.val ∣ a.mantissa.val := by
  rw [← Amount.trimmedFraction_eq_nil_iff]
  constructor
  · rintro ⟨b, read, -⟩
    by_contra fraction
    exact Amount.tryFromStr_canonical_ne_ok fraction b (Except.mapError_eq_ok.mp read)
  · intro whole
    obtain ⟨b, read, same⟩ := Amount.tryFromStr_canonical whole
    exact ⟨b, Except.mapError_eq_ok.mpr read, Amount.sameValue_iff.mpr same⟩

/-- A half is written with a point, which is refused when it is read. -/
theorem half_not_read_back :
    Amount.serialize ⟨5, 1⟩ = "0.5" ∧
      Amount.deserialize (Amount.serialize ⟨5, 1⟩) =
        .error "invalid amount input: input must contain only ASCII decimal digits" := by
  decide +kernel

end StateChronicle.Verified
