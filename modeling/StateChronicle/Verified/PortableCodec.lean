import StateChronicle.Portable.Fields

/-!
# The portable codec is canonical

Fields and bytes determine each other: what the encoder writes the decoder reads back, what the decoder accepts the
encoder reproduces.  A primitive write is all or nothing.
-/

namespace StateChronicle.Verified

open Foundation Portable

theorem readComplete_eq_ok {types : List FieldType} {input rest : List UInt8} {fields : List Field} :
    Decoder.readComplete types input = .ok fields rest ↔
      readAll Decoder.read types input = .ok fields [] ∧ rest = [] := by
  constructor
  · intro returns
    obtain ⟨read, middle, first, others⟩ := EStateM.bind_eq_ok.mp returns
    obtain ⟨_, last, finished, returned⟩ := EStateM.bind_eq_ok.mp others
    unfold Decoder.finish at finished
    split_ifs at finished with ended
    cases finished
    cases returned
    obtain rfl := List.isEmpty_iff.mp ended
    exact ⟨first, rfl⟩
  · rintro ⟨read, rfl⟩
    rw [Decoder.readComplete, EStateM.bind_apply_of_ok read]
    rfl

/-- Fields written into a large enough buffer are read back, to the end of what was written; bytes that are read to
their end are reproduced by writing what was read; and a write that fails leaves the encoder as it was. -/
theorem codec_canonical :
    (∀ (fields : List Field) (buffer : List UInt8), (∀ field ∈ fields, field.Within) →
      (fields.flatMap Field.code).length ≤ buffer.length →
      ∃ encoder, Encoder.writeAll fields (.new buffer) = .ok () encoder ∧
        Decoder.readComplete (fields.map Field.type) encoder.written = .ok fields []) ∧
    (∀ (types : List FieldType) (input rest : List UInt8) (fields : List Field),
      Decoder.readComplete types input = .ok fields rest →
      ∀ buffer : List UInt8, input.length ≤ buffer.length →
        ∃ encoder, Encoder.writeAll fields (.new buffer) = .ok () encoder ∧ encoder.written = input) ∧
    ∀ (field : Field) (encoder encoder' : Encoder) (error : CodecError),
      Encoder.write field encoder = .error error encoder' →
        encoder'.position = encoder.position ∧ encoder'.written = encoder.written := by
  refine ⟨fun fields buffer within large => ?_, fun types input rest fields returns buffer large => ?_,
    fun field encoder encoder' error failed => ?_⟩
  · obtain ⟨encoder, returns, written⟩ := Encoder.written_writeAll within large
    have read := Decoder.read_exact.readAll_complete within []
    rw [List.append_nil] at read
    exact ⟨encoder, returns, readComplete_eq_ok.mpr ⟨written ▸ read, rfl⟩⟩
  · obtain ⟨-, within, rfl⟩ := Decoder.read_exact.readAll_sound (readComplete_eq_ok.mp returns).1
    rw [List.append_nil] at large ⊢
    exact Encoder.written_writeAll within large
  · rw [Encoder.write_unchanged failed]
    exact ⟨rfl, rfl⟩

def sevenFields : List Field :=
  [.fixed [1, 2, 3], .boolean true, .u32 7, .u64 8, .uleb 300, .bytes 4 [9, 9], .string 16 "gold"]

/-- A field of each type is written and read back, read and written back; a text too long for its buffer is not
begun. -/
theorem seven_fields_canonical :
    (∃ encoder, Encoder.writeAll sevenFields (.new (.replicate 40 0)) = .ok () encoder ∧
      Decoder.readComplete (sevenFields.map Field.type) encoder.written = .ok sevenFields []) ∧
    (∃ encoder, Encoder.writeAll sevenFields (.new (.replicate 26 0)) = .ok () encoder ∧
      encoder.written = sevenFields.flatMap Field.code) ∧
    ∃ error encoder, Encoder.write (.string 16 "gold") (.new [0, 0]) = .error error encoder ∧ encoder.written = [] := by
  obtain ⟨reads, rewrites, keeps⟩ := codec_canonical
  have within : ∀ field ∈ sevenFields, field.Within := by
    simp only [sevenFields, List.forall_mem_cons, List.not_mem_nil, false_implies, implies_true, Field.Within]
    decide
  have read : Decoder.readComplete (sevenFields.map Field.type) (sevenFields.flatMap Field.code) =
    .ok sevenFields [] := rfl
  have failed : Encoder.write (.string 16 "gold") (.new [0, 0]) = .error .capacity (.new [0, 0]) := rfl
  exact ⟨reads _ _ within (by decide +kernel), rewrites _ _ _ _ read _ (by decide +kernel),
    _, _, failed, (keeps _ _ _ _ failed).2⟩

end StateChronicle.Verified
