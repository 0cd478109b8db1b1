import RemoteCall.Codec.Buffer
import RemoteCall.Proofs.Codec.Canonical
import RemoteCall.Proofs.Codec.Primitive
import RemoteCall.Proofs.Codec.Structs

/-!
# What is written is read back in canonical form

Nothing of a type travels with its values, and a struct has neither tag nor length, so the reader
finds the fields only by taking for each exactly the bytes that the writer produced for it.  The
induction is on the value: the writer follows the values under the registered names.

`ReadBack` is stated with anything behind the bytes of the value.  Without that the induction would
not go through, since behind the bytes of a field are those of the next; and it is what the caller
of a reader needs, who has more to read.

A write in two parts succeeds exactly if both parts do.  A write that fails may have appended
something, which the statements here do not look at; where it stops is the subject of
`Codec.Places`.

## Main statements

* `readBack_of_write` — a value that is written has a canonical form, which is what the reader finds
  in front of any continuation.
* `write_of_canonical` — a value with a canonical form is written.
* `readValues_append`, `writeValues_of_canonicals` — the same for lists.
-/

namespace RemoteCall

namespace Codec

/-! ## Writes in sequence -/

namespace Written

/-- A write in two parts succeeds exactly if both succeed. -/
lemma andThen_result_eq_ok_iff {first : Written} {next : Unit → Written} :
    (first.andThen next).result = .ok () ↔ first.result = .ok () ∧ (next ()).result = .ok () := by
  unfold andThen
  split
  · next done => simp [done]
  · next e failed => simp [failed]

lemma eq_done_of_result {written : Written} (h : written.result = .ok ()) :
    written = done written.bytes := by
  obtain ⟨bytes, result⟩ := written
  simp only at h
  subst h
  rfl

@[simp] lemma done_andThen (bytes : Bytes) (next : Unit → Written) :
    (done bytes).andThen next = ⟨bytes ++ (next ()).bytes, (next ()).result⟩ := rfl

@[simp] lemma result_done (bytes : Bytes) : (done bytes).result = .ok () := rfl

@[simp] lemma bytes_done (bytes : Bytes) : (done bytes).bytes = bytes := rfl

@[simp] lemma result_failed (e : Error) : (failed e).result = .error e := rfl

end Written

@[simp] lemma Reading.ok_andThen {α β : Type} (v : α) (rest : Bytes)
    (next : α → Bytes → Reading β) : Reading.andThen (.ok v, rest) next = next v rest := rfl

/-! ## From writing to reading -/

section Values

variable {registry : Registry}

/-- A value that is read back in canonical form wherever its bytes stand in front. -/
def ReadBack (registry : Registry) (type : Ty) (value : Value) : Prop :=
  ∃ form bytes, canonical registry type value = some form ∧
    writeValue registry type value = .done bytes ∧
    ∀ rest, readValue registry type (bytes ++ rest) = (.ok form, rest)

lemma readBack_of_writeLeaf {type : Ty} (primitive : type.isPrimitive = true) {value : Value}
    (written : (writeLeaf type value).result = .ok ()) : ReadBack registry type value := by
  unfold ReadBack
  rw [writeValue_primitive primitive]
  simp only [readValue_primitive primitive]
  cases type with
  | struct name => simp [Ty.isPrimitive] at primitive
  | int32 =>
    cases value with
    | int32 v =>
      refine ⟨.int32 v, _, by rw [canonical], rfl, fun rest => ?_⟩
      rw [readLeaf, readInt32_writeInt32_append]
      rfl
    | int64 | double | string | struct => simp [writeLeaf] at written
  | int64 =>
    cases value with
    | int64 v =>
      refine ⟨.int64 v, _, by rw [canonical], rfl, fun rest => ?_⟩
      rw [readLeaf, readInt64_writeInt64_append]
      rfl
    | int32 | double | string | struct => simp [writeLeaf] at written
  | double =>
    cases value with
    | double bits =>
      refine ⟨.double bits, _, by rw [canonical], rfl, fun rest => ?_⟩
      rw [readLeaf, readDouble_writeUInt64_append]
      rfl
    | int32 | int64 | string | struct => simp [writeLeaf] at written
  | string =>
    cases value with
    | string text =>
      rw [writeLeaf] at written ⊢
      cases encoded : writeString text with
      | error fault => simp [encoded] at written
      | ok bytes =>
        have short := (writeString_eq_ok_iff.mp encoded).1
        refine ⟨.string text, bytes, by rw [canonical, if_pos short], rfl, fun rest => ?_⟩
        rw [readLeaf, readString_writeString_append encoded]
        rfl
    | int32 | int64 | double | struct => simp [writeLeaf] at written

/-- The fields of a struct are read back if their values are. -/
lemma readFields_append {struct : String} {given : FieldValues} {fields : List Field}
    (values : ∀ field ∈ fields, ∀ value, given.get? field.name = some value →
      (writeValue registry field.type value).result = .ok () → ReadBack registry field.type value)
    (written : (writeFields (writeValue registry) struct given fields).result = .ok ()) :
    ∃ forms bytes, canonicalFields registry given fields = some forms ∧
      writeFields (writeValue registry) struct given fields = .done bytes ∧
      ∀ rest, readFields (readValue registry) fields (bytes ++ rest) = (.ok forms, rest) := by
  induction fields with
  | nil => exact ⟨[], [], canonicalFields_nil _ _, rfl, fun rest => rfl⟩
  | cons field rest ih =>
    rw [writeFields] at written
    cases found : given.get? field.name with
    | none => simp [found] at written
    | some value =>
      simp only [found, Written.andThen_result_eq_ok_iff] at written
      obtain ⟨form, bytes, conforms, first, read⟩ :=
        values field List.mem_cons_self value found written.1
      obtain ⟨forms, more, conform, second, readMore⟩ :=
        ih (fun f hf => values f (List.mem_cons_of_mem _ hf)) written.2
      refine ⟨(field.name, form) :: forms, bytes ++ more, ?_, ?_, fun tail => ?_⟩
      · simp [canonicalFields_cons, found, conforms, conform]
      · simp only [writeFields, found, first, second, Written.done_andThen, Written.bytes_done,
          Written.result_done]
        rfl
      · simp only [readFields, List.append_assoc, read, readMore, Reading.ok_andThen]

/-- A value that is written has a canonical form, and is read back in it. -/
theorem readBack_of_write (built : registry.Built) {type : Ty} {value : Value}
    (written : (writeValue registry type value).result = .ok ()) :
    ReadBack registry type value := by
  -- the values of the fields are smaller than their struct
  induction size : sizeOf value using Nat.strongRecOn generalizing type value with
  | ind n ih =>
    cases type with
    | int32 | int64 | double | string =>
      rw [writeValue_primitive rfl] at written
      exact readBack_of_writeLeaf rfl written
    | struct name =>
      by_cases same : ∃ given, value = .struct name given
      · obtain ⟨given, rfl⟩ := same
        cases found : registry.fields? name with
        | none => simp [writeValue_struct_unknown found] at written
        | some fields =>
          rw [writeValue_struct built found] at written
          have smaller : ∀ field ∈ fields, ∀ value,
              FieldValues.get? given field.name = some value →
              (writeValue registry field.type value).result = .ok () →
                ReadBack registry field.type value := by
            intro field _ value hv ok
            have lt := FieldValues.sizeOf_lt_of_get? hv
            exact ih (sizeOf value) (by simp at size; omega) ok rfl
          obtain ⟨forms, bytes, conform, done, read⟩ := readFields_append smaller written
          refine ⟨.struct name forms, bytes, ?_, ?_, fun rest => ?_⟩
          · simp [canonical_struct, found, conform]
          · rw [writeValue_struct built found, done]
          · rw [readValue_struct built found, read, Reading.ok_andThen]
      · rw [writeValue_struct_of_ne fun given e => same ⟨given, e⟩] at written
        simp at written

/-! ## Conforming values -/

/-- The fields of a struct are written if each of their values is. -/
lemma writeFields_of_canonicalFields {struct : String} {given forms : FieldValues}
    {fields : List Field}
    (values : ∀ field ∈ fields, ∀ value, given.get? field.name = some value →
      ∀ form, canonical registry field.type value = some form →
        (writeValue registry field.type value).result = .ok ())
    (conform : canonicalFields registry given fields = some forms) :
    (writeFields (writeValue registry) struct given fields).result = .ok () := by
  induction fields generalizing forms with
  | nil => rfl
  | cons field rest ih =>
    rw [canonicalFields_cons] at conform
    simp only [Option.bind_eq_some_iff, Option.map_eq_some_iff] at conform
    obtain ⟨value, found, form, one, more, others, -⟩ := conform
    rw [writeFields]
    simp only [found, Written.andThen_result_eq_ok_iff]
    exact ⟨values field List.mem_cons_self value found form one,
      ih (fun f hf => values f (List.mem_cons_of_mem _ hf)) others⟩

/-- A value that conforms to its type is written. -/
theorem write_of_canonical (built : registry.Built) {type : Ty} {value form : Value}
    (conforms : canonical registry type value = some form) :
    (writeValue registry type value).result = .ok () := by
  induction size : sizeOf value using Nat.strongRecOn generalizing type value form with
  | ind n ih =>
    cases type with
    | int32 | int64 | double =>
      rw [writeValue_primitive rfl]
      cases value <;> simp [canonical, writeLeaf] at conforms ⊢
    | string =>
      rw [writeValue_primitive rfl]
      cases value with
      | string text =>
        rw [canonical] at conforms
        split at conforms
        · next short =>
          rw [writeLeaf, writeString_eq_ok_iff.mpr ⟨short, rfl⟩]
          rfl
        · simp at conforms
      | int32 | int64 | double | struct => simp [canonical] at conforms
    | struct name =>
      cases value with
      | int32 | int64 | double | string => simp [canonical] at conforms
      | struct typeName given =>
        rw [canonical] at conforms
        split at conforms
        · next same =>
          subst same
          simp only [Option.bind_eq_some_iff, Option.map_eq_some_iff] at conforms
          obtain ⟨fields, found, forms, conform, -⟩ := conforms
          rw [writeValue_struct built found]
          refine writeFields_of_canonicalFields (fun field _ value hv form hform => ?_) conform
          have lt := FieldValues.sizeOf_lt_of_get? hv
          exact ih (sizeOf value) (by simp at size; omega) hform rfl
        · simp at conforms

/-! ## Lists of values -/

/-- Values that are written, each under its type, are read back in canonical form. -/
lemma readEach_append (built : registry.Built) {types : List Ty} {values : List Value}
    (length : values.length = types.length)
    (written : (writeEach (writeValue registry) types values).result = .ok ()) :
    ∃ forms bytes, canonicals registry types values = some forms ∧
      writeEach (writeValue registry) types values = .done bytes ∧
      ∀ rest, readEach (readValue registry) types (bytes ++ rest) = (.ok forms, rest) := by
  induction types generalizing values with
  | nil =>
    simp only [List.length_nil, List.length_eq_zero_iff] at length
    subst length
    exact ⟨[], [], rfl, rfl, fun rest => rfl⟩
  | cons type types ih =>
    cases values with
    | nil => simp at length
    | cons value values =>
      rw [writeEach, Written.andThen_result_eq_ok_iff] at written
      obtain ⟨form, bytes, conforms, first, read⟩ := readBack_of_write built written.1
      obtain ⟨forms, more, conform, second, readMore⟩ := ih (by simpa using length) written.2
      refine ⟨form :: forms, bytes ++ more, ?_, ?_, fun tail => ?_⟩
      · simp [canonicals, conforms, conform]
      · simp only [writeEach, first, second, Written.done_andThen, Written.bytes_done,
          Written.result_done]
        rfl
      · simp only [readEach, List.append_assoc, read, readMore, Reading.ok_andThen]

/-- Values that are written are as many as their types, and are read back in canonical form. -/
theorem readValues_append (built : registry.Built) {types : List Ty} {values : List Value}
    (written : (writeValues registry types values).result = .ok ()) :
    ∃ forms bytes, canonicals registry types values = some forms ∧
      writeValues registry types values = .done bytes ∧
      ∀ rest, readValues registry types (bytes ++ rest) = (.ok forms, rest) := by
  unfold writeValues at written ⊢
  split at written
  · next length =>
    rw [if_pos length]
    exact readEach_append built length written
  · simp at written

/-- An encoding is read in front of anything. -/
lemma readValues_of_done (built : registry.Built) {types : List Ty} {values : List Value}
    {bytes : Bytes} (written : writeValues registry types values = .done bytes) :
    ∃ forms, canonicals registry types values = some forms ∧
      ∀ rest, readValues registry types (bytes ++ rest) = (.ok forms, rest) := by
  obtain ⟨forms, bytes', conform, written', read⟩ := readValues_append built (by rw [written]; rfl)
  have same : bytes' = bytes := by
    simpa [Written.done] using written'.symm.trans written
  exact ⟨forms, conform, same ▸ read⟩

/-- What an encoding holds, and nothing else, is the canonical form of the values. -/
lemma readExactly_of_done (built : registry.Built) {types : List Ty} {values : List Value}
    {bytes : Bytes} (written : writeValues registry types values = .done bytes) :
    readExactly registry types bytes = canonicals registry types values := by
  obtain ⟨forms, conform, read⟩ := readValues_of_done built written
  have whole := read []
  rw [List.append_nil] at whole
  unfold readExactly
  rw [whole, conform]

/-- Values that conform to their types are written. -/
theorem writeValues_of_canonicals (built : registry.Built) {types : List Ty}
    {values forms : List Value} (conform : canonicals registry types values = some forms) :
    (writeValues registry types values).result = .ok () := by
  have each : values.length = types.length ∧
      (writeEach (writeValue registry) types values).result = .ok () := by
    induction types generalizing values forms with
    | nil =>
      cases values with
      | nil => exact ⟨rfl, rfl⟩
      | cons => simp [canonicals] at conform
    | cons type types ih =>
      cases values with
      | nil => simp [canonicals] at conform
      | cons value values =>
        simp only [canonicals, Option.bind_eq_some_iff, Option.map_eq_some_iff] at conform
        obtain ⟨form, one, more, others, -⟩ := conform
        obtain ⟨length, written⟩ := ih others
        refine ⟨by simp [length], ?_⟩
        rw [writeEach, Written.andThen_result_eq_ok_iff]
        exact ⟨write_of_canonical built one, written⟩
  rw [writeValues, if_pos each.1]
  exact each.2

end Values

end Codec

end RemoteCall
