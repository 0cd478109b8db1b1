import RemoteCall.Proofs.Codec.RoundTrip

/-!
# What is read was written

A read that succeeds has taken exactly the bytes that a write of its result produces, so the bytes
that can be read are the encodings followed by anything.  Here the names of a layout's fields have
to be distinct: the writer looks the values up by name, and has to find those that the reader has
put there.

The direction from writing to reading does not need that, and is by induction on the values.  This
one is by induction on the layouts, as the reader goes: there is no value yet to go down along.
Where a struct is read, its fields are read one after the other, and the values that were read so
far are the first of their names in the struct that is being put together
(`writeFields_of_readFields`).

From the two directions together follows what a read of a whole byte string is: it succeeds exactly
on encodings, with their canonical form (`readExactly_eq_some_iff`, `readExactly_eq_none_iff`).
Requests and replies are decoded in this way.
-/

namespace RemoteCall

namespace FieldValues

/-- Under distinct names every value is the first of its name. -/
lemma get?_of_mem {fields : FieldValues} (distinct : (fields.map Prod.fst).Nodup) {name : String}
    {value : Value} (h : (name, value) ∈ fields) : fields.get? name = some value := by
  induction fields with
  | nil => simp at h
  | cons field rest ih =>
    obtain ⟨n, v⟩ := field
    simp only [List.map_cons, List.nodup_cons] at distinct
    rw [get?_cons]
    rcases List.mem_cons.mp h with same | later
    · rw [Prod.mk.injEq] at same
      rw [if_pos same.1.symm, same.2]
    · have differ : n ≠ name := by
        rintro rfl
        exact distinct.1 (List.mem_map_of_mem later)
      rw [if_neg differ]
      exact ih distinct.2 later

end FieldValues

namespace Codec

/-! ## Reads in sequence -/

/-- A read in two parts succeeds exactly if both do, one after the other. -/
lemma Reading.andThen_eq_ok_iff {α β : Type} {first : Reading α}
    {next : α → Bytes → Reading β} {v : β} {rest : Bytes} :
    Reading.andThen first next = (.ok v, rest) ↔
      ∃ u middle, first = (.ok u, middle) ∧ next u middle = (.ok v, rest) := by
  obtain ⟨result, tail⟩ := first
  cases result with
  | ok u =>
    simp only [Reading.andThen, Prod.mk.injEq, Except.ok.injEq]
    constructor
    · intro h
      exact ⟨u, tail, ⟨rfl, rfl⟩, h⟩
    · rintro ⟨_, _, ⟨rfl, rfl⟩, h⟩
      exact h
  | error e => simp [Reading.andThen]

lemma Reading.ofPrimitive_eq_ok_iff {α β : Type} {bytes rest : Bytes} {make : α → β}
    {read : Except DecodeFault (α × Bytes)} {v : β} :
    Reading.ofPrimitive bytes make read = (.ok v, rest) ↔
      ∃ u, read = .ok (u, rest) ∧ v = make u := by
  unfold Reading.ofPrimitive
  split
  · next u tail =>
    simp only [Prod.mk.injEq, Except.ok.injEq]
    constructor
    · rintro ⟨rfl, rfl⟩
      exact ⟨u, ⟨rfl, rfl⟩, rfl⟩
    · rintro ⟨w, ⟨rfl, rfl⟩, rfl⟩
      exact ⟨rfl, rfl⟩
  · simp

section Values

variable {registry : Registry}

/-! ## From reading to writing -/

lemma writeLeaf_of_readLeaf {type : Ty} {bytes rest : Bytes} {value : Value}
    (h : readLeaf type bytes = (.ok value, rest)) :
    ∃ taken, bytes = taken ++ rest ∧ writeLeaf type value = .done taken := by
  unfold readLeaf at h
  split at h
  · obtain ⟨v, read, rfl⟩ := Reading.ofPrimitive_eq_ok_iff.mp h
    exact ⟨_, eq_of_readInt32 read, rfl⟩
  · obtain ⟨v, read, rfl⟩ := Reading.ofPrimitive_eq_ok_iff.mp h
    exact ⟨_, eq_of_readInt64 read, rfl⟩
  · obtain ⟨bits, read, rfl⟩ := Reading.ofPrimitive_eq_ok_iff.mp h
    exact ⟨_, eq_of_readDouble read, rfl⟩
  · obtain ⟨text, read, rfl⟩ := Reading.ofPrimitive_eq_ok_iff.mp h
    obtain ⟨taken, written, split⟩ := eq_of_readString read
    exact ⟨taken, split, by rw [writeLeaf, written]⟩
  · simp at h

/-- The fields that are read are those of the layout, in its order. -/
lemma names_of_readFields {read : Ty → Bytes → Reading Value} {fields : List Field}
    {bytes rest : Bytes} {values : FieldValues}
    (h : readFields read fields bytes = (.ok values, rest)) :
    values.map Prod.fst = fields.map Field.name := by
  induction fields generalizing bytes rest values with
  | nil =>
    simp only [readFields, Prod.mk.injEq, Except.ok.injEq] at h
    simp [← h.1]
  | cons field more ih =>
    rw [readFields, Reading.andThen_eq_ok_iff] at h
    obtain ⟨value, middle, -, h⟩ := h
    obtain ⟨others, tail, read, h⟩ := Reading.andThen_eq_ok_iff.mp h
    simp only [Prod.mk.injEq, Except.ok.injEq] at h
    simp [← h.1, ih read]

/-- Fields are written from any list in which the values that were read are the first ones. -/
lemma writeFields_of_readFields {struct : String} {given values : FieldValues}
    {fields : List Field} {bytes rest : Bytes}
    (first : ∀ name value, (name, value) ∈ values → given.get? name = some value)
    (each : ∀ field ∈ fields, ∀ value, (field.name, value) ∈ values → ∀ bytes rest,
      readValue registry field.type bytes = (.ok value, rest) →
        ∃ taken, bytes = taken ++ rest ∧ writeValue registry field.type value = .done taken)
    (h : readFields (readValue registry) fields bytes = (.ok values, rest)) :
    ∃ taken, bytes = taken ++ rest ∧
      writeFields (writeValue registry) struct given fields = .done taken := by
  induction fields generalizing bytes rest values with
  | nil =>
    simp only [readFields, Prod.mk.injEq, Except.ok.injEq] at h
    exact ⟨[], by simp [h.2], rfl⟩
  | cons field more ih =>
    rw [readFields, Reading.andThen_eq_ok_iff] at h
    obtain ⟨value, middle, read, h⟩ := h
    obtain ⟨others, tail, readMore, h⟩ := Reading.andThen_eq_ok_iff.mp h
    simp only [Prod.mk.injEq, Except.ok.injEq] at h
    obtain ⟨rfl, rfl⟩ := h
    obtain ⟨taken, rfl, written⟩ :=
      each field List.mem_cons_self value List.mem_cons_self _ _ read
    obtain ⟨takenMore, rfl, writtenMore⟩ :=
      ih (fun n v hv => first n v (List.mem_cons_of_mem _ hv))
        (fun f hf v hv => each f (List.mem_cons_of_mem _ hf) v (List.mem_cons_of_mem _ hv))
        readMore
    refine ⟨taken ++ takenMore, by rw [List.append_assoc], ?_⟩
    rw [writeFields]
    simp only [first field.name value List.mem_cons_self, written, writtenMore,
      Written.done_andThen, Written.bytes_done, Written.result_done]
    rfl

/-- A value that is read was written as the bytes that were taken for it. -/
lemma writeValue_of_readValue (built : registry.Built) {type : Ty} {bytes rest : Bytes}
    {value : Value} (h : readValue registry type bytes = (.ok value, rest)) :
    ∃ taken, bytes = taken ++ rest ∧ writeValue registry type value = .done taken := by
  -- the values of the fields are smaller than the struct that is read
  induction size : sizeOf value using Nat.strongRecOn generalizing type bytes rest value with
  | ind n ih =>
    cases type with
    | int32 | int64 | double | string =>
      rw [readValue_primitive rfl] at h
      rw [writeValue_primitive rfl]
      exact writeLeaf_of_readLeaf h
    | struct name =>
      cases found : registry.fields? name with
      | none => simp [readValue_struct_unknown found] at h
      | some fields =>
        rw [readValue_struct built found, Reading.andThen_eq_ok_iff] at h
        obtain ⟨values, middle, read, h⟩ := h
        simp only [Prod.mk.injEq, Except.ok.injEq] at h
        obtain ⟨rfl, rfl⟩ := h
        have distinct : (values.map Prod.fst).Nodup := by
          rw [names_of_readFields read]
          exact built.layered.nodup_of_fields? found
        rw [writeValue_struct built found]
        refine writeFields_of_readFields
          (fun name value hv => FieldValues.get?_of_mem distinct hv)
          (fun field _ value hv bytes rest read => ?_) read
        have lt := FieldValues.sizeOf_lt_of_get? (FieldValues.get?_of_mem distinct hv)
        exact ih (sizeOf value) (by simp at size; omega) read rfl

/-- Values that are read were written as the bytes that were taken for them. -/
lemma writeEach_of_readEach (built : registry.Built) {types : List Ty} {bytes rest : Bytes}
    {values : List Value} (h : readEach (readValue registry) types bytes = (.ok values, rest)) :
    values.length = types.length ∧ ∃ taken, bytes = taken ++ rest ∧
      writeEach (writeValue registry) types values = .done taken := by
  induction types generalizing bytes rest values with
  | nil =>
    simp only [readEach, Prod.mk.injEq, Except.ok.injEq] at h
    obtain ⟨rfl, rfl⟩ := h
    exact ⟨rfl, [], rfl, rfl⟩
  | cons type types ih =>
    rw [readEach, Reading.andThen_eq_ok_iff] at h
    obtain ⟨value, middle, read, h⟩ := h
    obtain ⟨others, tail, readMore, h⟩ := Reading.andThen_eq_ok_iff.mp h
    simp only [Prod.mk.injEq, Except.ok.injEq] at h
    obtain ⟨rfl, rfl⟩ := h
    obtain ⟨taken, rfl, written⟩ := writeValue_of_readValue built read
    obtain ⟨length, takenMore, rfl, writtenMore⟩ := ih readMore
    refine ⟨by simp [length], taken ++ takenMore, by rw [List.append_assoc], ?_⟩
    simp only [writeEach, written, writtenMore, Written.done_andThen, Written.bytes_done,
      Written.result_done]
    rfl

/-- Values that are read were written as the bytes that were taken for them, and are canonical. -/
lemma writeValues_of_readValues (built : registry.Built) {types : List Ty} {bytes rest : Bytes}
    {values : List Value} (h : readValues registry types bytes = (.ok values, rest)) :
    ∃ taken, bytes = taken ++ rest ∧ writeValues registry types values = .done taken ∧
      canonicals registry types values = some values := by
  obtain ⟨length, taken, rfl, written⟩ := writeEach_of_readEach built h
  have all : writeValues registry types values = .done taken := by
    rw [writeValues, if_pos length, written]
  obtain ⟨forms, conform, read⟩ := readValues_of_done built all
  have agree := (read rest).symm.trans h
  simp only [Prod.mk.injEq, Except.ok.injEq, and_true] at agree
  subst agree
  exact ⟨taken, rfl, all, conform⟩

/-- What is read from a whole byte string is in canonical form, and the string is its encoding. -/
lemma readExactly_eq_some_iff (built : registry.Built) {types : List Ty} {bytes : Bytes}
    {values : List Value} :
    readExactly registry types bytes = some values ↔
      writeValues registry types values = .done bytes ∧
        canonicals registry types values = some values := by
  constructor
  · intro whole
    unfold readExactly at whole
    split at whole
    · rename_i found read
      obtain rfl : found = values := Option.some.inj whole
      obtain ⟨taken, rfl, written, canonical⟩ := writeValues_of_readValues built read
      rw [List.append_nil]
      exact ⟨written, canonical⟩
    · contradiction
  · rintro ⟨written, canonical⟩
    rw [readExactly_of_done built written, canonical]

/-- Nothing is read from a byte string that is not an encoding. -/
lemma readExactly_eq_none_iff (built : registry.Built) {types : List Ty} {bytes : Bytes} :
    readExactly registry types bytes = none ↔
      ∀ values, writeValues registry types values ≠ .done bytes := by
  constructor
  · intro unread values written
    obtain ⟨forms, conform, -⟩ := readValues_of_done built written
    rw [readExactly_of_done built written, conform] at unread
    contradiction
  · intro unwritten
    cases whole : readExactly registry types bytes with
    | none => rfl
    | some values =>
      exact absurd ((readExactly_eq_some_iff built).mp whole).1 (unwritten values)

end Values

end Codec

end RemoteCall
