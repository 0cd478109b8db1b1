import RemoteCall.Codec.Values
import RemoteCall.Proofs.Schema.Layered

/-!
# Structs are followed by name

The writer and the reader follow a struct in the layouts behind its own.  In a layered list that is
no restriction, since the fields of a layout speak only about layouts behind it: both directions
look every struct up in the whole registry (`writeValue_struct`, `readValue_struct`).

The recursion of the codec goes down the list of layouts, so that it ends for every list, also for
one that no registrations have built.  A layout that is not asked for is passed over
(`writeIn_cons_of_ne`, `readIn_cons_of_ne`), and one that is added in front changes nothing for the
types that were known before (`writeIn_cons`, `readIn_cons`).  These facts are all that is said of
the recursion itself.  The rest of the development uses the two equations below and does not open it
again.

## Main statements

* `writeValue_struct` — a known struct is written field by field, as its layout says.
* `readValue_struct` — a known struct is read field by field, as its layout says.
-/

namespace RemoteCall

namespace Codec

open Registry

/-! ## Writing -/

lemma writeIn_primitive {layouts : List Layout} {type : Ty} (h : type.isPrimitive = true)
    (value : Value) : writeIn layouts type value = writeLeaf type value := by
  cases type with
  | struct name => simp [Ty.isPrimitive] at h
  | int32 | int64 | double | string => cases layouts <;> simp [writeIn]

/-- A value that is no struct of the type's name is not followed into a layout. -/
lemma writeIn_struct_of_ne {layouts : List Layout} {name : String} {value : Value}
    (other : ∀ given, value ≠ .struct name given) :
    writeIn layouts (.struct name) value = writeLeaf (.struct name) value := by
  induction layouts with
  | nil => simp [writeIn]
  | cons layout older ih =>
    cases value with
    | struct typeName given =>
      have differ : typeName ≠ name := by
        rintro rfl
        exact other given rfl
      rw [writeIn, if_neg (fun both => differ both.1), ih]
    | int32 | int64 | double | string => simp [writeIn]

/-- A layout that is not asked for is passed over. -/
lemma writeIn_cons_of_ne {layout : Layout} {older : List Layout} {name : String}
    (h : layout.name ≠ name) (value : Value) :
    writeIn (layout :: older) (.struct name) value = writeIn older (.struct name) value := by
  by_cases same : ∃ given, value = .struct name given
  · obtain ⟨given, rfl⟩ := same
    rw [writeIn, if_neg (fun both => h both.2)]
  · have other : ∀ given, value ≠ .struct name given := fun given e => same ⟨given, e⟩
    rw [writeIn_struct_of_ne other, writeIn_struct_of_ne other]

/-- A known type is written as before when a layout is added. -/
lemma writeIn_cons {layout : Layout} {older : List Layout} (h : Layered (layout :: older))
    {type : Ty} (known : check ⟨older⟩ type = .ok ()) (value : Value) :
    writeIn (layout :: older) type value = writeIn older type value := by
  cases type with
  | struct name => exact writeIn_cons_of_ne (h.ne_of_check known) value
  | int32 | int64 | double | string => rw [writeIn_primitive rfl, writeIn_primitive rfl]

/-- Fields are written alike by writers that agree on their types. -/
lemma writeFields_congr {write write' : Ty → Value → Written} {struct : String}
    {given : FieldValues} {fields : List Field}
    (h : ∀ field ∈ fields, ∀ value, write field.type value = write' field.type value) :
    writeFields write struct given fields = writeFields write' struct given fields := by
  induction fields with
  | nil => rfl
  | cons field rest ih =>
    have ih := ih fun f hf => h f (List.mem_cons_of_mem _ hf)
    rw [writeFields, writeFields]
    cases given.get? field.name with
    | none => rfl
    | some value => simp only [h field List.mem_cons_self value, ih]

lemma writeIn_struct {layouts : List Layout} (h : Layered layouts) {name : String}
    {fields : List Field} (found : fields? ⟨layouts⟩ name = some fields) (given : FieldValues) :
    writeIn layouts (.struct name) (.struct name given) =
      writeFields (writeIn layouts) name given fields := by
  induction layouts with
  | nil => simp [fields?, layout?] at found
  | cons layout older ih =>
    rw [fields?_cons] at found
    split at found
    · next same =>
      simp only [Option.some.injEq] at found
      subst found
      rw [writeIn, if_pos ⟨rfl, same⟩]
      cases h with
      | cons tail named own fresh distinct types =>
        exact writeFields_congr fun field hf value =>
          (writeIn_cons (.cons tail named own fresh distinct types) (types field hf) value).symm
    · next differ =>
      rw [writeIn_cons_of_ne differ, ih h.tail found]
      exact writeFields_congr fun field hf value =>
        (writeIn_cons h (h.tail.check_of_fields? found field hf) value).symm

lemma writeIn_struct_unknown {layouts : List Layout} {name : String}
    (unknown : fields? ⟨layouts⟩ name = none) (given : FieldValues) :
    writeIn layouts (.struct name) (.struct name given) =
      .failed (.config (.unknownStruct name)) := by
  induction layouts with
  | nil => simp [writeIn, writeLeaf]
  | cons layout older ih =>
    rw [fields?_cons] at unknown
    split at unknown
    · simp at unknown
    · next differ => rw [writeIn_cons_of_ne differ, ih unknown]

section Registry

variable {registry : Registry}

lemma writeValue_primitive {type : Ty} (h : type.isPrimitive = true) (value : Value) :
    writeValue registry type value = writeLeaf type value :=
  writeIn_primitive h value

/-- A known struct is written field by field, as its layout says. -/
theorem writeValue_struct (built : registry.Built) {name : String} {fields : List Field}
    (found : registry.fields? name = some fields) (given : FieldValues) :
    writeValue registry (.struct name) (.struct name given) =
      writeFields (writeValue registry) name given fields :=
  writeIn_struct built.layered found given

/-- A struct that is not known is not written. -/
lemma writeValue_struct_unknown {name : String} (unknown : registry.fields? name = none)
    (given : FieldValues) :
    writeValue registry (.struct name) (.struct name given) =
      .failed (.config (.unknownStruct name)) :=
  writeIn_struct_unknown unknown given

/-- A value that is no struct of the type's name is not written. -/
lemma writeValue_struct_of_ne {name : String} {value : Value}
    (other : ∀ given, value ≠ .struct name given) :
    writeValue registry (.struct name) value = .failed (.encode (.mismatch name value.kind)) := by
  rw [writeValue, writeIn_struct_of_ne other]
  cases value with
  | struct typeName given =>
    have differ : typeName ≠ name := by
      rintro rfl
      exact other given rfl
    simp [writeLeaf, differ]
  | int32 | int64 | double | string => rfl

end Registry

/-! ## Reading -/

lemma readIn_primitive {layouts : List Layout} {type : Ty} (h : type.isPrimitive = true)
    (bytes : Bytes) : readIn layouts type bytes = readLeaf type bytes := by
  cases type with
  | struct name => simp [Ty.isPrimitive] at h
  | int32 | int64 | double | string => cases layouts <;> simp [readIn]

lemma readIn_cons_of_ne {layout : Layout} {older : List Layout} {name : String}
    (h : layout.name ≠ name) (bytes : Bytes) :
    readIn (layout :: older) (.struct name) bytes = readIn older (.struct name) bytes := by
  rw [readIn, if_neg h]

/-- A known type is read as before when a layout is added. -/
lemma readIn_cons {layout : Layout} {older : List Layout} (h : Layered (layout :: older))
    {type : Ty} (known : check ⟨older⟩ type = .ok ()) (bytes : Bytes) :
    readIn (layout :: older) type bytes = readIn older type bytes := by
  cases type with
  | struct name => exact readIn_cons_of_ne (h.ne_of_check known) bytes
  | int32 | int64 | double | string => rw [readIn_primitive rfl, readIn_primitive rfl]

/-- Fields are read alike by readers that agree on their types. -/
lemma readFields_congr {read read' : Ty → Bytes → Reading Value} {fields : List Field}
    (h : ∀ field ∈ fields, ∀ bytes, read field.type bytes = read' field.type bytes)
    (bytes : Bytes) : readFields read fields bytes = readFields read' fields bytes := by
  induction fields generalizing bytes with
  | nil => rfl
  | cons field rest ih =>
    have ih := ih fun f hf => h f (List.mem_cons_of_mem _ hf)
    simp only [readFields, h field List.mem_cons_self, ih]

lemma readIn_struct {layouts : List Layout} (h : Layered layouts) {name : String}
    {fields : List Field} (found : fields? ⟨layouts⟩ name = some fields) (bytes : Bytes) :
    readIn layouts (.struct name) bytes =
      Reading.andThen (readFields (readIn layouts) fields bytes) fun values bytes =>
        (.ok (.struct name values), bytes) := by
  induction layouts with
  | nil => simp [fields?, layout?] at found
  | cons layout older ih =>
    rw [fields?_cons] at found
    split at found
    · next same =>
      simp only [Option.some.injEq] at found
      subst found
      rw [readIn, if_pos same]
      cases h with
      | cons tail named own fresh distinct types =>
        rw [readFields_congr fun field hf bytes =>
          (readIn_cons (.cons tail named own fresh distinct types) (types field hf) bytes).symm]
    · next differ =>
      rw [readIn_cons_of_ne differ, ih h.tail found]
      rw [readFields_congr fun field hf bytes =>
        (readIn_cons h (h.tail.check_of_fields? found field hf) bytes).symm]

lemma readIn_struct_unknown {layouts : List Layout} {name : String}
    (unknown : fields? ⟨layouts⟩ name = none) (bytes : Bytes) :
    readIn layouts (.struct name) bytes = (.error (.config (.unknownStruct name)), bytes) := by
  induction layouts with
  | nil => simp [readIn, readLeaf]
  | cons layout older ih =>
    rw [fields?_cons] at unknown
    split at unknown
    · simp at unknown
    · next differ => rw [readIn_cons_of_ne differ, ih unknown]

section Registry

variable {registry : Registry}

lemma readValue_primitive {type : Ty} (h : type.isPrimitive = true) (bytes : Bytes) :
    readValue registry type bytes = readLeaf type bytes :=
  readIn_primitive h bytes

/-- A known struct is read field by field, as its layout says. -/
theorem readValue_struct (built : registry.Built) {name : String} {fields : List Field}
    (found : registry.fields? name = some fields) (bytes : Bytes) :
    readValue registry (.struct name) bytes =
      Reading.andThen (readFields (readValue registry) fields bytes) fun values bytes =>
        (.ok (.struct name values), bytes) :=
  readIn_struct built.layered found bytes

/-- A struct that is not known is not read. -/
lemma readValue_struct_unknown {name : String} (unknown : registry.fields? name = none)
    (bytes : Bytes) :
    readValue registry (.struct name) bytes = (.error (.config (.unknownStruct name)), bytes) :=
  readIn_struct_unknown unknown bytes

end Registry

end Codec

end RemoteCall
