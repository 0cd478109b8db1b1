import RemoteCall.Codec.Buffer
import RemoteCall.Proofs.Codec.Structs
import RemoteCall.Proofs.Schema.Attempts

/-!
# The descent through names ends

A type names its structs, and so do the fields of a layout: a codec that looks every struct up by
its name has nothing in the syntax of a type to go down along.  `writeNamed` and `readNamed` are
that codec.  They are followed to a certain depth; what lies deeper is given by a codec that stands
for all that is not known of it.

In a registry that holds its own fields' structs in a circle, the depth is never enough
(`readNamed_circular`).  In a registry that attempts have led to, it is enough to allow one level
more than there are structs, and then the result is that of the codec itself, whatever lies deeper
(`writeNamed_eq`, `readNamed_eq`).  The check of the types need not look below the top for that.

The measure is the rank of a struct, which the struct of a field has less of.  A depth above the
rank of a type is enough for this type (`typeRank_lt`), and no rank exceeds the number of structs.

On the way down every name is found, so the only errors are those of values and of bytes
(`encodeOnly_writeValue`, `decodeOnly_readValue`).  An error of the registry would mean that the
types of a call passed the check and that something else is missing; there is nothing else.

## Main statements

* `readNamed_circular` — in a circle of names the reader goes deeper than any depth.
* `writeNamed_eq`, `readNamed_eq` — above the rank of a known type no greater depth is needed.
* `encodeOnly_writeValue`, `decodeOnly_readValue` — what goes wrong is with the values or the bytes.
* `attempts_grounded` — all this of the registry that any attempts have led to.
-/

namespace RemoteCall

namespace Codec

open Registry

/-! ## By name -/

/-- Write a value, looking structs up by name, some levels deep. -/
def writeNamed (registry : Registry) (deeper : Ty → Value → Written) : Nat → Ty → Value → Written
  | 0, type, value => deeper type value
  | depth + 1, .struct name, .struct typeName given =>
    if typeName = name then
      match registry.fields? name with
      | none => .failed (.config (.unknownStruct name))
      | some fields => writeFields (writeNamed registry deeper depth) name given fields
    else .failed (.encode (.mismatch name typeName))
  | _ + 1, type, value => writeLeaf type value

/-- Read a value, looking structs up by name, some levels deep. -/
def readNamed (registry : Registry) (deeper : Ty → Bytes → Reading Value) :
    Nat → Ty → Bytes → Reading Value
  | 0, type, bytes => deeper type bytes
  | depth + 1, .struct name, bytes =>
    match registry.fields? name with
    | none => (.error (.config (.unknownStruct name)), bytes)
    | some fields =>
      Reading.andThen (readFields (readNamed registry deeper depth) fields bytes)
        fun values bytes => (.ok (.struct name values), bytes)
  | _ + 1, type, bytes => readLeaf type bytes

/-- Write as many values as there are types, looking structs up by name. -/
def writeValuesNamed (registry : Registry) (deeper : Ty → Value → Written) (depth : Nat)
    (types : List Ty) (values : List Value) : Written :=
  if values.length = types.length then writeEach (writeNamed registry deeper depth) types values
  else .failed (.encode (.countMismatch values.length types.length))

/-- Read one value per type, looking structs up by name. -/
def readValuesNamed (registry : Registry) (deeper : Ty → Bytes → Reading Value) (depth : Nat)
    (types : List Ty) (bytes : Bytes) : Reading (List Value) :=
  readEach (readNamed registry deeper depth) types bytes

/-- A registry that no registrations build: a struct with a field of its own type. -/
def circular : Registry := ⟨[⟨"node", [⟨"next", .struct "node"⟩]⟩]⟩

/-- In a circle of names the reader goes deeper than any depth. -/
theorem readNamed_circular {deeper : Ty → Bytes → Reading Value} {e : Error}
    (fails : ∀ type bytes, deeper type bytes = (.error e, bytes)) (depth : Nat) (bytes : Bytes) :
    readNamed circular deeper depth (.struct "node") bytes = (.error e, bytes) := by
  induction depth with
  | zero => exact fails _ _
  | succ depth ih =>
    have found : circular.fields? "node" = some [⟨"next", .struct "node"⟩] := rfl
    simp only [readNamed, found, readFields, ih, Reading.andThen]

section

variable {registry : Registry}

lemma writeNamed_primitive {type : Ty} (primitive : type.isPrimitive = true)
    (deeper : Ty → Value → Written) (depth : Nat) (value : Value) :
    writeNamed registry deeper (depth + 1) type value = writeLeaf type value := by
  cases type with
  | struct name => cases primitive
  | int32 | int64 | double | string => simp only [writeNamed]

lemma readNamed_primitive {type : Ty} (primitive : type.isPrimitive = true)
    (deeper : Ty → Bytes → Reading Value) (depth : Nat) (bytes : Bytes) :
    readNamed registry deeper (depth + 1) type bytes = readLeaf type bytes := by
  cases type with
  | struct name => cases primitive
  | int32 | int64 | double | string => simp only [readNamed]

/-- A value that is no struct of the type's name is not followed. -/
lemma writeNamed_struct_of_ne {name : String} {value : Value}
    (other : ∀ given, value ≠ .struct name given) (deeper : Ty → Value → Written) (depth : Nat) :
    writeNamed registry deeper (depth + 1) (.struct name) value =
      .failed (.encode (.mismatch name value.kind)) := by
  cases value with
  | struct typeName given =>
    have differ : typeName ≠ name := by
      rintro rfl
      exact other given rfl
    simp only [writeNamed, if_neg differ, Value.kind]
  | int32 | int64 | double | string => simp only [writeNamed, writeLeaf, Ty.name]

/-! ## The depth is enough -/

/-- The rank of a type: that of its struct, if it is one. -/
def typeRank (registry : Registry) : Ty → Nat
  | .struct name => registry.rank name
  | _ => 0

lemma typeRank_le_size (registry : Registry) (type : Ty) :
    typeRank registry type ≤ registry.size := by
  cases type with
  | struct name => exact rankIn_le registry.layouts name
  | int32 | int64 | double | string => exact Nat.zero_le _

/-- The fields of a known struct are of known types of smaller rank. -/
lemma typeRank_lt (built : registry.Built) {name : String} {fields : List Field}
    (found : registry.fields? name = some fields) {field : Field} (among : field ∈ fields) :
    typeRank registry field.type < registry.rank name := by
  cases typed : field.type with
  | struct inner => exact built.layered.rankIn_lt found among typed
  | int32 | int64 | double | string => exact rankIn_pos found

/-- Above the rank of a known type the writer needs no greater depth. -/
theorem writeNamed_eq (built : registry.Built) (deeper : Ty → Value → Written) {depth : Nat}
    {type : Ty} (known : registry.check type = .ok ()) (enough : typeRank registry type < depth)
    (value : Value) :
    writeNamed registry deeper depth type value = writeValue registry type value := by
  induction depth generalizing type value with
  | zero => exact absurd enough (Nat.not_lt_zero _)
  | succ depth ih =>
    cases type with
    | int32 | int64 | double | string =>
      rw [writeNamed_primitive rfl, writeValue_primitive rfl]
    | struct name =>
      by_cases same : ∃ given, value = .struct name given
      · obtain ⟨given, rfl⟩ := same
        obtain ⟨fields, found⟩ := check_struct_eq_ok_iff.mp known
        have level : registry.rank name ≤ depth := Nat.le_of_lt_succ enough
        simp only [writeNamed, if_true, found]
        rw [writeValue_struct built found]
        refine writeFields_congr fun field among value => ih ?_ ?_ value
        · exact built.layered.check_of_fields? found field among
        · exact Nat.lt_of_lt_of_le (typeRank_lt built found among) level
      · have other : ∀ given, value ≠ .struct name given := fun given e => same ⟨given, e⟩
        rw [writeNamed_struct_of_ne other, writeValue_struct_of_ne other]

/-- Above the rank of a known type the reader needs no greater depth. -/
theorem readNamed_eq (built : registry.Built) (deeper : Ty → Bytes → Reading Value) {depth : Nat}
    {type : Ty} (known : registry.check type = .ok ()) (enough : typeRank registry type < depth)
    (bytes : Bytes) :
    readNamed registry deeper depth type bytes = readValue registry type bytes := by
  induction depth generalizing type bytes with
  | zero => exact absurd enough (Nat.not_lt_zero _)
  | succ depth ih =>
    cases type with
    | int32 | int64 | double | string => rw [readNamed_primitive rfl, readValue_primitive rfl]
    | struct name =>
      obtain ⟨fields, found⟩ := check_struct_eq_ok_iff.mp known
      have level : registry.rank name ≤ depth := Nat.le_of_lt_succ enough
      simp only [readNamed, found]
      rw [readValue_struct built found]
      congr 1
      refine readFields_congr (fun field among bytes => ih ?_ ?_ bytes) bytes
      · exact built.layered.check_of_fields? found field among
      · exact Nat.lt_of_lt_of_le (typeRank_lt built found among) level

/-! ## Errors on the way -/

/-- A write that fails on account of its value. -/
def EncodeOnly (written : Written) : Prop :=
  ∀ e, written.result = .error e → ∃ fault, e = .encode fault

/-- A read that fails on account of its bytes. -/
def DecodeOnly {α : Type} (reading : Reading α) : Prop :=
  ∀ e, reading.1 = .error e → ∃ fault, e = .decode fault

lemma encodeOnly_done (bytes : Bytes) : EncodeOnly (.done bytes) := nofun

lemma encodeOnly_failed (fault : EncodeFault) : EncodeOnly (.failed (.encode fault)) := by
  rintro e ⟨⟩
  exact ⟨fault, rfl⟩

lemma EncodeOnly.andThen {first : Written} {next : Unit → Written} (one : EncodeOnly first)
    (more : EncodeOnly (next ())) : EncodeOnly (first.andThen next) := by
  unfold Written.andThen
  split
  · exact more
  · exact one

lemma DecodeOnly.andThen {α β : Type} {first : Reading α} {next : α → Bytes → Reading β}
    (one : DecodeOnly first) (more : ∀ v rest, DecodeOnly (next v rest)) :
    DecodeOnly (Reading.andThen first next) := by
  obtain ⟨result, rest⟩ := first
  cases result with
  | ok v => exact more v rest
  | error e =>
    rintro _ ⟨⟩
    exact one e rfl

lemma encodeOnly_writeLeaf {type : Ty} (primitive : type.isPrimitive = true) (value : Value) :
    EncodeOnly (writeLeaf type value) := by
  unfold writeLeaf
  split
  · exact encodeOnly_done _
  · exact encodeOnly_done _
  · exact encodeOnly_done _
  · split
    · exact encodeOnly_done _
    · exact encodeOnly_failed _
  · cases primitive
  · exact encodeOnly_failed _

lemma decodeOnly_ofPrimitive {α β : Type} (bytes : Bytes) (make : α → β)
    (read : Except DecodeFault (α × Bytes)) : DecodeOnly (.ofPrimitive bytes make read) := by
  cases read with
  | ok pair => nofun
  | error fault =>
    rintro e ⟨⟩
    exact ⟨fault, rfl⟩

lemma decodeOnly_readLeaf {type : Ty} (primitive : type.isPrimitive = true) (bytes : Bytes) :
    DecodeOnly (readLeaf type bytes) := by
  cases type with
  | struct name => cases primitive
  | int32 | int64 | double | string => exact decodeOnly_ofPrimitive _ _ _

lemma encodeOnly_writeFields {write : Ty → Value → Written} {struct : String}
    {given : FieldValues} {fields : List Field}
    (each : ∀ field ∈ fields, ∀ value, EncodeOnly (write field.type value)) :
    EncodeOnly (writeFields write struct given fields) := by
  induction fields with
  | nil => exact encodeOnly_done _
  | cons field rest ih =>
    rw [writeFields]
    split
    · exact encodeOnly_failed _
    · exact (each field List.mem_cons_self _).andThen
        (ih fun field later => each field (List.mem_cons_of_mem _ later))

lemma decodeOnly_readFields {read : Ty → Bytes → Reading Value} {fields : List Field}
    (each : ∀ field ∈ fields, ∀ bytes, DecodeOnly (read field.type bytes)) (bytes : Bytes) :
    DecodeOnly (readFields read fields bytes) := by
  induction fields generalizing bytes with
  | nil => nofun
  | cons field rest ih =>
    have others := ih fun field later => each field (List.mem_cons_of_mem _ later)
    exact (each field List.mem_cons_self bytes).andThen fun _ bytes =>
      (others bytes).andThen fun _ _ => nofun

/-- A value of a known type is not written only if it does not conform to the type. -/
theorem encodeOnly_writeValue (built : registry.Built) {type : Ty}
    (known : registry.check type = .ok ()) (value : Value) :
    EncodeOnly (writeValue registry type value) := by
  -- the fields of a struct are of smaller rank
  induction rank : typeRank registry type using Nat.strongRecOn generalizing type value with
  | ind n ih =>
    cases type with
    | int32 | int64 | double | string =>
      rw [writeValue_primitive rfl]
      exact encodeOnly_writeLeaf rfl value
    | struct name =>
      by_cases same : ∃ given, value = .struct name given
      · obtain ⟨given, rfl⟩ := same
        obtain ⟨fields, found⟩ := check_struct_eq_ok_iff.mp known
        rw [writeValue_struct built found]
        refine encodeOnly_writeFields fun field among value => ?_
        exact ih _ (rank ▸ typeRank_lt built found among)
          (built.layered.check_of_fields? found field among) value rfl
      · rw [writeValue_struct_of_ne fun given e => same ⟨given, e⟩]
        exact encodeOnly_failed _

/-- A value of a known type is not read only if the bytes are not its encoding. -/
theorem decodeOnly_readValue (built : registry.Built) {type : Ty}
    (known : registry.check type = .ok ()) (bytes : Bytes) :
    DecodeOnly (readValue registry type bytes) := by
  induction rank : typeRank registry type using Nat.strongRecOn generalizing type bytes with
  | ind n ih =>
    cases type with
    | int32 | int64 | double | string =>
      rw [readValue_primitive rfl]
      exact decodeOnly_readLeaf rfl bytes
    | struct name =>
      obtain ⟨fields, found⟩ := check_struct_eq_ok_iff.mp known
      rw [readValue_struct built found]
      refine (decodeOnly_readFields (fun field among bytes => ?_) bytes).andThen fun _ _ => nofun
      exact ih _ (rank ▸ typeRank_lt built found among)
        (built.layered.check_of_fields? found field among) bytes rfl

/-! ## Lists of values -/

lemma writeEach_congr {write write' : Ty → Value → Written} {types : List Ty}
    (h : ∀ type ∈ types, ∀ value, write type value = write' type value) (values : List Value) :
    writeEach write types values = writeEach write' types values := by
  induction types generalizing values with
  | nil => rfl
  | cons type types ih =>
    cases values with
    | nil => rfl
    | cons value values =>
      obtain ⟨first, others⟩ := List.forall_mem_cons.mp h
      simp only [writeEach, first, ih others]

lemma readEach_congr {read read' : Ty → Bytes → Reading Value} {types : List Ty}
    (h : ∀ type ∈ types, ∀ bytes, read type bytes = read' type bytes) (bytes : Bytes) :
    readEach read types bytes = readEach read' types bytes := by
  induction types generalizing bytes with
  | nil => rfl
  | cons type types ih =>
    obtain ⟨first, others⟩ := List.forall_mem_cons.mp h
    simp only [readEach, first, ih others]

lemma encodeOnly_writeEach {write : Ty → Value → Written} {types : List Ty}
    (each : ∀ type ∈ types, ∀ value, EncodeOnly (write type value)) (values : List Value) :
    EncodeOnly (writeEach write types values) := by
  induction types generalizing values with
  | nil => exact encodeOnly_done _
  | cons type types ih =>
    cases values with
    | nil => exact encodeOnly_done _
    | cons value values =>
      obtain ⟨first, others⟩ := List.forall_mem_cons.mp each
      exact (first value).andThen (ih others values)

lemma decodeOnly_readEach {read : Ty → Bytes → Reading Value} {types : List Ty}
    (each : ∀ type ∈ types, ∀ bytes, DecodeOnly (read type bytes)) (bytes : Bytes) :
    DecodeOnly (readEach read types bytes) := by
  induction types generalizing bytes with
  | nil => nofun
  | cons type types ih =>
    obtain ⟨first, others⟩ := List.forall_mem_cons.mp each
    exact (first bytes).andThen fun _ bytes => (ih others bytes).andThen fun _ _ => nofun

/-- Values of some types are written and read without a look at what lies deeper than the structs of
the registry, and what goes wrong is with the values or the bytes. -/
structure Carried (registry : Registry) (types : List Ty) : Prop where
  writes : ∀ deeper values, writeValuesNamed registry deeper (registry.size + 1) types values =
    writeValues registry types values
  reads : ∀ deeper bytes, readValuesNamed registry deeper (registry.size + 1) types bytes =
    readValues registry types bytes
  encode : ∀ (buffer : Buffer) values e,
    (buffer.writeValues registry types values).1 = .error e → ∃ fault, e = .encode fault
  decode : ∀ (buffer : Buffer) e,
    (buffer.readValues registry types).1 = .error e → ∃ fault, e = .decode fault

lemma carried (built : registry.Built) {types : List Ty}
    (checked : registry.checkAll types = .ok ()) : Carried registry types := by
  have known := checkAll_eq_ok_iff.mp checked
  have enough : ∀ type, typeRank registry type < registry.size + 1 :=
    fun type => Nat.lt_succ_of_le (typeRank_le_size registry type)
  constructor
  case writes =>
    intro deeper values
    unfold writeValuesNamed writeValues
    rw [writeEach_congr fun type among =>
      writeNamed_eq built deeper (known type among) (enough type)]
  case reads =>
    intro deeper bytes
    exact readEach_congr
      (fun type among => readNamed_eq built deeper (known type among) (enough type)) bytes
  case encode =>
    intro buffer values
    show EncodeOnly (writeValues registry types values)
    unfold writeValues
    split
    · exact encodeOnly_writeEach (fun type among => encodeOnly_writeValue built (known type among))
        values
    · exact encodeOnly_failed _
  case decode =>
    intro buffer
    show DecodeOnly (readValues registry types buffer.unread)
    exact decodeOnly_readEach (fun type among => decodeOnly_readValue built (known type among)) _

end

/-- Whatever was attempted, a refused attempt changes nothing and an accepted one adds its layout
under a free name; the registry is grounded; and values of types that pass the check are written and
read to the end. -/
theorem attempts_grounded (attempts : List Layout) :
    let registry := (empty.run attempts).1
    (∀ layout e, (registry.attempt layout).2 = [.error e] →
      (registry.attempt layout).1 = registry) ∧
    (∀ layout, (registry.attempt layout).2 = [.ok ()] → registry.fields? layout.name = none ∧
      ∀ name, (registry.attempt layout).1.fields? name =
        if layout.name = name then some layout.fields else registry.fields? name) ∧
    Grounded registry ∧
    ∀ types, registry.checkAll types = .ok () → Carried registry types := by
  have built := built_run attempts
  exact ⟨fun _ _ => attempt_of_error, fun _ => fields?_of_attempt, built.grounded,
    fun _ => carried built⟩

end Codec

end RemoteCall
