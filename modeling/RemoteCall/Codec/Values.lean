import RemoteCall.Codec.Primitive
import RemoteCall.Schema.Registry
import RemoteCall.Schema.Value

/-!
# Values on the wire

A value is written and read under a declared type. A struct is the concatenation of its registered
fields in registered order; it has no tag, no length and no field names, so both ends must walk the
same types.

Neither direction is all or nothing: a write that fails has appended the primitives before the one
that failed, and a read that fails has consumed them. `Written` and the pairs returned by the
readers say both how an operation ended and what it left behind.

## Following a struct

`writeIn` and `readIn` walk the list of layouts. The fields of a layout are followed in the layouts
registered before it, so both are recursive in that list, and a struct that is not in it is an
unknown one.
-/

namespace RemoteCall

namespace Codec

/-! ## Writing -/

/-- What a write appended, and how it ended. -/
structure Written where
  bytes : Bytes
  result : Except Error Unit

namespace Written

/-- A write that appended everything. -/
def done (bytes : Bytes) : Written := ⟨bytes, .ok ()⟩

/-- A write that appended nothing and failed. -/
def failed (e : Error) : Written := ⟨[], .error e⟩

/-- Go on with another write unless the first one failed. -/
def andThen (first : Written) (next : Unit → Written) : Written :=
  match first.result with
  | .ok () =>
    let second := next ()
    ⟨first.bytes ++ second.bytes, second.result⟩
  | .error _ => first

end Written

/-- Write a value under a type that is not followed into a layout. -/
def writeLeaf : Ty → Value → Written
  | .int32, .int32 v => .done (LittleEndian.writeInt32 v)
  | .int64, .int64 v => .done (LittleEndian.writeInt64 v)
  | .double, .double bits => .done (LittleEndian.writeUInt64 bits)
  | .string, .string text =>
    match writeString text with
    | .ok bytes => .done bytes
    | .error fault => .failed (.encode fault)
  | .struct name, .struct typeName given =>
    if typeName = name then .failed (.config (.unknownStruct name))
    else .failed (.encode (.mismatch name (Value.struct typeName given).kind))
  | type, value => .failed (.encode (.mismatch type.name value.kind))

/-- Write the fields of a layout, each from the first value given under its name. -/
def writeFields (write : Ty → Value → Written) (struct : String) (given : FieldValues) :
    List Field → Written
  | [] => .done []
  | field :: rest =>
    match given.get? field.name with
    | none => .failed (.encode (.missingField struct field.name))
    | some value =>
      (write field.type value).andThen fun _ => writeFields write struct given rest

/-- Write a value under a type, following structs in a list of layouts. -/
def writeIn : List Layout → Ty → Value → Written
  | layout :: older, .struct name, .struct typeName given =>
    if typeName = name ∧ layout.name = name then
      writeFields (writeIn older) name given layout.fields
    else writeIn older (.struct name) (.struct typeName given)
  | _, type, value => writeLeaf type value

/-- Write values one after the other under their types, as far as there are both. -/
def writeEach (write : Ty → Value → Written) : List Ty → List Value → Written
  | type :: types, value :: values =>
    (write type value).andThen fun _ => writeEach write types values
  | _, _ => .done []

/-- Write a value under a type. -/
def writeValue (registry : Registry) (type : Ty) (value : Value) : Written :=
  writeIn registry.layouts type value

/-- Write as many values as there are types, each under its own. -/
def writeValues (registry : Registry) (types : List Ty) (values : List Value) : Written :=
  if values.length = types.length then writeEach (writeValue registry) types values
  else .failed (.encode (.countMismatch values.length types.length))

/-! ## Reading -/

/-- How a read ended, and the bytes after what it consumed. -/
abbrev Reading (α : Type) := Except Error α × Bytes

/-- A read of a primitive consumes nothing when it fails. -/
def Reading.ofPrimitive {α β : Type} (bytes : Bytes) (make : α → β)
    (read : Except DecodeFault (α × Bytes)) : Reading β :=
  match read with
  | .ok (v, rest) => (.ok (make v), rest)
  | .error fault => (.error (.decode fault), bytes)

/-- Go on with what was read, unless the read failed. -/
def Reading.andThen {α β : Type} (first : Reading α) (next : α → Bytes → Reading β) :
    Reading β :=
  match first with
  | (.ok v, rest) => next v rest
  | (.error e, rest) => (.error e, rest)

/-- Read a value of a type that is not followed into a layout. -/
def readLeaf (type : Ty) (bytes : Bytes) : Reading Value :=
  match type with
  | .int32 => .ofPrimitive bytes .int32 (readInt32 bytes)
  | .int64 => .ofPrimitive bytes .int64 (readInt64 bytes)
  | .double => .ofPrimitive bytes .double (readDouble bytes)
  | .string => .ofPrimitive bytes .string (readString bytes)
  | .struct name => (.error (.config (.unknownStruct name)), bytes)

/-- Read the fields of a layout, in order. -/
def readFields (read : Ty → Bytes → Reading Value) : List Field → Bytes → Reading FieldValues
  | [], bytes => (.ok [], bytes)
  | field :: rest, bytes =>
    Reading.andThen (read field.type bytes) fun value bytes =>
      Reading.andThen (readFields read rest bytes) fun values bytes =>
        (.ok ((field.name, value) :: values), bytes)

/-- Read a value of a type, following structs in a list of layouts. -/
def readIn : List Layout → Ty → Bytes → Reading Value
  | layout :: older, .struct name, bytes =>
    if layout.name = name then
      Reading.andThen (readFields (readIn older) layout.fields bytes) fun values bytes =>
        (.ok (.struct name values), bytes)
    else readIn older (.struct name) bytes
  | _, type, bytes => readLeaf type bytes

/-- Read one value per type, in order. -/
def readEach (read : Ty → Bytes → Reading Value) : List Ty → Bytes → Reading (List Value)
  | [], bytes => (.ok [], bytes)
  | type :: types, bytes =>
    Reading.andThen (read type bytes) fun value bytes =>
      Reading.andThen (readEach read types bytes) fun values bytes =>
        (.ok (value :: values), bytes)

/-- Read a value of a type. -/
def readValue (registry : Registry) (type : Ty) (bytes : Bytes) : Reading Value :=
  readIn registry.layouts type bytes

/-- Read one value per type, in order. -/
def readValues (registry : Registry) (types : List Ty) (bytes : Bytes) : Reading (List Value) :=
  readEach (readValue registry) types bytes

/-- Read one value per type from bytes that hold nothing else. -/
def readExactly (registry : Registry) (types : List Ty) (bytes : Bytes) : Option (List Value) :=
  match readValues registry types bytes with
  | (.ok values, []) => some values
  | _ => none

end Codec

end RemoteCall
