import RemoteCall.Codec.Values

/-!
# The marshal buffer

A buffer of unread bytes: writes append at the end, reads consume from the front.  Every operation
returns the buffer it leaves, also when it fails.

A write that fails leaves what it has appended so far, and a read that fails has consumed what it
has read so far.  Both stop between two primitives, and a primitive is written or read as a whole or
not at all.
-/

namespace RemoteCall

/-- Bytes that were written and not yet read. -/
structure Buffer where
  unread : Bytes
  deriving DecidableEq, Repr, Inhabited

namespace Buffer

open Codec

/-- The buffer without content. -/
def empty : Buffer := ⟨[]⟩

/-- The number of unread bytes. -/
def size (buffer : Buffer) : Nat := buffer.unread.length

/-- Whether everything written has been read. -/
def isEmpty (buffer : Buffer) : Bool := buffer.unread.isEmpty

/-! ## Writing -/

/-- Append what a write produced. -/
def append (buffer : Buffer) (written : Written) : Except Error Unit × Buffer :=
  (written.result, ⟨buffer.unread ++ written.bytes⟩)

/-- Append a signed 32-bit integer. -/
def writeInt32 (buffer : Buffer) (v : Int32) : Buffer :=
  ⟨buffer.unread ++ LittleEndian.writeInt32 v⟩

/-- Append a signed 64-bit integer. -/
def writeInt64 (buffer : Buffer) (v : Int64) : Buffer :=
  ⟨buffer.unread ++ LittleEndian.writeInt64 v⟩

/-- Append a double. -/
def writeDouble (buffer : Buffer) (bits : UInt64) : Buffer :=
  ⟨buffer.unread ++ LittleEndian.writeUInt64 bits⟩

/-- Append a string behind its length. -/
def writeString (buffer : Buffer) (text : String) : Except Error Unit × Buffer :=
  buffer.append (writeLeaf .string (.string text))

/-- Append a value under its type. -/
def writeValue (buffer : Buffer) (registry : Registry) (type : Ty) (value : Value) :
    Except Error Unit × Buffer :=
  buffer.append (Codec.writeValue registry type value)

/-- Append values under their types. -/
def writeValues (buffer : Buffer) (registry : Registry) (types : List Ty)
    (values : List Value) : Except Error Unit × Buffer :=
  buffer.append (Codec.writeValues registry types values)

/-! ## Reading -/

/-- Keep what a read left. -/
def ofReading {α : Type} (reading : Reading α) : Except Error α × Buffer :=
  (reading.1, ⟨reading.2⟩)

/-- Consume a signed 32-bit integer. -/
def readInt32 (buffer : Buffer) : Except Error Int32 × Buffer :=
  ofReading (.ofPrimitive buffer.unread id (Codec.readInt32 buffer.unread))

/-- Consume a signed 64-bit integer. -/
def readInt64 (buffer : Buffer) : Except Error Int64 × Buffer :=
  ofReading (.ofPrimitive buffer.unread id (Codec.readInt64 buffer.unread))

/-- Consume a double. -/
def readDouble (buffer : Buffer) : Except Error UInt64 × Buffer :=
  ofReading (.ofPrimitive buffer.unread id (Codec.readDouble buffer.unread))

/-- Consume a string. -/
def readString (buffer : Buffer) : Except Error String × Buffer :=
  ofReading (.ofPrimitive buffer.unread id (Codec.readString buffer.unread))

/-- Consume a value of a type. -/
def readValue (buffer : Buffer) (registry : Registry) (type : Ty) :
    Except Error Value × Buffer :=
  ofReading (Codec.readValue registry type buffer.unread)

/-- Consume one value per type. -/
def readValues (buffer : Buffer) (registry : Registry) (types : List Ty) :
    Except Error (List Value) × Buffer :=
  ofReading (Codec.readValues registry types buffer.unread)

end Buffer

end RemoteCall
