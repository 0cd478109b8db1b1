import RemoteCall.Error

/-!
# The frame envelope

Every frame starts with sixteen bytes: the size of everything behind the size itself, the
transaction ID that ties a reply to its request, and a tag, which is the call ID on a request and
the status on a reply. All three are little-endian.

The size is read as a signed word. A size below the twelve bytes of the rest of the envelope
belongs to no frame, so the largest payload is what a positive signed word can announce.
-/

namespace RemoteCall

/-- The envelope of a frame. -/
structure Header where
  xid : Int64
  tag : Int32
  payloadLength : UInt32
  deriving DecidableEq, Repr, Inhabited

namespace Header

open LittleEndian

/-- The number of bytes of an envelope. -/
def width : Nat := 16

/-- The bytes of an envelope that its size counts. -/
def overhead : UInt32 := 12

/-- The payload limit unless a setting says otherwise: 64 MiB. -/
def defaultLimit : UInt32 := 67108864

/-- The largest payload that the size of a frame can announce. -/
def protocolLimit : UInt32 := 2147483635

/-- The size of a frame as its envelope says it. -/
def sizeField (header : Header) : UInt32 := header.payloadLength + overhead

/-- The sixteen bytes of an envelope. -/
def encode (header : Header) : Bytes :=
  writeUInt32 header.sizeField ++ writeInt64 header.xid ++ writeInt32 header.tag

/-- Write the envelope over the front of a buffer that has room for it. -/
def encodeInto? (header : Header) (buffer : Bytes) : Option Bytes :=
  if buffer.length < width then none else some (header.encode ++ buffer.drop width)

/-- Read the envelope at the front of a byte string; there is none yet while it is shorter than
an envelope. -/
def decode (bytes : Bytes) : Except FrameFault (Option Header) :=
  if (bytes.take width).length < width then .ok none
  else
    let size := readInt32 (bytes.take 4)
    if size < 12 then .error (.undersized size)
    else
      .ok (some
        { xid := readInt64 ((bytes.drop 4).take 8)
          tag := readInt32 ((bytes.drop 12).take 4)
          payloadLength := size.toUInt32 - overhead })

/-- Refuse a payload above a limit. -/
def validate (header : Header) (limit : UInt32) : Except FrameFault Unit :=
  if limit < header.payloadLength then .error (.oversized header.payloadLength limit) else .ok ()

@[simp] theorem length_encode (header : Header) : header.encode.length = width := by
  simp [encode, width]

end Header

end RemoteCall
