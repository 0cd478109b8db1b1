import RemoteCall.Frame.Header

/-!
# Frames

A frame is an envelope with its payload.  A request carries a call ID and the arguments; a reply
carries the request's transaction ID, a status and the results.

The envelope does not say which of the two a frame is.  The same word of it is the call ID of a
request and the status of a reply, and each end knows what it is sent: a server reads requests and a
client reads replies.
-/

namespace RemoteCall

/-- An envelope and the bytes behind it. -/
structure Frame where
  header : Header
  payload : Bytes
  deriving DecidableEq, Repr, Inhabited

namespace Frame

/-- The frame of a payload: the envelope announces its length. -/
def ofPayload (xid : Int64) (tag : Int32) (payload : Bytes) : Frame :=
  ⟨⟨xid, tag, UInt32.ofNat payload.length⟩, payload⟩

/-- A request to run a call on encoded arguments. -/
def request (xid : Int64) (callId : Int32) (arguments : Bytes) : Frame :=
  ofPayload xid callId arguments

/-- A reply with encoded results. -/
def reply (xid : Int64) (status : Status) (results : Bytes) : Frame :=
  ofPayload xid status results

/-- A reply that only says why a request failed. -/
def errorReply (xid : Int64) (status : Status) : Frame := reply xid status []

/-- The transaction ID. -/
def xid (frame : Frame) : Int64 := frame.header.xid

/-- The tag of a request. -/
def callId (frame : Frame) : Int32 := frame.header.tag

/-- The tag of a reply. -/
def status (frame : Frame) : Status := frame.header.tag

/-- The bytes of a frame on the wire. -/
def encode (frame : Frame) : Bytes := frame.header.encode ++ frame.payload

/-- The number of bytes of a frame on the wire. -/
def size (frame : Frame) : Nat := Header.width + frame.payload.length

/-- The parts of a frame that are written: the envelope, and the payload unless it is empty. -/
def slices (frame : Frame) : List Bytes :=
  if frame.payload = [] then [frame.header.encode] else [frame.header.encode, frame.payload]

/-- The frame at the front of a byte string and what follows it, if it is complete and valid. -/
def front? (bytes : Bytes) : Option (Frame × Bytes) :=
  match Header.decode bytes with
  | .ok (some header) =>
    let content := bytes.drop Header.width
    let payload := content.take header.payloadLength.toNat
    if payload.length < header.payloadLength.toNat then none
    else some (⟨header, payload⟩, content.drop header.payloadLength.toNat)
  | _ => none

/-- Up to `n` complete frames from the front of a byte string, and what follows them. -/
def takeFront : (n : Nat) → Bytes → List Frame × Bytes
  | 0, bytes => ([], bytes)
  | n + 1, bytes =>
    match front? bytes with
    | none => ([], bytes)
    | some (frame, rest) =>
      let (frames, rest) := takeFront n rest
      (frame :: frames, rest)

/-- The order of frames by transaction ID, then tag, then payload. -/
def before (a b : Frame) : Bool :=
  decide (a.xid < b.xid) ||
    (a.xid == b.xid &&
      (decide (a.header.tag < b.header.tag) ||
        (a.header.tag == b.header.tag && decide (a.payload ≤ b.payload))))

@[simp] theorem length_encode (frame : Frame) : frame.encode.length = frame.size := by
  simp [encode, size]

@[simp] theorem flatten_slices (frame : Frame) : frame.slices.flatten = frame.encode := by
  unfold slices encode
  split <;> simp_all

end Frame

end RemoteCall
