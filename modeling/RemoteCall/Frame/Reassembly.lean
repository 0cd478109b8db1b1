import RemoteCall.Frame.Basic

/-!
# Reassembling frames

Bytes arrive in pieces that need not end where frames do. A `Reassembly` keeps the bytes of the
frame in progress and hands on every frame as soon as it is complete.

An invalid envelope stays at the front of the kept bytes, so it is found again by every later
push: a stream that broke framing stays broken until the reassembly is cleared.
-/

namespace RemoteCall

/-- The bytes of the frame in progress. -/
structure Reassembly where
  /-- The largest payload that is accepted. -/
  limit : UInt32
  /-- The envelope of the frame in progress, once it is complete. -/
  awaited : Option Header
  /-- The bytes behind that envelope, or of the envelope while it is not complete. -/
  buffered : Bytes
  deriving DecidableEq, Repr, Inhabited

namespace Reassembly

/-- Nothing has arrived. -/
def fresh (limit : UInt32) : Reassembly := ⟨limit, none, []⟩

/-- Forget everything that has arrived. -/
def clear (reassembly : Reassembly) : Reassembly := fresh reassembly.limit

/-- The number of kept bytes. -/
def size (reassembly : Reassembly) : Nat := reassembly.buffered.length

/-- Whether no byte is kept. -/
def isEmpty (reassembly : Reassembly) : Bool := reassembly.buffered.isEmpty

/-- The frames found in a byte string, what stopped the search, and what is left. -/
structure Extraction where
  frames : List Frame
  fault : Option FrameFault
  awaited : Option Header
  buffered : Bytes
  deriving DecidableEq, Repr

/-- Put a frame before those found behind it. -/
def Extraction.after (frame : Frame) (rest : Extraction) : Extraction :=
  { rest with frames := frame :: rest.frames }

/-- Take complete frames from the front of a byte string until one is incomplete or invalid. An
envelope without payload is a complete frame. -/
def extract (limit : UInt32) (awaited : Option Header) (bytes : Bytes) : Extraction :=
  match awaited with
  | some header =>
    if (bytes.take header.payloadLength.toNat).length < header.payloadLength.toNat then
      ⟨[], none, some header, bytes⟩
    else
      (extract limit none (bytes.drop header.payloadLength.toNat)).after
        ⟨header, bytes.take header.payloadLength.toNat⟩
  | none =>
    if _h : bytes.length < Header.width then ⟨[], none, none, bytes⟩
    else
      match Header.decode bytes with
      | .error fault => ⟨[], some fault, none, bytes⟩
      | .ok none => ⟨[], none, none, bytes⟩
      | .ok (some header) =>
        match header.validate limit with
        | .error fault => ⟨[], some fault, none, bytes⟩
        | .ok () =>
          if header.payloadLength = 0 then
            (extract limit none (bytes.drop Header.width)).after ⟨header, []⟩
          else extract limit (some header) (bytes.drop Header.width)
termination_by (bytes.length, if awaited.isSome then 1 else 0)
decreasing_by
  · simp only [Prod.lex_def, List.length_drop, Option.isSome_some, Option.isSome_none]
    simp
    omega
  all_goals
    simp only [Prod.lex_def, List.length_drop, Header.width] at *
    omega

/-- Take in a piece of the stream. The frames that it completes are returned unless the stream
breaks framing, which loses those before the break in the same piece. -/
def push (reassembly : Reassembly) (piece : Bytes) :
    Except FrameFault (List Frame) × Reassembly :=
  let found := extract reassembly.limit reassembly.awaited (reassembly.buffered ++ piece)
  (match found.fault with
    | none => .ok found.frames
    | some fault => .error fault,
   { reassembly with awaited := found.awaited, buffered := found.buffered })

/-- Take in pieces one after the other, up to the first that breaks framing. Returns the frames of
the pieces before it, and the fault. -/
def pushAll (reassembly : Reassembly) :
    List Bytes → (List Frame × Option FrameFault) × Reassembly
  | [] => (([], none), reassembly)
  | piece :: rest =>
    match reassembly.push piece with
    | (.error fault, reassembly) => (([], some fault), reassembly)
    | (.ok frames, reassembly) =>
      let ((more, fault), reassembly) := reassembly.pushAll rest
      ((frames ++ more, fault), reassembly)

end Reassembly

end RemoteCall
