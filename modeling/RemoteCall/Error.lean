import RemoteCall.Status
import RemoteCall.Text.Utf8

/-!
# Errors

Every operation fails with an `Error`. Its constructor says which part refused, and where the
part knows its own causes the error carries the cause rather than a text; the wording is
`Error.message`. Each error also has a `Status`, the one under which it would travel in a reply.

A cause known only by its wording (for instance one that another program reported) is `reported`.
-/

namespace RemoteCall

/-! ## Causes -/

/-- What a read expected to find. -/
inductive Item where
  | int32
  | int64
  | double
  | stringLength
  deriving DecidableEq, Repr

namespace Item

/-- How many bytes the item takes. -/
def width : Item → Nat
  | int32 => 4
  | int64 => 8
  | double => 8
  | stringLength => 4

/-- The item's name in messages. -/
def name : Item → String
  | int32 => "i32"
  | int64 => "i64"
  | double => "double"
  | stringLength => "string length"

end Item

/-- Why bytes do not spell a value. -/
inductive DecodeFault where
  /-- The unread bytes are fewer than the item takes. -/
  | short (item : Item) (available : Nat)
  | negativeLength (length : Int32)
  | truncatedString (length available : Nat)
  | notText (fault : Utf8.Fault)
  | reported (text : String)
  deriving DecidableEq, Repr

/-- The wording of a decode fault. -/
def DecodeFault.message : DecodeFault → String
  | .short item available =>
    s!"need {item.width} bytes for {item.name}, {available} available"
  | .negativeLength length => s!"negative string length {length.toInt}"
  | .truncatedString length available =>
    s!"truncated string: length {length} but {available} bytes available"
  | .notText fault => s!"string is not UTF-8: {fault.message}"
  | .reported text => text

/-- Why a value cannot be written under its type. -/
inductive EncodeFault where
  /-- The string's length does not fit its prefix. -/
  | stringTooLong (size : Nat)
  | missingField (struct field : String)
  | mismatch (expected got : String)
  | countMismatch (values types : Nat)
  | requestTooLarge (size : Nat) (limit : UInt32)
  | reported (text : String)
  deriving DecidableEq, Repr

/-- The wording of an encode fault. -/
def EncodeFault.message : EncodeFault → String
  | .stringTooLong size => s!"string of {size} bytes exceeds i32 length"
  | .missingField struct field => s!"{struct} is missing field {field}"
  | .mismatch expected got => s!"expected {expected}, got {got}"
  | .countMismatch values types => s!"{values} values for {types} declared types"
  | .requestTooLarge size limit =>
    s!"request payload of {size} bytes exceeds maximum {limit.toNat}"
  | .reported text => text

/-- Why a schema, a registration or a setting is refused. -/
inductive ConfigFault where
  | emptyStructName
  | shadowsPrimitive (name : String)
  | structExists (name : String)
  | repeatedField (struct field : String)
  | unknownStruct (name : String)
  /-- The call ID of the registration with this label is taken. -/
  | callTaken (label : String)
  | noHandlerSlots
  | payloadLimit (limit protocolLimit : UInt32)
  | noChannelRoom
  | noIoThreads
  | pollShutDown
  | alreadyListening (address : String)
  | reported (text : String)
  deriving DecidableEq, Repr

/-- The wording of a configuration fault. -/
def ConfigFault.message : ConfigFault → String
  | .emptyStructName => "struct name must not be empty"
  | .shadowsPrimitive name => s!"struct name {name} shadows a primitive type"
  | .structExists name => s!"struct {name} is already registered"
  | .repeatedField struct field => s!"struct {struct} repeats field {field}"
  | .unknownStruct name => s!"struct {name} is not registered"
  | .callTaken label => s!"call {label} is already registered"
  | .noHandlerSlots => "max_concurrent_handlers must be at least 1"
  | .payloadLimit limit protocolLimit =>
    s!"max_payload_size {limit.toNat} exceeds the protocol limit {protocolLimit.toNat}"
  | .noChannelRoom => "channel_capacity must be at least 1"
  | .noIoThreads => "poll manager needs at least one I/O thread"
  | .pollShutDown => "poll manager is shut down"
  | .alreadyListening address => s!"server is already listening on {address}"
  | .reported text => text

/-- Why a stream of bytes breaks framing. -/
inductive FrameFault where
  /-- The size prefix does not cover the rest of the envelope. -/
  | undersized (size : Int32)
  | oversized (length limit : UInt32)
  | reported (text : String)
  deriving DecidableEq, Repr

/-- The wording of a frame fault. -/
def FrameFault.message : FrameFault → String
  | .undersized size => s!"Frame size {size.toInt} is smaller than the 12-byte envelope"
  | .oversized length limit => s!"Payload size {length.toNat} exceeds maximum {limit.toNat}"
  | .reported text => text

/-- How a settings text fails: it is not well formed, it is well formed but does not say what the
settings need, or it ends too early. -/
inductive SettingsFault where
  | malformed
  | mistyped
  | truncated
  deriving DecidableEq, Repr

/-! ## Errors -/

/-- The failure of an operation. -/
inductive Error where
  /-- The operating system refused; the text is its own. -/
  | io (text : String)
  | settings (fault : SettingsFault)
  | decode (fault : DecodeFault)
  | encode (fault : EncodeFault)
  | config (fault : ConfigFault)
  | protocol (fault : FrameFault)
  | unknownCall (id : Int32)
  | handler (text : String)
  | notConnected
  | connectionClosed
  | timeout
  | replyTaken
  | backpressureTimeout
  deriving DecidableEq, Repr

namespace Error

/-- The eight hexadecimal digits of a 32-bit word. -/
def hexWord (w : UInt32) : String :=
  let digits := Nat.toDigits 16 w.toNat
  String.ofList (List.replicate (8 - digits.length) '0' ++ digits)

/-- The spelling of a call ID where no name is known. -/
def callLabel (id : Int32) : String := "0x" ++ hexWord id.toUInt32

/-- The wording of an error. The text of a settings fault is left to its reader. -/
def message : Error → String
  | .io text => s!"I/O error: {text}"
  | .settings _ => "JSON error"
  | .decode fault => s!"Decode error: {fault.message}"
  | .encode fault => s!"Encode error: {fault.message}"
  | .config fault => s!"Configuration error: {fault.message}"
  | .protocol fault => s!"Protocol error: {fault.message}"
  | .unknownCall id => s!"Unknown call ID: {callLabel id}"
  | .handler text => s!"Handler error: {text}"
  | .notConnected => "Not connected"
  | .connectionClosed => "Connection closed"
  | .timeout => "Timed out"
  | .replyTaken => "Reply already taken"
  | .backpressureTimeout => "Backpressure timeout"

/-- The status under which an error travels. -/
def status : Error → Status
  | .decode _ => Status.malformedReply
  | .unknownCall _ => Status.noHandler
  | .handler _ => Status.handlerFailed
  | .notConnected => Status.notConnected
  | .connectionClosed | .io _ | .protocol _ => Status.connectionReset
  | .timeout | .backpressureTimeout => Status.timedOut
  | .encode _ | .config _ | .settings _ | .replyTaken => Status.invalidArguments

end Error

end RemoteCall
