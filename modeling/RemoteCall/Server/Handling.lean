import RemoteCall.Codec.Values
import RemoteCall.Frame.Basic
import RemoteCall.Server.Functions

/-!
# Answering a request

A request is answered in three stages. Its payload has to be exactly the encoding of the declared
arguments; then the handler is called once; then its results have to fit the declared types and the
payload limit. Each stage has its own failure status, and a reply with a failure status is empty.
-/

namespace RemoteCall

/-- How a handler ends. -/
inductive Outcome where
  | returned (results : List Value)
  | failed (text : String)
  | panicked
  deriving Repr

/-- The handlers of a server: what each does with its arguments. -/
class Handles (η : Type) where
  run : η → List Value → Outcome

namespace Registration

variable {η : Type}

/-- The arguments of a request, if its payload encodes them and nothing else. -/
def arguments? (registration : Registration η) (registry : Registry) (payload : Bytes) :
    Option (List Value) :=
  Codec.readExactly registry registration.argTypes payload

/-- The encoded results, if they fit their types and the limit. -/
def encodeResults? (registration : Registration η) (registry : Registry) (limit : UInt32)
    (results : List Value) : Option Bytes :=
  let written := Codec.writeValues registry registration.resultTypes results
  match written.result with
  | .error _ => none
  | .ok () => if limit.toNat < written.bytes.length then none else some written.bytes

/-- The reply to a request whose handler ended. -/
def replyTo (registration : Registration η) (registry : Registry) (limit : UInt32)
    (xid : Int64) : Outcome → Frame
  | .failed _ | .panicked => .errorReply xid Status.handlerFailed
  | .returned results =>
    match registration.encodeResults? registry limit results with
    | none => .errorReply xid Status.handlerFailed
    | some bytes => .reply xid Status.ok bytes

/-- Answer a request: the reply, and the arguments with which the handler was called, if it was. -/
def answer [Handles η] (registration : Registration η) (registry : Registry) (limit : UInt32)
    (xid : Int64) (payload : Bytes) : Frame × Option (List Value) :=
  match registration.arguments? registry payload with
  | none => (.errorReply xid Status.invalidArguments, none)
  | some args =>
    (registration.replyTo registry limit xid (Handles.run registration.handler args), some args)

end Registration

end RemoteCall
