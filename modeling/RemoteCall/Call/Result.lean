import RemoteCall.Codec.Values

/-!
# The outcome of a call

A call ends with a status and, if the status is success, the results. Results are read strictly
from the reply: a reply that holds more or less than the declared results is malformed, and then
no result at all is handed on.

An empty reply counts as no reply, and no reply counts as no results.
-/

namespace RemoteCall

/-- How a call ended. -/
structure CallResult where
  status : Status
  /-- The results in declared order; none if the call failed. -/
  results : List Value
  deriving Repr

namespace CallResult

/-- A call that succeeded. -/
def ok (results : List Value) : CallResult := ⟨Status.ok, results⟩

/-- A call that failed. -/
def failed (status : Status) : CallResult := ⟨status, []⟩

/-- Whether the call succeeded. -/
def isOk (result : CallResult) : Bool := result.status == Status.ok

/-- What the status says. -/
def message (result : CallResult) : String := Status.describe result.status

/-- The outcome that a status and a reply stand for, under the declared result types. -/
def ofReply (registry : Registry) (types : List Ty) (status : Status) (reply : Option Bytes) :
    CallResult :=
  if status ≠ Status.ok then failed status
  else
    match reply with
    | none => if types = [] then ok [] else failed Status.malformedReply
    | some bytes =>
      match Codec.readExactly registry types bytes with
      | some values => ok values
      | none => failed Status.malformedReply

/-- A failed status is kept, and nothing is read. -/
theorem ofReply_of_ne {registry : Registry} {types : List Ty} {status : Status}
    {reply : Option Bytes} (h : status ≠ Status.ok) :
    ofReply registry types status reply = failed status := by
  simp [ofReply, h]

end CallResult

end RemoteCall
