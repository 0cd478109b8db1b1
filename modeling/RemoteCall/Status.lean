/-!
# Status codes

A reply carries a status: zero for success, otherwise the reason of the failure. Both ends use the
same numbers, but a status read from a connection can be any 32-bit word.
-/

namespace RemoteCall

/-- The outcome of a call as it travels in a reply. -/
abbrev Status := Int32

namespace Status

/-- The call succeeded. -/
def ok : Status := 0

/-- The server has no handler under the call's ID. -/
def noHandler : Status := 2

/-- The client was closed while the call waited. -/
def clientClosed : Status := 9

/-- The server could not read the arguments. -/
def invalidArguments : Status := 22

/-- The client could not read the results. -/
def malformedReply : Status := 74

/-- The connection went down while the call waited. -/
def connectionReset : Status := 104

/-- The call was issued without a connection. -/
def notConnected : Status := 107

/-- The call was not answered, or could not be sent, in time. -/
def timedOut : Status := 110

/-- The handler failed, or its results do not fit its signature. -/
def handlerFailed : Status := 121

/-- What each known status says; an unknown one shows its number. -/
def describe (status : Status) : String :=
  if status = ok then "success"
  else if status = noHandler then "no handler registered for call ID"
  else if status = clientClosed then "client closed"
  else if status = invalidArguments then "invalid request arguments"
  else if status = malformedReply then "malformed reply"
  else if status = connectionReset then "connection reset"
  else if status = notConnected then "not connected"
  else if status = timedOut then "call timed out"
  else if status = handlerFailed then "remote handler failed"
  else s!"error code {status.toInt}"

end Status

end RemoteCall
