import RemoteCall.Frame.Header

/-!
# Settings

The settings of the parts of a process: the poll manager that drives the connections, the clients
and the server. Each part has its defaults, so a settings text needs to name only what it changes.
Times are in milliseconds.

`ClientSettings.validate` and `ServerSettings.validate` refuse settings under which no connection
could work.
-/

namespace RemoteCall

/-- The settings of a poll manager. -/
structure PollSettings where
  ioThreads : Nat := 1
  threadName : String := "wirecall-io"
  shutdownTimeout : Nat := 1000
  deriving DecidableEq, Repr, Inhabited

/-- How many frames may wait to be written, and how long a sender waits for room. -/
structure QueueSettings where
  /-- Frames that are counted as pending before senders wait. -/
  maxPending : Nat := 1024
  /-- Frames that the queue itself holds. -/
  capacity : Nat := 1024
  timeout : Nat := 5000
  deriving DecidableEq, Repr, Inhabited

/-- The settings of a client. -/
structure ClientSettings where
  connectTimeout : Nat := 5000
  /-- The deadline of a call that waits for its reply, if there is one. -/
  callTimeout : Option Nat := none
  /-- The largest payload, in both directions. -/
  maxPayload : UInt32 := Header.defaultLimit
  queue : QueueSettings := {}
  deriving DecidableEq, Repr, Inhabited

/-- The settings of a server. -/
structure ServerSettings where
  /-- Handlers that run at the same time, over all connections. -/
  maxHandlers : Nat := 256
  /-- The largest payload, in both directions. -/
  maxPayload : UInt32 := Header.defaultLimit
  queue : QueueSettings := {}
  deriving DecidableEq, Repr, Inhabited

/-- The settings of all parts of a process. -/
structure Settings where
  poll : PollSettings := {}
  client : ClientSettings := {}
  server : ServerSettings := {}
  deriving DecidableEq, Repr, Inhabited

/-- What every connection needs: payloads that an envelope can announce, and a queue that can hold
a frame. -/
def checkConnection (maxPayload : UInt32) (queue : QueueSettings) : Except Error Unit :=
  if Header.protocolLimit < maxPayload then
    .error (.config (.payloadLimit maxPayload Header.protocolLimit))
  else if queue.capacity = 0 then .error (.config .noChannelRoom)
  else .ok ()

/-- What passes the check can be announced. -/
theorem le_of_checkConnection {maxPayload : UInt32} {queue : QueueSettings}
    (passed : checkConnection maxPayload queue = .ok ()) : maxPayload ≤ Header.protocolLimit := by
  unfold checkConnection at passed
  split at passed
  · cases passed
  · next small => exact UInt32.not_lt.mp small

/-- Refuse client settings under which no connection could work. -/
def ClientSettings.validate (settings : ClientSettings) : Except Error Unit :=
  checkConnection settings.maxPayload settings.queue

/-- Refuse server settings under which no connection could work. -/
def ServerSettings.validate (settings : ServerSettings) : Except Error Unit :=
  if settings.maxHandlers = 0 then .error (.config .noHandlerSlots)
  else checkConnection settings.maxPayload settings.queue

/-- A poll manager needs a thread to run on. -/
def PollSettings.validate (settings : PollSettings) : Except Error Unit :=
  if settings.ioThreads = 0 then .error (.config .noIoThreads) else .ok ()

end RemoteCall
