import RemoteCall.Call.Future
import RemoteCall.Frame.Basic
import RemoteCall.Machine
import RemoteCall.Service

/-!
# The client

A client gives every call a transaction ID, remembers it as pending, and resolves it once: with the
first reply that carries its ID, or without a reply when the call cannot be sent, is given up, or
loses its connection.

A call may have a callback. Callbacks are kept in a table under IDs of their own. When a call is
resolved by the reader, the ID of its callback is queued, and the delivery thread runs the callbacks
of the queue one at a time; when it is resolved by its own caller, or after delivery has stopped,
the resolving thread runs the callback itself.

`Client` is the state between two actions, each of which happens under one lock. Callbacks are of
any type `κ`: the client never looks into them, it only says when one is invoked, with what and by
whom. What a callback then does to the client is further actions.

## Closing

Closing takes three actions: delivery stops, the pending calls are failed, and the callbacks that
are left are dropped. Other actions may come between them.

After the first one the closing thread joins the delivery thread, which ends when the callback is
over that it is in; only if a callback on the delivery thread closes the client, nothing is joined.
`Client` says what each action does, and nothing of how long a thread waits before it. So among its
runs are some in which the closing thread does not wait as long as it has to, and what is proved of
all of them holds of those in which it does. Whether a close comes to its end depends on the join,
and is a matter of the threads: see `Joining`.
-/

namespace RemoteCall

/-- What a caller asks for. -/
structure Request where
  callId : CallId
  args : List Value
  argTypes : List Ty
  resultTypes : List Ty
  deriving Repr

/-- The encoded arguments of a request, unless it may not be issued: a type is not known, the
arguments do not fit their types, or there are too many bytes. -/
def Request.encode (registry : Registry) (limit : UInt32) (request : Request) :
    Except Error Bytes :=
  match registry.checkAll request.argTypes with
  | .error e => .error e
  | .ok () =>
    match registry.checkAll request.resultTypes with
    | .error e => .error e
    | .ok () =>
      let written := Codec.writeValues registry request.argTypes request.args
      match written.result with
      | .error e => .error e
      | .ok () =>
        if limit.toNat < written.bytes.length then
          .error (.encode (.requestTooLarge written.bytes.length limit))
        else .ok written.bytes

/-- Who runs a callback. -/
inductive Runner where
  /-- The thread that issued the call, or gave it up. -/
  | caller
  /-- The delivery thread of the client. -/
  | delivery
  /-- The reader of the connection. -/
  | reader
  /-- The thread that closes the client. -/
  | closer
  deriving DecidableEq, Repr

/-- One run of a callback. -/
structure Invocation (κ : Type) where
  callback : κ
  result : CallResult
  runner : Runner
  deriving Repr

/-- A call that is not resolved. -/
structure PendingCall where
  xid : Int64
  /-- The ID of its callback, if it has one. -/
  callback : Option UInt64
  deriving DecidableEq, Repr

/-- How far closing has come. -/
inductive Closing where
  | notClosed
  | deliveryStopped
  | callsFailed
  | closed
  deriving DecidableEq, Repr

/-- A client between two actions. -/
structure Client (κ : Type) where
  registry : Registry
  maxPayload : UInt32
  /-- Calls are still taken on: the connection has not gone down. -/
  isOpen : Bool
  closing : Closing
  nextXid : Int64
  pending : List PendingCall
  /-- The slots of all calls, by transaction ID. -/
  futures : List (Int64 × Future)
  nextCallback : UInt64
  /-- The callbacks that were not yet taken out to be run. -/
  callbacks : List (UInt64 × κ)
  /-- The callbacks to be run by the delivery thread, with the calls that they belong to. -/
  deliveries : List (UInt64 × Int64)

namespace Client

variable {κ : Type}

/-- A client on a new connection. -/
def connected (registry : Registry) (maxPayload : UInt32) : Client κ where
  registry
  maxPayload
  isOpen := true
  closing := .notClosed
  nextXid := 1
  pending := []
  futures := []
  nextCallback := 1
  callbacks := []
  deliveries := []

/-- Whether calls can be made: the connection is up and nobody has closed the client. -/
def isConnected (client : Client κ) : Bool :=
  client.isOpen && decide (client.closing = .notClosed)

/-- Whether the delivery thread takes no more callbacks. -/
def deliveryStopped (client : Client κ) : Bool := decide (client.closing ≠ .notClosed)

/-- The slot of a call. -/
def future? (client : Client κ) (xid : Int64) : Option Future := client.futures.lookup xid

/-- The decoded outcome of a call that is resolved. -/
def result? (client : Client κ) (xid : Int64) : Option CallResult :=
  (client.future? xid).bind (·.result? client.registry)

/-- The entry of a pending call. -/
def pendingCall? (client : Client κ) (xid : Int64) : Option PendingCall :=
  client.pending.find? (·.xid = xid)

/-- What an action did, as seen from outside. -/
inductive Effect (κ : Type) where
  /-- A call was given its transaction ID. -/
  | issued (xid : Int64)
  /-- A call was not issued. -/
  | refused (e : Error)
  /-- A request is to be sent. -/
  | transmit (frame : Frame)
  /-- A callback was run. -/
  | invoked (invocation : Invocation κ)
  deriving Repr

/-! ## Futures and callbacks -/

/-- Change the slot of a call. -/
def updateFuture (client : Client κ) (xid : Int64) (change : Future → Future) : Client κ :=
  { client with
    futures := client.futures.map fun entry =>
      if entry.1 = xid then (entry.1, change entry.2) else entry }

/-- Resolve the slot of a call. -/
def resolve (client : Client κ) (xid : Int64) (status : Status) (payload : Option Bytes) :
    Client κ :=
  client.updateFuture xid fun future => (future.resolve status payload).2

/-- Take a callback out of the table. -/
def dropCallback (client : Client κ) (id : UInt64) : Client κ :=
  { client with callbacks := client.callbacks.filter (·.1 ≠ id) }

/-- Run a callback, if it is still in the table, with the outcome of its call. -/
def runCallback (client : Client κ) (id : UInt64) (xid : Int64) (runner : Runner) :
    Client κ × List (Effect κ) :=
  match client.callbacks.lookup id, client.result? xid with
  | some callback, some result =>
    (client.dropCallback id, [.invoked ⟨callback, result, runner⟩])
  | _, _ => (client.dropCallback id, [])

/-- Resolve a call that was taken out of the pending ones. Its callback is queued for the delivery
thread, or is run at once if that has stopped. -/
def complete (client : Client κ) (call : PendingCall) (status : Status)
    (payload : Option Bytes) (runner : Runner) : Client κ × List (Effect κ) :=
  let client := client.resolve call.xid status payload
  match call.callback with
  | none => (client, [])
  | some id =>
    if client.deliveryStopped then client.runCallback id call.xid runner
    else ({ client with deliveries := client.deliveries ++ [(id, call.xid)] }, [])

/-- Resolve a call that failed before it was sent, and run its callback at once. -/
def failLocally (client : Client κ) (call : PendingCall) (status : Status) :
    Client κ × List (Effect κ) :=
  let client := client.resolve call.xid status none
  match call.callback with
  | none => (client, [])
  | some id => client.runCallback id call.xid .caller

/-- Take a call out of the pending ones. -/
def removePending (client : Client κ) (xid : Int64) : Client κ :=
  { client with pending := client.pending.filter (·.xid ≠ xid) }

/-! ## Issuing -/

/-- Put a callback into the table. -/
def addCallback (client : Client κ) (callback : κ) : Client κ :=
  { client with
    nextCallback := client.nextCallback + 1
    callbacks := (client.nextCallback, callback) :: client.callbacks }

/-- Issue a call. A request that may not be issued leaves no trace; without a connection the call
is issued and fails at once. -/
def issue (client : Client κ) (request : Request) (callback : Option κ) :
    Client κ × List (Effect κ) :=
  match request.encode client.registry client.maxPayload with
  | .error e => (client, [.refused e])
  | .ok arguments =>
    let xid := client.nextXid
    let call : PendingCall := ⟨xid, callback.map fun _ => client.nextCallback⟩
    let client := (callback.map client.addCallback).getD client
    let client := { client with
      nextXid := xid + 1
      futures := (xid, .unresolved request.resultTypes) :: client.futures }
    if client.isOpen then
      ({ client with pending := client.pending ++ [call] },
        [.issued xid, .transmit (.request xid request.callId arguments)])
    else
      let (client, effects) := client.failLocally call Status.notConnected
      (client, .issued xid :: effects)

/-- The status of a call whose request the writer did not take. -/
def unsentStatus : Error → Status
  | .backpressureTimeout => Status.timedOut
  | _ => Status.notConnected

/-- The request of a call could not be sent. The call may have been resolved meanwhile. -/
def sendFailed (client : Client κ) (xid : Int64) (e : Error) : Client κ × List (Effect κ) :=
  match client.pendingCall? xid with
  | none => (client, [])
  | some call => (client.removePending xid).failLocally call (unsentStatus e)

/-- The caller gives a call up, unless its reply came first. -/
def abandon (client : Client κ) (xid : Int64) : Client κ × List (Effect κ) :=
  match client.pendingCall? xid with
  | none => (client, [])
  | some call => (client.removePending xid).complete call Status.timedOut none .caller

/-! ## The connection -/

/-- A reply has arrived. One for a call that is not pending is dropped. -/
def receive (client : Client κ) (frame : Frame) : Client κ × List (Effect κ) :=
  match client.pendingCall? frame.xid with
  | none => (client, [])
  | some call =>
    (client.removePending frame.xid).complete call frame.status (some frame.payload) .reader

/-- Resolve calls one after the other with the same status and no reply. -/
def completeAll (client : Client κ) (status : Status) (runner : Runner) :
    List PendingCall → Client κ × List (Effect κ)
  | [] => (client, [])
  | call :: rest =>
    let (client, effects) := client.complete call status none runner
    let (client, more) := client.completeAll status runner rest
    (client, effects ++ more)

/-- The connection goes down: no call is taken on any more, and all pending calls fail, in the
order of their transaction IDs. -/
def disconnect (client : Client κ) (status : Status) (runner : Runner) :
    Client κ × List (Effect κ) :=
  let calls := client.pending.mergeSort fun a b => a.xid ≤ b.xid
  { client with isOpen := false, pending := [] }.completeAll status runner calls

/-- The delivery thread runs the next callback of its queue. -/
def deliver (client : Client κ) : Client κ × List (Effect κ) :=
  match client.deliveries with
  | [] => (client, [])
  | (id, xid) :: rest => { client with deliveries := rest }.runCallback id xid .delivery

/-! ## Closing -/

/-- The delivery thread is told to stop: it starts no more callbacks, and what is queued for it is
forgotten. The closing thread joins it before its next action. -/
def stopDelivery (client : Client κ) : Client κ :=
  { client with closing := .deliveryStopped, deliveries := [] }

/-- The closing thread fails the pending calls. -/
def failPending (client : Client κ) : Client κ × List (Effect κ) :=
  { client with closing := .callsFailed }.disconnect Status.clientClosed .closer

/-- The callbacks that are left are dropped. -/
def clearCallbacks (client : Client κ) : Client κ :=
  { client with closing := .closed, callbacks := [] }

/-- The next action of closing. Between the first and the second one the closing thread joins the
delivery thread. -/
def closeNext (client : Client κ) : Client κ × List (Effect κ) :=
  match client.closing with
  | .notClosed => (client.stopDelivery, [])
  | .deliveryStopped => client.failPending
  | .callsFailed => (client.clearCallbacks, [])
  | .closed => (client, [])

/-- Close the client with nothing in between, as a thread does that need not wait for the delivery
thread. A client that is closed, or being closed, is left alone. -/
def close (client : Client κ) : Client κ × List (Effect κ) :=
  match client.closing with
  | .notClosed =>
    let (client, effects) := client.stopDelivery.failPending
    (client.clearCallbacks, effects)
  | _ => (client, [])

/-! ## Steps -/

/-- An action on a client. -/
inductive Event (κ : Type) where
  | issue (request : Request) (callback : Option κ)
  | sendFailed (xid : Int64) (e : Error)
  | abandon (xid : Int64)
  | receive (frame : Frame)
  /-- The reader has ended. -/
  | connectionLost
  | deliver
  | closeNext
  | close
  deriving Repr

/-- Run one action. -/
def step (client : Client κ) : Event κ → Client κ × List (Effect κ)
  | .issue request callback => client.issue request callback
  | .sendFailed xid e => client.sendFailed xid e
  | .abandon xid => client.abandon xid
  | .receive frame => client.receive frame
  | .connectionLost => client.disconnect Status.connectionReset .reader
  | .deliver => client.deliver
  | .closeNext => client.closeNext
  | .close => client.close

/-- Run actions one after the other. -/
def run (client : Client κ) (events : List (Event κ)) : Client κ × List (Effect κ) :=
  Machine.run step client events

end Client

end RemoteCall
