import RemoteCall.Client.Basic
import RemoteCall.Frame.Reassembly
import RemoteCall.Writer.Basic

/-!
# A client on its connection

A link joins a client with the two tasks of its connection.  The writer sends the requests.  The
reader reassembles replies and hands them to the client; when it ends, for whatever reason, the
client is disconnected.

The reader is spawned before it runs for the first time.  A reader that is dropped before that has
not begun, so it disconnects nothing.

The client does not know of the writer.  It shows the frames that it wants sent among its effects,
and the link hands them over (`transmit`).  A frame that the writer does not take fails its call at
once, and one that waits for room in the queue is remembered with its call.  A client that is
disconnected keeps no handle on the writer (`settle`), so that the task of the writer ends when it
has written what is queued.
-/

namespace RemoteCall

/-- The task that reads the replies. -/
inductive ReplyReader where
  /-- Spawned, and not run so far. -/
  | spawned
  | running
  | ended
  deriving DecidableEq, Repr

/-- A client and the tasks of its connection. -/
structure Link (κ : Type) where
  client : Client κ
  reader : ReplyReader
  reassembly : Reassembly
  writer : Writer
  /-- The calls whose requests wait for room in the queue of the writer, in its order. -/
  queueing : List Int64

namespace Link

variable {κ : Type}

open Client (Effect)

/-- A client on a new connection. -/
def connected (registry : Registry) (settings : ClientSettings) : Link κ where
  client := .connected registry settings.maxPayload
  reader := .spawned
  reassembly := .fresh settings.maxPayload
  writer := .start settings.queue
  queueing := []

/-- A disconnected client keeps no handle on the writer. -/
def settle (link : Link κ) : Link κ :=
  if link.client.isOpen then link else { link with writer := link.writer.release }

/-- Let the client act. -/
def onClient (link : Link κ) (act : Client κ → Client κ × List (Effect κ)) :
    Link κ × List (Effect κ) :=
  let (client, effects) := act link.client
  ({ link with client }.settle, effects)

/-! ## Sending -/

/-- Hand the request of a call to the writer. A call whose request is not taken fails. -/
def transmit (link : Link κ) (frame : Frame) : Link κ × List (Effect κ) :=
  match link.writer.send .thread frame with
  | (.queued, writer) => ({ link with writer }, [])
  | (.waiting, writer) => ({ link with writer, queueing := link.queueing ++ [frame.xid] }, [])
  | (.failed e, writer) => { link with writer }.onClient (·.sendFailed frame.xid e)

/-- Hand the requests among some effects to the writer. -/
def transmitAll (link : Link κ) : List (Effect κ) → Link κ × List (Effect κ)
  | [] => (link, [])
  | .transmit frame :: rest =>
    let (link, effects) := link.transmit frame
    let (link, more) := link.transmitAll rest
    (link, effects ++ more)
  | effect :: rest =>
    let (link, more) := link.transmitAll rest
    (link, effect :: more)

/-- Issue a call and send its request. -/
def issue (link : Link κ) (request : Request) (callback : Option κ) :
    Link κ × List (Effect κ) :=
  let (client, effects) := link.client.issue request callback
  { link with client }.transmitAll effects

/-- The first caller that waits for room goes on. -/
def resume (link : Link κ) : Option (Link κ × List (Effect κ)) :=
  match link.queueing, link.writer.resume with
  | _ :: rest, some (.queued, writer) => some ({ link with writer, queueing := rest }, [])
  | xid :: rest, some (.failed e, writer) =>
    some ({ link with writer, queueing := rest }.onClient (·.sendFailed xid e))
  | _, _ => none

/-! ## Reading -/

/-- The reader runs for the first time. -/
def startReader (link : Link κ) : Link κ :=
  match link.reader with
  | .spawned => { link with reader := .running }
  | _ => link

/-- Hand replies to the client one after the other. -/
def receiveAll (link : Link κ) : List Frame → Link κ × List (Effect κ)
  | [] => (link, [])
  | frame :: rest =>
    let (link, effects) := link.onClient (·.receive frame)
    let (link, more) := link.receiveAll rest
    (link, effects ++ more)

/-- The reader ends, and the client is disconnected. -/
def endReader (link : Link κ) : Link κ × List (Effect κ) :=
  { link with reader := .ended }.onClient (·.disconnect Status.connectionReset .reader)

/-- Bytes arrive from the server. -/
def read (link : Link κ) (bytes : Bytes) : Link κ × List (Effect κ) :=
  match link.reader with
  | .running =>
    match link.reassembly.push bytes with
    | (.ok frames, reassembly) => { link with reassembly }.receiveAll frames
    | (.error _, reassembly) => { link with reassembly }.endReader
  | _ => (link, [])

/-- The stream ends, or reading it fails. -/
def streamEnded (link : Link κ) : Link κ × List (Effect κ) :=
  match link.reader with
  | .running => link.endReader
  | _ => (link, [])

/-! ## Ends -/

/-- The tasks of the connection are dropped. -/
def dropTasks (link : Link κ) : Link κ × List (Effect κ) :=
  let link := { link with writer := link.writer.abort }
  match link.reader with
  | .running => link.endReader
  | _ => ({ link with reader := .ended }, [])

/-- Close the client; its reader is cancelled. -/
def close (link : Link κ) : Link κ × List (Effect κ) :=
  match link.client.closing with
  | .notClosed => { link with reader := .ended }.onClient Client.close
  | _ => (link, [])

/-- The next action of closing. With the last one the reader is cancelled. -/
def closeNext (link : Link κ) : Link κ × List (Effect κ) :=
  let (link, effects) := link.onClient Client.closeNext
  ({ link with reader := if link.client.closing = .closed then .ended else link.reader }, effects)

/-! ## Steps -/

/-- An action on a client or on a task of its connection. -/
inductive Event (κ : Type) where
  | issue (request : Request) (callback : Option κ)
  | resume
  | abandon (xid : Int64)
  | startReader
  | read (bytes : Bytes)
  | streamEnded
  | deliver
  | closeNext
  | close
  | dropTasks
  | collect
  | sinkAccepts (n : Nat)
  | sinkFails (e : Error)
  | flushed
  deriving Repr

/-- Run one action. -/
def step (link : Link κ) : Event κ → Link κ × List (Effect κ)
  | .issue request callback => link.issue request callback
  | .resume => link.resume.getD (link, [])
  | .abandon xid => link.onClient (·.abandon xid)
  | .startReader => (link.startReader, [])
  | .read bytes => link.read bytes
  | .streamEnded => link.streamEnded
  | .deliver => link.onClient Client.deliver
  | .closeNext => link.closeNext
  | .close => link.close
  | .dropTasks => link.dropTasks
  | .collect => ({ link with writer := link.writer.collect.getD link.writer }, [])
  | .sinkAccepts n => ({ link with writer := link.writer.accept n }, [])
  | .sinkFails e => ({ link with writer := link.writer.fail e }, [])
  | .flushed => ({ link with writer := link.writer.flushed }, [])

/-- Run actions one after the other. -/
def run (link : Link κ) (events : List (Event κ)) : Link κ × List (Effect κ) :=
  Machine.run step link events

end Link

end RemoteCall
