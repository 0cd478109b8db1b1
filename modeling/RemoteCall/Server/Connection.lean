import RemoteCall.Frame.Reassembly
import RemoteCall.Server.Handling
import RemoteCall.Writer.Basic

/-!
# A connection of a server

A connection has a reader, which takes requests out of the stream one at a time, a job for every
request whose handler was started, and a writer for the replies. The reader answers a request for an
unknown call itself; for a known one it waits until there is a slot for the handler.

The connection is over for reading when the reader ends: at the end of the stream, at an invalid
envelope, when an answer cannot be sent, or when the server stops. Jobs go on after that, and the
writer lives until the last job has sent its reply, unless the stop has cancelled it.

Everything here concerns one connection. Slots are shared by all connections, so the functions here
say which jobs have ended, and `Server` takes their slots back.
-/

namespace RemoteCall

/-- What the reader of a connection is doing. -/
inductive Reader (η : Type) where
  /-- It takes the next request, or reads on when there is none. -/
  | reading
  /-- It has looked up a request and waits for a handler slot. -/
  | awaitingSlot (registration : Registration η) (request : Frame)
  /-- It has an answer to send, and its turn has not come. -/
  | answering (reply : Frame)
  /-- It waits for room in the queue of the writer. -/
  | queueing (reply : Frame)
  | ended
  deriving Repr

/-- How far a job is. -/
inductive Stage where
  /-- The handler runs. -/
  | executing
  /-- The reply is ready, and its turn to be sent has not come. -/
  | replying (reply : Frame)
  /-- The reply waits for room in the queue of the writer. -/
  | queueing (reply : Frame)
  deriving DecidableEq, Repr

/-- A request whose handler was started. -/
structure Job (η : Type) where
  id : Nat
  registration : Registration η
  request : Frame
  stage : Stage
  deriving Repr

/-- Who sends on a connection. -/
inductive Party where
  | reader
  | job (id : Nat)
  deriving DecidableEq, Repr

/-- An accepted connection. -/
structure Connection (η : Type) where
  /-- The run of the listener that accepted it. -/
  generation : Nat
  reader : Reader η
  reassembly : Reassembly
  /-- The requests of the last read that were not looked up yet. -/
  backlog : List Frame
  jobs : List (Job η)
  writer : Writer
  /-- Whose frames the writer keeps waiting, in its order. -/
  queueing : List Party

namespace Connection

variable {η : Type}

/-- A connection that was just accepted. -/
def accepted (generation : Nat) (settings : ServerSettings) : Connection η where
  generation
  reader := .reading
  reassembly := .fresh settings.maxPayload
  backlog := []
  jobs := []
  writer := .start settings.queue
  queueing := []

/-- Whether the connection is still served: its reader has not ended. -/
def isServed (connection : Connection η) : Bool :=
  match connection.reader with
  | .ended => false
  | _ => true

/-- Once the reader has ended and no job is left, nobody can send any more. -/
def settle (connection : Connection η) : Connection η :=
  if !connection.isServed && connection.jobs.isEmpty then
    { connection with writer := connection.writer.release }
  else connection

/-- The reader ends, and the requests that it has not looked up are gone. -/
def endReading (connection : Connection η) : Connection η :=
  { connection with reader := .ended, backlog := [] }.settle

/-- The job of an ID. -/
def job? (connection : Connection η) (id : Nat) : Option (Job η) :=
  connection.jobs.find? (·.id = id)

/-- Change the stage of a job. -/
def setStage (connection : Connection η) (id : Nat) (stage : Stage) : Connection η :=
  { connection with
    jobs := connection.jobs.map fun job => if job.id = id then { job with stage } else job }

/-- A job ends. -/
def endJob (connection : Connection η) (id : Nat) : Connection η :=
  { connection with jobs := connection.jobs.filter (·.id ≠ id) }.settle

/-! ## The reader -/

/-- Bytes arrive. They are read only when every request before them was handed on. -/
def receive (connection : Connection η) (bytes : Bytes) : Option (Connection η) :=
  match connection.reader, connection.backlog with
  | .reading, [] =>
    match connection.reassembly.push bytes with
    | (.ok frames, reassembly) => some { connection with reassembly, backlog := frames }
    | (.error _, reassembly) => some { connection with reassembly }.endReading
  | _, _ => none

/-- The stream ends, or reading it fails. -/
def streamEnded (connection : Connection η) : Option (Connection η) :=
  match connection.reader, connection.backlog with
  | .reading, [] => some connection.endReading
  | _, _ => none

/-- The reader looks up the next request. -/
def lookUp (connection : Connection η) (functions : Functions η) :
    Option (Frame × Option (Registration η) × Connection η) :=
  match connection.reader, connection.backlog with
  | .reading, request :: rest =>
    match functions.get? request.callId with
    | none =>
      let reply := Frame.errorReply request.xid Status.noHandler
      some (request, none, { connection with backlog := rest, reader := .answering reply })
    | some registration =>
      some (request, some registration,
        { connection with backlog := rest, reader := .awaitingSlot registration request })
  | _, _ => none

/-- The reader is given a slot, and a job starts. -/
def startJob (connection : Connection η) (id : Nat) : Option (Connection η) :=
  match connection.reader with
  | .awaitingSlot registration request =>
    some { connection with
      reader := .reading
      jobs := connection.jobs ++ [⟨id, registration, request, .executing⟩] }
  | _ => none

/-! ## Sending -/

/-- The frame that a party has to send and has not offered yet. -/
def outgoing? (connection : Connection η) : Party → Option Frame
  | .reader =>
    match connection.reader with
    | .answering reply => some reply
    | _ => none
  | .job id =>
    match connection.job? id with
    | some ⟨_, _, _, .replying reply⟩ => some reply
    | _ => none

/-- A party's frame is in the queue. -/
def sent (connection : Connection η) : Party → Connection η
  | .reader =>
    match connection.reader with
    | .ended => connection
    | _ => { connection with reader := .reading }
  | .job id => connection.endJob id

/-- A party's frame cannot be sent. The reader gives the connection up; a job only its reply. -/
def unsent (connection : Connection η) : Party → Connection η
  | .reader => connection.endReading
  | .job id => connection.endJob id

/-- A party's frame waits for room. -/
def wait (connection : Connection η) (reply : Frame) (party : Party) : Connection η :=
  let connection := { connection with queueing := connection.queueing ++ [party] }
  match party with
  | .reader => { connection with reader := .queueing reply }
  | .job id => connection.setStage id (.queueing reply)

/-- What became of a frame that a party tried to send. -/
inductive Delivery where
  | queued (reply : Frame)
  | dropped (reply : Frame)
  | pending
  deriving DecidableEq, Repr

/-- A party offers its frame to the writer. While the party is held, nothing changes. -/
def offer (connection : Connection η) (party : Party) : Option (Delivery × Connection η) :=
  match connection.outgoing? party with
  | none => none
  | some reply =>
    match connection.writer.offer reply with
    | (.held, _) => none
    | (.queued, writer) => some (.queued reply, { connection with writer }.sent party)
    | (.waiting, writer) => some (.pending, { connection with writer }.wait reply party)
    | (.refused, writer) => some (.dropped reply, { connection with writer }.unsent party)

/-- A party that is held has waited too long. -/
def giveUp (connection : Connection η) (party : Party) : Option (Delivery × Connection η) :=
  match connection.outgoing? party with
  | none => none
  | some reply =>
    match connection.writer.offer reply with
    | (.held, _) => some (.dropped reply, connection.unsent party)
    | _ => none

/-- The first party that waits for room goes on. -/
def resume (connection : Connection η) : Option (Delivery × Connection η) :=
  match connection.queueing, connection.writer.waiting, connection.writer.resume with
  | party :: rest, reply :: _, some (.queued, writer) =>
    some (.queued reply, { connection with writer, queueing := rest }.sent party)
  | party :: rest, reply :: _, some (.failed _, writer) =>
    some (.dropped reply, { connection with writer, queueing := rest }.unsent party)
  | _, _, _ => none

/-- Change the writer. -/
def updateWriter (connection : Connection η) (change : Writer → Writer) : Connection η :=
  { connection with writer := change connection.writer }

/-! ## Stopping -/

/-- The connection learns that its server has stopped: reading ends and the writer is cancelled. -/
def stop (connection : Connection η) : Connection η :=
  if connection.isServed then (connection.updateWriter Writer.abort).endReading else connection

/-- Everything that runs for the connection is dropped. -/
def dropTasks (connection : Connection η) : Connection η :=
  ({ connection with jobs := [], queueing := [] }.updateWriter Writer.abort).endReading

end Connection

end RemoteCall
