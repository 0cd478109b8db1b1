import RemoteCall.Client.Link
import RemoteCall.Client.Pool
import RemoteCall.Poll
import RemoteCall.Server.Basic
import RemoteCall.Session.Script
import RemoteCall.Writer.Scripted

/-!
# The world of a session

The world holds the machines of a session — poll managers, servers, clients — and the lines between
them, each a reliable stream of bytes in both directions.  `World.settle` lets everything run until
it waits for the script: what is written arrives, requests are answered, callbacks run.

Nothing in the world depends on time.  A wait of the script is a look at the settled world.

## Rounds

The machines say what may happen, and not when.  A world chooses: it goes round by round, and in a
round every client and every connection has its turn (`runClient`, `runConnection`).  All that it
does there is to call the actions of the machines, so whatever is proved of their runs holds of a
session.  There are as many rounds as may be needed for what is under way (`World.load`); the
senders that are still held up then give up, and there are as many rounds again.

Two things hold up a machine that could go on.  Handlers and callbacks of some kinds wait at a gate
until the script opens it, and a network may refuse to make connections.

## Lines

What one end writes stays in the line, write by write, until the other end reads it.  A client has
the dialer's end; at the listener's end is a connection of a server, or the script itself, which
reads and sends as a peer of its own.
-/

namespace RemoteCall

namespace Session

/-- What a network does with attempts to connect. -/
inductive Network where
  /-- Every connection to a listener is made. -/
  | reachable
  /-- Listeners can be bound, but no connection is ever made. -/
  | unreachable
  deriving DecidableEq, Repr

/-! ## Lines -/

/-- One direction of a line. -/
structure Pipe where
  /-- What was written and has not arrived, write by write. -/
  segments : List Bytes
  /-- Nothing more will be written. -/
  ended : Bool
  deriving DecidableEq, Repr

/-- A direction in which nothing was written. -/
def Pipe.fresh : Pipe := ⟨[], false⟩

/-- Write a segment; an empty one is none. -/
def Pipe.write (pipe : Pipe) (bytes : Bytes) : Pipe :=
  if bytes = [] then pipe else { pipe with segments := pipe.segments ++ [bytes] }

/-- All that has not arrived. -/
def Pipe.content (pipe : Pipe) : Bytes := pipe.segments.flatten

/-- Who is at an end of a line. -/
inductive End where
  | client (index : Nat)
  | connection (server number : Nat)
  /-- The script. -/
  | wire
  deriving DecidableEq, Repr

/-- A connection between two ends. -/
structure Line where
  dialer : End
  listener : End
  toListener : Pipe
  toDialer : Pipe
  deriving DecidableEq, Repr

/-! ## Machines -/

/-- A server with the poll manager that runs it. -/
structure Host where
  server : Server Handler
  manager : Nat
  /-- The jobs that have come to the gate, by connection and number. -/
  atGate : List (Nat × Nat)

/-- A client with the poll manager that runs it and its line. -/
structure Caller where
  link : Link Callback
  settings : ClientSettings
  manager : Nat
  line : Nat
  /-- The callback that holds the delivery thread at the gate. -/
  held : Option (Invocation Callback)

/-- The pool of a session, whose clients are known by their indices. -/
structure PoolState where
  pool : Pool Nat
  registry : Registry
  settings : ClientSettings
  manager : Nat

/-- The state of a session. -/
structure World where
  network : Network
  /-- The poll managers, the last one in use. -/
  managers : List PollManager
  hosts : List Host
  /-- The server in use. -/
  host : Option Nat
  clients : List Caller
  lines : List Line
  gateOpen : Bool
  /-- How often the gate was come to. -/
  arrivals : Nat
  /-- The entries of the log that were not asked for yet. -/
  log : List Entry
  services : List (Service Handler)
  pool : Option PoolState
  clientNames : List (String × Nat)
  rawNames : List (String × Nat)
  /-- Futures by name: a client, and a call of it. -/
  futureNames : List (String × (Nat × Int64))
  gonePeers : List String

namespace World

/-- The world before the first step. -/
def start (network : Network) : World where
  network
  managers := []
  hosts := []
  host := none
  clients := []
  lines := []
  gateOpen := false
  arrivals := 0
  log := []
  services := []
  pool := none
  clientNames := []
  rawNames := []
  futureNames := []
  gonePeers := []

/-! ## Access -/

/-- Change a client. -/
def updateClient (world : World) (i : Nat) (change : Caller → Caller) : World :=
  { world with clients := world.clients.modify i change }

/-- Change a server. -/
def updateHost (world : World) (s : Nat) (change : Host → Host) : World :=
  { world with hosts := world.hosts.modify s change }

/-- Change a line. -/
def updateLine (world : World) (l : Nat) (change : Line → Line) : World :=
  { world with lines := world.lines.modify l change }

/-- The index of the line of a server's connection. -/
def lineOf (world : World) (s c : Nat) : Option Nat :=
  world.lines.findIdx? (·.listener = .connection s c)

/-! ## Callbacks -/

/-- Somebody comes to the gate. -/
def arrive (world : World) : World := { world with arrivals := world.arrivals + 1 }

/-- Write an entry into the log. -/
def record (world : World) (invocation : Invocation Callback) (place : Place) : World :=
  { world with
    log := world.log ++ [⟨invocation.callback.label, place, invocation.result⟩] }

/-- Where a callback runs that is run by a party, while a thread is at work. -/
def placeOf (runner : Runner) (thread : Place) : Place :=
  match runner with
  | .caller | .closer => thread
  | .delivery => .delivery
  | .reader => .other

/-- The callbacks that were run. -/
def invocations (effects : List (Client.Effect Callback)) : List (Invocation Callback) :=
  effects.filterMap fun
    | .invoked invocation => some invocation
    | _ => none

/-- Let a client act; returns the callbacks that it has run. -/
def act (world : World) (i : Nat)
    (action : Link Callback → Link Callback × List (Client.Effect Callback)) :
    List (Client.Effect Callback) × World :=
  match world.clients[i]? with
  | none => ([], world)
  | some caller =>
    let (link, effects) := action caller.link
    (effects, world.updateClient i fun caller => { caller with link })

/-- A callback behind the gate, where it does not close its client. -/
def runInner (world : World) (i : Nat) (thread : Place) (invocation : Invocation Callback) :
    World :=
  let place := placeOf invocation.runner thread
  let world :=
    match invocation.callback.mode with
    | .call =>
      let (effects, world) := world.act i (·.issue followUp (some invocation.callback.next))
      (invocations effects).foldl (fun (world : World) nested => world.record nested place) world
    | _ => world
  world.record invocation place

/-- A callback behind the gate. -/
def runBehindGate (world : World) (i : Nat) (thread : Place)
    (invocation : Invocation Callback) : World :=
  match invocation.callback.mode with
  | .gateClose =>
    let place := placeOf invocation.runner thread
    let (effects, world) := world.act i Link.close
    ((invocations effects).foldl (fun (world : World) nested => world.runInner i place nested)
      world).record invocation place
  | _ => world.runInner i thread invocation

/-- A callback from its start. The delivery thread waits at a gate that is shut. -/
def runCallback (world : World) (i : Nat) (thread : Place) (invocation : Invocation Callback) :
    World :=
  if invocation.callback.passesGate then
    let world := world.arrive
    if !world.gateOpen && invocation.runner = .delivery then
      world.updateClient i fun caller => { caller with held := some invocation }
    else world.runBehindGate i thread invocation
  else world.runBehindGate i thread invocation

/-- Let a client act on a thread, and run the callbacks that this brings about. -/
def perform (world : World) (i : Nat) (thread : Place)
    (action : Link Callback → Link Callback × List (Client.Effect Callback)) :
    List (Client.Effect Callback) × World :=
  let (effects, world) := world.act i action
  (effects,
    (invocations effects).foldl (fun (world : World) inv => world.runCallback i thread inv)
      world)

/-! ## Servers run -/

/-- Let a server do something. -/
def onServer (world : World) (s : Nat) (event : Server.Event Handler) : World :=
  world.updateHost s fun host => { host with server := (host.server.step event).1 }

/-- The connection of a server. -/
def connection? (world : World) (s c : Nat) : Option (Connection Handler) :=
  world.hosts[s]?.bind (·.server.connection? c)

/-- What has arrived for a connection is read, a segment at a time. -/
def readConnection (world : World) (s c l : Nat) : World :=
  match world.connection? s c, world.lines[l]? with
  | some connection, some line =>
    match connection.reader, connection.backlog, line.toListener.segments with
    | .reading, [], segment :: rest =>
      (world.updateLine l fun line =>
        { line with toListener := { line.toListener with segments := rest } }).onServer s
          (.receive c segment)
    | .reading, [], [] =>
      if line.toListener.ended then world.onServer s (.streamEnded c) else world
    | _, _, _ => world
  | _, _ => world

/-- Whether the handler of a job may end: it does not stand at a shut gate. -/
def mayFinish (world : World) (host : Host) (job : Job Handler) : Bool :=
  world.gateOpen || !job.registration.handler.passesGate ||
    (job.registration.arguments? host.server.registry job.request.payload).isNone

/-- A job goes on: its handler ends, unless it waits at the gate, and its reply is sent. -/
def runJob (world : World) (s c : Nat) (job : Job Handler) : World :=
  match world.hosts[s]? with
  | none => world
  | some host =>
    let called := (job.registration.arguments? host.server.registry job.request.payload).isSome
    let world :=
      if job.registration.handler.passesGate && called && !host.atGate.contains (c, job.id) then
        (world.updateHost s fun host => { host with atGate := (c, job.id) :: host.atGate }).arrive
      else world
    let world :=
      match job.stage with
      | .executing =>
        if world.mayFinish host job then world.onServer s (.finish c job.id) else world
      | _ => world
    world.onServer s (.offer c (.job job.id))

/-- The writer of a connection writes everything that it has. -/
def flushConnection (world : World) (s c l : Nat) : World :=
  match world.connection? s c with
  | none => world
  | some connection =>
    let (bytes, writer) := connection.writer.writeAll
    let world := world.updateHost s fun host =>
      { host with server :=
          host.server.setConnection c connection (connection.updateWriter fun _ => writer) }
    world.updateLine l fun line =>
      { line with toDialer :=
          { line.toDialer.write bytes with ended := line.toDialer.ended || writer.isOver } }

/-- A connection goes on as far as it can in one round. -/
def runConnection (world : World) (s c : Nat) : World :=
  match world.lineOf s c with
  | none => world
  | some l =>
    let world := world.onServer s (.observeStop c)
    let world := world.readConnection s c l
    let world := world.onServer s (.lookUp c)
    let world := world.onServer s (.offer c .reader)
    let world := world.onServer s .grant
    let jobs := ((world.connection? s c).map Connection.jobs).getD []
    let world := jobs.foldl (fun (world : World) job => world.runJob s c job) world
    let world := world.onServer s (.resume c)
    world.flushConnection s c l

/-- A server goes on. -/
def runHost (world : World) (s : Nat) : World :=
  match world.hosts[s]? with
  | none => world
  | some host =>
    let world := host.server.acceptors.foldl
      (fun (world : World) generation => world.onServer s (.endAccepting generation)) world
    host.server.connections.foldl
      (fun (world : World) entry => world.runConnection s entry.1) world

/-- Senders of a server that are still held in a settled world have waited too long. -/
def giveUpHeld (world : World) (s : Nat) : World :=
  match world.hosts[s]? with
  | none => world
  | some host =>
    host.server.connections.foldl
      (fun (world : World) entry =>
        (entry.2.jobs.map fun job => Party.job job.id).foldl
          (fun (world : World) party => world.onServer s (.giveUp entry.1 party))
          (world.onServer s (.giveUp entry.1 .reader)))
      world

/-! ## Clients run -/

/-- The writer of a client writes everything that it has. -/
def flushClient (world : World) (i : Nat) : World :=
  match world.clients[i]? with
  | none => world
  | some caller =>
    let (bytes, writer) := caller.link.writer.writeAll
    let world := world.updateClient i fun caller =>
      { caller with link := { caller.link with writer } }
    world.updateLine caller.line fun line =>
      { line with toListener :=
          { line.toListener.write bytes with ended := line.toListener.ended || writer.isOver } }

/-- What has arrived for a client is read. -/
def readClient (world : World) (i : Nat) : World :=
  match world.clients[i]? with
  | none => world
  | some caller =>
    match world.lines[caller.line]? with
    | none => world
    | some line =>
      let world := world.updateLine caller.line fun line =>
        { line with toDialer := { line.toDialer with segments := [] } }
      let world := line.toDialer.segments.foldl
        (fun (world : World) segment => (world.perform i .other (·.read segment)).2) world
      if line.toDialer.ended then (world.perform i .other Link.streamEnded).2 else world

/-- The delivery thread of a client goes on: past the gate, or to the next callback. -/
def deliver (world : World) (i : Nat) : World :=
  match world.clients[i]? with
  | none => world
  | some caller =>
    match caller.held with
    | none => (world.perform i .delivery (·.onClient Client.deliver)).2
    | some invocation =>
      if world.gateOpen then
        (world.updateClient i fun caller => { caller with held := none }).runBehindGate i
          .delivery invocation
      else world

/-- A client goes on as far as it can in one round. -/
def runClient (world : World) (i : Nat) : World :=
  let world := (world.act i fun link => (link.startReader, [])).2
  let world := world.flushClient i
  let world := (world.act i fun link => link.resume.getD (link, [])).2
  let world := world.readClient i
  world.deliver i

/-! ## Everything runs -/

/-- Every machine goes on once. -/
def round (world : World) : World :=
  let world := (List.range world.clients.length).foldl runClient world
  (List.range world.hosts.length).foldl runHost world

/-- Let everything run for a number of rounds. -/
def rounds : Nat → World → World
  | 0, world => world
  | n + 1, world => rounds n world.round

/-- The sum of a measure over a list. -/
def total {α : Type} (measure : α → Nat) (items : List α) : Nat :=
  items.foldl (fun n item => n + measure item) 0

/-- How much there is to do: every round of a world that is not at rest does some of it. -/
def load (world : World) : Nat :=
  let lines := total (fun line =>
    line.toListener.segments.length + line.toDialer.segments.length +
      (line.toListener.content.length + line.toDialer.content.length) / Header.width) world.lines
  let clients := total (fun caller =>
    caller.link.client.callbacks.length + caller.link.writer.queue.length +
      caller.link.queueing.length) world.clients
  let connections := total (fun host =>
    total (fun entry =>
      entry.2.backlog.length + entry.2.jobs.length + entry.2.writer.queue.length)
      host.server.connections) world.hosts
  lines + clients + connections

/-- Let everything run until it waits for the script. -/
def run (world : World) : World := rounds (8 * (world.load + 1)) world

/-- Let everything run; then senders that are still held give up, and everything runs again. -/
def settle (world : World) : World :=
  let world := world.run
  ((List.range world.hosts.length).foldl giveUpHeld world).run

end World

end Session

end RemoteCall
