import RemoteCall.Machine
import RemoteCall.Server.Connection

/-!
# The server

A server accepts connections while it listens, and runs handlers for their requests, at most
`maxHandlers` at a time over all connections.  Requests that find no free slot wait for one in the
order in which they came.

Every start of the listener is a generation of its own.  A stop concerns the generation that it
ends: its accept loop and its connections learn of it, each in its own time, and no other does.

`Server` is the state between two actions.  An action that is not possible changes nothing.

Connections, generations and jobs are numbered, and no number is given twice.  A connection stays in
the list when it has ended; `served` counts those whose readers go on, which is the number that a
server tells.  What a handler does is given by the class `Handles`, so the server can be run with
handlers that only say what they return.
-/

namespace RemoteCall

/-- The listener of a server. -/
structure Listening where
  generation : Nat
  address : String
  deriving DecidableEq, Repr

/-- A server between two actions, with handlers of type `η`. -/
structure Server (η : Type) where
  settings : ServerSettings
  registry : Registry
  functions : Functions η
  /-- The slots in which no handler runs. -/
  freeSlots : Nat
  /-- The connections whose readers wait for a slot, in their order. -/
  slotQueue : List Nat
  /-- The connections that were accepted, by number. -/
  connections : List (Nat × Connection η)
  /-- The number of connections that are served. -/
  served : Nat
  listening : Option Listening
  /-- The accept loops that have not learned of a stop. -/
  acceptors : List Nat
  nextGeneration : Nat
  nextConnection : Nat
  nextJob : Nat

namespace Server

variable {η : Type}

/-- A server with valid settings. -/
def create (registry : Registry) (settings : ServerSettings) : Except Error (Server η) :=
  match settings.validate with
  | .error e => .error e
  | .ok () =>
    .ok
      { settings
        registry
        functions := .empty
        freeSlots := settings.maxHandlers
        slotQueue := []
        connections := []
        served := 0
        listening := none
        acceptors := []
        nextGeneration := 0
        nextConnection := 0
        nextJob := 0 }

/-- What an action did, as seen from outside. -/
inductive Effect (η : Type) where
  /-- A request was looked up: this is the registration under which it runs, if there is one. -/
  | dispatched (connection : Nat) (request : Frame) (registration : Option (Registration η))
  /-- A handler was called. -/
  | called (connection : Nat) (request : Frame) (registration : Registration η)
      (args : List Value)
  /-- A reply entered the queue of a writer. -/
  | queued (connection : Nat) (reply : Frame)
  /-- A reply was dropped. -/
  | dropped (connection : Nat) (reply : Frame)
  /-- Bytes left for the peer. -/
  | wrote (connection : Nat) (bytes : Bytes)
  deriving Repr

/-! ## Registration -/

/-- Register a function. -/
def register (server : Server η) (registration : Registration η) : Except Error (Server η) :=
  (server.functions.registerTyped server.registry registration).map fun functions =>
    { server with functions }

/-- Register all methods of a service, or none. -/
def registerService (server : Server η) (service : Service η) : Except Error (Server η) :=
  (server.functions.registerService server.registry service).map fun functions =>
    { server with functions }

/-- Register services one after the other, up to the first that is refused. -/
def registerServices (server : Server η) : List (Service η) → Except Error (Server η)
  | [] => .ok server
  | service :: rest =>
    match server.registerService service with
    | .ok next => next.registerServices rest
    | .error e => .error e

/-- Remove a registration; says whether there was one. -/
def unregister (server : Server η) (id : CallId) : Bool × Server η :=
  let (known, functions) := server.functions.remove id
  (known, { server with functions })

/-! ## The listener -/

/-- Whether the server listens. -/
def isRunning (server : Server η) : Bool := server.listening.isSome

/-- Start to listen, unless the server listens already, the address cannot be bound, or there is
nothing to run the listener on. The three are checked in this order. -/
def start (server : Server η) (bound : Except Error String) (pollShutDown : Bool) :
    Except Error (Server η) :=
  match server.listening with
  | some listening => .error (.config (.alreadyListening listening.address))
  | none =>
    match bound with
    | .error e => .error e
    | .ok address =>
      if pollShutDown then .error (.config .pollShutDown)
      else
        .ok { server with
          listening := some ⟨server.nextGeneration, address⟩
          acceptors := server.acceptors ++ [server.nextGeneration]
          nextGeneration := server.nextGeneration + 1 }

/-- Stop listening. A server that does not listen is left alone. -/
def stop (server : Server η) : Server η := { server with listening := none }

/-- Whether a generation was stopped. -/
def isStopped (server : Server η) (generation : Nat) : Bool :=
  decide (server.listening.map Listening.generation ≠ some generation)

/-- The accept loop of a generation accepts a connection. -/
def accept (server : Server η) (generation : Nat) : Option (Server η) :=
  if generation ∈ server.acceptors then
    some { server with
      connections := server.connections ++
        [(server.nextConnection, .accepted generation server.settings)]
      served := server.served + 1
      nextConnection := server.nextConnection + 1 }
  else none

/-- The accept loop of a generation learns of its stop. -/
def endAccepting (server : Server η) (generation : Nat) : Option (Server η) :=
  if server.isStopped generation then
    some { server with acceptors := server.acceptors.filter (· ≠ generation) }
  else none

/-! ## Connections -/

/-- The connection of a number. -/
def connection? (server : Server η) (c : Nat) : Option (Connection η) :=
  server.connections.lookup c

/-- Replace a connection. Slots of jobs that have ended are free again, and a connection whose
reader has ended is no longer counted. -/
def setConnection (server : Server η) (c : Nat) (old new : Connection η) : Server η :=
  { server with
    connections := server.connections.map fun entry =>
      if entry.1 = c then (c, new) else entry
    freeSlots := server.freeSlots + (old.jobs.length - new.jobs.length)
    slotQueue :=
      if new.isServed then server.slotQueue else server.slotQueue.filter (· ≠ c)
    served :=
      if old.isServed && !new.isServed then server.served - 1 else server.served }

/-- Let something happen on a connection. -/
def onConnection {α : Type} (server : Server η) (c : Nat)
    (act : Connection η → Option (α × Connection η)) : Option (α × Server η) :=
  match server.connection? c with
  | none => none
  | some old =>
    match act old with
    | none => none
    | some (a, new) => some (a, server.setConnection c old new)

/-- The reader of a connection looks up its next request, and waits for a slot if it has found a
handler. -/
def lookUp (server : Server η) (c : Nat) : Option (Server η × List (Effect η)) :=
  match server.onConnection c fun connection =>
      (connection.lookUp server.functions).map fun (request, found, next) =>
        ((request, found), next) with
  | none => none
  | some ((request, found), next) =>
    some
      (if found.isSome then { next with slotQueue := next.slotQueue ++ [c] } else next,
        [.dispatched c request found])

/-- The first connection that waits for a slot is given one, if one is free. -/
def grant (server : Server η) : Option (Server η) :=
  match server.slotQueue, server.freeSlots with
  | c :: rest, free + 1 =>
    match server.connection? c with
    | none => none
    | some old =>
      (old.startJob server.nextJob).map fun new =>
        { server.setConnection c old new with
          freeSlots := free
          slotQueue := rest
          nextJob := server.nextJob + 1 }
  | _, _ => none

/-- The handler of a job ends. -/
def finish [Handles η] (server : Server η) (c id : Nat) :
    Option (Server η × List (Effect η)) :=
  match server.connection? c with
  | none => none
  | some old =>
    match old.job? id with
    | some ⟨_, registration, request, .executing⟩ =>
      let (reply, args) := registration.answer server.registry server.settings.maxPayload
        request.xid request.payload
      some
        (server.setConnection c old (old.setStage id (.replying reply)),
          match args with
          | none => []
          | some args => [.called c request registration args])
    | _ => none

/-- What sending did. -/
def deliveryEffects (c : Nat) : Connection.Delivery → List (Effect η)
  | .queued reply => [.queued c reply]
  | .dropped reply => [.dropped c reply]
  | .pending => []

/-- Everything that runs for the server is dropped, and nothing is accepted any more. -/
def dropTasks (server : Server η) : Server η :=
  let server := { server with acceptors := [] }
  server.connections.foldl
    (fun server entry =>
      match server.connection? entry.1 with
      | none => server
      | some old => server.setConnection entry.1 old old.dropTasks)
    server

/-! ## Steps -/

/-- An action on a server. -/
inductive Event (η : Type) where
  | register (registration : Registration η)
  | registerService (service : Service η)
  | unregister (id : CallId)
  | start (address : String)
  | stop
  | accept (generation : Nat)
  | endAccepting (generation : Nat)
  | receive (connection : Nat) (bytes : Bytes)
  | streamEnded (connection : Nat)
  | lookUp (connection : Nat)
  | grant
  | finish (connection : Nat) (job : Nat)
  | offer (connection : Nat) (party : Party)
  | giveUp (connection : Nat) (party : Party)
  | resume (connection : Nat)
  | collect (connection : Nat)
  | sinkAccepts (connection : Nat) (n : Nat)
  | sinkFails (connection : Nat) (e : Error)
  | flushed (connection : Nat)
  /-- A connection learns of the stop of its generation. -/
  | observeStop (connection : Nat)
  deriving Repr

/-- An action on a connection that is seen through its delivery. -/
def delivering (server : Server η) (c : Nat)
    (act : Connection η → Option (Connection.Delivery × Connection η)) :
    Server η × List (Effect η) :=
  match server.onConnection c act with
  | none => (server, [])
  | some (delivery, next) => (next, deliveryEffects c delivery)

/-- An action on a connection that is not seen from outside. -/
def silently (server : Server η) (c : Nat) (act : Connection η → Option (Connection η)) :
    Server η × List (Effect η) :=
  match server.onConnection c fun connection => (act connection).map ((), ·) with
  | none => (server, [])
  | some ((), next) => (next, [])

/-- Run one action. -/
def step [Handles η] (server : Server η) : Event η → Server η × List (Effect η)
  | .register registration =>
    match server.register registration with
    | .ok next => (next, [])
    | .error _ => (server, [])
  | .registerService service =>
    match server.registerService service with
    | .ok next => (next, [])
    | .error _ => (server, [])
  | .unregister id => ((server.unregister id).2, [])
  | .start address =>
    match server.start (.ok address) false with
    | .ok next => (next, [])
    | .error _ => (server, [])
  | .stop => (server.stop, [])
  | .accept generation => ((server.accept generation).getD server, [])
  | .endAccepting generation => ((server.endAccepting generation).getD server, [])
  | .receive c bytes => server.silently c (·.receive bytes)
  | .streamEnded c => server.silently c (·.streamEnded)
  | .lookUp c => (server.lookUp c).getD (server, [])
  | .grant => (server.grant.getD server, [])
  | .finish c id => (server.finish c id).getD (server, [])
  | .offer c party => server.delivering c (·.offer party)
  | .giveUp c party => server.delivering c (·.giveUp party)
  | .resume c => server.delivering c (·.resume)
  | .collect c =>
    server.silently c fun connection => connection.writer.collect.map fun writer =>
      { connection with writer }
  | .sinkAccepts c n =>
    match server.connection? c with
    | none => (server, [])
    | some connection =>
      ((server.silently c fun connection => some (connection.updateWriter (·.accept n))).1,
        [.wrote c (connection.writer.offered.flatten.take n)])
  | .sinkFails c e =>
    server.silently c fun connection => some (connection.updateWriter (·.fail e))
  | .flushed c =>
    server.silently c fun connection => some (connection.updateWriter Writer.flushed)
  | .observeStop c =>
    server.silently c fun connection =>
      if server.isStopped connection.generation then some connection.stop else none

/-- Run actions one after the other. -/
def run [Handles η] (server : Server η) (events : List (Event η)) :
    Server η × List (Effect η) :=
  Machine.run step server events

end Server

end RemoteCall
