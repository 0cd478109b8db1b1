import RemoteCall.Client.Link
import RemoteCall.Server.Basic

/-!
# A server and its clients

`System` puts one server and any number of clients together.  Every client has a connection of its
own, which carries a reliable stream of bytes in each direction; the client of connection `k` is
`peers[k]`, in the order in which the connections were made.

## What may happen

Any action of any part may come next.  A caller issues a call in one action and hands the request to
the writer in another, so the actions of other threads come between them; a read takes any number of
the bytes that wait on the wire, and a sink accepts any number of the bytes that it is offered.
Handlers may do something else each time: every action of the server comes with what handlers do in
it.

A connection is accepted when it is made.  A server that is slow to accept does nothing else than
one that is slow to read.

The wires neither lose nor reorder bytes, and nothing else is assumed of them: a sender may get any
front of its bytes across, and a receiver may never read.

## Histories

A state does not tell which call a result belongs to, or how often a handler was called.  So a run
also shows what happened (`Happening`), by connection: calls that were issued, requests that were
queued, requests that were looked up, handlers that were called, replies that were queued.  A
history is a list of these, and each view of it (`calls`, `requests`, `dispatches`, `handlings`,
`replies`) picks one kind.  A history has no influence on the system: it is written, never read.

Both sides agree on the types of every call (`Event.Agrees`).  That is what an interface between
programs amounts to; without it a reply may decode to values that no handler returned.
-/

namespace RemoteCall

/-- One direction of a connection. -/
structure Wire where
  /-- What the receiver has read. -/
  read : Bytes
  /-- What was written and is not read. -/
  ahead : Bytes
  deriving DecidableEq, Repr

namespace Wire

/-- Nothing was written. -/
def fresh : Wire := ⟨[], []⟩

/-- All that was written. -/
def written (wire : Wire) : Bytes := wire.read ++ wire.ahead

/-- The sender writes. -/
def write (wire : Wire) (bytes : Bytes) : Wire := { wire with ahead := wire.ahead ++ bytes }

/-- The receiver reads. -/
def advance (wire : Wire) (bytes : Bytes) : Wire :=
  ⟨wire.read ++ bytes, wire.ahead.drop bytes.length⟩

end Wire

/-- One call of a handler: the request, the registration that it was looked up under, the arguments
of the call and what it came to. -/
structure Handling (η : Type) where
  request : Frame
  registration : Registration η
  args : List Value
  outcome : Outcome
  deriving Repr

/-- What happens on a connection. -/
inductive Happening (η : Type) where
  /-- A call was given its transaction ID. -/
  | issued (xid : Int64) (request : Request)
  /-- A request entered the queue of the client's writer. -/
  | requested (frame : Frame)
  /-- The server looked a request up. -/
  | dispatched (request : Frame) (registration : Option (Registration η))
  /-- A handler was called. -/
  | handled (handling : Handling η)
  /-- A reply entered the queue of the server's writer. -/
  | replied (reply : Frame)
  deriving Repr

/-! ## The side of a client -/

/-- The transaction ID that an action of a client gave to a call. -/
def Client.Effect.xid? {κ : Type} : Client.Effect κ → Option Int64
  | .issued xid => some xid
  | _ => none

/-- The request that an action of a client wants sent. -/
def Client.Effect.frame? {κ : Type} : Client.Effect κ → Option Frame
  | .transmit frame => some frame
  | _ => none

/-- A client with its end of the connection. -/
structure Peer (κ : Type) where
  link : Link κ
  /-- The requests of calls that were issued, until their callers hand them to the writer. -/
  sending : List Frame
  toServer : Wire
  toClient : Wire

namespace Peer

variable {κ η : Type}

/-- A client on a new connection. -/
def connected (registry : Registry) (settings : ClientSettings) : Peer κ where
  link := .connected registry settings
  sending := []
  toServer := .fresh
  toClient := .fresh

/-- An action on the side of a client. -/
inductive Event (κ : Type) where
  /-- A caller hands the request of its call to the writer, unless the writer holds it back. -/
  | offer (xid : Int64)
  /-- A caller does not get its request to the writer. -/
  | unsent (xid : Int64) (e : Error)
  | link (event : Link.Event κ)
  deriving Repr

/-- A caller issues a call and is left with the request. -/
def issue (peer : Peer κ) (request : Request) (callback : Option κ) :
    Peer κ × List (Happening η) :=
  let (client, effects) := peer.link.client.issue request callback
  ({ peer with
      link := { peer.link with client }
      sending := peer.sending ++ effects.filterMap Client.Effect.frame? },
    (effects.filterMap Client.Effect.xid?).map (.issued · request))

/-- A caller hands its request to the writer. -/
def offer (peer : Peer κ) (xid : Int64) : Peer κ × List (Happening η) :=
  match peer.sending.find? (·.xid = xid) with
  | none => (peer, [])
  | some frame =>
    let sending := peer.sending.erase frame
    match (peer.link.writer.offer frame).1 with
    | .held => (peer, [])
    | .queued => ({ peer with link := (peer.link.transmit frame).1, sending }, [.requested frame])
    | _ => ({ peer with link := (peer.link.transmit frame).1, sending }, [])

/-- A caller fails its call, since it could not hand the request to the writer. -/
def unsent (peer : Peer κ) (xid : Int64) (e : Error) : Peer κ :=
  match peer.sending.find? (·.xid = xid) with
  | none => peer
  | some frame =>
    { peer with
      link := (peer.link.onClient (·.sendFailed xid e)).1
      sending := peer.sending.erase frame }

/-- The first request that waits for room in the queue goes on. -/
def resume (peer : Peer κ) : Peer κ × List (Happening η) :=
  match peer.link.resume with
  | none => (peer, [])
  | some (link, _) =>
    ({ peer with link },
      match peer.link.writer.waiting, peer.link.writer.resume with
      | frame :: _, some (.queued, _) => [.requested frame]
      | _, _ => [])

/-- The reader takes bytes that wait on the wire. -/
def read (peer : Peer κ) (bytes : Bytes) : Peer κ :=
  if peer.link.reader = .running ∧ bytes <+: peer.toClient.ahead then
    { peer with
      link := (peer.link.read bytes).1
      toClient := peer.toClient.advance bytes }
  else peer

/-- The sink accepts some of the bytes that it is offered. -/
def write (peer : Peer κ) (n : Nat) : Peer κ :=
  { peer with
    link := (peer.link.step (.sinkAccepts n)).1
    toServer := peer.toServer.write (peer.link.writer.offered.flatten.take n) }

/-- Run one action. -/
def step (peer : Peer κ) : Event κ → Peer κ × List (Happening η)
  | .offer xid => peer.offer xid
  | .unsent xid e => (peer.unsent xid e, [])
  | .link (.issue request callback) => peer.issue request callback
  | .link .resume => peer.resume
  | .link (.read bytes) => (peer.read bytes, [])
  | .link (.sinkAccepts n) => (peer.write n, [])
  | .link event => ({ peer with link := (peer.link.step event).1 }, [])

end Peer

/-! ## The system -/

/-- A server and its clients, by the number of their connection. -/
structure System (η κ : Type) where
  server : Server η
  peers : List (Peer κ)

namespace System

variable {η κ : Type}

/-- A server without clients. -/
def start (server : Server η) : System η κ := ⟨server, []⟩

/-- An action in a system. -/
inductive Event (η κ : Type) where
  /-- A client connects to the listener of a generation. -/
  | connect (generation : Nat) (settings : ClientSettings)
  | client (k : Nat) (event : Peer.Event κ)
  /-- The server acts, with handlers that respond as given. -/
  | server (respond : η → List Value → Outcome) (event : Server.Event η)

/-- The types of calls that an action names: those of a call that is issued, or those that
functions are registered under. -/
def Event.declares : Event η κ → List (CallId × List Ty × List Ty)
  | .client _ (.link (.issue request _)) =>
    [(request.callId, request.argTypes, request.resultTypes)]
  | .server _ (.register registration) =>
    [(registration.callId, registration.argTypes, registration.resultTypes)]
  | .server _ (.registerService service) =>
    service.methods.map fun method =>
      (method.signature.callId, method.signature.argTypes, method.signature.resultTypes)
  | _ => []

/-- An action names the types that were agreed on for each call. -/
def Event.Agrees (types : CallId → List Ty × List Ty) (event : Event η κ) : Prop :=
  ∀ declared ∈ event.declares, types declared.1 = declared.2

/-- What the effect of a server means for the connection. -/
def happening? (respond : η → List Value → Outcome) :
    Server.Effect η → Option (Nat × Happening η)
  | .dispatched c request registration => some (c, .dispatched request registration)
  | .called c request registration args =>
    some (c, .handled ⟨request, registration, args, respond registration.handler args⟩)
  | .queued c reply => some (c, .replied reply)
  | .dropped .. | .wrote .. => none

/-- The server acts. -/
def serve (system : System η κ) (respond : η → List Value → Outcome) (event : Server.Event η) :
    System η κ × List (Nat × Happening η) :=
  let next := @Server.step η ⟨respond⟩ system.server event
  ({ system with server := next.1 }, next.2.filterMap (happening? respond))

/-- A client connects, if its settings are valid and a listener accepts it. -/
def connect (system : System η κ) (generation : Nat) (settings : ClientSettings) : System η κ :=
  match settings.validate, system.server.accept generation with
  | .ok (), some server =>
    { server, peers := system.peers ++ [.connected system.server.registry settings] }
  | _, _ => system

/-- The server reads bytes that wait on the wire of a connection. -/
def receive (system : System η κ) (respond : η → List Value → Outcome) (c : Nat) (bytes : Bytes) :
    System η κ × List (Nat × Happening η) :=
  match system.peers[c]?, system.server.connection? c with
  | some peer, some connection =>
    match connection.receive bytes with
    | none => (system, [])
    | some _ =>
      if bytes <+: peer.toServer.ahead then
        { system with
          peers := system.peers.set c { peer with toServer := peer.toServer.advance bytes }
          }.serve respond (.receive c bytes)
      else (system, [])
  | _, _ => (system, [])

/-- The sink of a connection accepts some of the bytes that the server offers. -/
def write (system : System η κ) (respond : η → List Value → Outcome) (c n : Nat) :
    System η κ × List (Nat × Happening η) :=
  match system.peers[c]?, system.server.connection? c with
  | some peer, some connection =>
    let bytes := connection.writer.offered.flatten.take n
    { system with
      peers := system.peers.set c { peer with toClient := peer.toClient.write bytes }
      }.serve respond (.sinkAccepts c n)
  | _, _ => (system, [])

/-- Run one action. An action that is not possible changes nothing. -/
def step (system : System η κ) : Event η κ → System η κ × List (Nat × Happening η)
  | .connect generation settings => (system.connect generation settings, [])
  | .client k event =>
    match system.peers[k]? with
    | none => (system, [])
    | some peer =>
      let (peer, seen) := peer.step event
      ({ system with peers := system.peers.set k peer }, seen.map (k, ·))
  | .server _ (.accept _) => (system, [])
  | .server respond (.receive c bytes) => system.receive respond c bytes
  | .server respond (.sinkAccepts c n) => system.write respond c n
  | .server respond event => system.serve respond event

/-- Run actions one after the other. -/
def run (system : System η κ) (events : List (Event η κ)) :
    System η κ × List (Nat × Happening η) :=
  Machine.run step system events

/-- The decoded outcome of a call, once it is resolved. -/
def result? (system : System η κ) (k : Nat) (xid : Int64) : Option CallResult :=
  system.peers[k]?.bind (·.link.client.result? xid)

end System

/-! ## Histories -/

/-- What happened on one connection, in order. -/
def on {η : Type} (k : Nat) (seen : List (Nat × Happening η)) : List (Happening η) :=
  seen.filterMap fun (c, happening) => if c = k then some happening else none

namespace Happening

variable {η : Type}

/-- The calls that were given a transaction ID, in order. -/
def calls (history : List (Happening η)) : List (Int64 × Request) :=
  history.filterMap fun
    | .issued xid request => some (xid, request)
    | _ => none

/-- The calls that were given one transaction ID. -/
def callsOf (xid : Int64) (history : List (Happening η)) : List Request :=
  ((calls history).filter (·.1 = xid)).map (·.2)

/-- The requests that were queued on the client's side. -/
def requests (history : List (Happening η)) : List Frame :=
  history.filterMap fun
    | .requested frame => some frame
    | _ => none

/-- The requests that the server looked up. -/
def dispatches (history : List (Happening η)) : List Frame :=
  history.filterMap fun
    | .dispatched frame _ => some frame
    | _ => none

/-- The calls of handlers. -/
def handlings (history : List (Happening η)) : List (Handling η) :=
  history.filterMap fun
    | .handled handling => some handling
    | _ => none

/-- The replies that were queued on the server's side. -/
def replies (history : List (Happening η)) : List Frame :=
  history.filterMap fun
    | .replied frame => some frame
    | _ => none

end Happening

end RemoteCall
