import RemoteCall.Bytes.Pieces
import RemoteCall.Session.Address
import RemoteCall.Session.World

/-!
# Running a script

`World.step` runs one step of a script and answers it; `run` runs a whole script.  A step that names
something that does not exist ends the session.  So does one that closes a client whose delivery
thread stands at the shut gate: the thread of the session joins that thread, and waits for good.

Before a step looks at anything, everything in the world runs until it waits for the script.

A step acts on the machines by their own actions, and the answer is read off the state that they are
in afterwards.  What depends on the outside is reduced to what can be known in advance: the port of
a listener is not told, an address can be bound if its host is the machine itself, and a call that
is not answered when all has come to rest is a call that runs out of time.
-/

namespace RemoteCall

namespace Session

namespace World

/-- What a step leads to. -/
abbrev Stepped := Except Halt (Answer × World)

/-! ## Names -/

/-- Give a name, in place of what had it before. -/
def assign {α : Type} (names : List (String × α)) (name : String) (target : α) :
    List (String × α) :=
  (name, target) :: names.filter (·.1 ≠ name)

/-- The client of a name. -/
def client (world : World) (name : String) : Except Halt Nat :=
  match world.clientNames.lookup name with
  | some i => .ok i
  | none => .error (.client name)

/-- The call of a named future. -/
def namedFuture (world : World) (name : String) : Except Halt (Nat × Int64) :=
  match world.futureNames.lookup name with
  | some call => .ok call
  | none => .error (.future name)

/-- The server in use. -/
def server (world : World) : Except Halt (Nat × Host) :=
  match world.host.bind fun s => world.hosts[s]?.map fun host => (s, host) with
  | some found => .ok found
  | none => .error .server

/-- The line of a wire, and whether the wire is the end that has dialled. -/
def wireLine (world : World) : Wire → Except Halt (Nat × Bool)
  | .raw name =>
    match world.rawNames.lookup name with
    | some l => .ok (l, true)
    | none => .error (.rawConnection name)
  | .peerOf name =>
    match world.client name with
    | .error halt => .error halt
    | .ok i =>
      match world.clients[i]? with
      | some caller => .ok (caller.line, false)
      | none => .error (.client name)

/-- The poll manager in use; there is one from the first time that it is needed. -/
def needManager (world : World) : Nat × World :=
  match world.managers with
  | [] => (0, { world with managers := [.default] })
  | managers => (managers.length - 1, world)

/-- Whether a poll manager is shut down. -/
def isShutDown (world : World) (manager : Nat) : Bool :=
  (world.managers[manager]?.map PollManager.isShutDown).getD false

/-! ## Connecting -/

/-- The refusal of a connection. -/
def refusal : Error := .io "connection refused"

/-- The server that listens and can be reached, with its generation. -/
def listener? (world : World) : Option (Nat × Nat) :=
  (List.range world.hosts.length).findSome? fun s =>
    match world.hosts[s]? with
    | none => none
    | some host =>
      match host.server.listening with
      | some listening =>
        if listening.generation ∈ host.server.acceptors then some (s, listening.generation)
        else none
      | none => none

/-- Connect to a target: the end at which somebody listens, if the network lets it be reached. -/
def dial (world : World) (target : Target) : Except Error (End × World) :=
  match world.network, target with
  | .unreachable, _ | _, .refused | _, .address _ => .error refusal
  | .reachable, .peer name =>
    if name ∈ world.gonePeers then .error refusal else .ok (.wire, world)
  | .reachable, .server =>
    match world.listener? with
    | none => .error refusal
    | some (s, generation) =>
      match world.hosts[s]? with
      | none => .error refusal
      | some host =>
        .ok (.connection s host.server.nextConnection, world.onServer s (.accept generation))

/-- Add a line; returns its index. -/
def addLine (world : World) (dialer listener : End) (ended : Bool) : Nat × World :=
  (world.lines.length,
    { world with lines := world.lines ++ [⟨dialer, listener, ⟨[], ended⟩, .fresh⟩] })

/-- Connect a client. Its settings are checked first, then the connection is made, and then the
poll manager has to be able to run it. -/
def connectClient (world : World) (registry : Registry) (settings : ClientSettings)
    (manager : Nat) (target : Target) : Except Error Nat × World :=
  match settings.validate with
  | .error e => (.error e, world)
  | .ok () =>
    match world.dial target with
    | .error e => (.error e, world)
    | .ok (listener, world) =>
      if world.isShutDown manager then
        (.error (.config .pollShutDown), (world.addLine .wire listener true).2)
      else
        let i := world.clients.length
        let (l, world) := world.addLine (.client i) listener false
        (.ok i,
          { world with
            clients := world.clients ++
              [⟨.connected registry settings, settings, manager, l, none⟩] })

/-- Whether the delivery thread of a client that is not closed stands at the shut gate. -/
def isHeld (world : World) (i : Nat) : Bool :=
  !world.gateOpen && world.clients[i]?.any fun caller =>
    caller.held.isSome && decide (caller.link.client.closing = .notClosed)

/-- Close a client on the thread of the session, which joins the delivery thread first. -/
def closeClient (world : World) (i : Nat) : Except Halt World :=
  if world.isHeld i then .error .joining else .ok (world.perform i .caller Link.close).2

/-- Give a client its name. One that had the name before is closed, unless the pool keeps it. -/
def nameClient (world : World) (name : String) (i : Nat) : Except Halt World := do
  let kept := (world.pool.map fun p => p.pool.entries.map Prod.snd).getD []
  let world ←
    match world.clientNames.lookup name with
    | some old => if old ≠ i ∧ old ∉ kept then world.closeClient old else .ok world
    | none => .ok world
  return { world with clientNames := assign world.clientNames name i }

/-! ## Wires -/

/-- Change the direction in which a wire sends. -/
def updateOutgoing (world : World) (l : Nat) (dialled : Bool) (change : Pipe → Pipe) : World :=
  world.updateLine l fun line =>
    if dialled then { line with toListener := change line.toListener }
    else { line with toDialer := change line.toDialer }

/-- What has arrived at a wire. -/
def incoming (world : World) (l : Nat) (dialled : Bool) : Pipe :=
  match world.lines[l]? with
  | none => .fresh
  | some line => if dialled then line.toDialer else line.toListener

/-- Leave only some of what has arrived at a wire. -/
def leave (world : World) (l : Nat) (dialled : Bool) (rest : Bytes) : World :=
  let keep (pipe : Pipe) : Pipe := { pipe with segments := if rest = [] then [] else [rest] }
  world.updateLine l fun line =>
    if dialled then { line with toDialer := keep line.toDialer }
    else { line with toListener := keep line.toListener }

/-- The most bytes that are read at once. -/
def readLimit : Nat := 65536

/-- Send frames and bytes on a wire, in one write or in writes of a size. -/
def sendOn (world : World) (l : Nat) (dialled : Bool) (frames : List Frame) (bytes : Bytes)
    (split : Option Nat) : World :=
  let content := frames.flatMap Frame.encode ++ bytes
  (Bytes.pieces (split.getD readLimit - 1) content).foldl
    (fun (world : World) piece => world.updateOutgoing l dialled (·.write piece)) world

/-- Close a wire: nothing more is sent, and nothing that arrives is looked at. -/
def closeWire (world : World) (l : Nat) (dialled : Bool) : World :=
  (world.updateOutgoing l dialled fun pipe => { pipe with ended := true }).leave l dialled []

/-! ## Calls -/

/-- The slot of a call of a client. -/
def future? (world : World) (i : Nat) (xid : Int64) : Option Future :=
  world.clients[i]?.bind (·.link.client.future? xid)

/-- The registry of a client. -/
def registryOf (world : World) (i : Nat) : Registry :=
  (world.clients[i]?.map fun caller => caller.link.client.registry).getD .empty

/-- Issue a call on the thread of the session. -/
def issue (world : World) (i : Nat) (request : Request) (callback : Option Callback) :
    Except Error Int64 × World :=
  let (effects, world) := world.perform i .caller (·.issue request callback)
  let result := effects.findSome? fun
    | .issued xid => some (.ok xid)
    | .refused e => some (.error e)
    | _ => none
  (result.getD (.error .notConnected), world)

/-- The peer of a client reads a request, and answers it. -/
def peerAnswers (world : World) (l : Nat) (answer : PeerAnswer) : Option Frame × World :=
  let (frames, rest) := Frame.takeFront 1 (world.incoming l false).content
  let world := world.leave l false rest
  match frames, answer with
  | request :: _, .close => (some request, world.closeWire l false)
  | request :: _, .send frames bytes split =>
    let frames := frames.map fun (xid, tag, payload) =>
      Frame.ofPayload (xid.getD request.xid) tag payload
    (some request, world.sendOn l false frames bytes split)
  | [], _ => (none, world)

/-- A call that waits for its outcome. One that is not resolved in a settled world is given up. -/
def callAndWait (world : World) (i : Nat) (request : Request) (answer : Option PeerAnswer) :
    Answer × World :=
  match world.issue i request none with
  | (.error e, world) => (.outcome (.error e) none, world)
  | (.ok xid, world) =>
    let world := world.settle
    let (asked, world) :=
      match answer, world.clients[i]? with
      | some answer, some caller =>
        let (asked, world) := world.peerAnswers caller.line answer
        (asked, world.settle)
      | _, _ => (none, world)
    let (_, world) := world.perform i .caller (·.onClient (·.abandon xid))
    let outcome := (world.future? i xid).bind (·.finish? (world.registryOf i))
    (.outcome (outcome.getD (.error .timeout)) asked, world)

/-! ## The pool -/

/-- The address of a target as the pool knows it. -/
def addressOf (world : World) : Target → String
  | .server =>
    match world.listener? with
    | some (s, generation) => s!"server {s} {generation}"
    | none => "server"
  | .peer name => s!"peer {name}"
  | .refused => "refused"
  | .address text => s!"address {text}"

/-- Whether a client is connected. -/
def isConnected (world : World) (i : Nat) : Bool :=
  (world.clients[i]?.map fun caller => caller.link.client.isConnected).getD false

/-- Ask the pool for a client. -/
def poolGet (world : World) (state : PoolState) (name : String) (target : Target) : Stepped := do
  let address := world.addressOf target
  match state.pool.find world.isConnected address with
  | .connected i =>
    return (.pooled ((world.clientNames.find? (·.2 = i)).map Prod.fst), world)
  | found =>
    let (dialled, world) :=
      world.connectClient state.registry state.settings state.manager target
    let pool := { state with pool := state.pool.settle address dialled }
    let world := { world with pool := some pool }
    let world ←
      match found with
      | .stale old => world.closeClient old
      | _ => .ok world
    match dialled with
    | .error e => return (.failed e, world)
    | .ok i => return (.pooled none, ← world.nameClient name i)

/-! ## Steps -/

/-- Stop a server. -/
def stopServer (world : World) (s : Nat) : World := world.onServer s .stop

/-- Register something with a server. -/
def registerWith (world : World) (s : Nat) (result : Except Error (Server Handler)) :
    Answer × World :=
  match result with
  | .error e => (.failed e, world)
  | .ok server => (.done, world.updateHost s fun host => { host with server })

/-- The bound address in messages: which port is free is not for a session to say. -/
def boundAddress : String := "<addr>"

/-- Bind an address. -/
def bind (text : String) : Except Error String :=
  match Address.ofString text with
  | some address => if address.isLocal then .ok boundAddress else .error (.io "cannot bind")
  | none => .error (.io "malformed address")

/-- Take frames that have arrived at a wire. -/
def receive (world : World) (wire : Wire) (count : Option Nat) (ordered : Bool) : Stepped := do
  let world := world.settle
  let (l, dialled) ← world.wireLine wire
  let pipe := world.incoming l dialled
  let wanted := count.getD (pipe.content.length + 1)
  let (frames, rest) := Frame.takeFront wanted pipe.content
  let shown := if ordered then frames else frames.mergeSort Frame.before
  return (.frames shown (decide (frames.length < wanted) && pipe.ended),
    world.leave l dialled rest)

/-- Run one step of a script. -/
def step (world : World) : Step → Stepped
  | .poll settings =>
    match PollManager.start settings with
    | .error e => .ok (.failed e, world)
    | .ok manager =>
      .ok (.poll settings, { world with managers := world.managers ++ [manager] })
  | .pollShutDown => do
    let (m, world) := world.settle.needManager
    let world := { world with managers := world.managers.modify m PollManager.shutDown }
    let world := { world with
      hosts := world.hosts.map fun host =>
        if host.manager = m then { host with server := host.server.dropTasks } else host }
    let world := (List.range world.clients.length).foldl
      (fun (world : World) i =>
        match world.clients[i]? with
        | some caller =>
          if caller.manager = m then (world.perform i .other Link.dropTasks).2 else world
        | none => world)
      world
    return (.done, world.settle)
  | .pollIsShutDown =>
    let (m, world) := world.needManager
    .ok (.flag (world.isShutDown m), world)
  | .server registry settings services =>
    let (manager, world) := world.needManager
    let world := { world with services := services.reverse ++ world.services }
    match (Server.create registry settings).bind (·.registerServices services) with
    | .error e => .ok (.failed e, world)
    | .ok server =>
      let world := (world.host.map world.stopServer).getD world
      .ok (.count server.functions.size,
        { world with
          hosts := world.hosts ++ [⟨server, manager, []⟩]
          host := some world.hosts.length })
  | .register registration => do
    let (s, host) ← world.server
    return world.registerWith s (host.server.register registration)
  | .registerService service => do
    let (s, host) ← world.server
    let world := { world with services := service :: world.services }
    return world.registerWith s (host.server.registerService service)
  | .unregister id => do
    let (s, host) ← world.server
    let (known, server) := host.server.unregister id
    return (.flag known, world.updateHost s fun host => { host with server })
  | .isRegistered id => do
    let (_, host) ← world.server
    return (.flag (host.server.functions.contains id), world)
  | .registeredCount => do
    let (_, host) ← world.server
    return (.count host.server.functions.size, world)
  | .start address => do
    let (s, host) ← world.server
    match host.server.start (bind address) (world.isShutDown host.manager) with
    | .error e => return (.failed e, world)
    | .ok server => return (.flag true, world.updateHost s fun host => { host with server })
  | .stop => do
    let (s, _) ← world.server
    return (.done, (world.settle.stopServer s).settle)
  | .dropServer => do
    let (s, _) ← world.server
    return (.done, { (world.settle.stopServer s).settle with host := none })
  | .running => do
    let (_, host) ← world.server
    return (.running host.server.isRunning host.server.listening.isSome, world)
  | .connectionCount => do
    let world := world.settle
    let (_, host) ← world.server
    return (.count host.server.served, world)
  | .openGate => .ok (.done, { world.settle with gateOpen := true }.settle)
  | .shutGate => .ok (.done, { world.settle with gateOpen := false })
  | .arrivals =>
    let world := world.settle
    .ok (.count world.arrivals, world)
  | .openRaw name =>
    match world.dial .server with
    | .error e => .ok (.failed e, world)
    | .ok (listener, world) =>
      let (l, world) := world.addLine .wire listener false
      .ok (.flag true, { world with rawNames := assign world.rawNames name l })
  | .send wire frames bytes split => do
    let (l, dialled) ← world.wireLine wire
    return (.done, (world.settle.sendOn l dialled frames bytes split).settle)
  | .receive wire count ordered => world.receive wire (some count) ordered
  | .receiveAll wire => world.receive wire none true
  | .halfClose wire => do
    let (l, dialled) ← world.wireLine wire
    let world := world.settle.updateOutgoing l dialled fun pipe => { pipe with ended := true }
    return (.done, world.settle)
  | .closeWire wire => do
    let (l, dialled) ← world.wireLine wire
    return (.done, (world.settle.closeWire l dialled).settle)
  | .peerGone name => .ok (.done, { world with gonePeers := name :: world.gonePeers })
  | .connect name target registry settings =>
    let (manager, world) := world.settle.needManager
    match world.connectClient registry settings manager target with
    | (.error e, world) => .ok (.failed e, world)
    | (.ok i, world) => do
      let world ← world.nameClient name i
      return (.flag true, world.settle)
  | .call name request future callback => do
    let i ← world.client name
    match world.settle.issue i request callback with
    | (.error e, world) => return (.failed e, world)
    | (.ok xid, world) =>
      let futureNames :=
        match future with
        | some f => assign world.futureNames f (i, xid)
        | none => world.futureNames
      return (.issued xid, { world with futureNames }.settle)
  | .callbacks =>
    let world := world.settle
    .ok (.entries world.log, { world with log := [] })
  | .syncCall name request answer => do
    let i ← world.client name
    return world.settle.callAndWait i request answer
  | .serviceCall name service method args => do
    let i ← world.client name
    match (world.services.find? (·.name = service)).bind (·.signature? method) with
    | none => return (.done, world)
    | some signature =>
      let request := ⟨signature.callId, args, signature.argTypes, signature.resultTypes⟩
      return world.settle.callAndWait i request none
  | .close name => do
    let i ← world.client name
    return (.done, (← world.settle.closeClient i).settle)
  | .isConnected name => do
    let i ← world.client name
    let world := world.settle
    return (.flag (world.isConnected i), world)
  | .pending name => do
    let i ← world.client name
    let world := world.settle
    match world.clients[i]? with
    | none => .error (.client name)
    | some caller =>
      let client := caller.link.client
      return (.pending client.pending.length client.callbacks.length, world)
  | .wait name => do
    let (i, xid) ← world.namedFuture name
    let world := world.settle
    return (.flag (((world.future? i xid).map Future.ready).getD false), world)
  | .future name => do
    let (i, xid) ← world.namedFuture name
    let world := world.settle
    match world.future? i xid with
    | none => .error (.future name)
    | some future => return (.future xid future.ready future.status?, world)
  | .takeReply name => do
    let (i, xid) ← world.namedFuture name
    let world := world.settle
    match (world.future? i xid).bind Future.takeReply? with
    | none => .error (.future name)
    | some (.error e, _) => return (.failed e, world)
    | some (.ok reply, future) =>
      let (_, world) := world.act i fun link =>
        ({ link with client := link.client.updateFuture xid fun _ => future }, [])
      return (.reply reply, world)
  | .finish name => do
    let (i, xid) ← world.namedFuture name
    let world := world.settle
    match (world.future? i xid).bind (·.finish? (world.registryOf i)) with
    | none => .error (.future name)
    | some outcome =>
      return (.outcome outcome none,
        { world with futureNames := world.futureNames.filter (·.1 ≠ name) })
  | .release name => do
    let _ ← world.namedFuture name
    return (.done, { world with futureNames := world.futureNames.filter (·.1 ≠ name) })
  | .pool registry settings =>
    let (manager, world) := world.needManager
    .ok (.done, { world with pool := some ⟨.empty, registry, settings, manager⟩ })
  | .poolGet name target =>
    match world.pool with
    | none => .error .pool
    | some state => do
      let (answer, world) ← world.settle.poolGet state name target
      return (answer, world.settle)
  | .poolSize =>
    match world.pool with
    | none => .error .pool
    | some state => .ok (.poolSize state.pool.size state.pool.isEmpty, world)
  | .poolCloseAll =>
    match world.pool with
    | none => .error .pool
    | some state => do
      let (pool, closed) := state.pool.closeAll
      let world ← closed.foldlM closeClient { world with pool := some { state with pool } }
      return (.done, world.settle)

/-- Run the steps of a script. -/
def steps (world : World) : List Step → Except Halt (List Answer)
  | [] => .ok []
  | step :: rest =>
    match world.step step with
    | .error halt => .error halt
    | .ok (answer, world) =>
      match world.steps rest with
      | .error halt => .error halt
      | .ok answers => .ok (answer :: answers)

end World

/-- Run a script over a network. -/
def run (network : Network) (script : List Step) : Except Halt (List Answer) :=
  (World.start network).steps script

end Session

end RemoteCall
