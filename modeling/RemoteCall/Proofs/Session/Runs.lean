import RemoteCall.Proofs.Client.Hosting
import RemoteCall.Proofs.Server.Serving
import RemoteCall.Proofs.Session.Rounds
import RemoteCall.Session.Run

/-!
# The steps of a session

Between the rounds of its world, a session acts on the machines itself, as a script says: it creates
a server or connects a client, registers functions, starts and stops a listener, shuts a poll
manager down, issues calls, closes clients and takes replies.  Each of that is an action of a
machine, or the beginning of one, too.

So all that a session does to a server is a run of `Serving`, and all that it does to a client is a
run of `Hosted` in which no call is left in the hands of a thread, whatever the script is.  The
properties that are proved of these machines, over all of their runs, hold of the servers and the
clients of every session; `Reached.served_count` is an example of how they are used.

A session may also halt: a name stands for nothing, or a client is closed whose delivery thread
stands at the shut gate.  Then there is no next world, and nothing is claimed (`Gives`).

## Main statements

* `Persists.step` — what every action on a server and on a link keeps, a step of a script keeps.
* `Reached.served` — each server of a session is at the end of a run of `Serving`.
* `Reached.connected`, `Reached.threads` — each client of a session is at the end of a run of
  `Hosted`, and so of a run of its threads.
-/

namespace RemoteCall

namespace Session

/-- What a computation gives is good, if it gives anything. -/
def Gives {α : Type} (good : α → Prop) (result : Except Halt α) : Prop :=
  ∀ a, result = .ok a → good a

section

variable {α β : Type} {good : α → Prop} {fine : β → Prop}

lemma gives_ok {a : α} (holds : good a) : Gives good (.ok a) := by
  rintro _ ⟨⟩
  exact holds

lemma gives_error (halt : Halt) : Gives good (.error halt) := nofun

lemma Gives.bind {result : Except Halt α} {next : α → Except Halt β} (gives : Gives good result)
    (goes : ∀ a, good a → Gives fine (next a)) : Gives fine (result >>= next) := by
  cases result with
  | error halt => exact nofun
  | ok a => exact goes a (gives a rfl)

lemma gives_any (result : Except Halt α) : Gives (fun _ => True) result := fun _ _ => trivial

lemma Gives.foldlM {items : List β} {act : α → β → Except Halt α}
    (gives : ∀ a item, good a → Gives good (act a item)) {a : α} (holds : good a) :
    Gives good (items.foldlM act a) := by
  induction items generalizing a with
  | nil => exact gives_ok holds
  | cons item rest ih =>
    rw [List.foldlM_cons]
    exact (gives a item holds).bind fun _ kept => ih kept

end

lemma getElem?_concat_cases {α : Type} {items : List α} {last item : α} {n : Nat}
    (here : (items ++ [last])[n]? = some item) :
    items[n]? = some item ∨ n = items.length ∧ item = last := by
  by_cases before : n < items.length
  · rw [List.getElem?_append_left before] at here
    exact Or.inl here
  · rw [List.getElem?_append_right (Nat.not_lt.mp before)] at here
    obtain ⟨zero, same⟩ := List.getElem?_eq_some_iff.mp here
    rw [List.getElem_singleton] at same
    rw [List.length_singleton] at zero
    exact Or.inr ⟨by omega, same.symm⟩

namespace World

attribute [local irreducible] World.settle

/-- Whatever a session does to a server or a link keeps the properties, and they hold from the
beginning. -/
structure Persists (P : Nat → Server Handler → Prop) (Q : Nat → Link Callback → Prop) : Prop
    extends Keeps P Q where
  creates : ∀ s registry settings server, Server.create registry settings = .ok server → P s server
  starts : ∀ s server bound pollShutDown next, P s server →
    server.start bound pollShutDown = .ok next → P s next
  drops : ∀ s server, P s server → P s server.dropTasks
  connects : ∀ i registry settings, settings.validate = .ok () → Q i (.connected registry settings)
  takes : ∀ i link xid reply future, Q i link →
    (link.client.future? xid).bind Future.takeReply? = some (reply, future) →
      Q i { link with client := link.client.updateFuture xid fun _ => future }

/-- The world that a step leaves, if it leaves one, has the properties. -/
abbrev Leaves (P : Nat → Server Handler → Prop) (Q : Nat → Link Callback → Prop)
    (stepped : Stepped) : Prop := Gives (fun result => result.2.Holds P Q) stepped

section

variable {P : Nat → Server Handler → Prop} {Q : Nat → Link Callback → Prop} {world : World}

/-! ## Servers -/

lemma Persists.registers (persists : Persists P Q) {s : Nat} {server next : Server Handler}
    {registration : Registration Handler} (holds : P s server)
    (registered : server.register registration = .ok next) : P s next := by
  have acted := persists.serves s server (.register registration) holds
  simp only [Server.step, registered] at acted
  exact acted

lemma Persists.registersService (persists : Persists P Q) {s : Nat}
    {server next : Server Handler} {service : Service Handler} (holds : P s server)
    (registered : server.registerService service = .ok next) : P s next := by
  have acted := persists.serves s server (.registerService service) holds
  simp only [Server.step, registered] at acted
  exact acted

lemma Persists.registersServices (persists : Persists P Q) {s : Nat}
    {services : List (Service Handler)} {server next : Server Handler} (holds : P s server)
    (registered : server.registerServices services = .ok next) : P s next := by
  induction services generalizing server with
  | nil =>
    cases registered
    exact holds
  | cons service rest ih =>
    unfold Server.registerServices at registered
    split at registered
    · rename_i between first
      exact ih (persists.registersService holds first) registered
    · cases registered

/-- A server that was created comes last. -/
lemma Holds.addHost (holds : world.Holds P Q) (host : Host)
    (new : P world.hosts.length host.server) {next : World}
    (hosts : next.hosts = world.hosts ++ [host]) (clients : next.clients = world.clients) :
    next.Holds P Q := by
  refine ⟨fun s found here => ?_, fun i caller here => ?_⟩
  · rw [hosts] at here
    rcases getElem?_concat_cases here with before | ⟨rfl, rfl⟩
    · exact holds.servers s found before
    · exact new
  · rw [clients] at here
    exact holds.links i caller here

/-- A client that was connected comes last. -/
lemma Holds.addClient (holds : world.Holds P Q) {caller : Caller}
    (new : Q world.clients.length caller.link) {next : World} (hosts : next.hosts = world.hosts)
    (clients : next.clients = world.clients ++ [caller]) : next.Holds P Q := by
  refine ⟨fun s host here => ?_, fun i found here => ?_⟩
  · rw [hosts] at here
    exact holds.servers s host here
  · rw [clients] at here
    rcases getElem?_concat_cases here with before | ⟨rfl, rfl⟩
    · exact holds.links i found before
    · exact new

lemma Persists.registerWith (holds : world.Holds P Q) (s : Nat)
    {result : Except Error (Server Handler)}
    (registered : ∀ server, result = .ok server → P s server) :
    (world.registerWith s result).2.Holds P Q := by
  unfold World.registerWith
  split
  · exact holds
  · rename_i server
    exact holds.updateHost fun _ _ => registered server rfl

/-! ## Clients -/

lemma Persists.dial (persists : Persists P Q) (holds : world.Holds P Q) {target : Target}
    {listener : End} {next : World} (dialled : world.dial target = .ok (listener, next)) :
    next.Holds P Q := by
  unfold World.dial at dialled
  split at dialled
  · cases dialled
  · cases dialled
  · cases dialled
  · split at dialled
    · cases dialled
    · cases dialled
      exact holds
  · split at dialled
    · cases dialled
    · split at dialled
      · cases dialled
      · cases dialled
        exact persists.onServer holds _ _

lemma Persists.connectClient (persists : Persists P Q) (holds : world.Holds P Q)
    (registry : Registry) (settings : ClientSettings) (manager : Nat) (target : Target) :
    (world.connectClient registry settings manager target).2.Holds P Q := by
  unfold World.connectClient
  split
  · exact holds
  · rename_i valid
    split
    · exact holds
    · rename_i listener between dialled
      have kept := persists.dial holds dialled
      split
      · exact kept.congr rfl rfl
      · exact kept.addClient (persists.connects _ registry settings valid) rfl rfl

lemma Persists.closeClient (persists : Persists P Q) (holds : world.Holds P Q) (i : Nat) :
    Gives (Holds P Q) (world.closeClient i) := by
  unfold World.closeClient
  split
  · exact gives_error _
  · exact gives_ok (persists.perform holds i _ fun link => persists.links i link .close)

lemma Persists.nameClient (persists : Persists P Q) (holds : world.Holds P Q) (name : String)
    (i : Nat) : Gives (Holds P Q) (world.nameClient name i) := by
  have named : ∀ next : World, next.Holds P Q →
      Gives (Holds P Q) (.ok { next with clientNames := assign next.clientNames name i }) :=
    fun next kept => gives_ok (kept.congr rfl rfl)
  unfold World.nameClient
  dsimp only
  split
  · split
    · exact (persists.closeClient holds _).bind named
    · exact named world holds
  · exact named world holds

lemma Persists.issue (persists : Persists P Q) (holds : world.Holds P Q) (i : Nat)
    (request : Request) (callback : Option Callback) :
    (world.issue i request callback).2.Holds P Q :=
  persists.perform holds i .caller fun link => persists.links i link (.issue request callback)

lemma Holds.sendOn (holds : world.Holds P Q) (l : Nat) (dialled : Bool) (frames : List Frame)
    (bytes : Bytes) (split : Option Nat) :
    (world.sendOn l dialled frames bytes split).Holds P Q :=
  holds.foldl _ fun _ _ kept => kept.congr rfl rfl

lemma Holds.peerAnswers (holds : world.Holds P Q) (l : Nat) (answer : PeerAnswer) :
    (world.peerAnswers l answer).2.Holds P Q := by
  unfold World.peerAnswers
  dsimp only
  split
  · exact holds.congr rfl rfl
  · refine Holds.sendOn ?_ _ _ _ _ _
    exact holds.congr rfl rfl
  · exact holds.congr rfl rfl

lemma Persists.callAndWait (persists : Persists P Q) (holds : world.Holds P Q) (i : Nat)
    (request : Request) (answer : Option PeerAnswer) :
    (world.callAndWait i request answer).2.Holds P Q := by
  have issued := persists.issue holds i request none
  unfold World.callAndWait
  split
  · rename_i e next same
    rw [same] at issued
    exact issued
  · rename_i xid next same
    rw [same] at issued
    have settled := persists.settle issued
    generalize next.settle = next at settled
    have abandoned : ∀ between : World, between.Holds P Q →
        (between.perform i .caller (·.onClient (·.abandon xid))).2.Holds P Q :=
      fun between kept =>
        persists.perform kept i .caller fun link => persists.links i link (.abandon xid)
    dsimp only
    split
    · rename_i answer caller _
      have answered := persists.settle (settled.peerAnswers caller.line answer)
      generalize (next.peerAnswers caller.line answer).2.settle = next at answered
      exact abandoned next answered
    · exact abandoned next settled

lemma Persists.poolGet (persists : Persists P Q) (holds : world.Holds P Q) (state : PoolState)
    (name : String) (target : Target) :
    Leaves P Q (world.poolGet state name target) := by
  unfold World.poolGet
  dsimp only
  split
  · exact gives_ok holds
  · have connected :=
      persists.connectClient holds state.registry state.settings state.manager target
    generalize world.connectClient state.registry state.settings state.manager target = dialled
      at connected
    obtain ⟨dialled, between⟩ := dialled
    dsimp only at connected ⊢
    have kept : ∀ pool, { between with pool := some pool }.Holds P Q :=
      fun _ => connected.congr rfl rfl
    cases dialled with
    | error e =>
      split
      · exact (persists.closeClient (kept _) _).bind fun _ closed => gives_ok closed
      · exact gives_ok (kept _)
    | ok i =>
      have named : ∀ next : World, next.Holds P Q →
          Leaves P Q
            (next.nameClient name i >>= fun next => Except.ok (Answer.pooled none, next)) :=
        fun next holds => (persists.nameClient holds name i).bind fun _ kept => gives_ok kept
      split
      · exact (persists.closeClient (kept _) _).bind named
      · exact named _ (kept _)

lemma Holds.needManager (holds : world.Holds P Q) : world.needManager.2.Holds P Q := by
  unfold World.needManager
  split
  · exact holds.congr rfl rfl
  · exact holds

lemma gives_server (world : World) :
    Gives (fun found : Nat × Host => world.hosts[found.1]? = some found.2) world.server := by
  intro found gives
  unfold World.server at gives
  split at gives
  · rename_i found' here
    cases gives
    obtain ⟨s, -, here⟩ := Option.bind_eq_some_iff.mp here
    obtain ⟨host, there, same⟩ := Option.map_eq_some_iff.mp here
    cases same
    exact there
  · cases gives

lemma Persists.receive (persists : Persists P Q) (holds : world.Holds P Q) (wire : Wire)
    (count : Option Nat) (ordered : Bool) :
    Leaves P Q (world.receive wire count ordered) := by
  unfold World.receive
  refine (gives_any _).bind fun found _ => gives_ok ?_
  exact (persists.settle holds).congr rfl rfl

/-- Whoever holds a future takes the reply that is in its slot. -/
lemma Persists.takeReply (persists : Persists P Q) (holds : world.Holds P Q) {i : Nat}
    {xid : Int64} {reply : Except Error (Option Bytes)} {future : Future}
    (taken : (world.future? i xid).bind Future.takeReply? = some (reply, future)) :
    (world.act i fun link =>
      ({ link with client := link.client.updateFuture xid fun _ => future }, [])).2.Holds P Q := by
  unfold World.future? at taken
  unfold World.act
  cases here : world.clients[i]? with
  | none => exact holds
  | some caller =>
    rw [here] at taken
    exact holds.updateClient fun _ _ =>
      persists.takes i caller.link xid reply future (holds.links i caller here) taken

/-- A poll manager is shut down, and everything that runs on it is dropped. -/
lemma Persists.shutDown (persists : Persists P Q) (holds : world.Holds P Q) (m : Nat) :
    ((List.range world.clients.length).foldl
      (fun (world : World) i =>
        match world.clients[i]? with
        | some caller =>
          if caller.manager = m then (world.perform i .other Link.dropTasks).2 else world
        | none => world)
      { world with
        managers := world.managers.modify m PollManager.shutDown
        hosts := world.hosts.map fun host =>
          if host.manager = m then { host with server := host.server.dropTasks } else host
        }).Holds P Q := by
  have dropped : World.Holds P Q { world with
      managers := world.managers.modify m PollManager.shutDown
      hosts := world.hosts.map fun host =>
        if host.manager = m then { host with server := host.server.dropTasks } else host } := by
    refine ⟨fun s host here => ?_, holds.links⟩
    rw [List.getElem?_map] at here
    obtain ⟨before, found, rfl⟩ := Option.map_eq_some_iff.mp here
    split
    · exact persists.drops s _ (holds.servers s before found)
    · exact holds.servers s before found
  refine dropped.foldl _ fun between i kept => ?_
  split
  · split
    · exact persists.perform kept i .other fun link => persists.links i link .dropTasks
    · exact kept
  · exact kept

/-- A new server takes the place of the one in use. -/
lemma Persists.addServer (persists : Persists P Q) (holds : world.Holds P Q)
    {registry : Registry} {settings : ServerSettings} {services : List (Service Handler)}
    {server : Server Handler}
    (created : (Server.create registry settings).bind (·.registerServices services) = .ok server)
    (manager : Nat) :
    let stopped := (world.host.map world.stopServer).getD world
    { stopped with
      hosts := stopped.hosts ++ [(⟨server, manager, []⟩ : Host)]
      host := some stopped.hosts.length }.Holds P Q := by
  intro stopped
  have kept : stopped.Holds P Q := by
    show ((world.host.map world.stopServer).getD world).Holds P Q
    cases world.host with
    | none => exact holds
    | some s => exact persists.onServer holds s .stop
  refine kept.addHost (⟨server, manager, []⟩ : Host) ?_ rfl rfl
  cases begun : Server.create registry settings with
  | error e =>
    rw [begun] at created
    cases created
  | ok fresh =>
    rw [begun] at created
    exact persists.registersServices (persists.creates _ registry settings fresh begun) created

/-! ## Steps -/

lemma Persists.step_pollShutDown (persists : Persists P Q) (holds : world.Holds P Q) :
    Leaves P Q (world.step .pollShutDown) := by
  have managed := (persists.settle holds).needManager
  unfold World.step
  dsimp only
  generalize world.settle.needManager = managed' at managed
  exact gives_ok (persists.settle (persists.shutDown managed _))

lemma Persists.step_server (persists : Persists P Q) (holds : world.Holds P Q)
    (registry : Registry) (settings : ServerSettings) (services : List (Service Handler)) :
    Leaves P Q (world.step (.server registry settings services)) := by
  have managed := holds.needManager
  unfold World.step
  dsimp only
  generalize world.needManager = found at managed
  have known : { found.2 with services := services.reverse ++ found.2.services }.Holds P Q :=
    managed.congr rfl rfl
  split
  · exact gives_ok known
  · rename_i server created
    exact gives_ok (persists.addServer known created _)

lemma Persists.step_start (persists : Persists P Q) (holds : world.Holds P Q) (address : String) :
    Leaves P Q (world.step (.start address)) := by
  refine (gives_server world).bind fun found here => ?_
  dsimp only
  split
  · exact gives_ok holds
  · rename_i server started
    exact gives_ok (holds.updateHost fun _ _ =>
      persists.starts _ _ _ _ _ (holds.servers _ _ here) started)

lemma Persists.step_openRaw (persists : Persists P Q) (holds : world.Holds P Q) (name : String) :
    Leaves P Q (world.step (.openRaw name)) := by
  unfold World.step
  dsimp only
  split
  · exact gives_ok holds
  · rename_i listener next dialled
    exact gives_ok ((persists.dial holds dialled).congr rfl rfl)

lemma Persists.step_connect (persists : Persists P Q) (holds : world.Holds P Q) (name : String)
    (target : Target) (registry : Registry) (settings : ClientSettings) :
    Leaves P Q (world.step (.connect name target registry settings)) := by
  have managed := (persists.settle holds).needManager
  unfold World.step
  dsimp only
  generalize world.settle.needManager = found at managed
  have connected := persists.connectClient managed registry settings found.1 target
  split
  · rename_i e next same
    rw [same] at connected
    exact gives_ok connected
  · rename_i i next same
    rw [same] at connected
    exact (persists.nameClient connected name i).bind fun _ kept => gives_ok (persists.settle kept)

lemma Persists.step_call (persists : Persists P Q) (holds : world.Holds P Q) (name : String)
    (request : Request) (future : Option String) (callback : Option Callback) :
    Leaves P Q (world.step (.call name request future callback)) := by
  refine (gives_any _).bind fun i _ => ?_
  have issued := persists.issue (persists.settle holds) i request callback
  dsimp only
  split
  · rename_i e next same
    rw [same] at issued
    exact gives_ok issued
  · rename_i xid next same
    rw [same] at issued
    exact gives_ok (persists.settle (issued.congr rfl rfl))

lemma Persists.step_serviceCall (persists : Persists P Q) (holds : world.Holds P Q)
    (name service method : String) (args : List Value) :
    Leaves P Q (world.step (.serviceCall name service method args)) := by
  refine (gives_any _).bind fun i _ => ?_
  dsimp only
  split
  · exact gives_ok holds
  · exact gives_ok (persists.callAndWait (persists.settle holds) i _ none)

lemma Persists.step_takeReply (persists : Persists P Q) (holds : world.Holds P Q)
    (name : String) :
    Leaves P Q (world.step (.takeReply name)) := by
  refine (gives_any _).bind fun found _ => ?_
  dsimp only
  split
  · exact gives_error _
  · exact gives_ok (persists.settle holds)
  · rename_i reply future taken
    exact gives_ok (persists.takeReply (persists.settle holds) taken)

lemma Persists.step_poolGet (persists : Persists P Q) (holds : world.Holds P Q) (name : String)
    (target : Target) :
    Leaves P Q (world.step (.poolGet name target)) := by
  unfold World.step
  dsimp only
  split
  · exact gives_error _
  · rename_i state _
    refine (persists.poolGet (persists.settle holds) state name target).bind fun result kept => ?_
    exact gives_ok (persists.settle kept)

/-- A pool that is emptied has its clients closed one after the other. -/
lemma Persists.step_poolCloseAll (persists : Persists P Q) (holds : world.Holds P Q) :
    Leaves P Q (world.step .poolCloseAll) := by
  unfold World.step
  dsimp only
  split
  · exact gives_error _
  · rename_i state _
    have emptied : { world with pool := some { state with pool := state.pool.closeAll.1 } }.Holds
        P Q := holds.congr rfl rfl
    have closed : Gives (Holds P Q) (state.pool.closeAll.2.foldlM World.closeClient
        { world with pool := some { state with pool := state.pool.closeAll.1 } }) :=
      Gives.foldlM (fun _ i kept => persists.closeClient kept i) emptied
    exact closed.bind fun _ kept => gives_ok (persists.settle kept)

/-- A step of a script keeps the properties. -/
theorem Persists.step (persists : Persists P Q) (holds : world.Holds P Q) (step : Step) :
    Leaves P Q (world.step step) := by
  have settled := persists.settle holds
  cases step with
  -- a step that looks at the world lets it settle first, and most steps end with settling again
  | poll settings =>
    unfold World.step
    dsimp only
    split
    · exact gives_ok holds
    · exact gives_ok (holds.congr rfl rfl)
  | pollShutDown => exact persists.step_pollShutDown holds
  | pollIsShutDown => exact gives_ok holds.needManager
  | server registry settings services =>
    exact persists.step_server holds registry settings services
  | register registration =>
    refine (gives_server world).bind fun found here => gives_ok ?_
    refine Persists.registerWith holds found.1 fun server registered => ?_
    exact persists.registers (holds.servers _ _ here) registered
  | registerService service =>
    refine (gives_server world).bind fun found here => gives_ok ?_
    have kept : { world with services := service :: world.services }.Holds P Q :=
      holds.congr rfl rfl
    refine Persists.registerWith kept found.1 fun server registered => ?_
    exact persists.registersService (holds.servers _ _ here) registered
  | unregister id =>
    refine (gives_server world).bind fun found here => gives_ok ?_
    exact holds.updateHost fun _ _ => persists.serves _ _ (.unregister id) (holds.servers _ _ here)
  | isRegistered id => exact (gives_any _).bind fun _ _ => gives_ok holds
  | registeredCount => exact (gives_any _).bind fun _ _ => gives_ok holds
  | start address => exact persists.step_start holds address
  | stop =>
    refine (gives_any _).bind fun found _ => gives_ok ?_
    exact persists.settle (persists.onServer settled _ .stop)
  | dropServer =>
    refine (gives_any _).bind fun found _ => gives_ok ?_
    exact (persists.settle (persists.onServer settled _ .stop)).congr rfl rfl
  | running => exact (gives_any _).bind fun _ _ => gives_ok holds
  | connectionCount => exact (gives_any _).bind fun _ _ => gives_ok settled
  | openGate => exact gives_ok (persists.settle (settled.congr rfl rfl))
  | shutGate => exact gives_ok (settled.congr rfl rfl)
  | arrivals => exact gives_ok settled
  | openRaw name => exact persists.step_openRaw holds name
  | send wire frames bytes split =>
    refine (gives_any _).bind fun found _ => gives_ok (persists.settle ?_)
    exact settled.sendOn _ _ _ _ _
  | receive wire count ordered => exact persists.receive holds wire (some count) ordered
  | receiveAll wire => exact persists.receive holds wire none true
  | halfClose wire =>
    exact (gives_any _).bind fun found _ => gives_ok (persists.settle (settled.congr rfl rfl))
  | closeWire wire =>
    exact (gives_any _).bind fun found _ => gives_ok (persists.settle (settled.congr rfl rfl))
  | peerGone name => exact gives_ok (holds.congr rfl rfl)
  | connect name target registry settings =>
    exact persists.step_connect holds name target registry settings
  | call name request future callback =>
    exact persists.step_call holds name request future callback
  | callbacks => exact gives_ok (settled.congr rfl rfl)
  | syncCall name request answer =>
    exact (gives_any _).bind fun i _ => gives_ok (persists.callAndWait settled i request answer)
  | serviceCall name service method args =>
    exact persists.step_serviceCall holds name service method args
  | close name =>
    refine (gives_any _).bind fun i _ => ?_
    exact (persists.closeClient settled i).bind fun _ kept => gives_ok (persists.settle kept)
  | isConnected name => exact (gives_any _).bind fun _ _ => gives_ok settled
  | pending name =>
    refine (gives_any _).bind fun i _ => ?_
    dsimp only
    split
    · exact gives_error _
    · exact gives_ok settled
  | wait name => exact (gives_any _).bind fun _ _ => gives_ok settled
  | future name =>
    refine (gives_any _).bind fun found _ => ?_
    dsimp only
    split
    · exact gives_error _
    · exact gives_ok settled
  | takeReply name => exact persists.step_takeReply holds name
  | finish name =>
    refine (gives_any _).bind fun found _ => ?_
    dsimp only
    split
    · exact gives_error _
    · exact gives_ok (settled.congr rfl rfl)
  | release name => exact (gives_any _).bind fun _ _ => gives_ok (holds.congr rfl rfl)
  | pool registry settings => exact gives_ok (holds.needManager.congr rfl rfl)
  | poolGet name target => exact persists.step_poolGet holds name target
  | poolSize =>
    unfold World.step
    dsimp only
    split
    · exact gives_error _
    · exact gives_ok holds
  | poolCloseAll => exact persists.step_poolCloseAll holds

end

/-! ## The worlds of a session -/

/-- The worlds that a session comes to between the steps of its script. -/
inductive Reached (network : Network) : World → Prop
  | start : Reached network (World.start network)
  | step {world next : World} {step : Step} {answer : Answer} (reached : Reached network world)
      (stepped : world.step step = .ok (answer, next)) : Reached network next

variable {network : Network} {world : World}

lemma Reached.holds {P : Nat → Server Handler → Prop} {Q : Nat → Link Callback → Prop}
    (reached : Reached network world) (persists : Persists P Q) : world.Holds P Q := by
  induction reached with
  | start =>
    refine ⟨fun s host here => ?_, fun i caller here => ?_⟩
    · have none : ([] : List Host)[s]? = some host := here
      cases none
    · have none : ([] : List Caller)[i]? = some caller := here
      cases none
  | @step world next step answer _ stepped ih => exact persists.step ih step _ stepped

/-- A server was created, and has run since then. -/
def Served (server : Server Handler) : Prop :=
  ∃ (registry : Registry) (settings : ServerSettings) (begun : Server Handler)
    (events : List (Serving.Event Handler)),
    Server.create registry settings = .ok begun ∧ (Serving.run ⟨begun, []⟩ events).1 = ⟨server, []⟩

theorem Served.step {server next : Server Handler} (served : Served server)
    (event : Serving.Event Handler) (stepped : (Serving.step ⟨server, []⟩ event).1 = ⟨next, []⟩) :
    Served next := by
  obtain ⟨registry, settings, begun, events, created, ran⟩ := served
  refine ⟨registry, settings, begun, events ++ [event], created, ?_⟩
  unfold Serving.run at ran ⊢
  rw [Machine.run_append, Machine.run_cons, Machine.run_nil, ran]
  exact stepped

/-- A client was connected with settings that are valid, and has run on its poll manager since
then. -/
def Connected (link : Link Callback) : Prop :=
  ∃ (registry : Registry) (settings : ClientSettings), settings.validate = .ok () ∧
    Hosted.Leads (.connected registry settings.maxPayload) (.ofLink link)

lemma Connected.leads {link next : Link Callback} (connected : Connected link)
    (leads : Hosted.Leads (.ofLink link) (.ofLink next)) : Connected next := by
  obtain ⟨registry, settings, valid, before⟩ := connected
  exact ⟨registry, settings, valid, before.trans leads⟩

lemma persists_runs : Persists (fun _ => Served) (fun _ => Connected) where
  serves _ _ event served := served.step (.race (.act event)) rfl
  links _ link event connected := connected.leads (Hosted.leads_step link event)
  creates _ registry settings server created := ⟨registry, settings, server, [], created, rfl⟩
  starts := by
    intro _ server bound pollShutDown next served started
    refine served.step (.start bound pollShutDown) ?_
    unfold Serving.step
    simp only [started]
  drops _ _ served := served.step .dropTasks rfl
  connects _ registry settings valid := ⟨registry, settings, valid, .refl _⟩
  takes := by
    intro _ link xid reply future connected taken
    have taking : Hosted.Leads (.ofLink link)
        ⟨(⟨link.client, [], []⟩ : Threaded Callback).takeReply xid, link.reader⟩ :=
      .step (.ofLink link) (.act (.takeReply xid))
    unfold Threaded.takeReply at taking
    simp only [taken] at taking
    exact connected.leads taking

/-- Whatever the script is, each server of a session is a server in use after some run. -/
theorem Reached.served (reached : Reached network world) {s : Nat} {host : Host}
    (here : world.hosts[s]? = some host) : Served host.server :=
  (reached.holds persists_runs).servers s host here

/-- Whatever the script is, each client of a session is a client on its manager after some run. -/
theorem Reached.connected (reached : Reached network world) {i : Nat} {caller : Caller}
    (here : world.clients[i]? = some caller) : Connected caller.link :=
  (reached.holds persists_runs).links i caller here

/-- The threads of a client of a session have run, too, and none of them has a call in its hands. -/
theorem Reached.threads (reached : Reached network world) {i : Nat} {caller : Caller}
    (here : world.clients[i]? = some caller) :
    ∃ (registry : Registry) (settings : ClientSettings) (acts : List (Threaded.Event Callback)),
      settings.validate = .ok () ∧
        ((Threaded.connected registry settings.maxPayload).run acts).1 =
          ⟨caller.link.client, [], []⟩ := by
  obtain ⟨registry, settings, valid, events, ran⟩ := reached.connected here
  obtain ⟨acts, acted⟩ := Hosted.threads_run (.connected registry settings.maxPayload) events
  rw [ran] at acted
  exact ⟨registry, settings, acts, valid, congrArg Prod.fst acted⟩

/-- The number of connections that a session tells is that of the connections that are served. -/
theorem Reached.served_count (reached : Reached network world) {s : Nat} {host : Host}
    (here : world.hosts[s]? = some host) :
    host.server.served = host.server.connections.countP (·.2.isServed) := by
  obtain ⟨registry, settings, begun, events, created, ran⟩ := reached.served here
  have sound := Serving.sound_run (Serving.sound_create created) events
  rw [ran] at sound
  exact sound.accounted.served

end World

/-- A client calls a server that it can reach, and gets its argument back. -/
example :
    run .reachable
        [.server .empty {} [], .register ⟨7, none, [.int32], [.int32], .echo⟩,
          .start "127.0.0.1:0", .connect "client" .server .empty {},
          .syncCall "client" ⟨7, [.int32 5], [.int32], [.int32]⟩ none] =
      .ok [.count 0, .done, .flag true, .flag true,
        .outcome (.ok ⟨Status.ok, [.int32 5]⟩) none] := by
  cbv

end Session

end RemoteCall
