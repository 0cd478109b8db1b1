import Mathlib.Data.List.Nodup
import RemoteCall.Server.Basic

/-!
# Which connection an action of the server concerns

An action on a connection leaves every other connection as it is, and all settings and registrations
of the server.  `Touches` says so, with the states of the connection before and after it; the lemmas
below it say for each kind of action which of the connection's own actions leads from one to the
other.

These lemmas are where the functions of the server are opened.  What is proved of the steps of a
server elsewhere goes by what is said here: an action is described on one connection, and the rest
of the server is carried along by `Touches`.  There are three shapes of actions.  One is not seen
from outside (`touches_silently`), one delivers a frame (`touches_delivering`), and three have
effects of their own: a look-up, the grant of a slot and the end of a handler.

A server also keeps a list of its connections, which is needed where connections are counted: a
connection is replaced where it stands (`connections_setConnection`), and one that is accepted comes
last.

Registrations come from those that were asked for (`mem_of_registerTyped`,
`mem_of_registerService`).
-/

namespace RemoteCall

variable {η : Type}

/-! ## Registrations -/

namespace Functions

lemma eq_of_get? {functions : Functions η} {id : CallId} {registration : Registration η}
    (found : functions.get? id = some registration) :
    registration ∈ functions.entries ∧ registration.callId = id := by
  have hit := List.find?_some found
  exact ⟨List.mem_of_find?_eq_some found, by simpa using hit⟩

variable {functions next : Functions η}

lemma mem_of_register {registration other : Registration η}
    (registered : functions.register registration = .ok next) (present : other ∈ next.entries) :
    other = registration ∨ other ∈ functions.entries := by
  unfold register at registered
  split at registered
  · cases registered
  · cases registered
    exact List.mem_cons.mp present

lemma mem_of_registerEach {batch : List (Registration η)} {other : Registration η}
    (registered : functions.registerEach batch = .ok next) (present : other ∈ next.entries) :
    other ∈ batch ∨ other ∈ functions.entries := by
  induction batch generalizing functions with
  | nil =>
    cases registered
    exact Or.inr present
  | cons registration rest ih =>
    unfold registerEach at registered
    split at registered
    · rename_i between first
      rcases ih registered with later | before
      · exact Or.inl (List.mem_cons_of_mem _ later)
      · rcases mem_of_register first before with rfl | old
        · exact Or.inl List.mem_cons_self
        · exact Or.inr old
    · cases registered

theorem mem_of_registerTyped {registry : Registry} {registration other : Registration η}
    (registered : functions.registerTyped registry registration = .ok next)
    (present : other ∈ next.entries) : other = registration ∨ other ∈ functions.entries := by
  unfold registerTyped at registered
  split at registered
  · exact mem_of_register registered present
  · cases registered

theorem mem_of_registerService {registry : Registry} {service : Service η}
    {other : Registration η} (registered : functions.registerService registry service = .ok next)
    (present : other ∈ next.entries) :
    (∃ method ∈ service.methods, other = .ofMethod service.name method) ∨
      other ∈ functions.entries := by
  unfold registerService at registered
  dsimp only at registered
  split at registered
  · unfold registerAll at registered
    split at registered
    · rcases mem_of_registerEach registered present with new | old
      · obtain ⟨method, declared, rfl⟩ := List.mem_map.mp new
        exact Or.inl ⟨method, declared, rfl⟩
      · exact Or.inr old
    · cases registered
  · cases registered

end Functions

/-! ## Connections -/

namespace Server

/-- A server announces no more than an envelope can. -/
lemma onWire_of_create {registry : Registry} {settings : ServerSettings} {server : Server η}
    (created : create registry settings = .ok server) :
    settings.maxPayload ≤ Header.protocolLimit := by
  unfold create ServerSettings.validate at created
  by_cases slots : settings.maxHandlers = 0
  · rw [if_pos slots] at created
    cases created
  · cases passed : checkConnection settings.maxPayload settings.queue with
    | error e =>
      rw [if_neg slots, passed] at created
      cases created
    | ok => exact le_of_checkConnection passed

/-- An action takes one connection from one state to another, and concerns nothing else that later
actions on connections depend on. -/
structure Touches (c : Nat) (old new : Connection η) (server next : Server η) : Prop where
  found : server.connection? c = some old
  connections : ∀ k, next.connection? k = if k = c then some new else server.connection? k
  registry : next.registry = server.registry
  settings : next.settings = server.settings
  functions : next.functions = server.functions
  nextConnection : next.nextConnection = server.nextConnection
  nextJob : server.nextJob ≤ next.nextJob

lemma Touches.refl {server : Server η} {c : Nat} {connection : Connection η}
    (found : server.connection? c = some connection) :
    Touches c connection connection server server := by
  refine ⟨found, ?_, rfl, rfl, rfl, rfl, Nat.le_refl _⟩
  intro k
  split
  · rename_i same
    rw [same, found]
  · rfl

lemma connection?_congr {server next : Server η}
    (same : next.connections = server.connections) (c : Nat) :
    next.connection? c = server.connection? c :=
  congrArg (List.lookup c) same

lemma lookup_replace {k c : Nat} (entries : List (Nat × Connection η)) (new : Connection η)
    (other : k ≠ c) :
    (entries.map fun entry => if entry.1 = c then (c, new) else entry).lookup k =
      entries.lookup k := by
  induction entries with
  | nil => rfl
  | cons entry rest ih =>
    obtain ⟨number, connection⟩ := entry
    rw [List.map_cons, List.lookup_cons]
    by_cases hit : number = c
    · subst hit
      rw [if_pos rfl, List.lookup_cons, beq_eq_false_iff_ne.mpr other]
      exact ih
    · rw [if_neg hit, List.lookup_cons, ih]

lemma connection?_setConnection {server : Server η} {c : Nat} {old : Connection η}
    (found : server.connection? c = some old) (new : Connection η) (k : Nat) :
    (server.setConnection c old new).connection? k =
      if k = c then some new else server.connection? k := by
  unfold connection? at found ⊢
  show List.lookup k (server.connections.map fun entry =>
    if entry.1 = c then (c, new) else entry) = _
  generalize server.connections = entries at found
  induction entries with
  | nil => cases found
  | cons entry rest ih =>
    obtain ⟨number, connection⟩ := entry
    rw [List.lookup_cons] at found
    rw [List.map_cons, List.lookup_cons]
    by_cases hit : number = c
    · subst hit
      rw [if_pos rfl, List.lookup_cons]
      by_cases same : k = number
      · rw [if_pos same, same, beq_self_eq_true]
      · rw [if_neg same, beq_eq_false_iff_ne.mpr same]
        exact lookup_replace rest new same
    · rw [beq_eq_false_iff_ne.mpr (Ne.symm hit)] at found
      rw [if_neg hit, List.lookup_cons, ih found]
      by_cases same : k = number
      · subst same
        rw [beq_self_eq_true, if_neg hit]
        dsimp only
        rw [if_neg hit]
      · rw [beq_eq_false_iff_ne.mpr same]

lemma touches_setConnection {server : Server η} {c : Nat} {old : Connection η}
    (found : server.connection? c = some old) (new : Connection η) :
    Touches c old new server (server.setConnection c old new) :=
  ⟨found, connection?_setConnection found new, rfl, rfl, rfl, rfl, Nat.le_refl _⟩

/-- An action on a connection replaces it. -/
lemma onConnection_eq_some {α : Type} {server next : Server η} {c : Nat} {result : α}
    {act : Connection η → Option (α × Connection η)}
    (acted : server.onConnection c act = some (result, next)) :
    ∃ old new, server.connection? c = some old ∧ act old = some (result, new) ∧
      next = server.setConnection c old new := by
  unfold onConnection at acted
  split at acted
  · cases acted
  · rename_i old found
    split at acted
    · cases acted
    · rename_i _ new done
      cases acted
      exact ⟨old, new, found, done, rfl⟩

lemma touches_onConnection {α : Type} {server next : Server η} {c : Nat} {result : α}
    {act : Connection η → Option (α × Connection η)}
    (acted : server.onConnection c act = some (result, next)) :
    ∃ old new, act old = some (result, new) ∧ Touches c old new server next := by
  obtain ⟨old, new, found, done, rfl⟩ := onConnection_eq_some acted
  exact ⟨old, new, done, touches_setConnection found new⟩

lemma touches_silently (server : Server η) (c : Nat)
    (act : Connection η → Option (Connection η)) :
    server.silently c act = (server, []) ∨ ∃ old new, act old = some new ∧
      Touches c old new server (server.silently c act).1 ∧ (server.silently c act).2 = [] := by
  unfold silently
  split
  · exact Or.inl rfl
  · rename_i next acted
    obtain ⟨old, new, done, touches⟩ := touches_onConnection acted
    refine Or.inr ⟨old, new, ?_, touches, rfl⟩
    simpa using done

lemma silently_of_none {server : Server η} {c : Nat}
    {act : Connection η → Option (Connection η)}
    (idle : (server.connection? c).bind act = none) : server.silently c act = (server, []) := by
  unfold silently onConnection
  cases found : server.connection? c with
  | none => rfl
  | some old =>
    rw [found] at idle
    have nothing : act old = none := idle
    simp only [nothing, Option.map_none]

lemma silently_of_some {server : Server η} {c : Nat} {old new : Connection η}
    {act : Connection η → Option (Connection η)} (found : server.connection? c = some old)
    (acted : act old = some new) :
    server.silently c act = (server.setConnection c old new, []) := by
  unfold silently onConnection
  rw [found]
  dsimp only
  rw [acted]
  rfl

lemma delivering_cases (server : Server η) (c : Nat)
    (act : Connection η → Option (Connection.Delivery × Connection η)) :
    server.delivering c act = (server, []) ∨ ∃ delivery old new,
      server.connection? c = some old ∧ act old = some (delivery, new) ∧
      server.delivering c act =
        (server.setConnection c old new, deliveryEffects c delivery) := by
  unfold delivering
  split
  · exact Or.inl rfl
  · rename_i delivery next acted
    obtain ⟨old, new, found, done, rfl⟩ := onConnection_eq_some acted
    exact Or.inr ⟨delivery, old, new, found, done, rfl⟩

lemma touches_delivering (server : Server η) (c : Nat)
    (act : Connection η → Option (Connection.Delivery × Connection η)) :
    server.delivering c act = (server, []) ∨ ∃ delivery old new, act old = some (delivery, new) ∧
      Touches c old new server (server.delivering c act).1 ∧
      (server.delivering c act).2 = deliveryEffects c delivery := by
  rcases server.delivering_cases c act with nothing | ⟨delivery, old, new, found, done, seen⟩
  · exact Or.inl nothing
  · rw [seen]
    exact Or.inr ⟨delivery, old, new, done, touches_setConnection found new, rfl⟩

/-- A connection that has looked up a registered request waits behind those that wait already. -/
lemma lookUp_eq_some {server next : Server η} {c : Nat} {effects : List (Effect η)}
    (looked : server.lookUp c = some (next, effects)) :
    ∃ request found old new, server.connection? c = some old ∧
      old.lookUp server.functions = some (request, found, new) ∧
      next = { server.setConnection c old new with
        slotQueue := (server.setConnection c old new).slotQueue ++ found.toList.map fun _ => c } ∧
      effects = [.dispatched c request found] := by
  unfold lookUp at looked
  split at looked
  · cases looked
  · rename_i request found between acted
    obtain ⟨old, new, present, done, rfl⟩ := onConnection_eq_some acted
    cases looked
    cases result : old.lookUp server.functions with
    | none =>
      rw [result] at done
      cases done
    | some triple =>
      obtain ⟨request', found', new'⟩ := triple
      rw [result] at done
      cases done
      refine ⟨request, found, old, new, present, result, ?_, rfl⟩
      cases found with
      | none =>
        rw [Option.toList_none, List.map_nil, List.append_nil]
        rfl
      | some registration => rfl

lemma touches_lookUp {server next : Server η} {c : Nat} {effects : List (Effect η)}
    (looked : server.lookUp c = some (next, effects)) :
    ∃ request found old new, old.lookUp server.functions = some (request, found, new) ∧
      Touches c old new server next ∧ effects = [.dispatched c request found] := by
  obtain ⟨request, found, old, new, present, result, rfl, seen⟩ := lookUp_eq_some looked
  have touches := touches_setConnection present new
  exact ⟨request, found, old, new, result, ⟨present, touches.connections, rfl, rfl, rfl, rfl,
    Nat.le_refl _⟩, seen⟩

/-- The first connection that waits is given a slot. -/
lemma grant_eq_some {server next : Server η} (granted : server.grant = some next) :
    ∃ c rest free old new, server.slotQueue = c :: rest ∧ server.freeSlots = free + 1 ∧
      server.connection? c = some old ∧ old.startJob server.nextJob = some new ∧
      next = { server.setConnection c old new with
        freeSlots := free
        slotQueue := rest
        nextJob := server.nextJob + 1 } := by
  unfold grant at granted
  split at granted
  · rename_i c rest free queue slots
    split at granted
    · cases granted
    · rename_i old found
      obtain ⟨new, started, rfl⟩ := Option.map_eq_some_iff.mp granted
      exact ⟨c, rest, free, old, new, queue, slots, found, started, rfl⟩
  · cases granted

/-- A slot is granted: the job that starts has an ID of its own. -/
lemma touches_grant {server next : Server η} (granted : server.grant = some next) :
    ∃ c old new, old.startJob server.nextJob = some new ∧ Touches c old new server next ∧
      next.nextJob = server.nextJob + 1 := by
  obtain ⟨c, rest, free, old, new, -, -, found, started, rfl⟩ := grant_eq_some granted
  have touches := touches_setConnection found new
  exact ⟨c, old, new, started, ⟨found, touches.connections, rfl, rfl, rfl, rfl, Nat.le_succ _⟩,
    rfl⟩

/-- A handler ends: its job has the reply, and the handler was called if there were arguments. -/
lemma finish_eq_some [Handles η] {server next : Server η} {c id : Nat}
    {effects : List (Effect η)} (finished : server.finish c id = some (next, effects)) :
    ∃ old job, server.connection? c = some old ∧ old.job? id = some job ∧
      job.stage = .executing ∧
      next = server.setConnection c old (old.setStage id (.replying (job.registration.answer
        server.registry server.settings.maxPayload job.request.xid job.request.payload).1)) ∧
      effects = (job.registration.answer server.registry server.settings.maxPayload
        job.request.xid job.request.payload).2.toList.map
          (.called c job.request job.registration ·) := by
  unfold finish at finished
  split at finished
  · cases finished
  · rename_i old found
    split at finished
    · rename_i number registration request executing
      generalize answered : registration.answer server.registry server.settings.maxPayload
        request.xid request.payload = answer at finished
      obtain ⟨reply, args⟩ := answer
      cases finished
      refine ⟨old, _, found, executing, rfl, ?_, ?_⟩
      · dsimp only
        rw [answered]
      · dsimp only
        rw [answered]
        cases args with
        | none => rfl
        | some args => rfl
    · cases finished

lemma touches_finish [Handles η] {server next : Server η} {c id : Nat}
    {effects : List (Effect η)} (finished : server.finish c id = some (next, effects)) :
    ∃ old job, old.job? id = some job ∧ job.stage = .executing ∧
      Touches c old (old.setStage id (.replying (job.registration.answer server.registry
        server.settings.maxPayload job.request.xid job.request.payload).1)) server next ∧
      effects = (job.registration.answer server.registry server.settings.maxPayload
        job.request.xid job.request.payload).2.toList.map
          (.called c job.request job.registration ·) := by
  obtain ⟨old, job, found, executing, running, rfl, seen⟩ := finish_eq_some finished
  exact ⟨old, job, executing, running, touches_setConnection found _, seen⟩

/-- A connection of a generation is served from now on. -/
def welcome (server : Server η) (generation : Nat) : Server η :=
  { server with
    connections := server.connections ++
      [(server.nextConnection, .accepted generation server.settings)]
    served := server.served + 1
    nextConnection := server.nextConnection + 1 }

lemma accept_eq (server : Server η) (generation : Nat) :
    server.accept generation =
      if generation ∈ server.acceptors then some (server.welcome generation) else none := rfl

lemma connection?_welcome (server : Server η) (generation k : Nat) :
    (server.welcome generation).connection? k = (server.connection? k).or
      (if k = server.nextConnection then some (.accepted generation server.settings)
        else none) := by
  unfold connection? welcome
  rw [List.lookup_append, List.lookup_cons]
  by_cases same : k = server.nextConnection
  · rw [same, beq_self_eq_true, if_pos rfl]
  · rw [beq_eq_false_iff_ne.mpr same, if_neg same]
    rfl

lemma welcome_of_accept {server next : Server η} {generation : Nat}
    (accepted : server.accept generation = some next) : next = server.welcome generation := by
  rw [accept_eq] at accepted
  split at accepted
  · exact (Option.some.inj accepted).symm
  · cases accepted

lemma fields_accept {server next : Server η} {generation : Nat}
    (accepted : server.accept generation = some next) :
    next.registry = server.registry ∧ next.settings = server.settings ∧
      next.functions = server.functions ∧ next.nextConnection = server.nextConnection + 1 := by
  rw [welcome_of_accept accepted]
  exact ⟨rfl, rfl, rfl, rfl⟩

lemma connection?_accept {server next : Server η} {generation : Nat}
    (accepted : server.accept generation = some next) (k : Nat) :
    next.connection? k = (server.connection? k).or
      (if k = server.nextConnection then some (.accepted generation server.settings)
        else none) := by
  rw [welcome_of_accept accepted]
  exact server.connection?_welcome generation k

/-! ### The list of the connections -/

lemma exists_split {entries : List (Nat × Connection η)} {c : Nat} {old : Connection η}
    (distinct : (entries.map Prod.fst).Nodup) (found : entries.lookup c = some old) :
    ∃ front back, entries = front ++ (c, old) :: back ∧
      ∀ entry ∈ front ++ back, entry.1 ≠ c := by
  obtain ⟨front, back, rfl, -⟩ := List.lookup_eq_some_iff.mp found
  rw [List.map_append, List.map_cons, List.nodup_middle, ← List.map_append,
    List.nodup_cons] at distinct
  exact ⟨front, back, rfl, fun entry among same =>
    distinct.1 (List.mem_map.mpr ⟨entry, among, same⟩)⟩

lemma numbers_setConnection (server : Server η) (c : Nat) (old new : Connection η) :
    (server.setConnection c old new).connections.map Prod.fst =
      server.connections.map Prod.fst := by
  unfold setConnection
  rw [List.map_map]
  refine List.map_congr_left fun entry _ => ?_
  dsimp only [Function.comp]
  split
  · rename_i same
    exact same.symm
  · rfl

/-- A connection is replaced where it stands. -/
lemma connections_setConnection {server : Server η} {c : Nat} {old : Connection η}
    (distinct : (server.connections.map Prod.fst).Nodup)
    (found : server.connection? c = some old) (new : Connection η) :
    ∃ front back, server.connections = front ++ (c, old) :: back ∧
      (server.setConnection c old new).connections = front ++ (c, new) :: back := by
  obtain ⟨front, back, split, others⟩ := exists_split distinct found
  have unlike : ∀ part : List (Nat × Connection η), (∀ entry ∈ part, entry ∈ front ++ back) →
      (part.map fun entry => if entry.1 = c then (c, new) else entry) = part := by
    intro part among
    refine Eq.trans (List.map_congr_left fun entry present => ?_) (List.map_id' part)
    exact if_neg (others entry (among entry present))
  refine ⟨front, back, split, ?_⟩
  unfold setConnection
  dsimp only
  rw [split, List.map_append, List.map_cons, if_pos rfl,
    unlike front fun _ => List.mem_append_left _, unlike back fun _ => List.mem_append_right _]

end Server

end RemoteCall
