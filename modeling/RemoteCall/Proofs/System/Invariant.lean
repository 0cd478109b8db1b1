import RemoteCall.Proofs.Server.Basic
import RemoteCall.Proofs.System.Connection
import RemoteCall.Proofs.System.Peer

/-!
# What holds of a server and its clients at any time

`System.Sound` puts the two sides of every connection together.  Each side relies on the other: what
a client reads was written by the server's end of its connection, and the other way around.  So one
action on a connection is looked at with both sides in hand (`Sound.update`), and all other
connections keep what they have, since nothing happened on them.

## How the sides meet

A client's invariant speaks of the history of its connection, and so does that of the server's end.
They have nothing else in common but the two wires.  The bytes that the server has read are the
front of what the client has written, that is of the encoded requests of the history; the bytes that
the client has read are the front of the encoded replies.  The one side proves these facts and the
other uses them (`Sound.read_of_sent`).

An action of one side may leave the other side's state as it is and still change its history.  That
costs nothing: a client does not care for look-ups and handlers (`Sound.served`), nor a connection
for calls (`Connection.Sound.client`).

## The rest of the system

A server has a registry, limits and functions that no connection changes.  All that is needed of the
functions is that each is registered for the types that were agreed on, so registrations keep the
invariant if they agree.  A new client takes the next number, and with it a new connection; nothing
has happened under that number before (`untouched`).

The main statement is `Sound.run`: whatever the parts of a system do, and in which order, the system
stays sound.
-/

namespace RemoteCall

namespace Peer

open RemoteCall.Frame Happening

variable {κ η : Type} {registry : Registry} {history : List (Happening η)} {peer : Peer κ}

/-- What the server does is of no concern to a client, apart from the wires. -/
lemma Sound.served (sound : Sound registry history peer) {seen : List (Happening η)}
    (apart : calls seen = [] ∧ requests seen = []) {toServer toClient : Wire}
    (written : toServer.written = peer.toServer.written)
    (read : toClient.read = peer.toClient.read) :
    Sound registry (history ++ seen) { peer with toServer, toClient } := by
  have requests_eq : requests (history ++ seen) = requests history := by
    rw [requests_append, apart.2, List.append_nil]
  refine sound.change seen apart.1 ?_ ?_ ?_ (.refl _)
  · dsimp only
    rw [requests_eq, written]
    exact sound.streams
  · intro p
    unfold outgoing
    exact Nat.le_of_eq (by rw [requests_eq])
  · intro reading
    dsimp only
    rw [read]
    exact sound.reading reading

/-- The server has read the front of what the client has sent. -/
lemma Sound.read_of_sent (sound : Sound registry history peer) :
    peer.toServer.read <+: Writer.content (requests history) :=
  (List.prefix_append _ _).trans sound.streams.behind

end Peer

namespace System

open RemoteCall.Frame Happening

variable {η κ : Type}

structure Sound (terms : Terms) (system : System η κ) (seen : List (Nat × Happening η)) :
    Prop where
  registry : system.server.registry = terms.registry
  limit : system.server.settings.maxPayload = terms.limit
  registered : ∀ registration ∈ system.server.functions.entries, terms.Has registration
  /-- Every client has a connection, and nobody else has one. -/
  paired : ∀ k, (system.server.connection? k).isSome = decide (k < system.peers.length)
  fresh : system.server.nextConnection = system.peers.length
  untouched : ∀ k, system.peers.length ≤ k → on k seen = []
  agreed : ∀ k, ∀ call ∈ calls (on k seen),
    terms.types call.2.callId = (call.2.argTypes, call.2.resultTypes)
  peers : ∀ k peer, system.peers[k]? = some peer → Peer.Sound terms.registry (on k seen) peer
  connections : ∀ k peer connection, system.peers[k]? = some peer →
    system.server.connection? k = some connection →
      Connection.Sound terms (on k seen) peer.toServer.read peer.toClient.written connection

lemma sound_start {terms : Terms} {settings : ServerSettings} {server : Server η}
    (created : Server.create terms.registry settings = .ok server)
    (limit : settings.maxPayload = terms.limit) :
    Sound terms (start server : System η κ) ([] : List (Nat × Happening η)) := by
  unfold Server.create at created
  split at created
  · cases created
  · cases created
    refine ⟨rfl, limit, ?_, ?_, rfl, fun _ _ => rfl, ?_, ?_, ?_⟩
    · intro registration absent
      cases absent
    · intro k
      rfl
    · intro k call absent
      cases absent
    · intro k peer absent
      cases absent
    · intro k peer connection absent
      cases absent

section

variable {terms : Terms} {system : System η κ} {seen : List (Nat × Happening η)}

/-! ## One connection -/

/-- A client and the server's end of its connection go on, and everything else is as before. -/
theorem Sound.update (sound : Sound terms system seen) {c : Nat} {next : Server η}
    {old new : Connection η} (touches : Server.Touches c old new system.server next)
    {peer peer' : Peer κ} (present : system.peers[c]? = some peer)
    (happened : List (Happening η))
    (agreed : ∀ call ∈ calls happened,
      terms.types call.2.callId = (call.2.argTypes, call.2.resultTypes))
    (client : Peer.Sound terms.registry (on c seen ++ happened) peer')
    (connection : Connection.Sound terms (on c seen ++ happened) peer'.toServer.read
      peer'.toClient.written new) :
    Sound terms ⟨next, system.peers.set c peer'⟩ (seen ++ happened.map (c, ·)) := by
  have within : c < system.peers.length := (List.getElem?_eq_some_iff.mp present).1
  have here : on c (seen ++ happened.map (c, ·)) = on c seen ++ happened := by
    rw [on_append, on_tagged_self]
  have elsewhere : ∀ k, k ≠ c → on k (seen ++ happened.map (c, ·)) = on k seen := by
    intro k other
    rw [on_append, on_tagged_of_ne (Ne.symm other), List.append_nil]
  -- Each field that speaks of connections is split: on this one it was supplied, on the others the
  -- history, the client and the server's end are as before.
  refine ⟨touches.registry.trans sound.registry, ?_, ?_, ?_, ?_, ?_, ?_, ?_, ?_⟩
  · rw [touches.settings]
    exact sound.limit
  · rw [touches.functions]
    exact sound.registered
  · intro k
    rw [touches.connections, List.length_set]
    by_cases same : k = c
    · rw [if_pos same, same, decide_eq_true within]
      rfl
    · rw [if_neg same]
      exact sound.paired k
  · rw [touches.nextConnection, List.length_set]
    exact sound.fresh
  · intro k beyond
    rw [List.length_set] at beyond
    rw [elsewhere k (by omega)]
    exact sound.untouched k beyond
  · intro k call
    by_cases same : k = c
    · subst same
      rw [here, calls_append]
      intro issued
      rcases List.mem_append.mp issued with before | now
      · exact sound.agreed k call before
      · exact agreed call now
    · rw [elsewhere k same]
      exact sound.agreed k call
  · intro k peer'' found
    dsimp only at found
    by_cases same : k = c
    · subst same
      rw [List.getElem?_set_self within, Option.some.injEq] at found
      rw [here, ← found]
      exact client
    · rw [List.getElem?_set_ne (Ne.symm same)] at found
      rw [elsewhere k same]
      exact sound.peers k peer'' found
  · intro k peer'' connection' found served
    dsimp only at found served
    rw [touches.connections] at served
    by_cases same : k = c
    · subst same
      rw [List.getElem?_set_self within, Option.some.injEq] at found
      rw [if_pos rfl, Option.some.injEq] at served
      rw [here, ← found, ← served]
      exact connection
    · rw [List.getElem?_set_ne (Ne.symm same)] at found
      rw [if_neg same] at served
      rw [elsewhere k same]
      exact sound.connections k peer'' connection' found served

/-- A connection has a client. -/
lemma Sound.peer_of_connection (sound : Sound terms system seen) {c : Nat}
    {connection : Connection η} (found : system.server.connection? c = some connection) :
    ∃ peer, system.peers[c]? = some peer := by
  have paired := sound.paired c
  rw [found] at paired
  have within : c < system.peers.length := of_decide_eq_true paired.symm
  exact ⟨_, List.getElem?_eq_getElem within⟩

/-- A client has a connection. -/
lemma Sound.connection_of_peer (sound : Sound terms system seen) {c : Nat} {peer : Peer κ}
    (present : system.peers[c]? = some peer) :
    ∃ connection, system.server.connection? c = some connection := by
  have paired := sound.paired c
  rw [decide_eq_true (List.getElem?_eq_some_iff.mp present).1] at paired
  exact Option.isSome_iff_exists.mp paired

/-- Where something has happened there are both ends of a connection. -/
lemma Sound.ends_of_mem (sound : Sound terms system seen) {k : Nat} {happening : Happening η}
    (here : happening ∈ on k seen) : ∃ peer connection, system.peers[k]? = some peer ∧
      system.server.connection? k = some connection := by
  have within : k < system.peers.length := by
    refine Nat.lt_of_not_le fun beyond => ?_
    rw [sound.untouched k beyond] at here
    cases here
  have present := List.getElem?_eq_getElem within
  obtain ⟨connection, served⟩ := sound.connection_of_peer present
  exact ⟨_, connection, present, served⟩

/-! ## Clients -/

lemma agreed_step {peer : Peer κ} {c : Nat} {event : Peer.Event κ}
    (agrees : Event.Agrees terms.types (.client c event : Event η κ)) :
    ∀ call ∈ calls (peer.step event : _ × List (Happening η)).2,
      terms.types call.2.callId = (call.2.argTypes, call.2.resultTypes) := by
  intro call issued
  obtain ⟨happening, shown, names⟩ := List.mem_filterMap.mp issued
  rcases Peer.seen_step shown with ⟨xid, request, callback, rfl, rfl⟩ | ⟨frame, rfl⟩
  · cases names
    exact agrees _ (List.mem_singleton_self _)
  · cases names

lemma Sound.client (sound : Sound terms system seen) {c : Nat} {peer : Peer κ}
    (present : system.peers[c]? = some peer) {event : Peer.Event κ}
    (agrees : Event.Agrees terms.types (.client c event : Event η κ)) :
    Sound terms
      { system with
        peers := system.peers.set c (peer.step event : _ × List (Happening η)).1 }
      (seen ++ (peer.step event).2.map (c, ·)) := by
  obtain ⟨connection, served⟩ := sound.connection_of_peer present
  have client := sound.peers c peer present
  have server := sound.connections c peer connection present served
  have wires : _ ∧ _ := peer.wires_step (η := η) event
  refine sound.update (.refl served) present _ (agreed_step agrees)
    (client.step server.fits server.streams.behind event) ?_
  rw [wires.1, wires.2]
  refine server.client fun happening shown => ?_
  rcases Peer.seen_step shown with ⟨xid, request, -, -, issued⟩ | requested
  · exact Or.inl ⟨xid, request, issued⟩
  · exact Or.inr requested

/-! ## The server -/

/-- The server acts on a connection, and moves no byte. -/
lemma Sound.serve (sound : Sound terms system seen) {c : Nat} {next : Server η}
    {old new : Connection η} (touches : Server.Touches c old new system.server next)
    (happened : List (Happening η)) (apart : calls happened = [] ∧ requests happened = [])
    (acts : ∀ received written,
      (∀ frame ∈ requests (on c seen), Fits Header.protocolLimit frame) →
      received <+: Writer.content (requests (on c seen)) →
      Connection.Sound terms (on c seen) received written old →
        Connection.Sound terms (on c seen ++ happened) received written new) :
    Sound terms { system with server := next } (seen ++ happened.map (c, ·)) := by
  obtain ⟨peer, present⟩ := sound.peer_of_connection touches.found
  have client := sound.peers c peer present
  have server := sound.connections c peer old present touches.found
  have none_issued : ∀ call ∈ calls happened,
      terms.types call.2.callId = (call.2.argTypes, call.2.resultTypes) := by
    rw [apart.1]
    intro call absent
    cases absent
  have after : Sound terms ⟨next, system.peers.set c peer⟩ (seen ++ happened.map (c, ·)) :=
    sound.update touches present happened none_issued (client.served apart rfl rfl)
      (acts _ _ (fun _ => client.fits) client.read_of_sent server)
  have same : system.peers.set c peer = system.peers := by
    obtain ⟨within, here⟩ := List.getElem?_eq_some_iff.mp present
    rw [← here, List.set_getElem_self]
  rw [same] at after
  exact after

/-- The server does something that concerns no connection. -/
lemma Sound.aside (sound : Sound terms system seen) {next : Server η}
    (registry : next.registry = system.server.registry)
    (settings : next.settings = system.server.settings)
    (registered : ∀ registration ∈ next.functions.entries, terms.Has registration)
    (connections : next.connections = system.server.connections)
    (nextConnection : next.nextConnection = system.server.nextConnection) :
    Sound terms { system with server := next } (seen ++ []) := by
  have same : next.connection? = system.server.connection? := by
    unfold Server.connection?
    rw [connections]
  rw [List.append_nil]
  refine ⟨registry.trans sound.registry, ?_, registered, ?_, nextConnection.trans sound.fresh,
    sound.untouched, sound.agreed, sound.peers, ?_⟩
  · rw [settings]
    exact sound.limit
  · rw [same]
    exact sound.paired
  · rw [same]
    exact sound.connections

/-- Nothing happens. -/
lemma Sound.still (sound : Sound terms system seen) : Sound terms system (seen ++ []) := by
  rw [List.append_nil]
  exact sound

/-! ## What the server does on its own -/

/-- An action led to a sound system, together with what it adds to the history. -/
def SoundAfter (terms : Terms) (seen : List (Nat × Happening η))
    (next : System η κ × List (Nat × Happening η)) : Prop :=
  Sound terms next.1 (seen ++ next.2)

lemma Sound.silently (sound : Sound terms system seen) (respond : η → List Value → Outcome)
    (c : Nat) {act : Connection η → Option (Connection η)}
    (acts : ∀ old new received written, act old = some new →
      Connection.Sound terms (on c seen) received written old →
        Connection.Sound terms (on c seen) received written new) :
    Sound terms { system with server := (system.server.silently c act).1 }
      (seen ++ (system.server.silently c act).2.filterMap (happening? respond)) := by
  rcases system.server.touches_silently c act with nothing | ⟨old, new, acted, touches, effects⟩
  · rw [nothing]
    exact sound.still
  · rw [effects]
    refine sound.serve touches [] ⟨rfl, rfl⟩ ?_
    intro received written _ _ before
    rw [List.append_nil]
    exact acts old new received written acted before

lemma Sound.delivering (sound : Sound terms system seen) (respond : η → List Value → Outcome)
    (c : Nat) {act : Connection η → Option (Connection.Delivery × Connection η)}
    (acts : ∀ delivery old new received written, act old = some (delivery, new) →
      Connection.Sound terms (on c seen) received written old →
        Connection.Sound terms (on c seen ++ Connection.delivered delivery) received written
          new) :
    Sound terms { system with server := (system.server.delivering c act).1 }
      (seen ++ (system.server.delivering c act).2.filterMap (happening? respond)) := by
  rcases system.server.touches_delivering c act with
      nothing | ⟨delivery, old, new, acted, touches, effects⟩
  · rw [nothing]
    exact sound.still
  · have happened : (Server.deliveryEffects c delivery).filterMap (happening? respond) =
        (Connection.delivered delivery).map (c, ·) := by
      cases delivery <;> rfl
    rw [effects, happened]
    refine sound.serve touches _ ?_ ?_
    · cases delivery <;> exact ⟨rfl, rfl⟩
    · intro received written _ _ before
      exact acts delivery old new received written acted before

lemma Sound.lookUp (sound : Sound terms system seen) (respond : η → List Value → Outcome)
    (c : Nat) : SoundAfter terms seen (system.serve respond (.lookUp c)) := by
  show Sound terms { system with server := ((system.server.lookUp c).getD (system.server, [])).1 }
    (seen ++ ((system.server.lookUp c).getD (system.server, [])).2.filterMap (happening? respond))
  cases looked : system.server.lookUp c with
  | none => exact sound.still
  | some pair =>
    obtain ⟨next, effects⟩ := pair
    obtain ⟨request, found, old, new, result, touches, rfl⟩ := Server.touches_lookUp looked
    refine sound.serve touches [.dispatched request found] ⟨rfl, rfl⟩ ?_
    intro received written fit sent before
    refine before.lookUp fit sent ?_ result
    intro id registration known
    obtain ⟨among, named⟩ := Functions.eq_of_get? known
    exact ⟨named, sound.registered registration among⟩

lemma Sound.grant (sound : Sound terms system seen) (respond : η → List Value → Outcome) :
    SoundAfter terms seen (system.serve respond .grant) := by
  show Sound terms { system with server := system.server.grant.getD system.server } (seen ++ [])
  cases granted : system.server.grant with
  | none => exact sound.still
  | some next =>
    obtain ⟨c, old, new, started, touches, -⟩ := Server.touches_grant granted
    refine sound.serve touches [] ⟨rfl, rfl⟩ ?_
    intro received written _ _ before
    rw [List.append_nil]
    exact before.startJob started

lemma Sound.finish (sound : Sound terms system seen) (respond : η → List Value → Outcome)
    (c id : Nat) : SoundAfter terms seen (system.serve respond (.finish c id)) := by
  let : Handles η := ⟨respond⟩
  show Sound terms
    { system with server := ((system.server.finish c id).getD (system.server, [])).1 }
    (seen ++ ((system.server.finish c id).getD (system.server, [])).2.filterMap
      (happening? respond))
  cases finished : system.server.finish c id with
  | none => exact sound.still
  | some pair =>
    obtain ⟨next, effects⟩ := pair
    obtain ⟨old, job, found, executing, touches, rfl⟩ := Server.touches_finish finished
    rw [sound.registry, sound.limit] at touches ⊢
    have happened : ∀ args : Option (List Value),
        ((args.toList.map (Server.Effect.called c job.request job.registration)).filterMap
            (happening? respond)) =
          (Connection.handledWith respond job.registration job.request args).map (c, ·) := by
      intro args
      cases args <;> rfl
    dsimp only [Option.getD_some]
    rw [happened]
    refine sound.serve touches _ ?_ ?_
    · cases (job.registration.answer terms.registry terms.limit job.request.xid
        job.request.payload).2 <;> exact ⟨rfl, rfl⟩
    · intro received written _ _ before
      exact before.finish respond found executing

/-- The server goes on with other functions. -/
lemma Sound.functions (sound : Sound terms system seen) {functions : Functions η}
    (registered : ∀ registration ∈ functions.entries, terms.Has registration) :
    Sound terms { system with server := { system.server with functions } } (seen ++ []) :=
  sound.aside rfl rfl registered rfl rfl

lemma Sound.register (sound : Sound terms system seen) (respond : η → List Value → Outcome)
    {registration : Registration η} (agreed : terms.Has registration) :
    SoundAfter terms seen (system.serve respond (.register registration)) := by
  unfold System.serve Server.step Server.register
  dsimp only
  cases registered : system.server.functions.registerTyped system.server.registry
      registration with
  | error e => exact sound.still
  | ok functions =>
    refine sound.functions ?_
    intro other present
    rcases Functions.mem_of_registerTyped registered present with rfl | old
    · exact agreed
    · exact sound.registered other old

lemma Sound.registerService (sound : Sound terms system seen)
    (respond : η → List Value → Outcome) {service : Service η}
    (agreed : ∀ method ∈ service.methods, terms.Has (.ofMethod service.name method)) :
    SoundAfter terms seen (system.serve respond (.registerService service)) := by
  unfold System.serve Server.step Server.registerService
  dsimp only
  cases registered : system.server.functions.registerService system.server.registry service with
  | error e => exact sound.still
  | ok functions =>
    refine sound.functions ?_
    intro other present
    rcases Functions.mem_of_registerService registered present with ⟨method, declared, rfl⟩ | old
    · exact agreed method declared
    · exact sound.registered other old

lemma Sound.startListening (sound : Sound terms system seen)
    (respond : η → List Value → Outcome) (address : String) :
    SoundAfter terms seen (system.serve respond (.start address)) := by
  unfold System.serve Server.step Server.start
  dsimp only
  split
  · rename_i next started
    split at started
    · cases started
    · cases started
      exact sound.aside rfl rfl sound.registered rfl rfl
  · exact sound.still

lemma Sound.endAccepting (sound : Sound terms system seen)
    (respond : η → List Value → Outcome) (generation : Nat) :
    SoundAfter terms seen (system.serve respond (.endAccepting generation)) := by
  unfold System.serve Server.step Server.endAccepting
  dsimp only
  split
  · exact sound.aside rfl rfl sound.registered rfl rfl
  · exact sound.still

/-! ## Bytes that pass between the two sides -/

/-- The server reads what the client has sent next. -/
lemma Sound.receive (sound : Sound terms system seen) (respond : η → List Value → Outcome)
    (c : Nat) (bytes : Bytes) : SoundAfter terms seen (system.receive respond c bytes) := by
  unfold System.receive
  split
  · rename_i peer connection present served
    split
    · exact sound.still
    · rename_i next read
      split
      · rename_i waiting
        have client := sound.peers c peer present
        have server := sound.connections c peer connection present served
        have touches := Server.touches_setConnection served next
        unfold System.serve Server.step
        dsimp only
        rw [Server.silently_of_some served read]
        refine sound.update touches present [] ?_ ?_ ?_
        · intro call absent
          cases absent
        · exact client.served ⟨rfl, rfl⟩ (Wire.written_advance waiting) rfl
        · rw [List.append_nil]
          exact server.receive read
      · exact sound.still
  · exact sound.still

/-- The sink of the server accepts bytes, which the client may read. -/
lemma Sound.write (sound : Sound terms system seen) (respond : η → List Value → Outcome)
    (c n : Nat) : SoundAfter terms seen (system.write respond c n) := by
  unfold System.write
  split
  · rename_i peer connection present served
    have client := sound.peers c peer present
    have server := sound.connections c peer connection present served
    have touches := Server.touches_setConnection served (connection.updateWriter (·.accept n))
    have streams := server.streams.accept n
    have wrote : system.server.silently c
        (fun connection => some (connection.updateWriter (·.accept n))) =
          (system.server.setConnection c connection (connection.updateWriter (·.accept n)), []) :=
      Server.silently_of_some served rfl
    unfold System.serve Server.step
    dsimp only
    rw [served]
    dsimp only
    rw [wrote]
    refine sound.update touches present [] ?_ ?_ ?_
    · intro call absent
      cases absent
    · exact client.served ⟨rfl, rfl⟩ rfl rfl
    · rw [List.append_nil]
      rw [← Wire.written_write] at streams
      refine server.write streams ?_
      rw [Writer.waiting_accept]
      exact fun _ waits => List.mem_append_right _ waits
  · exact sound.still

/-! ## A new client -/

lemma getElem?_concat {α : Type} (entries : List α) (entry : α) (k : Nat) :
    (entries ++ [entry])[k]? = if k = entries.length then some entry else entries[k]? := by
  by_cases last : k = entries.length
  · rw [if_pos last, last, List.getElem?_concat_length]
  · rw [if_neg last]
    by_cases within : k < entries.length
    · exact List.getElem?_append_left within
    · have beyond : (entries ++ [entry]).length ≤ k := by
        rw [List.length_append, List.length_singleton]
        omega
      rw [List.getElem?_eq_none beyond, List.getElem?_eq_none (Nat.not_lt.mp within)]

/-- The number of the next connection is not in use. -/
lemma Sound.unserved (sound : Sound terms system seen) :
    system.server.connection? system.peers.length = none := by
  have paired := sound.paired system.peers.length
  rw [decide_eq_false (Nat.lt_irrefl _)] at paired
  exact Option.isSome_eq_false_iff.mp paired |> Option.isNone_iff_eq_none.mp

lemma Sound.connect (sound : Sound terms system seen) (generation : Nat)
    (settings : ClientSettings) :
    SoundAfter terms seen (system.connect generation settings, []) := by
  unfold System.connect
  split
  · rename_i next valid accepted
    obtain ⟨registry, limit, functions, nextConnection⟩ := Server.fields_accept accepted
    have quiet : on system.peers.length seen = [] := sound.untouched _ (Nat.le_refl _)
    -- The new connection has the number of the new client, and its history is empty.
    have connections : ∀ k, next.connection? k =
        if k = system.peers.length then some (.accepted generation system.server.settings)
        else system.server.connection? k := by
      intro k
      rw [Server.connection?_accept accepted, sound.fresh]
      by_cases new : k = system.peers.length
      · rw [if_pos new, if_pos new, new, sound.unserved]
        rfl
      · rw [if_neg new, if_neg new, Option.or_none]
    unfold SoundAfter
    rw [List.append_nil]
    refine ⟨registry.trans sound.registry, ?_, ?_, ?_, ?_, ?_, sound.agreed, ?_, ?_⟩
    · rw [limit]
      exact sound.limit
    · rw [functions]
      exact sound.registered
    · intro k
      rw [connections, List.length_append, List.length_singleton]
      by_cases new : k = system.peers.length
      · rw [if_pos new, decide_eq_true (by omega)]
        rfl
      · rw [if_neg new, sound.paired, decide_eq_decide]
        omega
    · rw [nextConnection, sound.fresh, List.length_append, List.length_singleton]
    · intro k beyond
      rw [List.length_append, List.length_singleton] at beyond
      exact sound.untouched k (by omega)
    · intro k peer found
      dsimp only at found
      rw [getElem?_concat] at found
      by_cases new : k = system.peers.length
      · rw [if_pos new] at found
        cases found
        rw [new, quiet, sound.registry]
        exact Peer.sound_connected valid
      · rw [if_neg new] at found
        exact sound.peers k peer found
    · intro k peer connection found served
      dsimp only at found served
      rw [getElem?_concat] at found
      rw [connections] at served
      by_cases new : k = system.peers.length
      · rw [if_pos new] at found served
        cases found
        cases served
        rw [new, quiet]
        exact Connection.sound_accepted terms generation sound.limit
      · rw [if_neg new] at found served
        exact sound.connections k peer connection found served
  · exact sound.still

/-! ## Runs -/

lemma Sound.server (sound : Sound terms system seen) {respond : η → List Value → Outcome}
    {event : Server.Event η}
    (agrees : Event.Agrees terms.types (.server respond event : Event η κ)) :
    SoundAfter terms seen (system.step (.server respond event)) := by
  -- The listener and the functions concern no history. What happens on a connection is sound by the
  -- invariant of the connection, one action at a time.
  cases event with
  | register registration => exact sound.register respond (agrees _ (List.mem_singleton_self _))
  | registerService service =>
    refine sound.registerService respond fun method declared => ?_
    exact agrees _ (List.mem_map.mpr ⟨method, declared, rfl⟩)
  | unregister id =>
    refine sound.functions ?_
    intro registration left
    exact sound.registered registration (List.mem_filter.mp left).1
  | start address => exact sound.startListening respond address
  | stop => exact sound.aside rfl rfl sound.registered rfl rfl
  | accept generation => exact sound.still
  | endAccepting generation => exact sound.endAccepting respond generation
  | receive c bytes => exact sound.receive respond c bytes
  | lookUp c => exact sound.lookUp respond c
  | grant => exact sound.grant respond
  | finish c id => exact sound.finish respond c id
  | offer c party =>
    exact sound.delivering respond c fun delivery old new received written offered before =>
      before.offer offered
  | giveUp c party =>
    exact sound.delivering respond c fun delivery old new received written given before =>
      before.giveUp given
  | resume c =>
    exact sound.delivering respond c fun delivery old new received written resumed before =>
      before.resume resumed
  | sinkAccepts c n => exact sound.write respond c n
  | streamEnded c =>
    refine sound.silently respond c fun old new received written ended before => ?_
    exact before.streamEnded ended
  | collect c =>
    refine sound.silently respond c fun old new received written collected before => ?_
    obtain ⟨writer, result, rfl⟩ := Option.map_eq_some_iff.mp collected
    refine before.write (before.streams.collect result) ?_
    rw [Writer.waiting_collect result]
    exact fun _ waits => List.mem_append_right _ waits
  | sinkFails c e =>
    refine sound.silently respond c ?_
    rintro old _ received written ⟨⟩ before
    refine before.write (before.streams.fail e) ?_
    rw [Writer.waiting_fail]
    exact fun _ waits => List.mem_append_right _ waits
  | flushed c =>
    refine sound.silently respond c ?_
    rintro old _ received written ⟨⟩ before
    refine before.write before.streams.flushed ?_
    rw [Writer.waiting_flushed]
    exact fun _ waits => List.mem_append_right _ waits
  | observeStop c =>
    refine sound.silently respond c fun old new received written stopped before => ?_
    split at stopped
    · cases stopped
      exact before.ease (Connection.eases_stop old)
    · cases stopped

lemma Sound.step (sound : Sound terms system seen) {event : Event η κ}
    (agrees : event.Agrees terms.types) : SoundAfter terms seen (system.step event) := by
  cases event with
  | connect generation settings => exact sound.connect generation settings
  | server respond event => exact sound.server agrees
  | client k event =>
    unfold System.step
    dsimp only
    split
    · exact sound.still
    · rename_i peer present
      exact sound.client present agrees

/-- Whatever the parts of a system do, and in which order, it stays sound. -/
lemma Sound.run {events : List (Event η κ)} (sound : Sound terms system seen)
    (agree : ∀ event ∈ events, event.Agrees terms.types) :
    SoundAfter terms seen (system.run events) := by
  refine Machine.run_history ?_ agree sound
  intro state history event agrees before
  exact before.step agrees

end

end System

end RemoteCall
