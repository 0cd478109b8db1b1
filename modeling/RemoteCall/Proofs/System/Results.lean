import Mathlib
import RemoteCall.Proofs.Call.Outcome
import RemoteCall.Proofs.System.Invariant

/-!
# What a successful result stands for

A call that ended with success was executed: its handler was called once for its request, with its
arguments, and its results are those that the handler returned (`result_executed`).  This holds for
any number of clients, whatever the parts of the system do and in which order.

## The proof

The proof follows the call back.  Its slot was resolved by a reply of its transaction ID; the reply
encodes what a handler returned for a request of that transaction ID; and a client that has not used
up all transaction IDs has sent only one such request (`Sound.callsOf_eq_singleton`).  So the
request that was handled is that of the call, and its payload encodes the arguments of the call.
Reading what was written gives the arguments, and the results, in their canonical form.

The invariant of the system knows the history but not the actions that made it.  Which action looked
the request up, and which called the handler, is found by looking at the run again (`exists_shows`):
a look-up is shown by nothing but a look-up, and a call of a handler by nothing but the end of that
handler (`Shows`).  The look-up comes first, since a handler is called only for a request that the
history already shows as looked up (`Sound.looked_before`).

## What is assumed

The registry is one that can be built, the server was created with valid settings, and all actions
name the types that were agreed on.  A client that issues more than `2 ^ 64` calls gives a
transaction ID twice, and then a late reply to the first call may resolve the second; so there is a
bound on the number of its calls.  Nothing is assumed of handlers, of the order of actions, or of
the other clients.

## Main statements

* `Sound.callsOf_eq_singleton` — a transaction ID stands for one call.
* `result_executed` — what a successful result stands for.
* `result_executed_quadrant` — a run in which a call succeeds, and its handling.
-/

namespace RemoteCall

/-! ## Transaction IDs -/

namespace Peer

open Happening

variable {κ η : Type}

lemma xidOf_inj {n m : Nat} (left : n < 2 ^ 64) (right : m < 2 ^ 64)
    (same : xidOf n = xidOf m) : n = m := by
  have words : (xidOf n).toBitVec.toNat = (xidOf m).toBitVec.toNat := by rw [same]
  have value : ∀ i, (xidOf i).toBitVec.toNat = (i + 1) % 2 ^ 64 := fun _ => rfl
  rw [value, value] at words
  omega

lemma values_of_distinct {α β : Type} [DecidableEq α] {entries : List (α × β)}
    (distinct : (entries.map (·.1)).Nodup) {key : α} {value : β}
    (present : (key, value) ∈ entries) : (entries.filter (·.1 = key)).map (·.2) = [value] := by
  induction entries with
  | nil => cases present
  | cons entry rest ih =>
    obtain ⟨apart, others⟩ := List.nodup_cons.mp distinct
    rcases List.mem_cons.mp present with rfl | later
    · have unmatched : rest.filter (·.1 = key) = [] := by
        rw [List.filter_eq_nil_iff]
        intro other among same
        exact apart (List.mem_map.mpr ⟨other, among, of_decide_eq_true same⟩)
      rw [List.filter_cons_of_pos (by simp), unmatched]
      rfl
    · have other : entry.1 ≠ key := by
        rintro rfl
        exact apart (List.mem_map.mpr ⟨_, later, rfl⟩)
      rw [List.filter_cons_of_neg (by simpa using other)]
      exact ih others later

/-- A client gives no transaction ID twice before it has used them all. -/
theorem Sound.callsOf_eq_singleton {registry : Registry} {history : List (Happening η)}
    {peer : Peer κ} (sound : Sound registry history peer)
    (few : (calls history).length ≤ 2 ^ 64) {xid : Int64} {request : Request}
    (issued : (xid, request) ∈ calls history) : callsOf xid history = [request] := by
  refine values_of_distinct ?_ issued
  rw [sound.numbered]
  have distinct : (List.range (calls history).length).Pairwise fun n m => xidOf n ≠ xidOf m := by
    refine List.pairwise_lt_range.imp_of_mem ?_
    intro n m first second before same
    have left := List.mem_range.mp first
    have right := List.mem_range.mp second
    have equal := xidOf_inj (by omega) (by omega) same
    omega
  exact List.pairwise_map.mpr distinct

/-- A request that was sent carries the arguments of its call. -/
lemma Sound.request_eq {registry : Registry} {history : List (Happening η)} {peer : Peer κ}
    (sound : Sound registry history peer) {frame : Frame} (sent : frame ∈ requests history)
    {request : Request} (only : callsOf frame.xid history = [request]) :
    frame = .request frame.xid request.callId frame.payload ∧
      Codec.writeValues registry request.argTypes request.args = .done frame.payload := by
  obtain ⟨request', issued, encoded, built⟩ := sound.made frame (List.mem_append_left _ sent)
  rw [only, List.mem_singleton] at issued
  subst issued
  exact ⟨built, (Request.written_of_encode encoded).1⟩

/-- A call that is the only one of its transaction ID was requested at most once. -/
lemma Sound.countP_requests {registry : Registry} {history : List (Happening η)} {peer : Peer κ}
    (sound : Sound registry history peer) {xid : Int64} {request : Request}
    (only : callsOf xid history = [request]) : (requests history).countP (·.xid = xid) ≤ 1 := by
  have once := sound.once xid
  rw [only] at once
  unfold outgoing at once
  rw [List.countP_append] at once
  exact Nat.le_trans (Nat.le_add_right _ _) once

end Peer

/-! ## Results -/

/-- A successful result is that of a reply. -/
lemma Peer.Sound.reply_of_result {κ η : Type} {registry : Registry}
    {history : List (Happening η)} {peer : Peer κ} (sound : Sound registry history peer)
    {xid : Int64} {request : Request} (only : Happening.callsOf xid history = [request])
    {results : List Value} (resolved : peer.link.client.result? xid = some (.ok results)) :
    ∃ reply ∈ Happening.replies history, reply.xid = xid ∧ reply.status = Status.ok ∧
      CallResult.ofReply registry request.resultTypes Status.ok
        (Future.replyOf (some reply.payload)) = .ok results := by
  obtain ⟨future, slot, decoded⟩ := Option.bind_eq_some_iff.mp resolved
  obtain ⟨resolution, ended, outcome⟩ := Option.map_eq_some_iff.mp decoded
  rw [sound.registry_eq] at outcome
  have success := (CallResult.ofReply_eq_ok_iff.mp outcome).1
  have present : (xid, future) ∈ peer.link.client.futures := by
    obtain ⟨before, after, split, -⟩ := List.lookup_eq_some_iff.mp slot
    rw [split]
    exact List.mem_append_right _ List.mem_cons_self
  obtain ⟨⟨request', issued, declared⟩, answered⟩ := sound.slots _ present
  rw [only, List.mem_singleton] at issued
  subst issued
  obtain ⟨reply, sent, same, ok, payload⟩ := answered resolution ended success
  rw [declared, success, payload] at outcome
  exact ⟨reply, sent, same, ok, outcome⟩

/-! ## Handlers -/

lemma Registration.written_of_encodeResults {η : Type} {registration : Registration η}
    {registry : Registry} {limit : UInt32} {results : List Value} {payload : Bytes}
    (encoded : registration.encodeResults? registry limit results = some payload) :
    Codec.writeValues registry registration.resultTypes results = .done payload := by
  unfold encodeResults? at encoded
  dsimp only at encoded
  split at encoded
  · cases encoded
  · rename_i written
    split at encoded
    · cases encoded
    · rw [← Option.some.inj encoded]
      exact Codec.Written.eq_done_of_result written

namespace Connection

open Happening

variable {η : Type} {terms : Terms} {history : List (Happening η)} {received written : Bytes}
  {connection : Connection η}

/-- If a request of a transaction ID was sent at most once, a handling of it is the only one. -/
lemma Sound.handlings_eq_singleton (sound : Sound terms history received written connection)
    {handling : Handling η} (called : handling ∈ handlings history)
    (once : (requests history).countP (·.xid = handling.request.xid) ≤ 1) :
    (handlings history).filter (·.request.xid = handling.request.xid) = [handling] := by
  have counted := sound.counted handling.request.xid
  have dispatched := sound.dispatched.sublist.countP_le (p := (·.xid = handling.request.xid))
  have among : handling ∈ (handlings history).filter (·.request.xid = handling.request.xid) :=
    List.mem_filter.mpr ⟨called, decide_eq_true rfl⟩
  have few : ((handlings history).filter (·.request.xid = handling.request.xid)).length ≤ 1 := by
    rw [← List.countP_eq_length_filter]
    omega
  generalize (handlings history).filter (·.request.xid = handling.request.xid) = found at among few
  match found, among, few with
  | [only], among, _ => rw [List.mem_singleton.mp among]

end Connection

/-! ## Where happenings come from -/

lemma Connection.found_of_lookUp {η : Type} {functions : Functions η}
    {connection next : Connection η} {request : Frame} {found : Option (Registration η)}
    (looked : connection.lookUp functions = some (request, found, next)) :
    functions.get? request.callId = found := by
  unfold lookUp at looked
  split at looked
  · split at looked <;> cases looked
    · assumption
    · assumption
  · cases looked

namespace System

open RemoteCall.Frame Happening

variable {η κ : Type}

/-- Only a look-up dispatches, and only the end of a handler calls it. -/
inductive Shows (server : Server η) (k : Nat) : Event η κ → Happening η → Prop where
  | issued (event xid request) : Shows server k event (.issued xid request)
  | requested (event frame) : Shows server k event (.requested frame)
  | replied (event reply) : Shows server k event (.replied reply)
  | dispatched (respond request) : Shows server k (.server respond (.lookUp k))
      (.dispatched request (server.functions.get? request.callId))
  | handled (respond id request registration args) : Shows server k
      (.server respond (.finish k id))
      (.handled ⟨request, registration, args, respond registration.handler args⟩)

lemma Shows.of_dispatched {server : Server η} {k : Nat} {event : Event η κ} {request : Frame}
    {found : Option (Registration η)} (shown : Shows server k event (.dispatched request found)) :
    ∃ respond, event = .server respond (.lookUp k) ∧
      server.functions.get? request.callId = found := by
  cases shown with
  | dispatched respond request => exact ⟨respond, rfl, rfl⟩

lemma Shows.of_handled {server : Server η} {k : Nat} {event : Event η κ} {handling : Handling η}
    (shown : Shows server k event (.handled handling)) :
    ∃ respond id, event = .server respond (.finish k id) ∧
      handling.outcome = respond handling.registration.handler handling.args := by
  cases shown with
  | handled respond id request registration args => exact ⟨respond, id, rfl, rfl⟩

lemma shows_delivery {server : Server η} {event : Event η κ}
    {respond : η → List Value → Outcome} {c k : Nat} {delivery : Connection.Delivery}
    {effect : Server.Effect η} {happening : Happening η}
    (among : effect ∈ Server.deliveryEffects c delivery)
    (means : happening? respond effect = some (k, happening)) : Shows server k event happening := by
  cases delivery with
  | queued reply =>
    cases List.mem_singleton.mp among
    cases means
    exact .replied event reply
  | dropped reply =>
    cases List.mem_singleton.mp among
    cases means
  | pending => cases among

lemma shows_delivering {server : Server η} {event : Event η κ}
    {respond : η → List Value → Outcome} {c k : Nat}
    {act : Connection η → Option (Connection.Delivery × Connection η)} {effect : Server.Effect η}
    {happening : Happening η} (among : effect ∈ (server.delivering c act).2)
    (means : happening? respond effect = some (k, happening)) : Shows server k event happening := by
  rcases server.touches_delivering c act with nothing | ⟨delivery, -, -, -, -, effects⟩
  · rw [nothing] at among
    cases among
  · rw [effects] at among
    exact shows_delivery among means

lemma shows_lookUp {server : Server η} {respond : η → List Value → Outcome} {c k : Nat}
    {effect : Server.Effect η} {happening : Happening η}
    (among : effect ∈ ((server.lookUp c).getD (server, [])).2)
    (means : happening? respond effect = some (k, happening)) :
    Shows server k (.server respond (.lookUp c) : Event η κ) happening := by
  cases looked : server.lookUp c with
  | none =>
    rw [looked] at among
    cases among
  | some pair =>
    obtain ⟨next, effects⟩ := pair
    obtain ⟨request, found, old, new, result, -, rfl⟩ := Server.touches_lookUp looked
    rw [looked] at among
    cases List.mem_singleton.mp among
    cases means
    obtain rfl := Connection.found_of_lookUp result
    exact .dispatched respond request

lemma shows_finish {server : Server η} {respond : η → List Value → Outcome} {c id k : Nat}
    {effect : Server.Effect η} {happening : Happening η}
    (among : effect ∈ ((@Server.finish η ⟨respond⟩ server c id).getD (server, [])).2)
    (means : happening? respond effect = some (k, happening)) :
    Shows server k (.server respond (.finish c id) : Event η κ) happening := by
  let : Handles η := ⟨respond⟩
  cases finished : server.finish c id with
  | none =>
    rw [finished] at among
    cases among
  | some pair =>
    obtain ⟨next, effects⟩ := pair
    obtain ⟨old, job, -, -, -, rfl⟩ := Server.touches_finish finished
    rw [finished] at among
    obtain ⟨args, -, rfl⟩ := List.mem_map.mp among
    cases means
    exact .handled respond id job.request job.registration args

lemma shows_serve {system : System η κ} {respond : η → List Value → Outcome}
    {event : Server.Event η} {k : Nat} {happening : Happening η}
    (seen : (k, happening) ∈ (system.serve respond event).2) :
    Shows system.server k (.server respond event : Event η κ) happening := by
  let : Handles η := ⟨respond⟩
  obtain ⟨effect, among, means⟩ := List.mem_filterMap.mp seen
  have silent : ∀ c act, effect ∉ (system.server.silently c act).2 := by
    intro c act among
    rcases system.server.touches_silently c act with nothing | ⟨-, -, -, -, effects⟩
    · rw [nothing] at among
      cases among
    · rw [effects] at among
      cases among
  cases event with
  | lookUp c => exact shows_lookUp among means
  | finish c id => exact shows_finish among means
  | offer | giveUp | resume => exact shows_delivering among means
  | register | registerService | start =>
    unfold Server.step at among
    dsimp only at among
    split at among <;> cases among
  | unregister | stop | accept | endAccepting | grant => cases among
  | receive | streamEnded | collect | sinkFails | flushed | observeStop =>
    exact absurd among (silent _ _)
  | sinkAccepts c n =>
    unfold Server.step at among
    dsimp only at among
    split at among
    · cases among
    · cases List.mem_singleton.mp among
      cases means

lemma shows_step {system : System η κ} {event : Event η κ} {k : Nat} {happening : Happening η}
    (seen : (k, happening) ∈ (system.step event).2) : Shows system.server k event happening := by
  cases event with
  | connect generation settings => cases seen
  | client c event =>
    unfold step at seen
    dsimp only at seen
    split at seen
    · cases seen
    · obtain ⟨happening', shown, same⟩ := List.mem_map.mp seen
      cases same
      rcases Peer.seen_step shown with ⟨xid, request, -, -, rfl⟩ | ⟨frame, rfl⟩
      · exact .issued _ xid request
      · exact .requested _ frame
  | server respond event =>
    cases event with
    | accept generation => cases seen
    | receive c bytes =>
      unfold step receive at seen
      dsimp only at seen
      split at seen
      · split at seen
        · cases seen
        · split at seen
          · exact shows_serve seen
          · cases seen
      · cases seen
    | sinkAccepts c n =>
      unfold step write at seen
      dsimp only at seen
      split at seen
      · exact shows_serve seen
      · cases seen
    | lookUp | finish | offer | giveUp | resume | register | registerService | start | unregister
    | stop | endAccepting | grant | streamEnded | collect | sinkFails | flushed | observeStop =>
      exact shows_serve seen

/-- What a run has shown came from one of its actions. -/
lemma exists_shows {system : System η κ} {events : List (Event η κ)} {k : Nat}
    {happening : Happening η} (seen : happening ∈ on k (system.run events).2) :
    ∃ before event after, events = before ++ event :: after ∧
      (k, happening) ∈ ((system.run before).1.step event).2 ∧
      Shows (system.run before).1.server k event happening := by
  obtain ⟨before, event, after, split, shown⟩ := Machine.exists_step_of_mem (mem_on.mp seen)
  exact ⟨before, event, after, split, shown, shows_step shown⟩

/-- A handler is called after its request was looked up. -/
lemma Sound.looked_before {terms : Terms} {system : System η κ}
    (sound : Sound terms system []) {events : List (Event η κ)}
    (agree : ∀ event ∈ events, event.Agrees terms.types) {k : Nat} {handling : Handling η}
    (called : .handled handling ∈ on k (system.run events).2) :
    ∃ before respond id after, events = before ++ .server respond (.finish k id) :: after ∧
      (k, .handled handling) ∈ ((system.run before).1.step (.server respond (.finish k id))).2 ∧
      handling.outcome = respond handling.registration.handler handling.args ∧
      .dispatched handling.request (some handling.registration) ∈ on k (system.run before).2 := by
  obtain ⟨before, event, after, rfl, shown, shows⟩ := exists_shows called
  obtain ⟨respond, id, rfl, outcome⟩ := shows.of_handled
  refine ⟨before, respond, id, after, rfl, shown, outcome, ?_⟩
  have earlier : Sound terms (system.run before).1 (system.run before).2 :=
    sound.run fun event among => agree event (List.mem_append_left _ among)
  have later := earlier.step (agree _ (List.mem_append_right _ List.mem_cons_self))
  have here : .handled handling ∈ on k ((system.run before).2 ++
      ((system.run before).1.step (.server respond (.finish k id))).2) := by
    rw [on_append]
    exact List.mem_append_right _ (mem_on.mpr shown)
  obtain ⟨peer, connection, present, served⟩ := later.ends_of_mem here
  have serving := later.connections k peer connection present served
  have dispatched := (serving.handled handling (mem_handlings.mpr here)).1
  rw [on_append] at dispatched
  rcases List.mem_append.mp dispatched with past | now
  · exact past
  · -- the action that calls the handler dispatches nothing
    obtain ⟨_, other, -⟩ := (shows_step (mem_on.mp now)).of_dispatched
    cases other

/-! ## Calls -/

/-- A call was executed in a run.  Its request was looked up in one action, and the handler that was
registered under its call ID at that moment was called in a later one, once, with the arguments of
the call; what it returned are the results. -/
structure Executed (registry : Registry) (server : Server η) (events : List (Event η κ)) (k : Nat)
    (xid : Int64) (request : Request) (results : List Value) (handling : Handling η) : Prop where
  sent : handling.request = .request xid request.callId handling.request.payload ∧
    Codec.writeValues registry request.argTypes request.args = .done handling.request.payload
  traced : ∃ first respond middle respond' id last,
    events = first ++ .server respond (.lookUp k) ::
      (middle ++ .server respond' (.finish k id) :: last) ∧
    ((start server : System η κ).run first).1.server.functions.get? request.callId =
      some handling.registration ∧
    (k, .dispatched handling.request (some handling.registration)) ∈
      (((start server).run first).1.step (.server respond (.lookUp k))).2 ∧
    (k, .handled handling) ∈ (((start server).run (first ++ .server respond (.lookUp k) ::
      middle)).1.step (.server respond' (.finish k id))).2 ∧
    handling.outcome = respond' handling.registration.handler handling.args
  once : (handlings (on k ((start server).run events).2)).filter (·.request.xid = xid) =
    [handling]
  args : Codec.canonicals registry request.argTypes request.args = some handling.args
  returned : ∃ values, handling.outcome = .returned values ∧
    Codec.canonicals registry request.resultTypes values = some results

/-- A call that ended with success was executed, unless its client had used up all transaction
IDs. -/
theorem result_executed {registry : Registry} (built : registry.Built) {settings : ServerSettings}
    {server : Server η} (created : Server.create registry settings = .ok server)
    {types : CallId → List Ty × List Ty} {events : List (Event η κ)}
    (agree : ∀ event ∈ events, event.Agrees types) {k : Nat} {xid : Int64} {request : Request}
    (issued : (xid, request) ∈ calls (on k ((start server : System η κ).run events).2))
    (few : (calls (on k ((start server : System η κ).run events).2)).length ≤ 2 ^ 64)
    {results : List Value}
    (resolved : ((start server : System η κ).run events).1.result? k xid = some (.ok results)) :
    ∃ handling, Executed registry server events k xid request results handling := by
  have onWire := Server.onWire_of_create created
  let terms : Terms := ⟨registry, types, settings.maxPayload, onWire⟩
  have begun : Sound terms (start server : System η κ) [] := sound_start created rfl
  have sound : Sound terms ((start server : System η κ).run events).1
      ((start server : System η κ).run events).2 := begun.run agree
  obtain ⟨peer, present, resolved⟩ := Option.bind_eq_some_iff.mp resolved
  obtain ⟨connection, served⟩ := sound.connection_of_peer present
  -- the reply that ended the call is one that the server justified, and its handling began with a
  -- request that this client had sent
  have client := sound.peers k peer present
  have serving := sound.connections k peer connection present served
  have agreed := sound.agreed k _ issued
  have only := client.callsOf_eq_singleton few issued
  obtain ⟨reply, replied, rfl, success, outcome⟩ := client.reply_of_result only resolved
  obtain ⟨handling, called, same, values, returned, encoded⟩ :=
    (serving.justified reply (List.mem_append_right _ (List.mem_append_right _ replied))).2 success
  obtain ⟨dispatched, decoded⟩ := serving.handled handling called
  obtain ⟨named, has⟩ := serving.looked _ _ dispatched
  have requested : handling.request ∈ requests (on k ((start server : System η κ).run events).2) :=
    serving.dispatched.subset (mem_dispatches dispatched)
  -- both have the same transaction ID, and the client has made no other call under it
  rw [← same] at only
  obtain ⟨framed, written⟩ := client.request_eq requested only
  have callId : handling.request.callId = request.callId := congrArg Frame.callId framed
  rw [Terms.Has, named, callId, agreed, Prod.mk.injEq] at has
  obtain ⟨argTypes, resultTypes⟩ := has
  refine ⟨handling, ⟨same ▸ framed, written⟩, ?_, ?_, ?_, values, returned, ?_⟩
  -- the look-up comes before the end of the handling, in the events as in the history
  · obtain ⟨before, respond', id, last, split, ended, outcome, looked⟩ :=
      begun.looked_before agree (mem_handlings.mp called)
    obtain ⟨first, event, middle, split', shown, shows⟩ := exists_shows looked
    obtain ⟨respond, rfl, found⟩ := shows.of_dispatched
    rw [callId] at found
    subst split'
    refine ⟨first, respond, middle, respond', id, last, ?_, found, shown, ended, outcome⟩
    rw [split, List.append_assoc, List.cons_append]
  · rw [← same]
    exact serving.handlings_eq_singleton called (client.countP_requests only)
  · rw [← Codec.readExactly_of_done built written, argTypes]
    exact decoded
  · have encoding := Registration.written_of_encodeResults encoded
    rw [← resultTypes] at encoding
    exact CallResult.canonicals_of_ofReply built encoding outcome

/-- A call whose struct has its fields in another order, one of them twice and one too many. -/
def quadrantRequest : Request where
  callId := 7
  args := [.struct "point" [("y", .double 2), ("note", .int32 9), ("x", .double 1),
    ("x", .double 5)]]
  argTypes := [.struct "point"]
  resultTypes := [.int32]

/-- The frames of the call, as they are on the wires. -/
def quadrantFrames : Frame × Frame :=
  (.request 1 7 (LittleEndian.writeUInt64 1 ++ LittleEndian.writeUInt64 2),
    .reply 1 Status.ok (LittleEndian.writeInt32 3))

/-- A run in which the call is made and answered; each frame is read in two pieces. -/
def quadrantEvents : List (Event Unit Unit) :=
  let respond : Unit → List Value → Outcome := fun _ _ => .returned [.int32 3]
  let (request, reply) := (quadrantFrames.1.encode, quadrantFrames.2.encode)
  [.server respond (.start "here"),
    .server respond (.register ⟨7, none, [.struct "point"], [.int32], ()⟩), .connect 0 {},
    .client 0 (.link .startReader), .client 0 (.link (.issue quadrantRequest none)),
    .client 0 (.offer 1), .client 0 (.link .collect), .client 0 (.link (.sinkAccepts 99)),
    .server respond (.receive 0 (request.take 5)), .server respond (.receive 0 (request.drop 5)),
    .server respond (.lookUp 0), .server respond .grant, .server respond (.finish 0 0),
    .server respond (.offer 0 (.job 0)), .server respond (.collect 0),
    .server respond (.sinkAccepts 0 99), .client 0 (.link (.read (reply.take 20))),
    .client 0 (.link (.read (reply.drop 20)))]

/-- The types under which the call is known. -/
def quadrantTypes (_ : CallId) : List Ty × List Ty := ([.struct "point"], [.int32])

theorem result_executed_quadrant :
    ∃ server : Server Unit, Server.create Buffer.nestedRegistry {} = .ok server ∧
      ((start server : System Unit Unit).run quadrantEvents).1.result? 0 1 =
        some (.ok [.int32 3]) ∧
      ∃ handling, Executed Buffer.nestedRegistry server quadrantEvents 0 1 quadrantRequest
        [.int32 3] handling := by
  have agree : ∀ event ∈ quadrantEvents, event.Agrees quadrantTypes := by
    have declared : ∀ declared ∈ quadrantEvents.flatMap Event.declares,
        quadrantTypes declared.1 = declared.2 := by decide
    intro event among entry names
    exact declared entry (List.mem_flatMap.mpr ⟨event, among, names⟩)
  obtain ⟨server, created⟩ : ∃ server : Server Unit,
      Server.create Buffer.nestedRegistry {} = .ok server := ⟨_, rfl⟩
  have resolved : ((start server : System Unit Unit).run quadrantEvents).1.result? 0 1 =
      some (.ok [.int32 3]) := by
    cases created
    cbv
  have issued : calls (on 0 ((start server : System Unit Unit).run quadrantEvents).2) =
      [(1, quadrantRequest)] := by
    cases created
    cbv
  refine ⟨server, created, resolved, ?_⟩
  refine result_executed Buffer.nestedRegistry_built created agree ?_ ?_ resolved
  · rw [issued]
    exact List.mem_singleton_self _
  · rw [issued]
    decide

end System

end RemoteCall
