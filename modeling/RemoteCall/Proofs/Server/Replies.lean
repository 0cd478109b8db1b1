import Mathlib
import RemoteCall.Proofs.Server.Ledger

/-!
# Replies and their requests

Every reply that a connection sends answers a request that it has received, and no request is
answered twice (`replies_sound`).  A reply is determined by its request and by what was registered
when the request was looked up.  Nothing else has a part in it: neither the other requests, nor the
order in which handlers end, nor what is registered or removed meanwhile.

The other way around, a request is answered unless its reply was given up at the limit
(`requests_answered`).  The connection stays open all the same (`unread_unanswered`).

## The proof

The books of a connection count: a reply was queued no more often than it was to be sent to the
requests that were looked up.  From this the matching is made by counting alone (`exists_places`):
if each thing is in one list at most as often as in another, then the places of the one can be
mapped to different places of the other, with the same thing at each.  The moment at which a request
was looked up is then found in the run (`exists_lookUp`), and with it the registration.

Transaction IDs play no part in the matching.  They are the peer's to choose, and a peer may use one
for several requests; the reply has that of its request.

## Main statements

* `Racing.replies_sound` — replies are matched with requests, each by its own.
* `Racing.requests_answered` — a connection that is open and at rest owes nothing but the replies
  that were given up.
* `Racing.unread_unanswered` — a request whose reply was given up, on a connection that stays open.
-/

namespace RemoteCall

/-! ## Matching by counting -/

/-- If everything is in one list at most as often as in another, then each place of the one has a
place of its own in the other. -/
lemma exists_places {α : Type} [DecidableEq α] {short long : List α}
    (fewer : ∀ x, short.count x ≤ long.count x) :
    ∃ place : Nat → Nat,
      (∀ i j, i < short.length → j < short.length → place i = place j → i = j) ∧
        ∀ i x, short[i]? = some x → long[place i]? = some x := by
  induction short generalizing long with
  | nil => exact ⟨id, nofun, nofun⟩
  | cons x rest ih =>
    have among : x ∈ long := by
      have once := fewer x
      rw [List.count_cons_self] at once
      exact List.count_pos_iff.mp (by omega)
    obtain ⟨before, after, rfl⟩ := List.append_of_mem among
    have others : ∀ y, rest.count y ≤ (before ++ after).count y := by
      intro y
      have both := fewer y
      rw [List.count_cons, List.count_append, List.count_cons] at both
      rw [List.count_append]
      omega
    obtain ⟨place, distinct, found⟩ := ih others
    -- The places behind `x` move on by one.
    let skip (j : Nat) : Nat := if j < before.length then j else j + 1
    have skips : ∀ j, (before ++ x :: after)[skip j]? = (before ++ after)[j]? := by
      intro j
      dsimp only [skip]
      split
      · rename_i front
        rw [List.getElem?_append_left front, List.getElem?_append_left front]
      · rename_i behind
        rw [List.getElem?_append_right (by omega), List.getElem?_append_right (by omega),
          Nat.succ_sub (by omega), List.getElem?_cons_succ]
    have skip_ne : ∀ j, skip j ≠ before.length := by
      intro j
      dsimp only [skip]
      split <;> omega
    have skip_injective : ∀ i j, skip i = skip j → i = j := by
      intro i j
      dsimp only [skip]
      split <;> split <;> omega
    refine ⟨fun | 0 => before.length | i + 1 => skip (place i), ?_, ?_⟩
    · intro i j within within' same
      rw [List.length_cons] at within within'
      match i, j with
      | 0, 0 => rfl
      | 0, j + 1 => exact absurd same.symm (skip_ne _)
      | i + 1, 0 => exact absurd same (skip_ne _)
      | i + 1, j + 1 =>
        exact congrArg Nat.succ (distinct i j (by omega) (by omega) (skip_injective _ _ same))
    · intro i y here
      match i with
      | 0 =>
        rw [List.getElem?_cons_zero, Option.some.injEq] at here
        subst here
        rw [List.getElem?_append_right (Nat.le_refl _), Nat.sub_self, List.getElem?_cons_zero]
      | i + 1 =>
        rw [List.getElem?_cons_succ] at here
        rw [skips]
        exact found i y here

namespace Racing

open RemoteCall.Frame

variable {η : Type} [Handles η]

/-! ## The moment of a look-up -/

lemma looked_entries {registry : Registry} {limit : UInt32} {functions : Functions η}
    {old new : Connection η} {entries : List (Entry η)}
    (acts : old.Acts registry limit functions entries new) :
    looked entries = [] ∨
      ∃ request, looked entries = [(request, functions.get? request.callId)] := by
  rcases looked_cases acts with nothing | ⟨request, found, rfl, looks⟩
  · exact Or.inl nothing
  · obtain ⟨-, rest, -, rfl, -⟩ := Connection.lookUp_cases looks
    exact Or.inr ⟨request, rfl⟩

lemma looked_step (server : Server η) (event : Event η) (c : Nat) :
    looked (on c (step server event).2) = [] ∨ ∃ request,
      looked (on c (step server event).2) = [(request, server.functions.get? request.callId)] := by
  have steps := steps_step server event
  generalize (step server event).1 = next at steps
  generalize (step server event).2 = entries at steps
  cases steps with
  | aside | accepted | starts => exact Or.inl rfl
  | @acts k old new entries acts touches =>
    rw [on_tagged]
    split
    · exact looked_entries acts
    · exact Or.inl rfl

/-- Every request was looked up at its own moment of the run. -/
lemma exists_lookUp {server : Server η} {events : List (Event η)} {c k : Nat} {request : Frame}
    {found : Option (Registration η)}
    (seen : (looked (on c (run server events).2))[k]? = some (request, found)) :
    ∃ before event after, events = before ++ event :: after ∧
      (looked (on c (run server before).2)).length = k ∧
      looked (on c (step (run server before).1 event).2) = [(request, found)] ∧
      found = (run server before).1.functions.get? request.callId := by
  let view (journal : List (Nat × Entry η)) := looked (on c journal)
  have append : ∀ first second, view (first ++ second) = view first ++ view second := by
    intro first second
    dsimp only [view]
    rw [on_append, looked_append]
  have seen : (view (Machine.run step server events).2)[k]? = some (request, found) := seen
  obtain ⟨before, event, after, split, within, shown⟩ :=
    Machine.exists_step_of_getElem? append seen
  have shown : (looked (on c (step (run server before).1 event).2))[k -
      (looked (on c (run server before).2)).length]? = some (request, found) := shown
  have within : (looked (on c (run server before).2)).length ≤ k := within
  refine ⟨before, event, after, split, ?_⟩
  rcases looked_step (run server before).1 event c with nothing | ⟨request', once⟩
  · rw [nothing] at shown
    cases shown
  · rw [once, List.getElem?_singleton] at shown
    split at shown
    · rename_i first
      rw [Option.some.injEq, Prod.mk.injEq] at shown
      obtain ⟨rfl, rfl⟩ := shown
      exact ⟨by omega, once, rfl⟩
    · cases shown

/-! ## Replies -/

lemma xid_answer {registry : Registry} {limit : UInt32} (registration : Registration η)
    (xid : Int64) (payload : Bytes) :
    (registration.answer registry limit xid payload).1.xid = xid := by
  unfold Registration.answer
  split
  · rfl
  · unfold Registration.replyTo
    split
    · rfl
    · rfl
    · split <;> rfl

lemma xid_answerTo {registry : Registry} {limit : UInt32}
    (request : Frame × Option (Registration η)) :
    (answerTo registry limit request).xid = request.1.xid := by
  obtain ⟨request, _ | registration⟩ := request
  · rfl
  · exact xid_answer registration request.xid request.payload

section

variable {registry : Registry} {settings : ServerSettings} {server : Server η}

/-- At any time the journal of a connection agrees with what was read, if anything was. -/
lemma books_run (created : Server.create registry settings = .ok server)
    (events : List (Event η)) (c : Nat) :
    let history := on c (run server events).2
    (looked history).map Prod.fst <+: (parse settings.maxPayload (reads history).flatten).frames ∧
      (∀ reply, (queued history).count reply ≤
        ((looked history).map (answerTo registry settings.maxPayload)).count reply) ∧
      written history <+: Writer.content (queued history) := by
  have kept := kept_run created events
  cases found : (run server events).1.connection? c with
  | none =>
    rw [kept.silent c found]
    exact ⟨List.nil_prefix, fun _ => Nat.le_refl _, List.prefix_refl _⟩
  | some connection =>
    have books := kept.books c connection found
    refine ⟨books.intake.begun, fun reply => ?_, books.balance.streams.behind⟩
    have bound := books.balance.bounded reply
    omega

/-- A reply answers a request that was looked up at a moment of the run. -/
structure Answers (registry : Registry) (limit : UInt32) (server : Server η) (c : Nat)
    (before : List (Event η)) (event : Event η) (request reply : Frame) : Prop where
  xid : reply.xid = request.xid
  looked : ∃ found, looked (on c (step (run server before).1 event).2) = [(request, found)]
  /-- Nobody handles the call. -/
  unknown : (run server before).1.functions.get? request.callId = none →
    reply = .errorReply request.xid Status.noHandler
  /-- The call is handled under its registration at that moment. -/
  known : ∀ registration, (run server before).1.functions.get? request.callId =
    some registration → reply =
      (registration.answer registry limit request.xid request.payload).1
  /-- The handler panics. -/
  panicked : ∀ registration args,
    (run server before).1.functions.get? request.callId = some registration →
    registration.arguments? registry request.payload = some args →
    Handles.run registration.handler args = .panicked →
      reply = .errorReply request.xid Status.handlerFailed

lemma answers_of_looked {limit : UInt32} {before : List (Event η)} {event : Event η} {c : Nat}
    {request : Frame} {found : Option (Registration η)}
    (looked : looked (on c (step (run server before).1 event).2) = [(request, found)])
    (registered : found = (run server before).1.functions.get? request.callId) :
    Answers registry limit server c before event request
      (answerTo registry limit (request, found)) := by
  refine ⟨xid_answerTo _, ⟨found, looked⟩, ?_, ?_, ?_⟩
  · intro missing
    rw [registered, missing]
    rfl
  · intro registration present
    rw [registered, present]
    rfl
  · intro registration args present decoded panics
    rw [registered, present]
    simp only [answerTo, Registration.answer, decoded, panics, Registration.replyTo]

/-- Each reply of a connection has a request of its own, and is the answer to it. -/
def Matched (registry : Registry) (limit : UInt32) (server : Server η) (events : List (Event η))
    (c : Nat) (requests replies : List Frame) : Prop :=
  ∃ place : Fin replies.length → Fin requests.length, Function.Injective place ∧
    ∀ i, ∃ before event after, events = before ++ event :: after ∧
      -- The request is the one that was looked up then.
      (looked (on c (run server before).2)).length = place i ∧
      Answers registry limit server c before event requests[place i] replies[i]

/-- If the requests that were looked up come first, and no reply is there more often than they are
to have it, then each reply has a request of its own. -/
lemma matched_of_count {limit : UInt32} {events : List (Event η)} {c : Nat}
    {requests replies : List Frame}
    (begun : (looked (on c (run server events).2)).map Prod.fst <+: requests)
    (bounded : ∀ reply, replies.count reply ≤
      ((looked (on c (run server events).2)).map (answerTo registry limit)).count reply) :
    Matched registry limit server events c requests replies := by
  obtain ⟨place, distinct, found⟩ := exists_places bounded
  have asked : ∀ i : Fin replies.length, ∃ request found,
      (looked (on c (run server events).2))[place i]? = some (request, found) ∧
        requests[place i]? = some request ∧
        answerTo registry limit (request, found) = replies[i] := by
    intro i
    have here := found i _ (List.getElem?_eq_getElem i.isLt)
    rw [List.getElem?_map] at here
    obtain ⟨⟨request, found⟩, seen, same⟩ := Option.map_eq_some_iff.mp here
    have first : ((looked (on c (run server events).2)).map Prod.fst)[place i]? = some request := by
      rw [List.getElem?_map, seen]
      rfl
    refine ⟨request, found, seen, ?_, same⟩
    obtain ⟨others, rfl⟩ := begun
    rw [List.getElem?_append_left]
    · exact first
    · exact (List.getElem?_eq_some_iff.mp first).1
  have within : ∀ i : Fin replies.length, place i < requests.length := by
    intro i
    obtain ⟨request, found, -, here, -⟩ := asked i
    exact (List.getElem?_eq_some_iff.mp here).1
  refine ⟨fun i => ⟨place i, within i⟩, ?_, ?_⟩
  · intro i j same
    exact Fin.ext (distinct i j i.isLt j.isLt (Fin.mk.inj same))
  · intro i
    obtain ⟨request, found, seen, here, same⟩ := asked i
    obtain ⟨before, event, after, split, number, once, registered⟩ := exists_lookUp seen
    have request_eq : requests.get ⟨place i, within i⟩ = request :=
      (List.getElem?_eq_some_iff.mp here).2
    refine ⟨before, event, after, split, number, ?_⟩
    show Answers registry limit server c before event (requests.get ⟨place i, within i⟩) _
    rw [request_eq, ← same]
    exact answers_of_looked once registered

/-- Whatever the peer of a connection sends, whatever is registered and removed meanwhile, and in
whichever order handlers end and parties go on: the replies that were queued are matched with
requests that were received on the same connection.  The bytes that were written are the front of
them. -/
theorem replies_sound (created : Server.create registry settings = .ok server)
    (events : List (Event η)) (c : Nat) :
    let history := on c (run server events).2
    Matched registry settings.maxPayload server events c
        (parse settings.maxPayload (reads history).flatten).frames (queued history) ∧
      written history <+: Writer.content (queued history) := by
  obtain ⟨begun, bounded, behind⟩ := books_run created events c
  exact ⟨matched_of_count begun bounded, behind⟩

end

/-- A handler that returns nothing, or panics. -/
inductive Trial where
  | returns
  | panics
  deriving DecidableEq, Repr

instance : Handles Trial where
  run
    | .returns, _ => .returned []
    | .panics, _ => .panicked

/-- Three requests with the same transaction ID, each for another call.  The last is registered anew
while the second one waits for its handler, and is answered first. -/
def contested : List (Event Trial) :=
  [.act (.start "here"), .act (.register ⟨7, none, [], [], .panics⟩), .act (.accept 0),
    .act (.receive 0 ([Frame.request 1 9 [], .request 1 7 [], .request 1 7 []].flatMap
      Frame.encode)),
    .act (.lookUp 0), .pass 0 .reader, .act (.lookUp 0), .act .grant, .act (.unregister 7),
    .act (.register ⟨7, none, [], [], .returns⟩), .act (.lookUp 0), .act .grant,
    .act (.finish 0 1), .pass 0 (.job 1), .act (.finish 0 0), .act (.offer 0 (.job 0)),
    .act (.collect 0), .act (.sinkAccepts 0 20)]

theorem replies_sound_contested : ∃ server : Server Trial,
    Server.create .empty {} = .ok server ∧
      Matched .empty Header.defaultLimit server contested 0
        [.request 1 9 [], .request 1 7 [], .request 1 7 []]
        [.errorReply 1 Status.noHandler, .reply 1 Status.ok [],
          .errorReply 1 Status.handlerFailed] := by
  obtain ⟨server, created⟩ : ∃ server : Server Trial, Server.create .empty {} = .ok server :=
    ⟨_, rfl⟩
  have replies : queued (on 0 (run server contested).2) = [.errorReply 1 Status.noHandler,
      .reply 1 Status.ok [], .errorReply 1 Status.handlerFailed] := by
    cases created
    cbv
  have requests : (parse Header.defaultLimit
      (reads (on 0 (run server contested).2)).flatten).frames =
        [.request 1 9 [], .request 1 7 [], .request 1 7 []] := by
    cases created
    cbv
  have sound := (replies_sound created contested 0).1
  rw [replies] at sound
  have limit : ({} : ServerSettings).maxPayload = Header.defaultLimit := rfl
  rw [limit, requests] at sound
  exact ⟨server, created, sound⟩

/-! ## Requests without a reply -/

section

variable {registry : Registry} {settings : ServerSettings} {server : Server η}

/-- No handler of the connection runs, waits for a slot or has a reply to send. -/
structure AtRest (connection : Connection η) : Prop where
  jobs : connection.jobs = []
  reader : connection.reader = .reading ∨ connection.reader = .ended

omit [Handles η] in
lemma atRest_iff (connection : Connection η) : AtRest connection ↔
    (connection.jobs.isEmpty && connection.reader matches .reading | .ended) = true := by
  rw [Bool.and_eq_true, List.isEmpty_iff]
  constructor
  · rintro ⟨jobs, reading | ended⟩
    · exact ⟨jobs, by rw [reading]⟩
    · exact ⟨jobs, by rw [ended]⟩
  · rintro ⟨jobs, idle⟩
    refine ⟨jobs, ?_⟩
    cases state : connection.reader with
    | reading => exact Or.inl rfl
    | ended => exact Or.inr rfl
    | awaitingSlot | answering | queueing =>
      rw [state] at idle
      cases idle

instance (connection : Connection η) : Decidable (AtRest connection) :=
  decidable_of_iff' _ (atRest_iff connection)

lemma AtRest.owed_eq {connection : Connection η} (rests : AtRest connection) {limit : UInt32} :
    connection.owed registry limit = [] := by
  unfold Connection.owed
  rw [rests.jobs, List.map_nil, List.append_nil]
  rcases rests.reader with reading | ended
  · rw [reading]
    rfl
  · rw [ended]
    rfl

/-- While a connection is open and at rest, every request that was taken from the stream has its
reply in the queue or on its way, unless the reply was given up.  So the transaction IDs of the
requests are those of the replies exactly if none was given up.

The connection is open unless the server has stopped, its reader has failed or its task has. -/
theorem requests_answered (created : Server.create registry settings = .ok server)
    {events : List (Event η)} {c : Nat} {connection : Connection η}
    (found : (run server events).1.connection? c = some connection)
    (live : connection.isServed = true ∨ .ended ∈ on c (run server events).2)
    (going : connection.writer.isOver = false) (rests : AtRest connection) :
    let history := on c (run server events).2
    let requests := (looked history).map Prod.fst
    (parse settings.maxPayload (reads history).flatten).frames =
        requests ++ connection.backlog ∧
      ((looked history).map (answerTo registry settings.maxPayload)).Perm
        (queued history ++ expired history) ∧
      ((requests.map Frame.xid).Perm ((queued history).map Frame.xid) ↔ expired history = []) := by
  have books := (kept_run created events).books c connection found
  generalize on c (run server events).2 = history at live books
  have answers : ((looked history).map (answerTo registry settings.maxPayload)).Perm
      (queued history ++ expired history) := by
    refine List.perm_iff_count.mpr fun reply => ?_
    have exact := books.balance.exact live reply
    rw [books.balance.going going, rests.owed_eq, List.count_nil] at exact
    rw [List.count_append]
    omega
  have xids : ((looked history).map Prod.fst).map Frame.xid =
      ((looked history).map (answerTo registry settings.maxPayload)).map Frame.xid := by
    rw [List.map_map, List.map_map]
    exact List.map_congr_left fun request _ => (xid_answerTo request).symm
  refine ⟨(books.intake.handed live).symm, answers, ?_, ?_⟩
  · intro same
    have lengths := same.length_eq
    have total := answers.length_eq
    rw [List.length_map, List.length_append] at total
    rw [List.length_map, List.length_map, List.length_map] at lengths
    exact List.eq_nil_of_length_eq_zero (by omega)
  · intro none
    rw [none, List.append_nil] at answers
    rw [xids]
    exact answers.map _

/-- A party that gives up in a server, where nobody races, has found the limit reached. -/
lemma limit_of_giveUp {c : Nat} {event : Server.Event η} {reply : Frame}
    (shown : (c, .expired reply) ∈ (step server (.act event)).2) :
    ∃ party connection, event = .giveUp c party ∧ server.connection? c = some connection ∧
      connection.writer.settings.maxPending ≤ connection.writer.pending := by
  rcases List.mem_append.mp shown with arrived | done
  · cases List.filterMap_eq_nil_iff.mp (effects_arrivals server (.act event)) _ arrived
  · obtain ⟨effect, among, entered⟩ := List.mem_filterMap.mp done
    -- the entry tells that the step was one that gives up, and there is only one such event
    have dropped : effect = .dropped c reply ∧ (Event.act event).givesUp = true := by
      cases effect with
      | dispatched | called | queued | wrote => cases entered
      | dropped k other =>
        have entered : some (k, if (Event.act event).givesUp then Entry.expired other
          else Entry.refused other) = some (c, Entry.expired reply) := entered
        cases gives : (Event.act event).givesUp with
        | true =>
          rw [gives] at entered
          cases entered
          exact ⟨rfl, rfl⟩
        | false =>
          rw [gives] at entered
          cases entered
    obtain ⟨rfl, gives⟩ := dropped
    cases event with
    | giveUp k party =>
      have among : .dropped c reply ∈ (server.delivering k (·.giveUp party)).2 := among
      rcases server.touches_delivering k (·.giveUp party) with
          nothing | ⟨delivery, old, new, given, touches, effects⟩
      · rw [nothing] at among
        cases among
      · rw [effects] at among
        obtain rfl : c = k := by
          cases delivery with
          | queued => cases List.mem_singleton.mp among
          | dropped =>
            cases List.mem_singleton.mp among
            rfl
          | pending => cases among
        refine ⟨party, old, rfl, touches.found, ?_⟩
        rw [Connection.giveUp_eq] at given
        split at given
        · assumption
        · cases given
    | _ => cases gives

/-- If nobody races, replies are given up only by a party that has found the limit reached. -/
theorem limit_of_expired {events : List (Server.Event η)} {c : Nat} {reply : Frame}
    (given : (c, .expired reply) ∈ (run server (events.map .act)).2) :
    ∃ before party after connection, events = before ++ .giveUp c party :: after ∧
      (server.run before).1.connection? c = some connection ∧
      connection.writer.settings.maxPending ≤ connection.writer.pending := by
  obtain ⟨first, event, second, split, shown⟩ := Machine.exists_step_of_mem given
  obtain ⟨before, rest, rfl, rfl, later⟩ := List.map_eq_append_iff.mp split
  obtain ⟨event, after, rfl, rfl, rfl⟩ := List.map_eq_cons_iff.mp later
  have state : (Machine.run step server (before.map .act)).1 = (server.run before).1 :=
    (run_act server before).1
  rw [state] at shown
  obtain ⟨party, connection, rfl, found, reached⟩ := limit_of_giveUp shown
  exact ⟨before, party, after, connection, rfl, found, reached⟩

end

/-- One reply may be pending.  The first one is, because the peer does not read; the second one is
given up. -/
def unread : List (Server.Event Trial) :=
  [.start "here", .register ⟨7, none, [], [], .returns⟩, .accept 0,
    .receive 0 ([Frame.request 1 7 [], .request 2 7 []].flatMap Frame.encode), .lookUp 0, .grant,
    .lookUp 0, .grant, .finish 0 0, .offer 0 (.job 0), .collect 0, .sinkAccepts 0 5, .finish 0 1,
    .offer 0 (.job 1), .giveUp 0 (.job 1)]

/-- The settings under which one reply may be pending. -/
def oneAtATime : ServerSettings := { queue := { maxPending := 1 } }

/-- A connection at rest whose reader and whose writer go on. -/
def isOpen (connection : Connection η) : Bool :=
  connection.isServed && !connection.writer.isOver && decide (AtRest connection)

/-- The requests of the run were answered or given up. -/
theorem requests_answered_unread : ∃ server : Server Trial, ∃ connection,
    Server.create .empty oneAtATime = .ok server ∧
      (run server (unread.map .act)).1.connection? 0 = some connection ∧
      connection.isServed = true ∧ connection.writer.isOver = false ∧ AtRest connection ∧
      ((looked (on 0 (run server (unread.map .act)).2)).map
        (answerTo .empty oneAtATime.maxPayload)).Perm
        (queued (on 0 (run server (unread.map .act)).2) ++
          expired (on 0 (run server (unread.map .act)).2)) := by
  obtain ⟨server, created⟩ : ∃ server : Server Trial,
    Server.create .empty oneAtATime = .ok server := ⟨_, rfl⟩
  have opened : ((run server (unread.map .act)).1.connection? 0).any isOpen = true := by
    cases created
    cbv
  cases found : (run server (unread.map .act)).1.connection? 0 with
  | none =>
    rw [found] at opened
    cases opened
  | some connection =>
    rw [found, Option.any_some, isOpen, Bool.and_eq_true, Bool.and_eq_true, Bool.not_eq_true',
      decide_eq_true_eq] at opened
    obtain ⟨⟨served, going⟩, rests⟩ := opened
    have answered := requests_answered created found (Or.inl served) going rests
    exact ⟨server, connection, created, found, served, going, rests, answered.2.1⟩

/-- After the run the connection is open and at rest, and one of its two requests has no reply and
is not to have one. -/
theorem unread_unanswered : ∃ server : Server Trial,
    Server.create .empty oneAtATime = .ok server ∧
      ((server.run unread).1.connection? 0).any isOpen = true ∧
      (parse oneAtATime.maxPayload
        (reads (on 0 (run server (unread.map .act)).2)).flatten).frames =
          [.request 1 7 [], .request 2 7 []] ∧
      queued (on 0 (run server (unread.map .act)).2) = [.reply 1 Status.ok []] ∧
      expired (on 0 (run server (unread.map .act)).2) = [.reply 2 Status.ok []] := by
  refine ⟨_, rfl, ?_, ?_, ?_, ?_⟩ <;> cbv

end Racing

end RemoteCall
