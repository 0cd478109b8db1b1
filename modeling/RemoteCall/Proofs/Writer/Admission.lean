import RemoteCall.Proofs.Server.Replies
import RemoteCall.Proofs.System.Peer
import RemoteCall.Proofs.Writer.Moves
import RemoteCall.Proofs.Writer.Pending

/-!
# Settings that work

Settings are refused under which no connection could work.  A queue without room for a frame is one
such case.  A limit of zero pending frames is another, which the check does not see: every sender
finds this limit reached, on a writer that nobody has used (`zero_limit_refuses`).

Apart from it, settings that pass the check let a writer take the next frame whenever it is at rest:
its task is idle, and nothing is queued.  Nothing is on the count then but the frames of senders
that are about to enter the queue (`Counts.pending_of_rests`), so the next sender finds room unless
these have used up the limit.

## The proof

The statement is about three kinds of writers: one on its own, whose sends go in steps, the writer
of a client, and those of the connections of a server.  What they have in common is that they have
moved from a writer of the given settings (`Writer.Moves`), and moves keep the account of the count
(`Counted.moves`).  A writer that is accounted for and at rest admits the next frame
(`Counted.admits`); for each of the three it is then followed what this comes to, a send that is not
held at any step, a call that does not fail, a reply that is queued.

## Main statement

* `next_send_admitted` — the next send, the next call and the next reply.
-/

namespace RemoteCall

namespace Writer

/-! ## A writer at rest -/

/-- A writer of these settings, whose count is accounted for. -/
structure Counted (settings : QueueSettings) (writer : Writer) : Prop where
  settings_eq : writer.settings = settings
  counts : ∃ stranded, writer.Counts stranded

lemma counted_start (settings : QueueSettings) : Counted settings (start settings) :=
  ⟨rfl, [], counts_start settings⟩

section

variable {settings : QueueSettings} {writer next : Writer}

lemma settings_fail (writer : Writer) (e : Error) :
    (writer.fail e).settings = writer.settings := by
  unfold Writer.fail
  split <;> rfl

lemma Move.settings_eq (move : Move writer next) : next.settings = writer.settings := by
  cases move with
  | pass frame =>
    unfold Writer.pass
    split
    · rfl
    · split <;> rfl
  | resume resumed =>
    unfold Writer.resume at resumed
    split at resumed
    · cases resumed
    · split at resumed
      · cases resumed
        rfl
      · split at resumed
        · cases resumed
          rfl
        · cases resumed
  | collect collected =>
    unfold Writer.collect at collected
    split at collected
    · split at collected
      · cases collected
        rfl
      · cases collected
    · cases collected
      rfl
    · cases collected
  | accept n =>
    rcases writer.accept_cases n with still | ⟨-, ⟨-, fails⟩ | ⟨task, -, -, accepts⟩⟩
    · rw [still]
    · rw [fails, settings_fail]
    · rw [accepts]
  | fail e => exact writer.settings_fail e
  | flushed =>
    unfold Writer.flushed
    split <;> rfl
  | release => rfl
  | abort =>
    unfold Writer.abort
    split <;> rfl

lemma Counts.move {stranded : List Frame} (counts : Counts stranded writer)
    (move : Move writer next) : ∃ stranded', Counts stranded' next := by
  cases move with
  | pass frame => exact ⟨stranded, counts.pass frame⟩
  | resume resumed => exact ⟨stranded, counts.resume resumed⟩
  | collect collected => exact ⟨stranded, counts.collect collected⟩
  | accept n => exact counts.accept n
  | fail e =>
    cases state : writer.task with
    | writing batch accepted => exact ⟨_, counts.fail (Or.inl ⟨batch, accepted, state⟩) e⟩
    | flushing batch => exact ⟨_, counts.fail (Or.inr ⟨batch, state⟩) e⟩
    | idle | finished | failed | aborted =>
      have still : writer.fail e = writer := by
        simp only [Writer.fail, state]
      exact ⟨stranded, still.symm ▸ counts⟩
  | flushed => exact ⟨stranded, counts.flushed⟩
  | release => exact ⟨stranded, counts.release⟩
  | abort =>
    cases going : writer.isOver with
    | false => exact ⟨_, counts.abort going⟩
    | true =>
      have still : writer.abort = writer := if_pos going
      exact ⟨stranded, still.symm ▸ counts⟩

lemma Counted.moves (counted : Counted settings writer) (moves : Moves writer next) :
    Counted settings next := by
  induction moves with
  | refl => exact counted
  | tail _ move ih =>
    obtain ⟨settings_eq, stranded, counts⟩ := ih
    exact ⟨move.settings_eq.trans settings_eq, counts.move move⟩

/-- A writer that takes the next frame, whoever sends it. -/
structure Admits (writer : Writer) : Prop where
  below : ¬ writer.settings.maxPending ≤ writer.pending
  /-- The frame enters the queue, after those of the senders that are about to. -/
  send : ∀ sender frame,
    (writer.send sender frame).1 = if writer.waiting = [] then .queued else .waiting
  /-- These go on. -/
  resume : writer.waiting ≠ [] → ∃ next, writer.resume = some (.queued, next)

lemma Counted.admits (counted : Counted settings writer) (room : 0 < settings.capacity)
    (rests : writer.Rests) (few : writer.waiting.length < settings.maxPending) :
    writer.Admits := by
  obtain ⟨rfl, stranded, counts⟩ := counted
  have below : ¬ writer.settings.maxPending ≤ writer.pending := by
    rw [counts.pending_of_rests rests]
    exact Nat.not_le.mpr few
  have going : writer.isOver = false := by simp [isOver, rests.idle, Task.isOver]
  refine ⟨below, ?_, ?_⟩
  · intro sender frame
    rw [send_eq, if_neg below]
    cases waits : writer.waiting with
    | nil => simp [Writer.pass, going, hasRoom, waits, rests.queue, room]
    | cons frame rest => simp [Writer.pass, going, hasRoom, waits]
  · intro someone
    obtain ⟨frame, rest, waits⟩ := List.exists_cons_of_ne_nil someone
    simp [Writer.resume, waits, going, rests.queue, room]

end

end Writer

/-- What passes the check has room in the queue. -/
lemma room_of_checkConnection {maxPayload : UInt32} {queue : QueueSettings}
    (passed : checkConnection maxPayload queue = .ok ()) : 0 < queue.capacity := by
  unfold checkConnection at passed
  split at passed
  · cases passed
  · split at passed
    · cases passed
    · rename_i some
      exact Nat.pos_of_ne_zero some

lemma ServerSettings.room {settings : ServerSettings} (valid : settings.validate = .ok ()) :
    0 < settings.queue.capacity := by
  unfold validate at valid
  split at valid
  · cases valid
  · exact room_of_checkConnection valid

/-! ## A send -/

/-- A writer at rest takes the next frame, and its sender is not held at any step. -/
lemma Sending.admitted {settings : QueueSettings} (room : 0 < settings.capacity)
    (events : List Event) :
    let sending := ((start settings).run events).1
    sending.Rests → sending.writer.waiting.length < settings.maxPending →
      sending.writer.Admits ∧ ∀ sender frame,
        (sending.run (sending.straight sender frame)).2 = [.adjusted 1, .queued frame] := by
  intro sending rests few
  have sound := sound_run settings events
  have counted : sending.writer.Counted settings := by
    refine ⟨sound.settings_eq, sending.stranded, ?_⟩
    have counts := sound.counts
    rwa [whole_eq rests.gathered] at counts
  have admits := counted.admits room rests.writer few
  refine ⟨admits, ?_⟩
  intro sender frame
  have going : ¬ sending.writer.isOver = true := by
    simp [Writer.isOver, rests.writer.idle, Writer.Task.isOver]
  have free : sending.writer.queue.length < sending.writer.settings.capacity := by
    rw [rests.writer.queue, counted.settings_eq]
    exact room
  rw [run_straight sending sender frame admits.below, if_neg going, if_pos free]

/-! ## A call -/

namespace Link

open Client (Effect)

variable {κ : Type}

lemma transmitAll_of_quiet (link : Link κ) {effects : List (Effect κ)}
    (quiet : effects.filterMap Effect.frame? = []) :
    link.transmitAll effects = (link, effects) := by
  induction effects with
  | nil => rfl
  | cons effect rest ih =>
    cases effect with
    | transmit frame => simp [Effect.frame?] at quiet
    | issued | refused | invoked => simp [transmitAll, ih quiet]

/-- A request that the writer takes changes nothing for the client. -/
lemma transmitAll_of_admits (link : Link κ) (admits : link.writer.Admits)
    {effects : List (Effect κ)} (one : (effects.filterMap Effect.frame?).length ≤ 1) :
    (link.transmitAll effects).1.client = link.client ∧
      (link.transmitAll effects).2 = effects.filter (·.frame?.isNone) := by
  induction effects with
  | nil => exact ⟨rfl, rfl⟩
  | cons effect rest ih =>
    cases effect with
    | issued | refused | invoked =>
      obtain ⟨client, seen⟩ := ih one
      exact ⟨client, congrArg (_ :: ·) seen⟩
    | transmit frame =>
      -- The one request is this one, so the rest leaves the writer alone.
      have quiet : rest.filterMap Effect.frame? = [] := by
        simpa [Effect.frame?] using one
      have others : rest.filter (·.frame?.isNone) = rest := by
        simpa [List.filterMap_eq_nil_iff] using quiet
      have sent : (link.transmit frame).1.client = link.client ∧ (link.transmit frame).2 = [] := by
        have outcome := admits.send .thread frame
        unfold transmit
        split
        · exact ⟨rfl, rfl⟩
        · exact ⟨rfl, rfl⟩
        · rename_i result
          rw [result] at outcome
          split at outcome <;> cases outcome
      have both : link.transmitAll (.transmit frame :: rest) =
          (((link.transmit frame).1.transmitAll rest).1,
            (link.transmit frame).2 ++ ((link.transmit frame).1.transmitAll rest).2) := rfl
      rw [both, transmitAll_of_quiet _ quiet]
      refine ⟨sent.1, ?_⟩
      rw [sent.2, List.nil_append]
      exact others.symm

/-- A writer at rest takes the request of the next call, which does not fail. -/
lemma admitted {settings : ClientSettings} (valid : settings.validate = .ok ())
    (registry : Registry) (events : List (Event κ)) :
    let link := ((connected registry settings : Link κ).run events).1
    link.writer.Rests → link.writer.waiting.length < settings.queue.maxPending →
      ∀ request callback,
        (link.issue request callback).1.client = (link.client.issue request callback).1 ∧
          (link.issue request callback).2 =
            (link.client.issue request callback).2.filter (·.frame?.isNone) := by
  intro link rests few request callback
  have counted : link.writer.Counted settings.queue :=
    (Writer.counted_start settings.queue).moves (moves_run (connected registry settings) events)
  have admits := counted.admits (room_of_checkConnection valid) rests few
  have one : ((link.client.issue request callback).2.filterMap Effect.frame?).length ≤ 1 := by
    cases encoded : request.encode link.client.registry link.client.maxPayload with
    | error e =>
      rw [Client.issue_of_error encoded]
      exact Nat.zero_le _
    | ok arguments =>
      rcases (Client.issue_of_ok encoded callback).2.2 with none | one
      · simp [none]
      · simp [one]
  exact transmitAll_of_admits { link with client := (link.client.issue request callback).1 } admits
    one

end Link

/-! ## A reply -/

/-- A writer at rest takes the next reply, and its sender is not held. -/
lemma Racing.admitted {η : Type} [Handles η] {registry : Registry} {settings : ServerSettings}
    (valid : settings.validate = .ok ()) {server : Server η}
    (created : Server.create registry settings = .ok server) (events : List (Event η)) {c : Nat}
    {connection : Connection η}
    (found : (run server events).1.connection? c = some connection)
    (rests : connection.writer.Rests)
    (few : connection.writer.waiting.length < settings.queue.maxPending) {party : Party}
    {reply : Frame} (outgoing : connection.outgoing? party = some reply) :
    connection.giveUp party = none ∧
      (connection.offer party).map Prod.fst =
        some (if connection.writer.waiting = [] then .queued reply else .pending) := by
  have moved := moves_run created events
  have counted := (Writer.counted_start settings.queue).moves (moved.moves c connection found)
  have admits := counted.admits (ServerSettings.room valid) rests few
  refine ⟨?_, ?_⟩
  · rw [Connection.giveUp_eq, if_neg admits.below]
  · have sent := admits.send .task reply
    rw [Writer.send_eq, if_neg admits.below] at sent
    rw [Connection.offer_eq, if_neg admits.below, Connection.pass, outgoing]
    dsimp only
    generalize connection.writer.pass reply = passed at sent
    obtain ⟨outcome, writer⟩ := passed
    dsimp only at sent
    rw [sent]
    by_cases nobody : connection.writer.waiting = []
    · rw [if_pos nobody, if_pos nobody]
      rfl
    · rw [if_neg nobody, if_neg nobody]
      rfl

/-! ## Settings that pass the check -/

/-- **With settings that pass the check, a writer at rest takes the next frame**, unless as many
senders as the limit allows have counted their frames and are about to enter the queue.  So no send
is held, no call fails because its request could not be sent, and no reply is dropped. -/
theorem next_send_admitted {client : ClientSettings} {server : ServerSettings}
    (clientValid : client.validate = .ok ()) (serverValid : server.validate = .ok ()) :
    (∀ settings ∈ [client.queue, server.queue], ∀ events,
      let sending := ((Sending.start settings).run events).1
      sending.Rests → sending.writer.waiting.length < settings.maxPending →
        sending.writer.Admits ∧ ∀ sender frame,
          (sending.run (sending.straight sender frame)).2 = [.adjusted 1, .queued frame]) ∧
    (∀ (κ : Type) (registry : Registry) (events : List (Link.Event κ)),
      let link := ((Link.connected registry client).run events).1
      link.writer.Rests → link.writer.waiting.length < client.queue.maxPending →
        ∀ request callback,
          (link.issue request callback).1.client = (link.client.issue request callback).1 ∧
            (link.issue request callback).2 =
              (link.client.issue request callback).2.filter (·.frame?.isNone)) ∧
    ∀ (η : Type) [Handles η] (registry : Registry) (begun : Server η),
      Server.create registry server = .ok begun →
        ∀ events c connection, (Racing.run begun events).1.connection? c = some connection →
          connection.writer.Rests → connection.writer.waiting.length < server.queue.maxPending →
            ∀ party reply, connection.outgoing? party = some reply →
              connection.giveUp party = none ∧
                (connection.offer party).map Prod.fst =
                  some (if connection.writer.waiting = [] then .queued reply else .pending) := by
  refine ⟨?_, ?_, ?_⟩
  · intro settings among events
    refine Sending.admitted ?_ events
    rcases List.mem_cons.mp among with rfl | second
    · exact room_of_checkConnection clientValid
    · rw [List.mem_singleton.mp second]
      exact ServerSettings.room serverValid
  · intro κ registry events
    exact Link.admitted clientValid registry events
  · intro η handles registry begun created events c connection found rests few party reply outgoing
    exact Racing.admitted serverValid created events found rests few outgoing

/-- A frame has gone through the queue. -/
def oneSent : List Sending.Event :=
  [.arrive .task (.ofPayload 1 7 []), .look 0, .count 0, .enter 0, .gather, .writeBatch,
    .accept 100, .flushed]

/-- A request has gone out. -/
def oneCalled : List (Link.Event Unit) :=
  [.startReader, .issue ⟨7, [], [], []⟩ none, .collect, .sinkAccepts 100, .flushed]

/-- A request was answered, and the handler of another one has ended. -/
def oneAnswered : List (Racing.Event Racing.Trial) :=
  [.start "here", .register ⟨7, none, [], [], .returns⟩, .accept 0,
    .receive 0 (Frame.request 1 7 []).encode, .lookUp 0, .grant, .finish 0 0, .offer 0 (.job 0),
    .collect 0, .sinkAccepts 0 100, .flushed 0, .receive 0 (Frame.request 2 7 []).encode,
    .lookUp 0, .grant, .finish 0 1].map .act

/-- The writer of a connection is at rest, and a job has this reply to send. -/
def hasReply (reply : Frame) (connection : Connection Racing.Trial) : Bool :=
  decide (connection.writer.task = .idle) && decide (connection.writer.queue = []) &&
    decide (connection.writer.waiting = []) &&
      decide (connection.outgoing? (.job 1) = some reply)

/-- A frame has gone through a queue with a limit of one, and the next one is taken: that of a
sender, the request of a call, and a reply. -/
theorem next_send_admitted_again :
    let client : ClientSettings := { queue := { maxPending := 1, capacity := 1 } }
    let server : ServerSettings := { queue := { maxPending := 1, capacity := 1 } }
    let sending := ((Sending.start client.queue).run oneSent).1
    let link := ((Link.connected .empty client).run oneCalled).1
    client.validate = .ok () ∧ server.validate = .ok () ∧
      (sending.run (sending.straight .thread (.ofPayload 2 7 []))).2 =
        [.adjusted 1, .queued (.ofPayload 2 7 [])] ∧
      (link.issue ⟨7, [], [], []⟩ none).2 = [.issued 2] ∧
      ∃ begun : Server Racing.Trial, ∃ connection, Server.create .empty server = .ok begun ∧
        (Racing.run begun oneAnswered).1.connection? 0 = some connection ∧
        connection.giveUp (.job 1) = none ∧
        (connection.offer (.job 1)).map Prod.fst = some (.queued (.reply 2 Status.ok [])) := by
  intro client server sending link
  have clientValid : client.validate = .ok () := by decide
  have serverValid : server.validate = .ok () := by decide
  obtain ⟨sends, calls, replies⟩ := next_send_admitted clientValid serverValid
  refine ⟨clientValid, serverValid, ?_, ?_, ?_⟩
  · have rests : sending.Rests := ⟨⟨by decide, by decide⟩, by decide⟩
    exact (sends client.queue List.mem_cons_self oneSent rests (by decide)).2 .thread _
  · have rests : link.writer.Rests := ⟨by cbv, by cbv⟩
    have nobody : link.writer.waiting = [] := by cbv
    have few : link.writer.waiting.length < client.queue.maxPending := by
      rw [nobody]
      decide
    rw [(calls Unit .empty oneCalled rests few ⟨7, [], [], []⟩ none).2]
    cbv
  · obtain ⟨begun, created⟩ : ∃ begun : Server Racing.Trial,
      Server.create .empty server = .ok begun := ⟨_, rfl⟩
    have ready : ((Racing.run begun oneAnswered).1.connection? 0).any
        (hasReply (.reply 2 Status.ok [])) = true := by
      cases created
      cbv
    cases found : (Racing.run begun oneAnswered).1.connection? 0 with
    | none =>
      rw [found] at ready
      cases ready
    | some connection =>
      rw [found, Option.any_some, hasReply, Bool.and_eq_true, Bool.and_eq_true, Bool.and_eq_true,
        decide_eq_true_eq, decide_eq_true_eq, decide_eq_true_eq, decide_eq_true_eq] at ready
      obtain ⟨⟨⟨idle, queue⟩, nobody⟩, outgoing⟩ := ready
      have few : connection.writer.waiting.length < server.queue.maxPending := by
        rw [nobody]
        decide
      obtain ⟨kept, offered⟩ := replies Racing.Trial .empty begun created oneAnswered 0 connection
        found ⟨idle, queue⟩ few (.job 1) _ outgoing
      rw [if_pos nobody] at offered
      exact ⟨begun, connection, created, found, kept, offered⟩

/-- A limit of zero passes the check.  Nobody can send then on a writer that was not used, and the
first call times out. -/
theorem zero_limit_refuses :
    let client : ClientSettings := { queue := { maxPending := 0 } }
    let server : ServerSettings := { queue := { maxPending := 0 } }
    let link : Link Unit := .connected .empty client
    client.validate = .ok () ∧ server.validate = .ok () ∧
      (link.writer.task = .idle ∧ link.writer.queue = [] ∧ link.writer.waiting = []) ∧
      (link.writer.send .task (.ofPayload 1 7 [])).1 = .failed .backpressureTimeout ∧
      (link.writer.send .thread (.ofPayload 1 7 [])).1 = .failed .backpressureTimeout ∧
      ((link.issue ⟨7, [], [], []⟩ none).1.client.future? 1).bind (·.status?) =
        some Status.timedOut :=
  ⟨by decide, by decide, ⟨rfl, rfl, rfl⟩, by decide, by decide, rfl⟩

end RemoteCall
