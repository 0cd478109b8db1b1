import RemoteCall.Proofs.Server.Order
import RemoteCall.Proofs.Server.Turns

/-!
# What becomes of a connection

A connection belongs to the generation that has accepted it, for good, and it is served until its
reader ends.  A reader that has ended reads nothing more, looks up no request and starts no job.  A
writer whose task is over takes no reply and writes nothing more (`Connection.Follows`).

What a step of the server does is told once more here, with what concerns the listener and the count
of served connections, and with the reason why a connection is not served any more (`Racing.Change`,
`Racing.Ends`).  The step on the connection itself is on the list of `Connection.Acts`, or it starts
a job.

This is a second list of what a step can do, beside `Racing.Steps`.  That one is for what happens on
connections and does not look at the listener; it has fewer cases, and all that concerns requests
and replies is proved from it.  This one also keeps the event, because the reason for which a
connection ends is a matter of the event: the stream ends, framing breaks, the writer is over, or
the server stops.

The writer may be the reason in two ways.  A reader that finds the task over drops its reply and
ends; and a reader that gives up at the limit ends as well.  Jobs that give up do not end the
reader.
-/

namespace RemoteCall

open Racing

variable {η : Type}

/-! ## One connection -/

namespace Connection

/-- From one state of a connection to a later one, with what was entered in the journal meanwhile: a
reader that has ended does nothing more, and neither does a writer whose task is over. -/
structure Follows (old new : Connection η) (entries : List (Entry η)) : Prop where
  generation : new.generation = old.generation
  gone : old.isServed = false → new.isServed = false ∧ reads entries = [] ∧ looked entries = [] ∧
    new.jobs.map Job.id ⊆ old.jobs.map Job.id
  halted : old.writer.isOver = true →
    new.writer.isOver = true ∧ queued entries = [] ∧ written entries = []

lemma Follows.refl (connection : Connection η) : Follows connection connection [] :=
  ⟨rfl, fun gone => ⟨gone, rfl, rfl, List.Subset.refl _⟩, fun halted => ⟨halted, rfl, rfl⟩⟩

lemma Follows.trans {first second third : Connection η} {sooner later : List (Entry η)}
    (before : Follows first second sooner) (after : Follows second third later) :
    Follows first third (sooner ++ later) := by
  refine ⟨after.generation.trans before.generation, fun gone => ?_, fun halted => ?_⟩
  · obtain ⟨between, unread, unlooked, jobs⟩ := before.gone gone
    obtain ⟨gone', unread', unlooked', jobs'⟩ := after.gone between
    refine ⟨gone', ?_, ?_, List.Subset.trans jobs' jobs⟩
    · rw [reads_append, unread, unread', List.append_nil]
    · rw [looked_append, unlooked, unlooked', List.append_nil]
  · obtain ⟨between, unqueued, unwritten⟩ := before.halted halted
    obtain ⟨halted', unqueued', unwritten'⟩ := after.halted between
    refine ⟨halted', ?_, ?_⟩
    · rw [queued_append, unqueued, unqueued', List.append_nil]
    · rw [written_append, unwritten, unwritten', List.append_nil]

section

variable (connection : Connection η)

lemma generation_settle : connection.settle.generation = connection.generation := by
  unfold settle
  split <;> rfl

lemma generation_sent (party : Party) :
    (connection.sent party).generation = connection.generation := by
  cases party with
  | job id => exact generation_settle _
  | reader =>
    unfold sent
    dsimp only
    split <;> rfl

lemma generation_unsent (party : Party) :
    (connection.unsent party).generation = connection.generation := by
  cases party with
  | job id => exact generation_settle _
  | reader => exact generation_settle _

lemma generation_wait (party : Party) (reply : Frame) :
    (connection.wait reply party).generation = connection.generation := by
  cases party <;> rfl

lemma generation_stop : connection.stop.generation = connection.generation := by
  unfold Connection.stop
  split
  · exact generation_settle _
  · rfl

lemma isOver_settle : connection.settle.writer.isOver = connection.writer.isOver :=
  congrArg Writer.Task.isOver (task_settle connection)

lemma isOver_unsent (party : Party) :
    (connection.unsent party).writer.isOver = connection.writer.isOver := by
  cases party with
  | job id => exact isOver_settle _
  | reader => exact isOver_settle _

lemma isOver_stop (halted : connection.writer.isOver = true) :
    connection.stop.writer.isOver = true := by
  unfold Connection.stop
  split
  · exact (isOver_settle _).trans (Writer.isOver_abort _)
  · exact halted

/-- A party whose frame was taken goes on. -/
lemma isServed_sent (party : Party) :
    (connection.sent party).isServed = connection.isServed := by
  cases party with
  | job id => exact isServed_settle _
  | reader =>
    unfold sent isServed
    cases reader : connection.reader with
    | ended =>
      dsimp only
      rw [reader]
    | reading | awaitingSlot | answering | queueing => rfl

/-- A party gives up; a reader that does is over. -/
lemma served_of_unsent_served {party : Party}
    (served : (connection.unsent party).isServed = true) : connection.isServed = true :=
  ((eases_unsent connection party).reading served).1

end

section

variable {old new : Connection η} {party : Party} {reply : Frame}

lemma isServed_wait (outgoing : old.outgoing? party = some reply) (next : Connection η)
    (same : next.reader = old.reader) :
    (next.wait reply party).isServed = true ↔ old.isServed = true := by
  cases party with
  | reader =>
    have answers := reader_of_outgoing outgoing
    unfold isServed
    rw [answers]
    exact ⟨fun _ => rfl, fun _ => rfl⟩
  | job id =>
    show next.isServed = true ↔ _
    unfold isServed
    rw [same]

lemma Reads.reading {functions : Functions η} {entries : List (Entry η)}
    (reads : old.Reads functions entries new) : old.reader = .reading := by
  cases reads with
  | receive received => exact (receive_cases received).1
  | streamEnded ended => exact (streamEnded_cases ended).1
  | lookUp looked => exact (lookUp_cases looked).1

lemma Acts.generation [Handles η] {registry : Registry} {limit : UInt32}
    {functions : Functions η} {entries : List (Entry η)}
    (acts : old.Acts registry limit functions entries new) :
    new.generation = old.generation := by
  cases acts with
  | read reads =>
    cases reads with
    | receive received =>
      obtain ⟨-, -, ⟨frames, -, rfl⟩ | ⟨-, rfl⟩⟩ := receive_cases received
      · rfl
      · exact generation_settle _
    | streamEnded ended =>
      obtain ⟨-, -, rfl⟩ := streamEnded_cases ended
      exact generation_settle _
    | lookUp looked =>
      obtain ⟨-, rest, -, -, rfl⟩ := lookUp_cases looked
      rfl
  | pass passed =>
    obtain ⟨reply, -, ⟨writer, -, rfl, -⟩ | ⟨writer, -, rfl, -⟩ | ⟨-, rfl, -⟩⟩ := pass_cases passed
    · exact generation_sent _ _
    · exact generation_wait _ _ _
    · exact generation_unsent _ _
  | expire => exact generation_unsent _ _
  | resume resumed =>
    obtain ⟨party, rest, reply, others, writer, -, -, -, -, ⟨-, rfl, -⟩ | ⟨-, rfl, -⟩⟩ :=
      resume_cases resumed
    · exact generation_sent _ _
    · exact generation_unsent _ _
  | finish | collect | accept | fail | flushed => rfl
  | stop => exact generation_stop old

/-- A reader that has ended does not come back. -/
lemma Acts.served [Handles η] {registry : Registry} {limit : UInt32}
    {functions : Functions η} {entries : List (Entry η)}
    (acts : old.Acts registry limit functions entries new) (served : new.isServed = true) :
    old.isServed = true := by
  cases acts with
  | read reads =>
    unfold isServed
    rw [reads.reading]
  | pass passed =>
    obtain ⟨reply, outgoing, ⟨writer, -, rfl, -⟩ | ⟨writer, -, rfl, -⟩ | ⟨-, rfl, -⟩⟩ :=
      pass_cases passed
    · exact (isServed_sent { old with writer } _).symm.trans served
    · exact (isServed_wait outgoing { old with writer } rfl).mp served
    · exact served_of_unsent_served old served
  | expire => exact served_of_unsent_served old served
  | resume resumed =>
    obtain ⟨party, rest, reply, others, writer, -, -, -, -, ⟨-, rfl, -⟩ | ⟨-, rfl, -⟩⟩ :=
      resume_cases resumed
    · exact (isServed_sent { old with writer, queueing := rest } _).symm.trans served
    · exact served_of_unsent_served { old with writer, queueing := rest } served
  | finish | collect | accept | fail | flushed => exact served
  | stop => exact ((eases_stop old).reading served).1

lemma pass_of_halted (halted : old.writer.isOver = true) {delivery : Delivery}
    (passed : old.pass party = some (delivery, new)) :
    ∃ reply, delivery = .dropped reply ∧ new = old.unsent party := by
  unfold pass Writer.pass at passed
  split at passed
  · cases passed
  · rw [if_pos halted] at passed
    cases passed
    exact ⟨_, rfl, rfl⟩

lemma resume_of_halted (halted : old.writer.isOver = true) {delivery : Delivery}
    (resumed : old.resume = some (delivery, new)) :
    ∃ reply, delivery = .dropped reply ∧ new.writer.isOver = true := by
  obtain ⟨party, rest, reply, others, writer, -, -, -, task, ⟨-, -, going, -⟩ | ⟨rfl, rfl, -⟩⟩ :=
    resume_cases resumed
  · rw [going] at halted
    cases halted
  · refine ⟨reply, rfl, ?_⟩
    rw [isOver_unsent]
    exact (congrArg Writer.Task.isOver task).trans halted

/-- The sink is offered nothing by a task that is over. -/
lemma written_of_halted {writer : Writer} (halted : writer.isOver = true) (n : Nat) :
    writer.offered.flatten.take n = [] := by
  have nothing : writer.offered = [] := by
    unfold Writer.offered
    split
    · rename_i writing
      rw [Writer.isOver, writing] at halted
      cases halted
    · rfl
  rw [nothing]
  exact List.take_nil

lemma Acts.halted [Handles η] {registry : Registry} {limit : UInt32}
    {functions : Functions η} {entries : List (Entry η)}
    (acts : old.Acts registry limit functions entries new)
    (halted : old.writer.isOver = true) :
    new.writer.isOver = true ∧ queued entries = [] ∧ written entries = [] := by
  cases acts with
  | read reads =>
    cases reads with
    | receive received =>
      obtain ⟨-, -, ⟨frames, -, rfl⟩ | ⟨-, rfl⟩⟩ := receive_cases received
      · exact ⟨halted, rfl, rfl⟩
      · exact ⟨(isOver_settle _).trans halted, rfl, rfl⟩
    | streamEnded ended =>
      obtain ⟨-, -, rfl⟩ := streamEnded_cases ended
      exact ⟨(isOver_settle _).trans halted, rfl, rfl⟩
    | lookUp looked =>
      obtain ⟨-, rest, -, -, rfl⟩ := lookUp_cases looked
      exact ⟨halted, rfl, rfl⟩
  | pass passed =>
    obtain ⟨reply, rfl, rfl⟩ := pass_of_halted halted passed
    exact ⟨(isOver_unsent old _).trans halted, rfl, rfl⟩
  | expire => exact ⟨(isOver_unsent old _).trans halted, rfl, rfl⟩
  | resume resumed =>
    obtain ⟨reply, rfl, still⟩ := resume_of_halted halted resumed
    exact ⟨still, rfl, rfl⟩
  | collect collected => exact ⟨Writer.isOver_collect halted collected, rfl, rfl⟩
  | accept n =>
    refine ⟨Writer.isOver_accept halted n, rfl, ?_⟩
    exact (List.append_nil _).trans (written_of_halted halted n)
  | fail e => exact ⟨Writer.isOver_fail halted e, rfl, rfl⟩
  | flushed => exact ⟨Writer.isOver_flushed halted, rfl, rfl⟩
  | finish => exact ⟨halted, rfl, rfl⟩
  | stop => exact ⟨isOver_stop old halted, rfl, rfl⟩

lemma Acts.follows [Handles η] {registry : Registry} {limit : UInt32}
    {functions : Functions η} {entries : List (Entry η)}
    (acts : old.Acts registry limit functions entries new) : Follows old new entries := by
  refine ⟨acts.generation, fun gone => ⟨?_, ?_, ?_, acts.ids⟩, acts.halted⟩
  · exact Bool.eq_false_iff.mpr fun served => by simp [acts.served served] at gone
  all_goals
    cases acts with
    | read reads =>
      rw [isServed_eq, reads.reading] at gone
      exact nomatch gone
    | finish | expire | collect | accept | fail | flushed | stop => rfl
    | @pass _ delivery | @resume delivery => cases delivery <;> rfl

/-- A job is started by a reader that goes on. -/
lemma startJob_follows {id : Nat} (started : old.startJob id = some new) :
    Follows old new [] ∧ old.isServed = true ∧ new.isServed = true := by
  obtain ⟨registration, request, awaits, rfl⟩ := startJob_cases started
  have served : old.isServed = true := by
    unfold isServed
    rw [awaits]
  refine ⟨⟨rfl, fun gone => ?_, fun halted => ⟨halted, rfl, rfl⟩⟩, served, rfl⟩
  rw [served] at gone
  exact nomatch gone

end

end Connection

/-! ## The server -/

namespace Server

/-- One connection is replaced, and counted anew; the listener does not change. -/
structure Replaces (c : Nat) (old new : Connection η) (server next : Server η) : Prop where
  found : server.connection? c = some old
  connections : next.connections = (server.setConnection c old new).connections
  served : next.served = (server.setConnection c old new).served
  nextConnection : next.nextConnection = server.nextConnection
  listening : next.listening = server.listening
  acceptors : next.acceptors = server.acceptors
  nextGeneration : next.nextGeneration = server.nextGeneration

lemma replaces_setConnection {server : Server η} {c : Nat} {old : Connection η}
    (found : server.connection? c = some old) (new : Connection η) :
    Replaces c old new server (server.setConnection c old new) :=
  ⟨found, rfl, rfl, rfl, rfl, rfl, rfl⟩

/-- What becomes of the listener. -/
inductive Relistens (server next : Server η) : Prop
  | same (listening : next.listening = server.listening)
      (acceptors : next.acceptors = server.acceptors)
      (nextGeneration : next.nextGeneration = server.nextGeneration)
  /-- A new generation begins. -/
  | starts {address : String} (idle : server.listening = none)
      (listening : next.listening = some ⟨server.nextGeneration, address⟩)
      (acceptors : next.acceptors = server.acceptors ++ [server.nextGeneration])
      (nextGeneration : next.nextGeneration = server.nextGeneration + 1)
  /-- The generation is over. -/
  | stops (listening : next.listening = none) (acceptors : next.acceptors = server.acceptors)
      (nextGeneration : next.nextGeneration = server.nextGeneration)
  /-- An accept loop learns of the stop of its generation. -/
  | leaves {generation : Nat} (stopped : server.isStopped generation = true)
      (listening : next.listening = server.listening)
      (acceptors : next.acceptors = server.acceptors.filter (· ≠ generation))
      (nextGeneration : next.nextGeneration = server.nextGeneration)

end Server

namespace Racing

/-- Why a connection is not served any more, with what is entered in the journal. -/
inductive Ends (server : Server η) (c : Nat) (old : Connection η) :
    Event η → List (Entry η) → Prop
  /-- The stream has ended. -/
  | stream : Ends server c old (.act (.streamEnded c)) [.ended]
  /-- What was read breaks framing. -/
  | framing {bytes : Bytes} {fault : FrameFault}
      (broken : (old.reassembly.push bytes).1 = .error fault) :
      Ends server c old (.act (.receive c bytes)) [.received bytes]
  /-- A reply was not sent, because the task of the writer was over. -/
  | refused {event : Event η} {reply : Frame} : Ends server c old event [.refused reply]
  /-- A reply was given up, because too many frames were pending. -/
  | expired {event : Event η} {reply : Frame} : Ends server c old event [.expired reply]
  /-- The connection has learned of the stop of its generation. -/
  | stopped (stopped : server.isStopped old.generation = true) :
      Ends server c old (.act (.observeStop c)) []

variable [Handles η]

/-- What a step does to the listener and to the connections. -/
inductive Change (server next : Server η) (event : Event η) : List (Nat × Entry η) → Prop
  | aside (connections : next.connections = server.connections)
      (served : next.served = server.served)
      (nextConnection : next.nextConnection = server.nextConnection)
      (relistens : Server.Relistens server next) : Change server next event []
  | accepted {generation : Nat} (among : generation ∈ server.acceptors)
      (result : next = server.welcome generation) : Change server next event []
  | replaces {c : Nat} {old new : Connection η} {entries : List (Entry η)}
      (replaces : Server.Replaces c old new server next)
      (acts : old.Acts server.registry server.settings.maxPayload server.functions entries new ∨
        entries = [] ∧ ∃ id, old.startJob id = some new)
      (ends : old.isServed = true → new.isServed = false → Ends server c old event entries) :
      Change server next event (entries.map (c, ·))

variable {server : Server η} {event : Event η}

lemma Change.still : Change server server event [] := .aside rfl rfl rfl (.same rfl rfl rfl)

lemma Change.set {c : Nat} {old new : Connection η} {entries : List (Entry η)}
    (found : server.connection? c = some old)
    (acts : old.Acts server.registry server.settings.maxPayload server.functions entries new)
    (ends : old.isServed = true → new.isServed = false → Ends server c old event entries) :
    Change server (server.setConnection c old new) event (entries.map (c, ·)) :=
  .replaces (Server.replaces_setConnection found new) (Or.inl acts) ends

lemma change_silently {c : Nat} {act : Connection η → Option (Connection η)}
    {entries : List (Entry η)}
    (acts : ∀ old new, act old = some new →
      old.Acts server.registry server.settings.maxPayload server.functions entries new ∧
        (old.isServed = true → new.isServed = false → Ends server c old event entries)) :
    Change server (server.silently c act).1 event
      ((if ((server.connection? c).bind act).isSome then entries.map (c, ·) else []) ++
        (server.silently c act).2.filterMap (noted? event)) := by
  cases taken : (server.connection? c).bind act with
  | none =>
    rw [Server.silently_of_none taken]
    exact .still
  | some new =>
    obtain ⟨old, found, acted⟩ := Option.bind_eq_some_iff.mp taken
    rw [Server.silently_of_some found acted, List.filterMap_nil, List.append_nil]
    obtain ⟨acts, ends⟩ := acts old new acted
    exact .set found acts ends

/-- What only concerns the writer or a job is not entered in the journal, and the reader goes on. -/
lemma change_quietly {c : Nat} {act : Connection η → Option (Connection η)}
    (acts : ∀ old new, act old = some new →
      old.Acts server.registry server.settings.maxPayload server.functions [] new ∧
        (old.isServed = true → new.isServed = false → Ends server c old event [])) :
    Change server (server.silently c act).1 event
      ((server.silently c act).2.filterMap (noted? event)) := by
  have change : Change server (server.silently c act).1 event
      ((if ((server.connection? c).bind act).isSome then [].map (c, ·) else []) ++
        (server.silently c act).2.filterMap (noted? event)) := change_silently acts
  rwa [List.map_nil, ite_self] at change

/-- A reader that has something to send goes on unless its frame is dropped. -/
lemma change_delivering {c : Nat}
    {act : Connection η → Option (Connection.Delivery × Connection η)}
    (acts : ∀ delivery old new, act old = some (delivery, new) →
      old.Acts server.registry server.settings.maxPayload server.functions
        (delivery.entries event.givesUp) new ∧
        (old.isServed = true → new.isServed = false → ∃ reply, delivery = .dropped reply)) :
    Change server (server.delivering c act).1 event
      ((server.delivering c act).2.filterMap (noted? event)) := by
  rcases server.delivering_cases c act with nothing | ⟨delivery, old, new, found, acted, seen⟩
  · rw [nothing]
    exact .still
  · rw [seen, entries_deliveryEffects]
    obtain ⟨acts, ends⟩ := acts delivery old new acted
    refine .set found acts fun served gone => ?_
    obtain ⟨reply, rfl⟩ := ends served gone
    show Ends server c old event [if event.givesUp then _ else _]
    split
    · exact .expired
    · exact .refused

omit [Handles η] in
lemma relistens_start (server : Server η) (bound : Except Error String) (pollShutDown : Bool)
    {next : Server η} (started : server.start bound pollShutDown = .ok next) :
    Server.Relistens server next ∧ next.connections = server.connections ∧
      next.served = server.served ∧ next.nextConnection = server.nextConnection := by
  unfold Server.start at started
  split at started
  · cases started
  · rename_i idle
    split at started
    · cases started
    · split at started
      · cases started
      · cases started
        exact ⟨.starts idle rfl rfl rfl, rfl, rfl, rfl⟩

lemma change_registered (server : Server η) (registered : Except Error (Functions η))
    (event : Event η) :
    let taken : Server η × List (Server.Effect η) :=
      match registered.map fun functions => { server with functions } with
      | .ok next => (next, [])
      | .error _ => (server, [])
    Change server taken.1 event (taken.2.filterMap (noted? event)) := by
  cases registered with
  | error e => exact .still
  | ok functions => exact .aside rfl rfl rfl (.same rfl rfl rfl)

lemma change_start (server : Server η) (address : String) (event : Event η) :
    let taken : Server η × List (Server.Effect η) :=
      match server.start (.ok address) false with
      | .ok next => (next, [])
      | .error _ => (server, [])
    Change server taken.1 event (taken.2.filterMap (noted? event)) := by
  cases started : server.start (.ok address) false with
  | error e => exact .still
  | ok next =>
    obtain ⟨relistens, connections, served, nextConnection⟩ := relistens_start server _ _ started
    exact .aside connections served nextConnection relistens

lemma change_endAccepting (server : Server η) (generation : Nat) (event : Event η) :
    Change server ((server.endAccepting generation).getD server) event [] := by
  unfold Server.endAccepting
  split
  · rename_i stopped
    exact .aside rfl rfl rfl (.leaves stopped rfl rfl rfl)
  · exact .still

lemma change_accept (server : Server η) (generation : Nat) (event : Event η) :
    Change server ((server.accept generation).getD server) event [] := by
  rw [Server.accept_eq]
  split
  · rename_i among
    exact .accepted among rfl
  · exact .still

lemma change_lookUp (server : Server η) (c : Nat) (event : Event η) :
    Change server ((server.lookUp c).getD (server, [])).1 event
      (((server.lookUp c).getD (server, [])).2.filterMap (noted? event)) := by
  cases looked : server.lookUp c with
  | none => exact .still
  | some pair =>
    obtain ⟨next, effects⟩ := pair
    obtain ⟨request, found, old, new, present, result, made, rfl⟩ := Server.lookUp_eq_some looked
    have replaces : Server.Replaces c old new server next := by
      rw [made]
      exact ⟨present, rfl, rfl, rfl, rfl, rfl, rfl⟩
    have acts : old.Acts server.registry server.settings.maxPayload server.functions
        [.looked request found] new := .read (.lookUp result)
    refine .replaces replaces (Or.inl acts) fun _ gone => ?_
    obtain ⟨-, rest, -, -, rfl⟩ := Connection.lookUp_cases result
    cases found <;> exact nomatch gone

lemma change_grant (server : Server η) (event : Event η) :
    Change server (server.grant.getD server) event [] := by
  cases granted : server.grant with
  | none => exact .still
  | some next =>
    obtain ⟨c, rest, free, old, new, -, -, found, started, made⟩ := Server.grant_eq_some granted
    have replaces : Server.Replaces c old new server next := by
      rw [made]
      exact ⟨found, rfl, rfl, rfl, rfl, rfl, rfl⟩
    obtain ⟨-, -, served⟩ := Connection.startJob_follows started
    have change : Change server next event ([].map (c, ·)) :=
      .replaces replaces (Or.inr ⟨rfl, _, started⟩)
        fun _ gone => absurd (served.symm.trans gone) Bool.noConfusion
    exact change

lemma change_finish (server : Server η) (c id : Nat) (event : Event η) :
    Change server ((server.finish c id).getD (server, [])).1 event
      (((server.finish c id).getD (server, [])).2.filterMap (noted? event)) := by
  cases finished : server.finish c id with
  | none => exact .still
  | some pair =>
    obtain ⟨next, effects⟩ := pair
    obtain ⟨old, job, present, found, executing, rfl, rfl⟩ := Server.finish_eq_some finished
    dsimp only [Option.getD_some]
    rw [noted_called]
    refine .set present (.finish found executing) fun served gone => ?_
    exact absurd (served.symm.trans gone) Bool.noConfusion

lemma change_sinkAccepts (server : Server η) (c n : Nat) (event : Event η) :
    Change server (server.step (.sinkAccepts c n)).1 event
      ((server.step (.sinkAccepts c n)).2.filterMap (noted? event)) := by
  cases found : server.connection? c with
  | none =>
    rw [sinkAccepts_of_none found]
    exact .still
  | some connection =>
    rw [sinkAccepts_of_some found]
    refine .set found (.accept n) fun served gone => ?_
    exact absurd (served.symm.trans gone) Bool.noConfusion

omit [Handles η] in
/-- The reader of a connection that hands something over goes on unless that is dropped. -/
lemma dropped_of_pass {old new : Connection η} {party : Party} {delivery : Connection.Delivery}
    (passed : old.pass party = some (delivery, new)) (served : old.isServed = true)
    (gone : new.isServed = false) : ∃ reply, delivery = .dropped reply := by
  obtain ⟨reply, outgoing, ⟨writer, -, rfl, -⟩ | ⟨writer, -, rfl, -⟩ | ⟨rfl, -, -⟩⟩ :=
    Connection.pass_cases passed
  · rw [Connection.isServed_sent] at gone
    exact absurd (served.symm.trans gone) Bool.noConfusion
  · rw [(Connection.isServed_wait outgoing { old with writer } rfl).mpr served] at gone
    exact nomatch gone
  · exact ⟨reply, rfl⟩

omit [Handles η] in
lemma dropped_of_resume {old new : Connection η} {delivery : Connection.Delivery}
    (resumed : old.resume = some (delivery, new)) (served : old.isServed = true)
    (gone : new.isServed = false) : ∃ reply, delivery = .dropped reply := by
  obtain ⟨party, rest, reply, others, writer, -, -, -, -, ⟨-, rfl, -⟩ | ⟨rfl, -⟩⟩ :=
    Connection.resume_cases resumed
  · rw [Connection.isServed_sent] at gone
    exact absurd (served.symm.trans gone) Bool.noConfusion
  · exact ⟨reply, rfl⟩

/-- Whatever the server does in one step. -/
lemma change_step (server : Server η) (event : Event η) :
    Change server (step server event).1 event (step server event).2 := by
  have expires : ∀ {old new : Connection η} {party : Party} {delivery : Connection.Delivery},
      old.expire party = some (delivery, new) → ∃ reply, old.outgoing? party = some reply ∧
        delivery = .dropped reply ∧ new = old.unsent party := by
    intro old new party delivery expired
    obtain ⟨reply, outgoing, made⟩ := Option.map_eq_some_iff.mp expired
    rw [Prod.mk.injEq] at made
    exact ⟨reply, outgoing, made.1.symm, made.2.symm⟩
  -- A change of the writer does not end a reader, so it need not say why one has ended.
  have still : ∀ {old : Connection η} {writer : Writer} {event : Event η} {c : Nat},
      old.isServed = true → ({ old with writer } : Connection η).isServed = false →
        Ends server c old event [] :=
    fun served gone => absurd (served.symm.trans gone) Bool.noConfusion
  -- Of every action on a connection it has to be said what it does there, and, if the reader ends
  -- by it, for which reason.
  cases event with
  | pass c party =>
    exact change_delivering fun _ _ _ passed => ⟨.pass passed, dropped_of_pass passed⟩
  | expire c party =>
    refine change_delivering fun _ _ _ expired => ?_
    obtain ⟨reply, outgoing, rfl, rfl⟩ := expires expired
    exact ⟨.expire outgoing, fun _ _ => ⟨reply, rfl⟩⟩
  | act event =>
    cases event with
    | register registration => exact change_registered server _ _
    | registerService service => exact change_registered server _ _
    | unregister id => exact .aside rfl rfl rfl (.same rfl rfl rfl)
    | start address => exact change_start server address _
    | stop => exact .aside rfl rfl rfl (.stops rfl rfl rfl)
    | accept generation => exact change_accept server generation _
    | endAccepting generation => exact change_endAccepting server generation _
    -- Only a read that breaks framing ends the reader; else it is reading, as before.
    | receive c bytes =>
      refine change_silently fun old new received => ⟨.read (.receive received), fun _ gone => ?_⟩
      obtain ⟨reading, -, ⟨frames, -, rfl⟩ | ⟨⟨fault, broken⟩, -⟩⟩ :=
        Connection.receive_cases received
      · rw [Connection.isServed_eq, reading] at gone
        exact nomatch gone
      · exact .framing broken
    | streamEnded c =>
      exact change_silently fun _ _ ended => ⟨.read (.streamEnded ended), fun _ _ => .stream⟩
    | lookUp c => exact change_lookUp server c _
    | grant => exact change_grant server _
    | finish c id => exact change_finish server c id _
    -- An offer and a look at the limit are the races again, each where the count allows it.
    | offer c party =>
      refine change_delivering fun delivery old new offered => ?_
      rw [Connection.offer_eq] at offered
      split at offered
      · cases offered
      · exact ⟨.pass offered, dropped_of_pass offered⟩
    | giveUp c party =>
      refine change_delivering fun delivery old new given => ?_
      rw [Connection.giveUp_eq] at given
      split at given
      · obtain ⟨reply, outgoing, rfl, rfl⟩ := expires given
        exact ⟨.expire outgoing, fun _ _ => ⟨reply, rfl⟩⟩
      · cases given
    | resume c =>
      exact change_delivering fun _ _ _ resumed => ⟨.resume resumed, dropped_of_resume resumed⟩
    | collect c =>
      refine change_quietly fun old new collected => ?_
      obtain ⟨writer, result, rfl⟩ := Option.map_eq_some_iff.mp collected
      exact ⟨.collect result, still⟩
    | sinkAccepts c n => exact change_sinkAccepts server c n _
    | sinkFails c e =>
      refine change_quietly ?_
      rintro old _ ⟨⟩
      exact ⟨.fail e, still⟩
    | flushed c =>
      refine change_quietly ?_
      rintro old _ ⟨⟩
      exact ⟨.flushed, still⟩
    | observeStop c =>
      refine change_quietly fun old new stopped => ?_
      split at stopped
      · rename_i ended
        cases stopped
        exact ⟨.stop, fun _ _ => .stopped ended⟩
      · cases stopped

end Racing

end RemoteCall
