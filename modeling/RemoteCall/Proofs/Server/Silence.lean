import RemoteCall.Proofs.Server.Generations

/-!
# What a stop silences

A connection that is served when it learns of the stop of its generation is closed: its reader ends
and the task of its writer is cancelled.  From then on nothing is read, nothing is taken for sending
and nothing is written, whatever the handlers of the connection still do (`Serving.stop_silences`).

Only a reader that goes on can learn of a stop.  Where the peer has ended the stream before, the
writer goes on for the sake of the handlers that still run, and the stop does not reach it: their
replies leave after everybody has learned of the stop (`Serving.half_closed_written`).

## The proof

A connection is closed if its reader has ended and the task of its writer is over.
`Connection.Follows` keeps both, and says that nothing more is entered in the journal; so what is
closed is silent for good (`closed_run`).  What remains is that the stop closes the connection.  It
does if the connection is `Whole`: the reader has not ended by itself and left the writer behind.
The other signals of a stop do not end a reader, so a connection that is whole before them is whole
when its own signal comes (`wholeAt_run`).

## Main statements

* `Serving.stop_silences` — a stop closes every connection whose reader goes on.
* `Serving.half_closed_written` — the reply of a handler leaves after the stop of its generation.
-/

namespace RemoteCall

open Racing

variable {η : Type}

namespace Racing

/-- Nothing is read or looked up, no reply is taken and nothing is written. -/
structure Silent (entries : List (Entry η)) : Prop where
  reads : reads entries = []
  looked : looked entries = []
  queued : queued entries = []
  written : written entries = []

end Racing

namespace Connection

/-- A connection is closed: it is not served, and the task of its writer is over. -/
structure Closed (connection : Connection η) : Prop where
  gone : connection.isServed = false
  halted : connection.writer.isOver = true

/-- The reader of a connection has not ended by itself and left the writer behind. -/
def Whole (connection : Connection η) : Prop :=
  connection.isServed = true ∨ connection.writer.isOver = true

lemma Closed.follows {old new : Connection η} {entries : List (Entry η)} (closed : Closed old)
    (follows : old.Follows new entries) : Closed new ∧ Silent entries := by
  obtain ⟨gone, unread, unlooked, -⟩ := follows.gone closed.gone
  obtain ⟨halted, unqueued, unwritten⟩ := follows.halted closed.halted
  exact ⟨⟨gone, halted⟩, ⟨unread, unlooked, unqueued, unwritten⟩⟩

lemma Whole.stop {connection : Connection η} (whole : Whole connection) :
    connection.stop.Closed := by
  refine ⟨connection.isServed_stop, ?_⟩
  rcases whole with served | halted
  · unfold Connection.stop
    rw [if_pos served]
    exact (isOver_settle _).trans (Writer.isOver_abort _)
  · exact isOver_stop connection halted

lemma stop_of_gone {connection : Connection η} (gone : connection.isServed = false) :
    connection.stop = connection := by
  unfold Connection.stop
  rw [gone]
  rfl

end Connection

namespace Serving

/-! ## Signals -/

/-- An event by which a task learns of a stop, or a connection that was taken is entered. -/
inductive IsSignal : Event η → Prop
  | loop (generation : Nat) : IsSignal (tellLoop generation)
  | enter (generation : Nat) : IsSignal (.enter generation)
  | tell (c : Nat) : IsSignal (tell c)

lemma isSignal_of_mem {generation : Nat} {state : Serving η} {event : Event η}
    (among : event ∈ signals generation state) : IsSignal event := by
  rcases List.mem_cons.mp among with rfl | among
  · exact .loop generation
  · rcases List.mem_append.mp among with entered | told
    · rw [List.eq_of_mem_replicate entered]
      exact .enter generation
    · obtain ⟨c, -, rfl⟩ := List.mem_map.mp told
      exact .tell c

variable [Handles η]

/-- If there is a connection of the number, it is whole. -/
def WholeAt (c : Nat) (state : Serving η) : Prop :=
  ∀ connection, state.server.connection? c = some connection → connection.Whole

lemma wholeAt_step {c : Nat} {state : Serving η} {event : Event η} (whole : WholeAt c state)
    (signal : IsSignal event) : WholeAt c (step state event).1 := by
  intro connection found
  cases signal with
  | loop generation =>
    have same : (step state (tellLoop generation)).1.server.connection? c =
        state.server.connection? c := by
      show ((state.server.endAccepting generation).getD state.server).connection? c = _
      unfold Server.endAccepting
      split <;> rfl
    exact whole connection (same ▸ found)
  | enter generation =>
    unfold step at found
    dsimp only at found
    split at found
    · rw [Server.connection?_welcome, Option.or_eq_some_iff] at found
      rcases found with before | ⟨-, new⟩
      · exact whole connection before
      · split at new
        · obtain rfl := Option.some.inj new
          exact Or.inl rfl
        · cases new
    · exact whole connection found
  | tell k =>
    rcases step_tell_cases state k with ⟨old, here, -, told⟩ | ⟨-, told⟩
    · rw [told] at found
      dsimp only at found
      rw [Server.connection?_setConnection here] at found
      split at found
      · rename_i same
        obtain rfl := Option.some.inj found
        exact Or.inr (whole old (same ▸ here)).stop.halted
      · exact whole connection found
    · rw [told] at found
      exact whole connection found

lemma wholeAt_run {c : Nat} {state : Serving η} (whole : WholeAt c state)
    (events : List (Event η)) (signals : ∀ event ∈ events, IsSignal event) :
    WholeAt c (run state events).1 := by
  induction events generalizing state with
  | nil => exact whole
  | cons event rest ih =>
    exact ih (wholeAt_step whole (signals event List.mem_cons_self))
      fun later among => signals later (List.mem_cons_of_mem _ among)

/-! ## Closed connections -/

lemma closed_run {state : Serving η} (sound : Sound state) {c : Nat}
    {connection : Connection η} (found : state.server.connection? c = some connection)
    (closed : connection.Closed) (events : List (Event η)) :
    ∃ last, (run state events).1.server.connection? c = some last ∧ last.Closed ∧
      Silent (on c (run state events).2) := by
  obtain ⟨last, here, follows⟩ := follows_run sound found events
  obtain ⟨closed, silent⟩ := closed.follows follows
  exact ⟨last, here, closed, silent⟩

/-- What a stop does to the connections of its generation. -/
structure Silenced (state : Serving η) : Prop where
  /-- A connection that is served when it learns of the stop is closed, and it stays silent. -/
  told : ∀ c connection, state.server.connection? c = some connection →
    state.server.isStopped connection.generation = true → connection.Whole →
    ∀ events,
      let told := (step state (tell c)).1
      ∃ last, (run told events).1.server.connection? c = some last ∧ last.Closed ∧
        Silent (on c (run told events).2)
  /-- When everybody has learned of the stop, the generation is over.  Its connections are closed
  and stay silent, except those whose readers had ended before. -/
  settled : ∀ generation, Stopped generation state →
    let settled := (run state (signals generation state)).1
    Finished generation settled ∧ ∀ c connection,
      settled.server.connection? c = some connection → connection.generation = generation →
      WholeAt c state → connection.Closed ∧ ∀ events,
        ∃ last, (run settled events).1.server.connection? c = some last ∧ last.Closed ∧
          Silent (on c (run settled events).2)
  /-- A reader that has ended learns of nothing. -/
  unheard : ∀ c connection, state.server.connection? c = some connection →
    connection.isServed = false →
    (step state (tell c)).1.server.connection? c = some connection

/-- Whatever has happened to a server: the stop of a generation closes every connection whose reader
goes on, and nothing leaves on it any more, the replies of its handlers included. -/
theorem stop_silences {registry : Registry} {settings : ServerSettings} {server : Server η}
    (created : Server.create registry settings = .ok server) (events : List (Event η)) :
    Silenced (run ⟨server, []⟩ events).1 := by
  have sound := sound_run (sound_create created) events
  generalize (run ⟨server, []⟩ events).1 = state at sound
  refine ⟨fun c connection found stopped whole events => ?_, fun generation stopped => ?_,
    fun c connection found gone => ?_⟩
  · refine closed_run (sound.step _) ?_ whole.stop events
    rw [step_tell_of_some found stopped]
    exact (Server.connection?_setConnection found connection.stop c).trans (if_pos rfl)
  · have finished := (finished_signals sound stopped).1
    refine ⟨finished, fun c connection found owned whole => ?_⟩
    have gone := finished.connections c connection found owned
    have closed : connection.Closed := by
      refine ⟨gone, ?_⟩
      have still := wholeAt_run whole (signals generation state) fun _ => isSignal_of_mem
      rcases still connection found with served | halted
      · rw [gone] at served
        cases served
      · exact halted
    exact ⟨closed, closed_run (sound_run sound _) found closed⟩
  · rcases step_tell_cases state c with ⟨old, here, -, told⟩ | ⟨-, told⟩
    · rw [told]
      obtain rfl := Option.some.inj (found.symm.trans here)
      dsimp only
      rw [Server.connection?_setConnection found, if_pos rfl, Connection.stop_of_gone gone]
    · rw [told]
      exact found

/-- The handler of a request runs. -/
def running : List (Event Trial) :=
  [.start (.ok "here") false, .race (.act (.register ⟨7, none, [], [], .returns⟩)), .take 0,
    .enter 0, .race (.act (.receive 0 (Frame.request 1 7 []).encode)), .race (.act (.lookUp 0)),
    .race (.act .grant)]

/-- The handler of the request ends, and everything is done to send its reply. -/
def late : List (Event Trial) :=
  [.race (.act (.finish 0 0)), .race (.pass 0 (.job 0)), .race (.act (.collect 0)),
    .race (.act (.sinkAccepts 0 16))]

/-- A connection is served when it learns of the stop, and the reply of its handler is refused. -/
theorem stop_silences_running : ∃ server : Server Trial, Server.create .empty {} = .ok server ∧
    let stopped := (run ⟨server, []⟩ (running ++ [.race (.act .stop)])).1
    let told := (step stopped (tell 0)).1
    Silenced stopped ∧
      ((stopped.server.connection? 0).map fun connection => (connection.generation,
        connection.isServed, connection.jobs.map Job.id)) = some (0, true, [0]) ∧
      stopped.server.isStopped 0 = true ∧
      refused (on 0 (run told late).2) = [.reply 1 Status.ok []] ∧
      Silent (on 0 (run told late).2) := by
  obtain ⟨server, created⟩ : ∃ server : Server Trial, Server.create .empty {} = .ok server :=
    ⟨_, rfl⟩
  have silenced := stop_silences created (running ++ [.race (.act .stop)])
  refine ⟨server, created, silenced, ?_, ?_, ?_, ⟨?_, ?_, ?_, ?_⟩⟩ <;> cases created <;> cbv

/-- The peer ends the stream while the handler runs, and then the server stops.  When everybody has
learned of the stop, the reply of the handler is still written. -/
theorem half_closed_written : ∃ server : Server Trial, Server.create .empty {} = .ok server ∧
    let stopped :=
      (run ⟨server, []⟩ (running ++ [.race (.act (.streamEnded 0)), .race (.act .stop)])).1
    let settled := (run stopped (signals 0 stopped)).1
    Finished 0 settled ∧
      written (on 0 (run settled late).2) = (Frame.reply 1 Status.ok []).encode := by
  obtain ⟨server, created⟩ : ∃ server : Server Trial, Server.create .empty {} = .ok server :=
    ⟨_, rfl⟩
  have sound := sound_run (sound_create created)
    (running ++ [.race (.act (.streamEnded 0)), .race (.act .stop)])
  refine ⟨server, created, (finished_signals sound ⟨?_, ?_⟩).1, ?_⟩ <;> cases created <;> cbv

end Serving

end RemoteCall
