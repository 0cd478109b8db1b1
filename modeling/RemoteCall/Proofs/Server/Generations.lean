import RemoteCall.Proofs.Server.Replies
import RemoteCall.Proofs.Server.Serving

/-!
# The generations of a listener

A generation is stopped when the server stops listening for it, and it is over (`Serving.Finished`)
when in addition its accept loop has ended and none of its connections is served or still to be
entered.  What is stopped stays stopped, and what is over stays over, because no later generation
has the same number.

Between the two are the signals by which the accept loop and the connections learn of the stop.  A
signal ends what belongs to a stopped generation and nothing else, and when everybody has learned of
the stop the generation is over (`Serving.finished_signals`).

## The signals

Which signals are left is read off the state (`Serving.signals`): the one to the accept loop, one
entry for each connection that was taken, and one signal for each connection that is there by then.
Their order matters in one respect.  A connection that is entered late learns of the stop like any
other, so the entries come before the signals to connections.  None of them touches the generation
for which the server listens now (`Serving.Spares`), however often it was stopped and started in
between.

## How a connection ends

A connection ends for a reason of its own or because its generation was stopped (`Serving.Ends`); a
stop that concerns another generation is none.  That is what keeps a new generation apart from the
stop of the one before, which may still be on its way.

## Main statements

* `Serving.finished_run` — when a generation is over, nothing is read or looked up any more on its
  connections, and there are no new ones, also after another start.
* `Serving.finished_signals` — when everybody has learned of a stop, the generation is over.
* `Serving.generations_isolated` — what starting and stopping do, and how a connection ends.
-/

namespace RemoteCall

open Racing

variable {η : Type} [Handles η]

namespace Serving

/-! ### Generations that are over -/

/-- A generation is stopped for good: no later one has its number. -/
structure Stopped (generation : Nat) (state : Serving η) : Prop where
  begun : generation < state.server.nextGeneration
  stopped : state.server.isStopped generation = true

/-- A generation is over: it was stopped, its accept loop has ended, and none of its connections is
served or still to be entered. -/
structure Finished (generation : Nat) (state : Serving η) : Prop
    extends Stopped generation state where
  acceptors : generation ∉ state.server.acceptors
  taken : generation ∉ state.taken
  connections : ∀ c connection, state.server.connection? c = some connection →
    connection.generation = generation → connection.isServed = false

/-- Nothing is read or looked up on the connections of a generation, no job is started for one, and
there is no new one. -/
def Quiet (generation : Nat) (state next : Serving η) (journal : List (Nat × Entry η)) : Prop :=
  ∀ c new, next.server.connection? c = some new → new.generation = generation →
    reads (on c journal) = [] ∧ looked (on c journal) = [] ∧
      ∃ old, state.server.connection? c = some old ∧ new.jobs.map Job.id ⊆ old.jobs.map Job.id

section

variable {state next : Serving η} {journal : List (Nat × Entry η)} {generation : Nat}

omit [Handles η]

lemma not_begins (begun : generation < state.server.nextGeneration) :
    ¬ Begins state next generation :=
  fun begins => Nat.ne_of_lt begun begins.1

lemma Stopped.proceeds (stopped : Stopped generation state)
    (proceeds : Proceeds state next journal) : Stopped generation next := by
  refine ⟨Nat.lt_of_lt_of_le stopped.begun proceeds.later, decide_eq_true fun listens => ?_⟩
  rcases proceeds.listening generation listens with before | begins
  · exact of_decide_eq_true stopped.stopped before
  · exact not_begins stopped.begun begins

lemma Finished.proceeds (finished : Finished generation state)
    (proceeds : Proceeds state next journal) :
    Finished generation next ∧ Quiet generation state next journal := by
  have belongs : ∀ c new, next.server.connection? c = some new → new.generation = generation →
      ∃ old, state.server.connection? c = some old ∧ old.isServed = false ∧
        old.Follows new (on c journal) := by
    intro c new found same
    have becomes := proceeds.connections c
    rw [found] at becomes
    generalize before : state.server.connection? c = present at becomes
    generalize on c journal = entries at becomes ⊢
    cases becomes with
    | enters among =>
      subst same
      rcases among with loop | taken
      · exact absurd loop finished.acceptors
      · exact absurd taken finished.taken
    | @follows old _ _ follows =>
      have unserved := finished.connections c old before (follows.generation.symm.trans same)
      exact ⟨old, rfl, unserved, follows⟩
  refine ⟨⟨finished.toStopped.proceeds proceeds, fun loop => ?_, fun taken => ?_,
    fun c new found same => ?_⟩, fun c new found same => ?_⟩
  · exact (proceeds.acceptors generation loop).elim finished.acceptors (not_begins finished.begun)
  · exact (proceeds.taken generation taken).elim finished.taken finished.acceptors
  · obtain ⟨old, -, unserved, follows⟩ := belongs c new found same
    exact (follows.gone unserved).1
  · obtain ⟨old, before, unserved, follows⟩ := belongs c new found same
    obtain ⟨-, unread, unlooked, jobs⟩ := follows.gone unserved
    exact ⟨unread, unlooked, old, before, jobs⟩

end

lemma stopped_run {state : Serving η} {generation : Nat} (sound : Sound state)
    (stopped : Stopped generation state) (events : List (Event η)) :
    Stopped generation (run state events).1 := by
  induction events generalizing state with
  | nil => exact stopped
  | cons event rest ih =>
    exact ih (sound.step event) (stopped.proceeds (proceeds_step sound.accounted event).2)

/-- A generation that is over stays over, and its connections are quiet. -/
theorem finished_run {state : Serving η} {generation : Nat} (sound : Sound state)
    (finished : Finished generation state) (events : List (Event η)) :
    Finished generation (run state events).1 ∧
      Quiet generation state (run state events).1 (run state events).2 := by
  induction events generalizing state with
  | nil =>
    exact ⟨finished, fun c new found _ => ⟨rfl, rfl, new, found, List.Subset.refl _⟩⟩
  | cons event rest ih =>
    obtain ⟨between, first⟩ := finished.proceeds (proceeds_step sound.accounted event).2
    obtain ⟨last, others⟩ := ih (sound.step event) between
    refine ⟨last, fun c new found same => ?_⟩
    obtain ⟨unread, unlooked, middle, here, fewer⟩ := others c new found same
    have kept : middle.generation = new.generation := by
      obtain ⟨new', found', follows⟩ := follows_run (sound.step event) here rest
      obtain rfl := Option.some.inj (found.symm.trans found')
      exact follows.generation.symm
    obtain ⟨unread', unlooked', old, before, fewer'⟩ :=
      first c middle here (kept.trans same)
    unfold run
    rw [Machine.run_cons, on_append, reads_append, looked_append, unread', unlooked']
    exact ⟨unread, unlooked, old, before, List.Subset.trans fewer fewer'⟩

/-! ### How a connection and an accept loop end -/

/-- Why a connection is not served any more. -/
inductive Ends (state : Serving η) (c : Nat) (old : Connection η) :
    Event η → List (Entry η) → Prop
  | race {event : Racing.Event η} {entries : List (Entry η)}
      (ends : Racing.Ends state.server c old event entries) :
    Ends state c old (.race event) entries
  | dropped : Ends state c old .dropTasks []

section

variable {state next : Serving η} {event : Event η} {journal : List (Nat × Entry η)}

lemma Turns.ends (turns : Turns state event next journal) {c : Nat} {old new : Connection η}
    (found : state.server.connection? c = some old) (served : old.isServed = true)
    (here : next.server.connection? c = some new) (gone : new.isServed = false) :
    Ends state c old event (on c journal) := by
  have changed : next.server.connection? c ≠ state.server.connection? c := by
    intro same
    rw [here, found, Option.some.injEq] at same
    rw [same, served] at gone
    cases gone
  cases turns with
  | race change =>
    cases change with
    | aside connections => exact absurd (Server.connection?_congr connections c) changed
    | accepted _ result =>
      rw [result, Server.connection?_welcome, found] at changed
      exact absurd rfl changed
    | @replaces k first last entries replaces _ ends =>
      rw [Server.connection?_congr replaces.connections,
        Server.connection?_setConnection replaces.found] at here changed
      by_cases same : c = k
      · subst same
        rw [if_pos rfl, Option.some.injEq] at here
        obtain rfl := Option.some.inj (found.symm.trans replaces.found)
        rw [on_tagged, if_pos rfl]
        exact .race (ends served (here ▸ gone))
      · rw [if_neg same] at changed
        exact absurd rfl changed
  | starts started =>
    obtain ⟨-, connections, -⟩ := relistens_start _ _ _ started
    exact absurd (Server.connection?_congr connections c) changed
  | enters =>
    rw [Server.connection?_welcome, found] at changed
    exact absurd rfl changed
  | drops => exact .dropped
  | takes | still => exact absurd rfl changed

/-- An accept loop ends because its generation was stopped. -/
lemma Turns.leaves (turns : Turns state event next journal) {generation : Nat}
    (among : generation ∈ state.server.acceptors)
    (gone : generation ∉ next.server.acceptors) :
    state.server.isStopped generation = true ∨ event = .dropTasks := by
  have relistened : ∀ {server : Server η}, Server.Relistens state.server server →
      generation ∉ server.acceptors → state.server.isStopped generation = true := by
    intro server relistens gone
    cases relistens with
    | same _ acceptors => exact absurd (acceptors ▸ among) gone
    | starts _ _ acceptors => exact absurd (acceptors ▸ List.mem_append_left _ among) gone
    | stops _ acceptors => exact absurd (acceptors ▸ among) gone
    | @leaves other stopped _ acceptors =>
      by_cases same : generation = other
      · exact same ▸ stopped
      · rw [acceptors] at gone
        exact absurd (List.mem_filter.mpr ⟨among, decide_eq_true same⟩) gone
  cases turns with
  | race change =>
    cases change with
    | aside _ _ _ relistens => exact Or.inl (relistened relistens gone)
    | accepted _ result =>
      rw [result] at gone
      exact absurd among gone
    | replaces replaces => exact absurd (replaces.acceptors ▸ among) gone
  | starts started => exact Or.inl (relistened (relistens_start _ _ _ started).1 gone)
  | drops => exact Or.inr rfl
  | takes | enters | still => exact absurd among gone

end

/-! ### Starts and stops -/

/-- The signal by which an accept loop learns of the stop of its generation. -/
def tellLoop (generation : Nat) : Event η := .race (.act (.endAccepting generation))

/-- The signal by which a connection learns of the stop of its generation. -/
def tell (c : Nat) : Event η := .race (.act (.observeStop c))

section

variable {server : Server η}

omit [Handles η]

lemma start_eq_ok_iff {bound : Except Error String} {pollShutDown : Bool}
    {next : Server η} : server.start bound pollShutDown = .ok next ↔
      server.listening = none ∧ pollShutDown = false ∧ ∃ address, bound = .ok address ∧
        next = { server with
          listening := some ⟨server.nextGeneration, address⟩
          acceptors := server.acceptors ++ [server.nextGeneration]
          nextGeneration := server.nextGeneration + 1 } := by
  unfold Server.start
  cases server.listening with
  | some listening => simp
  | none =>
    cases bound with
    | error e => simp
    | ok address => cases pollShutDown <;> simp [eq_comm]

lemma isStopped_stop (generation : Nat) : server.stop.isStopped generation = true :=
  decide_eq_true nofun

lemma mem_acceptors_endAccepting (generation other : Nat) :
    other ∈ ((server.endAccepting generation).getD server).acceptors ↔
      other ∈ server.acceptors ∧ (other = generation → server.isStopped generation = false) := by
  unfold Server.endAccepting
  cases stopped : server.isStopped generation with
  | true =>
    rw [if_pos rfl, Option.getD_some, List.mem_filter, decide_eq_true_eq]
    exact and_congr_right fun _ => ⟨fun other same => absurd same other, fun spared same =>
      Bool.noConfusion (spared same)⟩
  | false => exact (and_iff_left fun _ => rfl).symm

end

lemma step_tell_of_none {state : Serving η} {c : Nat}
    (idle : ((state.server.connection? c).bind fun connection =>
      if state.server.isStopped connection.generation then some connection.stop
      else none) = none) : (step state (tell c)).1 = state :=
  congrArg (fun result => { state with server := result.1 }) (Server.silently_of_none idle)

lemma step_tell_of_some {state : Serving η} {c : Nat} {old : Connection η}
    (found : state.server.connection? c = some old)
    (stopped : state.server.isStopped old.generation = true) :
    (step state (tell c)).1 = { state with
      server := state.server.setConnection c old old.stop } := by
  have told : state.server.silently c (fun connection =>
      if state.server.isStopped connection.generation then some connection.stop else none) =
      (state.server.setConnection c old old.stop, []) :=
    Server.silently_of_some found (if_pos stopped)
  exact congrArg (fun result => { state with server := result.1 }) told

/-- The signal to a connection concerns the connection if its generation was stopped, and nothing
otherwise. -/
lemma step_tell_cases (state : Serving η) (c : Nat) :
    (∃ old, state.server.connection? c = some old ∧
      state.server.isStopped old.generation = true ∧ (step state (tell c)).1 =
        { state with server := state.server.setConnection c old old.stop }) ∨
    (∀ old, state.server.connection? c = some old →
        state.server.isStopped old.generation = false) ∧
      (step state (tell c)).1 = state := by
  cases found : state.server.connection? c with
  | none =>
    refine Or.inr ⟨nofun, step_tell_of_none ?_⟩
    rw [found, Option.bind_none]
  | some old =>
    cases stopped : state.server.isStopped old.generation with
    | true => exact Or.inl ⟨old, rfl, stopped, step_tell_of_some found stopped⟩
    | false =>
      refine Or.inr ⟨fun other same => Option.some.inj same ▸ stopped,
        step_tell_of_none ?_⟩
      rw [found, Option.bind_some, stopped, if_neg Bool.false_ne_true]

/-- The signal to a connection ends it if its generation was stopped, and no other connection. -/
lemma exists_step_tell (state : Serving η) (c k : Nat) {connection : Connection η}
    (found : state.server.connection? k = some connection) :
    ∃ next, (step state (tell c)).1.server.connection? k = some next ∧
      (next.isServed = true ↔ connection.isServed = true ∧
        (k = c → state.server.isStopped connection.generation = false)) := by
  rcases step_tell_cases state c with ⟨old, here, stopped, told⟩ | ⟨spared, told⟩
  · rw [told]
    dsimp only
    rw [Server.connection?_setConnection here]
    by_cases same : k = c
    · subst same
      obtain rfl := Option.some.inj (found.symm.trans here)
      refine ⟨_, if_pos rfl, ?_⟩
      rw [connection.isServed_stop, stopped]
      simp
    · rw [if_neg same]
      exact ⟨connection, found, (and_iff_left fun equal => absurd equal same).symm⟩
  · rw [told]
    refine ⟨connection, found, (and_iff_left fun same => ?_).symm⟩
    exact spared connection (same ▸ found)

/-! ### A stop of which everybody has learned -/

/-- What is left to do when a generation was stopped: its accept loop learns of it, the connections
that the loop has taken are entered, and the connections learn of it. -/
def signals (generation : Nat) (state : Serving η) : List (Event η) :=
  tellLoop generation ::
    (List.replicate (state.taken.count generation) (.enter generation) ++
      (List.range (state.server.nextConnection + state.taken.count generation)).map tell)

/-- The connections of the generation for which the server listens are left alone, and nothing more
is taken. -/
structure Spares (state next : Serving η) : Prop where
  listening : next.server.listening = state.server.listening
  acceptors : next.server.acceptors ⊆ state.server.acceptors
  taken : next.taken ⊆ state.taken
  connections : ∀ c connection, state.server.connection? c = some connection →
    state.server.isStopped connection.generation = false →
      next.server.connection? c = some connection

omit [Handles η] in
lemma Spares.refl (state : Serving η) : Spares state state :=
  ⟨rfl, List.Subset.refl _, List.Subset.refl _, fun _ _ found _ => found⟩

omit [Handles η] in
lemma Spares.trans {first second third : Serving η} (sooner : Spares first second)
    (later : Spares second third) : Spares first third := by
  refine ⟨later.listening.trans sooner.listening,
    List.Subset.trans later.acceptors sooner.acceptors,
    List.Subset.trans later.taken sooner.taken, fun c connection found spared => ?_⟩
  refine later.connections c connection (sooner.connections c connection found spared) ?_
  unfold Server.isStopped at spared ⊢
  rw [sooner.listening]
  exact spared

/-- The accept loop learns of the stop. -/
lemma tellLoop_ends {state : Serving η} {generation : Nat}
    (stopped : Stopped generation state) :
    let next := (step state (tellLoop generation)).1
    Spares state next ∧ generation ∉ next.server.acceptors ∧ next.taken = state.taken ∧
      next.server.nextConnection = state.server.nextConnection := by
  have left : (step state (tellLoop generation)).1 = { state with
      server.acceptors := state.server.acceptors.filter (· ≠ generation) } := by
    have ended : state.server.endAccepting generation = some { state.server with
        acceptors := state.server.acceptors.filter (· ≠ generation) } := if_pos stopped.stopped
    exact congrArg (fun result => { state with server := result.getD state.server }) ended
  rw [left]
  refine ⟨⟨rfl, List.filter_subset_self _, List.Subset.refl _, fun _ _ found _ => found⟩,
    fun among => ?_, rfl, rfl⟩
  exact of_decide_eq_true (List.mem_filter.mp among).2 rfl

lemma spares_enter (state : Serving η) (generation : Nat) :
    Spares state (step state (.enter generation)).1 := by
  unfold step
  dsimp only
  split
  · refine ⟨rfl, List.Subset.refl _, List.erase_subset, fun c connection found _ => ?_⟩
    rw [Server.connection?_welcome, found, Option.some_or]
  · exact .refl state

lemma spares_tell (state : Serving η) (c : Nat) :
    Spares state (step state (tell c)).1 ∧
      (step state (tell c)).1.server.nextConnection = state.server.nextConnection ∧
      ∀ k, state.server.connection? k = none →
        (step state (tell c)).1.server.connection? k = none := by
  rcases step_tell_cases state c with ⟨old, here, stopped, told⟩ | ⟨-, told⟩
  · rw [told]
    refine ⟨⟨rfl, List.Subset.refl _, List.Subset.refl _, fun k connection found spared => ?_⟩, rfl,
      fun k absent => ?_⟩ <;>
      rw [Server.connection?_setConnection here]
    · rw [if_neg, found]
      rintro rfl
      obtain rfl := Option.some.inj (found.symm.trans here)
      rw [spared] at stopped
      cases stopped
    · rw [if_neg, absent]
      rintro rfl
      rw [absent] at here
      cases here
  · rw [told]
    exact ⟨.refl state, rfl, fun _ absent => absent⟩

/-- The connections that were taken are entered. -/
lemma enter_all (state : Serving η) (generation : Nat) :
    let next := (run state (List.replicate (state.taken.count generation) (.enter generation))).1
    Spares state next ∧ generation ∉ next.taken ∧ next.server.nextConnection =
      state.server.nextConnection + state.taken.count generation := by
  generalize many : state.taken.count generation = n
  induction n generalizing state with
  | zero => exact ⟨.refl state, List.count_eq_zero.mp many, rfl⟩
  | succ n ih =>
    have among : generation ∈ state.taken := List.count_pos_iff.mp (many ▸ Nat.succ_pos n)
    have entered : (step state (.enter generation)).1 =
        ⟨state.server.welcome generation, state.taken.erase generation⟩ := if_pos among
    have fewer : (step state (.enter generation)).1.taken.count generation = n := by
      rw [entered]
      show (state.taken.erase generation).count generation = n
      rw [List.count_erase_self, many, Nat.add_sub_cancel]
    obtain ⟨spares, absent, next⟩ := ih _ fewer
    refine ⟨(spares_enter state generation).trans spares, absent, next.trans ?_⟩
    rw [entered]
    exact Nat.succ_add _ n

/-- The connections learn of the stop one after the other, and none comes in between. -/
lemma tell_all {state : Serving η} {generation : Nat} (sound : Sound state)
    (stopped : Stopped generation state) (numbers : List Nat) :
    let next := (run state (numbers.map tell)).1
    Spares state next ∧ next.server.nextConnection = state.server.nextConnection ∧
      (∀ c, state.server.connection? c = none → next.server.connection? c = none) ∧
      ∀ c ∈ numbers, ∀ connection, next.server.connection? c = some connection →
        connection.generation = generation → connection.isServed = false := by
  induction numbers generalizing state with
  | nil => exact ⟨.refl state, rfl, fun _ absent => absent, nofun⟩
  | cons k rest ih =>
    obtain ⟨first, number, vacant⟩ := spares_tell state k
    have proceeds := (proceeds_step sound.accounted (tell k)).2
    obtain ⟨spares, number', vacant', others⟩ := ih (sound.step _) (stopped.proceeds proceeds)
    refine ⟨first.trans spares, number'.trans number, fun c absent => vacant' c (vacant c absent),
      fun c among connection found owned => ?_⟩
    rcases List.mem_cons.mp among with rfl | later
    · -- The connection was there before, it has ended when it was told, and it does not come back.
      cases before : state.server.connection? c with
      | none => exact absurd (found.symm.trans (vacant' c (vacant c before))) nofun
      | some old =>
        obtain ⟨told, here, ends⟩ := exists_step_tell state c c before
        obtain ⟨last, found', follows⟩ :=
          follows_run (sound.step (tell c)) here (rest.map tell)
        obtain rfl := Option.some.inj (found.symm.trans found')
        obtain ⟨told', here', kept⟩ := follows_run sound before [tell c]
        obtain rfl := Option.some.inj (here.symm.trans here')
        have signalled : state.server.isStopped old.generation = true := by
          rw [← kept.generation, ← follows.generation, owned]
          exact stopped.stopped
        refine (follows.gone (Bool.eq_false_iff.mpr fun served => ?_)).1
        rw [(ends.mp served).2 rfl] at signalled
        cases signalled
    · exact others c later connection found owned

/-- When everybody has learned of the stop of a generation, the generation is over, and the
connections of the one for which the server listens are as they were. -/
theorem finished_signals {state : Serving η} {generation : Nat} (sound : Sound state)
    (stopped : Stopped generation state) :
    Finished generation (run state (signals generation state)).1 ∧
      Spares state (run state (signals generation state)).1 := by
  have reached : (run state (signals generation state)).1 =
      (run (run (step state (tellLoop generation)).1
        (List.replicate (state.taken.count generation) (.enter generation))).1
        ((List.range
          (state.server.nextConnection + state.taken.count generation)).map tell)).1 := by
    unfold run signals
    rw [Machine.run_cons, Machine.run_append]
  rw [reached]
  -- The generation stays stopped and the state sound while the three parts follow on each other.
  obtain ⟨first, left, taken, number⟩ := tellLoop_ends stopped
  have proceeds := (proceeds_step sound.accounted (tellLoop generation)).2
  have stopped := stopped.proceeds proceeds
  have sound := sound.step (tellLoop generation)
  rw [← taken, ← number]
  generalize (step state (tellLoop generation)).1 = state' at *
  obtain ⟨second, absent, number⟩ := enter_all state' generation
  have stopped := stopped_run sound stopped
    (List.replicate (state'.taken.count generation) (.enter generation))
  have sound := sound_run sound (List.replicate (state'.taken.count generation) (.enter generation))
  rw [← number]
  generalize (run state' (List.replicate (state'.taken.count generation)
    (.enter generation))).1 = state'' at *
  obtain ⟨third, number', -, ended⟩ :=
    tell_all sound stopped (List.range state''.server.nextConnection)
  refine ⟨⟨stopped_run sound stopped _, fun among => left (second.acceptors
    (third.acceptors among)), fun among => absent (third.taken among),
    fun c connection found owned => ?_⟩, (first.trans second).trans third⟩
  have born := (sound_run sound _).accounted.lt_of_found found
  exact ended c (List.mem_range.mpr (number' ▸ born)) connection found owned

/-! ### Isolation -/

/-- What starting a server does. -/
structure Starting (state : Serving η) : Prop where
  /-- A start succeeds just when the server does not listen, the address is bound and there is
  something to run the accept loop on.  Then a generation begins. -/
  succeeds : ∀ bound pollShutDown server, state.server.start bound pollShutDown = .ok server ↔
    state.server.listening = none ∧ pollShutDown = false ∧ ∃ address, bound = .ok address ∧
      server = { state.server with
        listening := some ⟨state.server.nextGeneration, address⟩
        acceptors := state.server.acceptors ++ [state.server.nextGeneration]
        nextGeneration := state.server.nextGeneration + 1 }
  /-- A start that is refused changes nothing. -/
  refused : ∀ bound pollShutDown e, state.server.start bound pollShutDown = .error e →
    step state (.start bound pollShutDown) = (state, [])
  /-- Nothing belongs to the generation that begins next. -/
  fresh : state.server.nextGeneration ∉ state.server.acceptors ∧
    state.server.nextGeneration ∉ state.taken ∧
    ∀ c connection, state.server.connection? c = some connection →
      connection.generation ≠ state.server.nextGeneration

/-- What stopping a server does. -/
structure Stopping (state : Serving η) : Prop where
  /-- After a stop, the generations that are stopped are those that were before, and the one for
  which the server has listened. -/
  stops : ∀ generation, state.server.stop.isStopped generation = true ↔
    state.server.isStopped generation = true ∨
      state.server.listening.map Listening.generation = some generation
  /-- A server that does not listen is left alone, so to stop it again changes nothing. -/
  idle : (state.server.listening = none → state.server.stop = state.server) ∧
    state.server.stop.stop = state.server.stop
  /-- The signal to the accept loop of a generation ends it if the generation was stopped, and no
  other loop. -/
  loops : ∀ generation other,
    other ∈ (step state (tellLoop generation)).1.server.acceptors ↔
      other ∈ state.server.acceptors ∧
        (other = generation → state.server.isStopped generation = false)
  /-- The signal to a connection ends it if its generation was stopped, and no other connection. -/
  connections : ∀ c k connection, state.server.connection? k = some connection →
    ∃ next, (step state (tell c)).1.server.connection? k = some next ∧
      (next.isServed = true ↔ connection.isServed = true ∧
        (k = c → state.server.isStopped connection.generation = false))
  /-- A connection that was taken is entered for the generation of its accept loop, be it stopped
  meanwhile or not. -/
  late : ∀ generation ∈ state.taken,
    (step state (.enter generation)).1.server.connection? state.server.nextConnection =
      some (.accepted generation state.server.settings)
  /-- What was stopped stays stopped. -/
  stays : ∀ generation, Stopped generation state → ∀ events,
    Stopped generation (run state events).1
  /-- When everybody has learned of the stop of a generation, the generation is over, and the
  connections of the one for which the server listens are as they were. -/
  completes : ∀ generation, Stopped generation state →
    Finished generation (run state (signals generation state)).1 ∧
      Spares state (run state (signals generation state)).1

/-- The generations of a server are kept apart. -/
structure Isolated (state : Serving η) : Prop where
  /-- The connections that are served are counted. -/
  counted : state.server.served = state.server.connections.countP (·.2.isServed)
  starting : Starting state
  stopping : Stopping state
  /-- An accept loop ends for no other reason than the stop of its generation. -/
  leaves : ∀ event, ∀ generation ∈ state.server.acceptors,
    generation ∉ (step state event).1.server.acceptors →
      state.server.isStopped generation = true ∨ event = .dropTasks
  /-- There is a reason why a connection is not served any more. -/
  ends : ∀ event c old new, state.server.connection? c = some old → old.isServed = true →
    (step state event).1.server.connection? c = some new → new.isServed = false →
      Ends state c old event (on c (step state event).2)
  /-- A connection keeps its generation.  Once it is not served any more, nothing is read or looked
  up on it, and no job is started for it. -/
  follows : ∀ c old, state.server.connection? c = some old → ∀ events,
    ∃ new, (run state events).1.server.connection? c = some new ∧
      old.Follows new (on c (run state events).2)
  /-- A generation that is over stays over, and its connections are quiet. -/
  finished : ∀ generation, Finished generation state → ∀ events,
    Finished generation (run state events).1 ∧
      Quiet generation state (run state events).1 (run state events).2

omit [Handles η] in
lemma Sound.fresh {state : Serving η} (sound : Sound state) :
    state.server.nextGeneration ∉ state.server.acceptors ∧
      state.server.nextGeneration ∉ state.taken ∧
      ∀ c connection, state.server.connection? c = some connection →
        connection.generation ≠ state.server.nextGeneration :=
  ⟨fun among => Nat.lt_irrefl _ (sound.acceptors _ among),
    fun among => Nat.lt_irrefl _ (sound.taken _ among),
    fun c connection found => Nat.ne_of_lt (sound.connections c connection found)⟩

lemma Sound.starting {state : Serving η} (sound : Sound state) : Starting state := by
  refine ⟨fun _ _ _ => start_eq_ok_iff, fun bound pollShutDown e refused => ?_, sound.fresh⟩
  unfold Serving.step
  dsimp only
  rw [refused]

lemma Sound.stopping {state : Serving η} (sound : Sound state) : Stopping state := by
  refine ⟨fun generation => ?_, ⟨fun idle => ?_, rfl⟩, fun generation other => ?_,
    fun c k connection found => exists_step_tell state c k found, fun generation among => ?_,
    fun generation stopped events => stopped_run sound stopped events,
    fun generation stopped => finished_signals sound stopped⟩
  · refine iff_of_true (isStopped_stop generation) ?_
    unfold Server.isStopped
    rw [decide_eq_true_eq]
    exact (em _).symm
  · unfold Server.stop
    rw [← idle]
  · exact mem_acceptors_endAccepting generation other
  · unfold Serving.step
    dsimp only
    rw [if_pos among, Server.connection?_welcome, sound.accounted.unborn, if_pos rfl,
      Option.none_or]

/-- Whatever happens to a server, in whichever order its tasks go on: its starts and its stops
concern the generations that they are meant for, what a stop ends is ended for good, and the
connections that are served are counted. -/
theorem generations_isolated {registry : Registry} {settings : ServerSettings}
    {server : Server η} (created : Server.create registry settings = .ok server)
    (events : List (Event η)) : Isolated (run ⟨server, []⟩ events).1 := by
  have sound := sound_run (sound_create created) events
  exact ⟨sound.accounted.served, sound.starting, sound.stopping,
    fun event generation among gone => (turns_step _ event).leaves among gone,
    fun event c old new found served here gone =>
      (turns_step _ event).ends found served here gone,
    fun c old found events => follows_run sound found events,
    fun generation finished events => finished_run sound finished events⟩

/-- A connection is taken before a stop and entered after it, and the server listens again. -/
def restarted : List (Event Trial) :=
  [.start (.ok "here") false, .start (.ok "there") false, .take 0, .race (.act .stop), .enter 0,
    .start (.ok "here") false, .take 1, .enter 1, tellLoop 0, tellLoop 1, tell 0, tell 1,
    .race (.act (.receive 0 (Frame.request 1 7 []).encode)),
    .race (.act (.receive 1 (Frame.request 1 7 []).encode)), .race (.act (.lookUp 1))]

/-- The connection of the first generation has ended, and the one of the second is served. -/
theorem generations_isolated_restarted : ∃ server : Server Trial,
    Server.create .empty {} = .ok server ∧
      (run ⟨server, []⟩ restarted).1.server.acceptors = [1] ∧
      (run ⟨server, []⟩ restarted).1.server.served = 1 ∧
      ((run ⟨server, []⟩ restarted).1.server.connections.map fun entry =>
        (entry.2.generation, entry.2.isServed)) = [(0, false), (1, true)] ∧
      (reads (on 0 (run ⟨server, []⟩ restarted).2) = [] ∧
        (looked (on 1 (run ⟨server, []⟩ restarted).2)).length = 1) ∧
      Isolated (run ⟨server, []⟩ restarted).1 := by
  obtain ⟨server, created⟩ : ∃ server : Server Trial, Server.create .empty {} = .ok server :=
    ⟨_, rfl⟩
  have isolated := generations_isolated created restarted
  refine ⟨server, created, ?_, ?_, ?_, ⟨?_, ?_⟩, isolated⟩ <;> cases created <;> cbv

end Serving

end RemoteCall
