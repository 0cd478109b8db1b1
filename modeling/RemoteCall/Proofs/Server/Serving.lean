import RemoteCall.Proofs.Machine
import RemoteCall.Proofs.Server.Changes

/-!
# A server in use

A server may listen, stop and listen again; every time is a generation of its own.  A stop is only
announced: the accept loop and the connections of the generation learn of it each in its own time,
and a connection that the accept loop has taken before may even be entered after the stop.
`Serving` is a server together with the connections that were taken and not entered yet.  Its runs
mix starts, refused ones among them, and stops with whatever the connections do, and with the loss
of everything that runs for the server.

## The generations of the past

All that a step can do is on one list (`Serving.Turns`).  A step leaves the generations of the past
as they are (`Serving.Proceeds`): a generation begins at most once, an accept loop takes connections
for its own generation only, and a connection keeps the one for which it was taken.  What follows
for a whole run is a matter of induction on such steps, and needs nothing else of the server.

For a single connection this is `Becomes`: it was not there and is not, it is entered, or it goes on
as `Connection.Follows` says.  When all tasks of a server are lost at once, each connection is
dropped on its own (`dropTasks_keeps`).

## Main statements

* `Serving.sound_run` — the connections that are served are counted, and the generation to come is
  new.
* `Serving.follows_run` — a connection keeps its generation, and once it is not served any more,
  nothing is read or looked up on it.
-/

namespace RemoteCall

open Racing

variable {η : Type}

/-! ## Counting connections -/

namespace Server

/-- The connections of a server have numbers of their own, and those that are served are counted. -/
structure Accounted (server : Server η) : Prop where
  numbers : (server.connections.map Prod.fst).Nodup
  born : ∀ c ∈ server.connections.map Prod.fst, c < server.nextConnection
  served : server.served = server.connections.countP (·.2.isServed)

variable {server next : Server η}

lemma accounted_create {registry : Registry} {settings : ServerSettings}
    (created : create registry settings = .ok server) : Accounted server := by
  unfold create at created
  split at created
  · cases created
  · cases created
    exact ⟨List.nodup_nil, nofun, rfl⟩

lemma Accounted.unborn (accounted : Accounted server) :
    server.connection? server.nextConnection = none := by
  refine List.lookup_eq_none_iff.mpr fun entry among => ?_
  have before := accounted.born entry.1 (List.mem_map_of_mem among)
  exact bne_iff_ne.mpr (Nat.ne_of_gt before)

lemma Accounted.lt_of_found (accounted : Accounted server) {c : Nat}
    {connection : Connection η} (found : server.connection? c = some connection) :
    c < server.nextConnection := by
  obtain ⟨front, back, split, -⟩ := List.lookup_eq_some_iff.mp found
  refine accounted.born c (List.mem_map.mpr ⟨(c, connection), ?_, rfl⟩)
  rw [split]
  exact List.mem_append_right _ List.mem_cons_self

lemma Accounted.congr (accounted : Accounted server)
    (connections : next.connections = server.connections)
    (served : next.served = server.served)
    (nextConnection : next.nextConnection = server.nextConnection) : Accounted next := by
  refine ⟨?_, ?_, ?_⟩
  · rw [connections]
    exact accounted.numbers
  · rw [connections, nextConnection]
    exact accounted.born
  · rw [connections, served]
    exact accounted.served

lemma Accounted.welcome (accounted : Accounted server) (generation : Nat) :
    Accounted (server.welcome generation) := by
  have numbers : (server.welcome generation).connections.map Prod.fst =
      server.connections.map Prod.fst ++ [server.nextConnection] := List.map_append
  refine ⟨?_, fun c among => ?_, ?_⟩
  · rw [numbers, List.nodup_append_comm]
    exact List.nodup_cons.mpr
      ⟨fun among => Nat.lt_irrefl _ (accounted.born _ among), accounted.numbers⟩
  · rw [numbers, List.mem_append, List.mem_singleton] at among
    rcases among with before | rfl
    · exact Nat.lt_succ_of_lt (accounted.born c before)
    · exact Nat.lt_succ_self _
  · show server.served + 1 = (server.connections ++ [_]).countP _
    rw [List.countP_append, accounted.served]
    rfl

/-- The count of a connection that ends is taken back; a connection that has ended was taken back
before. -/
lemma Accounted.replaces {c : Nat} {old new : Connection η} (accounted : Accounted server)
    (replaces : Replaces c old new server next)
    (served : new.isServed = true → old.isServed = true) : Accounted next := by
  obtain ⟨front, back, before, after⟩ :=
    connections_setConnection accounted.numbers replaces.found new
  have numbers : next.connections.map Prod.fst = server.connections.map Prod.fst := by
    rw [replaces.connections, numbers_setConnection]
  refine ⟨numbers ▸ accounted.numbers, ?_, ?_⟩
  · rw [numbers, replaces.nextConnection]
    exact accounted.born
  · have count := accounted.served
    rw [before, List.countP_append, List.countP_cons] at count
    rw [replaces.served, replaces.connections, after, List.countP_append, List.countP_cons]
    show (if old.isServed && !new.isServed then server.served - 1 else server.served) = _
    cases goes : new.isServed with
    | true =>
      rw [served goes] at count ⊢
      exact count
    | false =>
      cases went : old.isServed with
      | false =>
        rw [went] at count
        exact count
      | true =>
        rw [went] at count
        have count : server.served =
            front.countP (·.2.isServed) + (back.countP (·.2.isServed) + 1) := count
        rw [count]
        rfl

/-- What is kept whenever the tasks of one connection are dropped, is kept when all are. -/
lemma dropTasks_keeps {Inv : Server η → Prop} (holds : Inv { server with acceptors := [] })
    (keeps : ∀ between c old, Inv between → between.connection? c = some old →
      Inv (between.setConnection c old old.dropTasks)) : Inv server.dropTasks := by
  unfold dropTasks
  refine List.foldlRecOn _ _ holds fun between kept entry _ => ?_
  cases found : between.connection? entry.1 with
  | none => exact kept
  | some old => exact keeps between entry.1 old kept found

end Server

namespace Connection

lemma follows_dropTasks (connection : Connection η) :
    Follows connection connection.dropTasks [] ∧ connection.dropTasks.isServed = false := by
  have gone : connection.dropTasks.isServed = false := isServed_endReading _
  refine ⟨⟨generation_settle _, fun _ => ⟨gone, rfl, rfl, ?_⟩, fun _ => ⟨?_, rfl, rfl⟩⟩, gone⟩
  · unfold dropTasks endReading
    rw [jobs_settle]
    exact List.nil_subset _
  · exact (isOver_settle _).trans (Writer.isOver_abort _)

lemma isServed_stop (connection : Connection η) : connection.stop.isServed = false := by
  unfold Connection.stop
  split
  · exact isServed_endReading _
  · rename_i gone
    exact Bool.eq_false_iff.mpr gone

end Connection

/-! ## A server in use -/

/-- A server, and the connections that its accept loops have taken and that are not entered yet. -/
structure Serving (η : Type) where
  server : Server η
  /-- The generations of the connections that were taken. -/
  taken : List Nat

namespace Serving

/-- What may happen to a server. -/
inductive Event (η : Type) where
  /-- An action of the server or of one of its tasks. -/
  | race (event : Racing.Event η)
  /-- The server is told to listen. -/
  | start (bound : Except Error String) (pollShutDown : Bool)
  /-- An accept loop takes a connection. -/
  | take (generation : Nat)
  /-- A connection that was taken is entered: its own task runs for the first time. -/
  | enter (generation : Nat)
  /-- Everything that runs for the server is dropped. -/
  | dropTasks

/-- Let something happen. -/
def step [Handles η] (state : Serving η) : Event η → Serving η × List (Nat × Entry η)
  | .race event =>
    ({ state with server := (Racing.step state.server event).1 },
      (Racing.step state.server event).2)
  | .start bound pollShutDown =>
    match state.server.start bound pollShutDown with
    | .ok server => ({ state with server }, [])
    | .error _ => (state, [])
  | .take generation =>
    (if generation ∈ state.server.acceptors then
      { state with taken := state.taken ++ [generation] } else state, [])
  | .enter generation =>
    (if generation ∈ state.taken then
      ⟨state.server.welcome generation, state.taken.erase generation⟩ else state, [])
  | .dropTasks => (⟨state.server.dropTasks, []⟩, [])

/-- Let things happen one after the other. -/
def run [Handles η] (state : Serving η) (events : List (Event η)) :
    Serving η × List (Nat × Entry η) :=
  Machine.run step state events

/-- The runs of a server whose parties race are among them. -/
theorem run_race [Handles η] (server : Server η) (taken : List Nat)
    (events : List (Racing.Event η)) :
    run ⟨server, taken⟩ (events.map .race) =
      (⟨(Racing.run server events).1, taken⟩, (Racing.run server events).2) := by
  have respects : ∀ (server : Server η) event, step ⟨server, taken⟩ (.race event) =
      (⟨(Racing.step server event).1, taken⟩, (Racing.step server event).2.map id) := by
    intro server event
    rw [List.map_id]
    rfl
  have mapped := Machine.run_map respects server events
  rwa [List.map_id] at mapped

/-- All that a step can do. -/
inductive Turns [Handles η] (state : Serving η) :
    Event η → Serving η → List (Nat × Entry η) → Prop
  | race {event : Racing.Event η} {server : Server η} {journal : List (Nat × Entry η)}
      (change : Change state.server server event journal) :
    Turns state (.race event) { state with server } journal
  | starts {bound : Except Error String} {pollShutDown : Bool} {server : Server η}
      (started : state.server.start bound pollShutDown = .ok server) :
    Turns state (.start bound pollShutDown) { state with server } []
  | takes {generation : Nat} (among : generation ∈ state.server.acceptors) :
    Turns state (.take generation) { state with taken := state.taken ++ [generation] } []
  | enters {generation : Nat} (among : generation ∈ state.taken) :
    Turns state (.enter generation)
      ⟨state.server.welcome generation, state.taken.erase generation⟩ []
  | drops : Turns state .dropTasks ⟨state.server.dropTasks, []⟩ []
  | still {event : Event η} : Turns state event state []

lemma turns_step [Handles η] (state : Serving η) (event : Event η) :
    Turns state event (step state event).1 (step state event).2 := by
  cases event with
  | race event => exact .race (change_step state.server event)
  | start bound pollShutDown =>
    unfold step
    dsimp only
    split
    · rename_i server started
      exact .starts started
    · exact .still
  | take generation =>
    unfold step
    dsimp only
    split
    · rename_i among
      exact .takes among
    · exact .still
  | enter generation =>
    unfold step
    dsimp only
    split
    · rename_i among
      exact .enters among
    · exact .still
  | dropTasks => exact .drops

/-! ### The generations of the past -/

/-- What a step makes of the connection of a number, and what it enters in the journal. -/
inductive Becomes (state : Serving η) :
    Option (Connection η) → Option (Connection η) → List (Entry η) → Prop
  | absent : Becomes state none none []
  | enters {generation : Nat}
      (among : generation ∈ state.server.acceptors ∨ generation ∈ state.taken) :
    Becomes state none (some (.accepted generation state.server.settings)) []
  | follows {old new : Connection η} {entries : List (Entry η)}
      (follows : old.Follows new entries) : Becomes state (some old) (some new) entries

/-- A generation begins. -/
def Begins (state next : Serving η) (generation : Nat) : Prop :=
  generation = state.server.nextGeneration ∧ generation < next.server.nextGeneration

/-- A step leaves the generations of the past as they are. -/
structure Proceeds (state next : Serving η) (journal : List (Nat × Entry η)) : Prop where
  later : state.server.nextGeneration ≤ next.server.nextGeneration
  listening : ∀ generation, next.server.listening.map Listening.generation = some generation →
    state.server.listening.map Listening.generation = some generation ∨
      Begins state next generation
  acceptors : ∀ generation ∈ next.server.acceptors,
    generation ∈ state.server.acceptors ∨ Begins state next generation
  taken : ∀ generation ∈ next.taken,
    generation ∈ state.taken ∨ generation ∈ state.server.acceptors
  connections : ∀ c, Becomes state (state.server.connection? c) (next.server.connection? c)
    (on c journal)

lemma Becomes.refl (state : Serving η) (present : Option (Connection η)) :
    Becomes state present present [] := by
  cases present with
  | none => exact .absent
  | some connection => exact .follows (.refl connection)

/-- The listener proceeds if the connections do. -/
lemma Proceeds.relistens {state next : Serving η} {journal : List (Nat × Entry η)}
    (relistens : Server.Relistens state.server next.server) (taken : next.taken = state.taken)
    (connections : ∀ c, Becomes state (state.server.connection? c) (next.server.connection? c)
      (on c journal)) : Proceeds state next journal := by
  have taken : ∀ generation ∈ next.taken,
      generation ∈ state.taken ∨ generation ∈ state.server.acceptors :=
    fun _ among => Or.inl (taken ▸ among)
  cases relistens with
  | same listening acceptors nextGeneration =>
    exact ⟨Nat.le_of_eq nextGeneration.symm, fun _ listens => Or.inl (listening ▸ listens),
      fun _ among => Or.inl (acceptors ▸ among), taken, connections⟩
  | starts idle listening acceptors nextGeneration =>
    have begins : Begins state next state.server.nextGeneration :=
      ⟨rfl, nextGeneration ▸ Nat.lt_succ_self _⟩
    refine ⟨nextGeneration ▸ Nat.le_succ _, fun generation listens => ?_,
      fun generation among => ?_, taken, connections⟩
    · rw [listening] at listens
      obtain rfl := Option.some.inj listens
      exact Or.inr begins
    · rw [acceptors, List.mem_append, List.mem_singleton] at among
      rcases among with before | rfl
      · exact Or.inl before
      · exact Or.inr begins
  | stops listening acceptors nextGeneration =>
    refine ⟨Nat.le_of_eq nextGeneration.symm, fun generation listens => ?_,
      fun _ among => Or.inl (acceptors ▸ among), taken, connections⟩
    rw [listening] at listens
    cases listens
  | leaves stopped listening acceptors nextGeneration =>
    refine ⟨Nat.le_of_eq nextGeneration.symm, fun _ listens => Or.inl (listening ▸ listens),
      fun generation among => ?_, taken, connections⟩
    rw [acceptors] at among
    exact Or.inl (List.mem_filter.mp among).1

/-- The connections proceed if the listener does not change. -/
lemma Proceeds.rest {state next : Serving η} {journal : List (Nat × Entry η)}
    (listening : next.server.listening = state.server.listening)
    (acceptors : ∀ generation ∈ next.server.acceptors, generation ∈ state.server.acceptors)
    (nextGeneration : next.server.nextGeneration = state.server.nextGeneration)
    (taken : ∀ generation ∈ next.taken,
      generation ∈ state.taken ∨ generation ∈ state.server.acceptors)
    (connections : ∀ c, Becomes state (state.server.connection? c) (next.server.connection? c)
      (on c journal)) : Proceeds state next journal :=
  ⟨Nat.le_of_eq nextGeneration.symm, fun _ listens => Or.inl (listening ▸ listens),
    fun generation among => Or.inl (acceptors generation among), taken, connections⟩

lemma becomes_congr {state next : Serving η}
    (same : next.server.connections = state.server.connections) (c : Nat) :
    Becomes state (state.server.connection? c) (next.server.connection? c) (on c []) := by
  rw [Server.connection?_congr same]
  exact .refl state _

lemma becomes_welcome {state : Serving η} (accounted : state.server.Accounted)
    {generation : Nat} (among : generation ∈ state.server.acceptors ∨ generation ∈ state.taken)
    (c : Nat) : Becomes state (state.server.connection? c)
      ((state.server.welcome generation).connection? c) (on c []) := by
  rw [Server.connection?_welcome]
  by_cases born : c = state.server.nextConnection
  · rw [born, accounted.unborn, if_pos rfl]
    exact .enters among
  · rw [if_neg born, Option.or_none]
    exact .refl state _

lemma becomes_replaces {state next : Serving η} {c : Nat} {old new : Connection η}
    {entries : List (Entry η)}
    (replaces : Server.Replaces c old new state.server next.server)
    (follows : old.Follows new entries) (k : Nat) :
    Becomes state (state.server.connection? k) (next.server.connection? k)
      (on k (entries.map (c, ·))) := by
  rw [Server.connection?_congr replaces.connections,
    Server.connection?_setConnection replaces.found, on_tagged]
  by_cases same : k = c
  · rw [if_pos same, if_pos same, same, replaces.found]
    exact .follows follows
  · rw [if_neg same, if_neg same]
    exact .refl state _

/-- Some connections of a server were dropped.  Each is still there, and its reader has ended. -/
structure Dropping (server between : Server η) : Prop where
  accounted : between.Accounted
  acceptors : between.acceptors = []
  listening : between.listening = server.listening
  nextGeneration : between.nextGeneration = server.nextGeneration
  connections : ∀ c, (server.connection? c = none ∧ between.connection? c = none) ∨
    ∃ first now, server.connection? c = some first ∧ between.connection? c = some now ∧
      first.Follows now []

lemma dropping_start {server : Server η} (accounted : server.Accounted) :
    Dropping server { server with acceptors := [] } := by
  refine ⟨accounted.congr rfl rfl rfl, rfl, rfl, rfl, fun c => ?_⟩
  cases found : server.connection? c with
  | none => exact Or.inl ⟨rfl, found⟩
  | some connection => exact Or.inr ⟨_, _, rfl, found, .refl connection⟩

lemma Dropping.drop {server between : Server η} {c : Nat} {old : Connection η}
    (dropping : Dropping server between) (found : between.connection? c = some old) :
    Dropping server (between.setConnection c old old.dropTasks) := by
  obtain ⟨follows, gone⟩ := old.follows_dropTasks
  have replaces := Server.replaces_setConnection found old.dropTasks
  refine ⟨dropping.accounted.replaces replaces fun served => ?_, dropping.acceptors,
    dropping.listening, dropping.nextGeneration, fun k => ?_⟩
  · rw [gone] at served
    cases served
  · rw [Server.connection?_setConnection found]
    split
    · rename_i same
      subst same
      rcases dropping.connections k with ⟨-, absent⟩ | ⟨first, now, before, here, so⟩
      · rw [absent] at found
        cases found
      · obtain rfl := Option.some.inj (here.symm.trans found)
        exact Or.inr ⟨first, now.dropTasks, before, rfl, so.trans follows⟩
    · exact dropping.connections k

lemma dropTasks_proceeds {server : Server η} (accounted : server.Accounted)
    (taken : List Nat) : server.dropTasks.Accounted ∧
      Proceeds ⟨server, taken⟩ ⟨server.dropTasks, []⟩ [] := by
  have dropped : Dropping server server.dropTasks :=
    Server.dropTasks_keeps (dropping_start accounted) fun _ _ _ dropping found =>
      dropping.drop found
  refine ⟨dropped.accounted, .rest dropped.listening (fun _ among => ?_) dropped.nextGeneration
    nofun fun c => ?_⟩
  · have among : _ ∈ server.dropTasks.acceptors := among
    rw [dropped.acceptors] at among
    cases among
  · show Becomes _ (server.connection? c) (server.dropTasks.connection? c) []
    rcases dropped.connections c with ⟨before, now⟩ | ⟨first, last, before, now, follows⟩
    · rw [before, now]
      exact .absent
    · rw [before, now]
      exact .follows follows

variable [Handles η]

/-- What the server and its tasks do leaves the generations of the past as they are. -/
lemma change_proceeds {server next : Server η} {event : Racing.Event η}
    {journal : List (Nat × Entry η)} (accounted : server.Accounted)
    (change : Change server next event journal) (taken : List Nat) :
    next.Accounted ∧ Proceeds ⟨server, taken⟩ ⟨next, taken⟩ journal := by
  cases change with
  | aside connections served nextConnection relistens =>
    exact ⟨accounted.congr connections served nextConnection,
      .relistens relistens rfl fun c => becomes_congr connections c⟩
  | @accepted generation among result =>
    rw [result]
    exact ⟨accounted.welcome generation, .rest rfl (fun _ among => among) rfl
      (fun _ among => Or.inl among) (becomes_welcome accounted (Or.inl among))⟩
  | @replaces c old new entries replaces acts =>
    have follows : old.Follows new entries := by
      rcases acts with acts | ⟨rfl, id, started⟩
      · exact acts.follows
      · exact (Connection.startJob_follows started).1
    have served : new.isServed = true → old.isServed = true := fun served => by
      by_contra gone
      rw [(follows.gone (Bool.not_eq_true _ ▸ gone)).1] at served
      cases served
    exact ⟨accounted.replaces replaces served,
      .relistens (.same replaces.listening replaces.acceptors replaces.nextGeneration) rfl
        (becomes_replaces replaces follows)⟩

lemma Turns.proceeds {state next : Serving η} {event : Event η}
    {journal : List (Nat × Entry η)} (turns : Turns state event next journal)
    (accounted : state.server.Accounted) :
    next.server.Accounted ∧ Proceeds state next journal := by
  cases turns with
  | race change => exact change_proceeds accounted change state.taken
  | starts started =>
    obtain ⟨relistens, connections, served, nextConnection⟩ := relistens_start _ _ _ started
    exact ⟨accounted.congr connections served nextConnection,
      .relistens relistens rfl (becomes_congr connections)⟩
  | takes loop =>
    refine ⟨accounted, .rest rfl (fun _ among => among) rfl (fun generation among => ?_)
      (becomes_congr rfl)⟩
    rcases List.mem_append.mp among with before | now
    · exact Or.inl before
    · exact Or.inr (List.mem_singleton.mp now ▸ loop)
  | @enters generation taken =>
    exact ⟨accounted.welcome generation, .rest rfl (fun _ among => among) rfl
      (fun _ among => Or.inl (List.mem_of_mem_erase among))
      (becomes_welcome accounted (Or.inr taken))⟩
  | drops => exact dropTasks_proceeds accounted state.taken
  | still =>
    exact ⟨accounted, .rest rfl (fun _ among => among) rfl (fun _ among => Or.inl among)
      (becomes_congr rfl)⟩

lemma proceeds_step {state : Serving η} (accounted : state.server.Accounted)
    (event : Event η) : (step state event).1.server.Accounted ∧
      Proceeds state (step state event).1 (step state event).2 :=
  (turns_step state event).proceeds accounted

/-! ### Runs -/

/-- The connections are accounted for, and everything belongs to a generation that has begun. -/
structure Sound (state : Serving η) : Prop where
  accounted : state.server.Accounted
  listening : ∀ generation, state.server.listening.map Listening.generation = some generation →
    generation < state.server.nextGeneration
  acceptors : ∀ generation ∈ state.server.acceptors, generation < state.server.nextGeneration
  taken : ∀ generation ∈ state.taken, generation < state.server.nextGeneration
  connections : ∀ c connection, state.server.connection? c = some connection →
    connection.generation < state.server.nextGeneration

omit [Handles η] in
lemma Sound.proceeds {state next : Serving η} {journal : List (Nat × Entry η)}
    (sound : Sound state) (accounted : next.server.Accounted)
    (proceeds : Proceeds state next journal) : Sound next := by
  have later : ∀ {generation}, generation < state.server.nextGeneration →
      generation < next.server.nextGeneration :=
    fun before => Nat.lt_of_lt_of_le before proceeds.later
  refine ⟨accounted, fun generation listens => ?_, fun generation among => ?_,
    fun generation among => ?_, fun c connection found => ?_⟩
  · rcases proceeds.listening generation listens with before | begins
    · exact later (sound.listening generation before)
    · exact begins.2
  · rcases proceeds.acceptors generation among with before | begins
    · exact later (sound.acceptors generation before)
    · exact begins.2
  · rcases proceeds.taken generation among with before | now
    · exact later (sound.taken generation before)
    · exact later (sound.acceptors generation now)
  · have becomes := proceeds.connections c
    rw [found] at becomes
    generalize before : state.server.connection? c = present at becomes
    generalize on c journal = entries at becomes
    cases becomes with
    | enters among =>
      rcases among with loop | taken
      · exact later (sound.acceptors _ loop)
      · exact later (sound.taken _ taken)
    | follows follows =>
      rw [follows.generation]
      exact later (sound.connections c _ before)

lemma Sound.step {state : Serving η} (sound : Sound state) (event : Event η) :
    Sound (step state event).1 := by
  obtain ⟨accounted, proceeds⟩ := proceeds_step sound.accounted event
  exact sound.proceeds accounted proceeds

omit [Handles η] in
lemma sound_create {registry : Registry} {settings : ServerSettings} {server : Server η}
    (created : Server.create registry settings = .ok server) : Sound ⟨server, []⟩ := by
  have accounted := Server.accounted_create created
  unfold Server.create at created
  split at created
  · cases created
  · cases created
    exact ⟨accounted, nofun, nofun, nofun, nofun⟩

theorem sound_run {state : Serving η} (sound : Sound state) (events : List (Event η)) :
    Sound (run state events).1 :=
  Machine.run_invariant (fun _ event holds => holds.step event) sound events

/-- A connection keeps its generation, and once it is not served any more, that is for good. -/
theorem follows_run {state : Serving η} (sound : Sound state) {c : Nat} {old : Connection η}
    (found : state.server.connection? c = some old) (events : List (Event η)) :
    ∃ new, (run state events).1.server.connection? c = some new ∧
      old.Follows new (on c (run state events).2) := by
  induction events generalizing state old with
  | nil => exact ⟨old, found, .refl old⟩
  | cons event rest ih =>
    have becomes := (proceeds_step sound.accounted event).2.connections c
    rw [found] at becomes
    generalize present : (step state event).1.server.connection? c = now at becomes
    generalize entries : on c (step state event).2 = entered at becomes
    cases becomes with
    | follows first =>
      obtain ⟨new, here, follows⟩ := ih (sound.step event) present
      refine ⟨new, here, ?_⟩
      unfold run
      rw [Machine.run_cons, on_append, entries]
      exact first.trans follows

end Serving

end RemoteCall
