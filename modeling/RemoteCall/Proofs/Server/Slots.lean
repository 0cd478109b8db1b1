import RemoteCall.Proofs.Server.Ledger
import RemoteCall.Proofs.Server.Turns

/-!
# Handler slots

All connections of a server share its handler slots.  A slot is free, or it is occupied by a job;
the connections whose readers wait for one are in a queue.  `Slotted` says that the slots are
accounted for: the free ones and the occupied ones are always as many as the server was created
with, no two jobs occupy the same slot, and in the queue is everybody who waits.

A step of the server changes this in one of three ways (`Turn`): it leaves the slots, it gives one
away, or it gets one back.  The invariant is kept because of the shape of a step alone; how the
steps of a server come to have this shape is shown once (`turn_of_steps`).

A free slot does not stay free while somebody waits: the number of free slots and the queue are
changed together, in `grant`, and a grant is possible whenever there is a free slot and somebody
waits.  The server is not forced to grant at once, since the task that hands slots out runs when it
is scheduled.

The queue is kept apart from the slots (`Queued`).  A connection enters it with the look-up of a
registered request and leaves it when it is granted a slot, or when its reader ends; it is never in
it twice, since a reader that waits looks up nothing.

## Main statements

* `turn_of_steps` — every step leaves the slots, gives one away or gets one back.
-/

namespace RemoteCall

open Racing

variable {η : Type}

namespace Server

/-! ## Occupied slots -/

/-- The occupied slots of a server. -/
def occupants (server : Server η) : List (Occupant η) :=
  server.connections.flatMap fun entry => entry.2.occupants entry.1

/-- The jobs whose handlers run. -/
def executing (server : Server η) : List (Job η) :=
  (server.connections.flatMap fun entry => entry.2.jobs).filter (·.stage = .executing)

lemma length_executing_le (server : Server η) :
    server.executing.length ≤ server.occupants.length := by
  have total : (server.connections.flatMap fun entry => entry.2.jobs).length =
      server.occupants.length := by
    unfold occupants Connection.occupants
    rw [List.length_flatMap, List.length_flatMap]
    simp only [List.length_map]
  rw [← total]
  exact List.length_filter_le _ _

lemma occupants_congr {server next : Server η} (same : next.connections = server.connections) :
    next.occupants = server.occupants := by
  unfold occupants
  rw [same]

lemma exists_job_of_mem {server : Server η}
    (distinct : (server.connections.map Prod.fst).Nodup) {occupant : Occupant η}
    (among : occupant ∈ server.occupants) :
    ∃ c connection, ∃ job ∈ connection.jobs, server.connection? c = some connection ∧
      occupant = job.occupant c := by
  obtain ⟨⟨c, connection⟩, present, here⟩ := List.mem_flatMap.mp among
  obtain ⟨job, running, rfl⟩ := List.mem_map.mp here
  refine ⟨c, connection, job, running, ?_, rfl⟩
  obtain ⟨front, back, split⟩ := List.append_of_mem present
  rw [split, List.map_append, List.map_cons, List.nodup_middle, ← List.map_append,
    List.nodup_cons] at distinct
  refine List.lookup_eq_some_iff.mpr ⟨front, back, split, fun entry before => ?_⟩
  refine bne_iff_ne.mpr fun same => distinct.1 ?_
  exact List.mem_map.mpr ⟨entry, List.mem_append_left _ before, same.symm⟩

/-- What is replaced are the slots of the connection. -/
lemma occupants_setConnection {server : Server η} {c : Nat} {old : Connection η}
    (distinct : (server.connections.map Prod.fst).Nodup)
    (found : server.connection? c = some old) (new : Connection η) :
    ∃ front back, server.occupants = front ++ old.occupants c ++ back ∧
      (server.setConnection c old new).occupants = front ++ new.occupants c ++ back := by
  obtain ⟨front, back, before, after⟩ := connections_setConnection distinct found new
  refine ⟨front.flatMap fun entry => entry.2.occupants entry.1,
    back.flatMap fun entry => entry.2.occupants entry.1, ?_, ?_⟩
  · unfold occupants
    rw [before, List.flatMap_append, List.flatMap_cons, List.append_assoc]
  · unfold occupants
    rw [after, List.flatMap_append, List.flatMap_cons, List.append_assoc]

end Server

namespace Racing

/-- In the queue are the connections whose readers wait for a slot, each once. -/
structure Queued (server : Server η) : Prop where
  distinct : server.slotQueue.Nodup
  waiting : ∀ c, c ∈ server.slotQueue ↔
    ∃ connection, server.connection? c = some connection ∧ connection.reader.underway ≠ []

/-- The slots of a server are accounted for. -/
structure Slotted (n : Nat) (server : Server η) : Prop where
  numbers : (server.connections.map Prod.fst).Nodup
  ids : (server.occupants.map Occupant.job).Nodup
  total : server.freeSlots + server.occupants.length = n
  queued : Queued server

/-- What a step does to the slots of a server. -/
inductive Turn (server next : Server η) (entries : List (Nat × Entry η)) : Prop
  /-- All jobs go on.  If a reply was queued or dropped, it was the reader's. -/
  | keeps (occupants : next.occupants = server.occupants)
      (free : next.freeSlots = server.freeSlots)
      (readers : ∀ c, ∀ reply ∈ settled (on c entries), ∃ connection,
        server.connection? c = some connection ∧ connection.Sends .reader reply)
  /-- A free slot is given to the request for which the first connection in the queue waits. -/
  | takes {occupant : Occupant η} {connection : Connection η}
      (occupants : next.occupants.Perm (occupant :: server.occupants))
      (number : occupant.job = server.nextJob)
      (fresh : occupant.job ∉ server.occupants.map Occupant.job)
      (free : server.freeSlots = next.freeSlots + 1)
      (first : server.slotQueue = occupant.connection :: next.slotQueue)
      (found : server.connection? occupant.connection = some connection)
      (awaits : connection.reader = .awaitingSlot occupant.registration occupant.request)
      (silent : entries = [])
  /-- A job gives its slot back, because its reply was queued or dropped. -/
  | returns {occupant : Occupant η} {connection : Connection η} {job : Job η} {reply : Frame}
      (occupants : server.occupants.Perm (occupant :: next.occupants))
      (free : next.freeSlots = server.freeSlots + 1)
      (found : server.connection? occupant.connection = some connection)
      (among : connection.job? occupant.job = some job)
      (ready : job.stage.reply? = some reply)
      (sends : connection.Sends (.job occupant.job) reply)
      (settles : settled (on occupant.connection entries) = [reply])

variable {n : Nat} {server next : Server η} {entries : List (Nat × Entry η)}

lemma occupants_accept {generation : Nat} (accepted : server.accept generation = some next) :
    next.occupants = server.occupants ∧ next.freeSlots = server.freeSlots ∧
      next.slotQueue = server.slotQueue ∧ next.nextJob = server.nextJob ∧
      next.connections.map Prod.fst =
        server.connections.map Prod.fst ++ [server.nextConnection] := by
  unfold Server.accept at accepted
  split at accepted
  · cases accepted
    refine ⟨?_, rfl, rfl, rfl, List.map_append⟩
    unfold Server.occupants
    dsimp only
    rw [List.flatMap_append]
    exact List.append_nil _
  · cases accepted

/-- The slot of a job that starts comes behind the others of its connection. -/
lemma occupants_startJob {old new : Connection η} {id : Nat}
    (started : old.startJob id = some new) :
    ∃ registration request, old.reader = .awaitingSlot registration request ∧
      new.reader = .reading ∧
      ∀ c, new.occupants c = old.occupants c ++ [⟨c, id, registration, request⟩] := by
  obtain ⟨registration, request, awaits, rfl⟩ := Connection.startJob_cases started
  exact ⟨registration, request, awaits, rfl, fun _ => List.map_append⟩

lemma turn_acted {c : Nat} {old new : Connection η} {entries : List (Entry η)}
    (slotted : Slotted n server) (found : server.connection? c = some old)
    (turn : old.Turn new entries) (orderly : old.Orderly) :
    Turn server (acted server c old new entries) (entries.map (c, ·)) := by
  obtain ⟨front, back, before, after⟩ :=
    Server.occupants_setConnection slotted.numbers found new
  have after : (acted server c old new entries).occupants = front ++ new.occupants c ++ back :=
    after
  cases turn with
  | keeps occupants readers =>
    have length : new.jobs.length = old.jobs.length := by
      have same := congrArg List.length (occupants c)
      rwa [Connection.occupants, Connection.occupants, List.length_map, List.length_map] at same
    refine .keeps ?_ ?_ ?_
    · rw [after, before, occupants]
    · show server.freeSlots + (old.jobs.length - new.jobs.length) = server.freeSlots
      omega
    · intro k reply among
      rw [on_tagged] at among
      split at among
      · rename_i same
        subst same
        exact ⟨old, found, readers reply among⟩
      · cases among
  -- the job that ends is one occupant of this connection, and so one of the server, wherever it
  -- stands in the list
  | @ends job reply running ready sends jobs settles =>
    obtain ⟨earlier, later, split, others⟩ :=
      orderly.exists_place (orderly.job?_eq_some.mp running).1
    have lost : old.occupants c =
        earlier.map (Job.occupant c) ++ job.occupant c :: later.map (Job.occupant c) := by
      unfold Connection.occupants
      rw [split, List.map_append, List.map_cons]
    have left : new.occupants c =
        earlier.map (Job.occupant c) ++ later.map (Job.occupant c) := by
      unfold Connection.occupants
      rw [jobs, others, List.map_append]
    have length : old.jobs.length = new.jobs.length + 1 := by
      rw [jobs, others, split, List.length_append, List.length_cons, List.length_append]
      omega
    have fewer : server.occupants.Perm
        (job.occupant c :: (acted server c old new entries).occupants) := by
      rw [after, before, lost, left, ← List.append_assoc, ← List.append_assoc, List.append_assoc,
        List.cons_append, List.append_assoc _ _ back]
      exact List.perm_middle
    refine .returns fewer ?_ found running ready sends ?_
    · show server.freeSlots + (old.jobs.length - new.jobs.length) = server.freeSlots + 1
      omega
    · rw [on_tagged]
      exact (congrArg settled (if_pos rfl)).trans settles

variable [Handles η]

lemma turn_grant {settings : ServerSettings} {registry : Registry}
    {journal : List (Nat × Entry η)} (slotted : Slotted n server)
    (kept : Kept registry settings server journal) (granted : server.grant = some next) :
    Turn server next [] := by
  obtain ⟨c, rest, free, old, new, queue, slots, found, started, rfl⟩ :=
    Server.grant_eq_some granted
  obtain ⟨registration, request, awaits, -, occupants⟩ := occupants_startJob started
  obtain ⟨front, back, before, after⟩ :=
    Server.occupants_setConnection slotted.numbers found new
  have more : (server.setConnection c old new).occupants.Perm
      (⟨c, server.nextJob, registration, request⟩ :: server.occupants) := by
    rw [after, before, occupants, ← List.append_assoc, List.append_assoc]
    exact List.perm_middle
  refine .takes more rfl ?_ slots queue found awaits rfl
  intro present
  obtain ⟨occupant, among, same⟩ := List.mem_map.mp present
  obtain ⟨k, connection, job, running, here, rfl⟩ :=
    Server.exists_job_of_mem slotted.numbers among
  have spent := kept.spent k connection here job.id (List.mem_map_of_mem running)
  exact absurd same (Nat.ne_of_lt spent)

section

variable {settings : ServerSettings} {registry : Registry} {journal : List (Nat × Entry η)}

/-- Every step leaves the slots, gives one away or gets one back. -/
theorem turn_of_steps (slotted : Slotted n server)
    (kept : Kept registry settings server journal) (steps : Steps server next entries) :
    Turn server next entries := by
  cases steps with
  | aside connections _ _ _ _ freeSlots _ =>
    exact .keeps (Server.occupants_congr connections) freeSlots nofun
  | accepted accepted =>
    obtain ⟨occupants, free, -⟩ := occupants_accept accepted
    exact .keeps occupants free nofun
  | starts _ _ _ granted => exact turn_grant slotted kept granted
  | acts acts touches result =>
    have orderly := (kept.books _ _ touches.found).orderly
    rw [result]
    exact turn_acted slotted touches.found (acts.turn orderly) orderly

/-! ### The slots stay accounted for -/

omit [Handles η] in
lemma Turn.total (turn : Turn server next entries) :
    next.freeSlots + next.occupants.length = server.freeSlots + server.occupants.length := by
  cases turn with
  | keeps occupants free => rw [occupants, free]
  | takes occupants _ _ free =>
    rw [occupants.length_eq, List.length_cons, free]
    omega
  | returns occupants free =>
    rw [occupants.length_eq, List.length_cons, free]
    omega

omit [Handles η] in
lemma Turn.ids (turn : Turn server next entries)
    (ids : (server.occupants.map Occupant.job).Nodup) :
    (next.occupants.map Occupant.job).Nodup := by
  cases turn with
  | keeps occupants => exact occupants ▸ ids
  | takes occupants _ fresh =>
    rw [(occupants.map _).nodup_iff, List.map_cons]
    exact List.nodup_cons.mpr ⟨fresh, ids⟩
  | returns occupants =>
    rw [(occupants.map _).nodup_iff, List.map_cons] at ids
    exact (List.nodup_cons.mp ids).2

/-! ### The queue -/

omit [Handles η] in
lemma underway_of_ended {connection : Connection η} (ended : connection.isServed = false) :
    connection.reader.underway = [] := by
  rw [(Connection.isServed_eq connection).mp ended]
  rfl

omit [Handles η] in
lemma length_underway_le (reader : Reader η) : reader.underway.length ≤ 1 := by
  cases reader with
  | awaitingSlot => exact Nat.le_refl 1
  | reading | answering | queueing | ended => exact Nat.zero_le 1

omit [Handles η] in
/-- A connection that has acted waits for a slot if it has waited and its reader goes on, or if its
reader has looked up a registered request. -/
lemma queued_acted {c : Nat} {old new : Connection η} {entries : List (Entry η)}
    (queued : Queued server) (found : server.connection? c = some old)
    (waits : (known (looked entries) ≠ [] → new.isServed = true) ∧
      (new.isServed = true → old.isServed = true ∧
        new.reader.underway = old.reader.underway ++ known (looked entries)))
    (touches : Server.Touches c old new server (acted server c old new entries)) :
    Queued (acted server c old new entries) := by
  obtain ⟨distinct, waiting⟩ := queued
  -- The connection itself, the others, and the queue after the action.
  have here : c ∈ server.slotQueue ↔ old.reader.underway ≠ [] := by
    rw [waiting]
    constructor
    · rintro ⟨connection, same, waits⟩
      obtain rfl := Option.some.inj (found.symm.trans same)
      exact waits
    · exact fun waits => ⟨old, found, waits⟩
  have elsewhere : ∀ k, k ≠ c → ((∃ connection,
      (acted server c old new entries).connection? k = some connection ∧
        connection.reader.underway ≠ []) ↔ k ∈ server.slotQueue) := by
    intro k other
    rw [touches.connections, if_neg other]
    exact (waiting k).symm
  have there : (∃ connection, (acted server c old new entries).connection? c = some connection ∧
      connection.reader.underway ≠ []) ↔ new.reader.underway ≠ [] := by
    rw [touches.connections, if_pos rfl]
    simp only [Option.some.injEq, exists_eq_left']
  have queue : (acted server c old new entries).slotQueue =
      (if new.isServed then server.slotQueue else server.slotQueue.filter (· ≠ c)) ++
        (known (looked entries)).map fun _ => c := rfl
  -- A connection whose reader has ended is taken out of the queue, wherever it was. One that goes
  -- on comes last if it has looked a registered request up, and stays where it is otherwise.
  cases served : new.isServed with
  | false =>
    have unknown : known (looked entries) = [] := by
      by_contra some
      rw [waits.1 some] at served
      cases served
    rw [served, unknown, List.map_nil, List.append_nil] at queue
    refine ⟨queue ▸ distinct.filter _, fun k => ?_⟩
    rw [queue]
    simp only [Bool.false_eq_true, if_false, List.mem_filter, decide_eq_true_eq]
    by_cases same : k = c
    · subst same
      rw [there, underway_of_ended served]
      simp
    · rw [elsewhere k same]
      simp [same]
  | true =>
    obtain ⟨-, underway⟩ := waits.2 served
    rw [served, if_pos rfl] at queue
    cases unknown : known (looked entries) with
    | nil =>
      rw [unknown, List.map_nil, List.append_nil] at queue
      rw [unknown, List.append_nil] at underway
      refine ⟨queue ▸ distinct, fun k => ?_⟩
      rw [queue]
      by_cases same : k = c
      · subst same
        rw [there, underway]
        exact here
      · exact (elsewhere k same).symm
    | cons request more =>
      -- A reader has one request under way, so it had none before, and was not in the queue.
      have few := length_underway_le new.reader
      rw [underway, unknown, List.length_append, List.length_cons] at few
      obtain rfl : more = [] := List.eq_nil_of_length_eq_zero (by omega)
      have idle : old.reader.underway = [] := List.eq_nil_of_length_eq_zero (by omega)
      have absent : c ∉ server.slotQueue := fun present => here.mp present idle
      rw [unknown] at queue
      rw [unknown, idle] at underway
      refine ⟨?_, fun k => ?_⟩
      · rw [queue, List.nodup_append_comm]
        exact List.nodup_cons.mpr ⟨absent, distinct⟩
      · rw [queue, List.map_singleton, List.mem_append, List.mem_singleton]
        by_cases same : k = c
        · subst same
          rw [there, underway]
          simp
        · rw [elsewhere k same, or_iff_left same]

omit [Handles η] in
/-- A connection that was just accepted waits for nothing. -/
lemma queued_accept (queued : Queued server)
    (unborn : server.connection? server.nextConnection = none) {generation : Nat}
    (accepted : server.accept generation = some next) : Queued next := by
  obtain ⟨-, -, queue, -⟩ := occupants_accept accepted
  refine ⟨queue ▸ queued.distinct, fun k => ?_⟩
  rw [queue, queued.waiting, Server.connection?_accept accepted]
  by_cases born : k = server.nextConnection
  · subst born
    rw [unborn, if_pos rfl, Option.none_or]
    constructor
    · rintro ⟨connection, found, -⟩
      cases found
    · rintro ⟨connection, found, waits⟩
      obtain rfl := Option.some.inj found
      exact absurd rfl waits
  · rw [if_neg born, Option.or_none]

omit [Handles η] in
/-- The first connection leaves the queue with the slot that it is given. -/
lemma queued_grant (queued : Queued server) (granted : server.grant = some next) :
    Queued next := by
  obtain ⟨c, rest, free, old, new, queue, -, found, started, rfl⟩ :=
    Server.grant_eq_some granted
  obtain ⟨registration, request, -, reading, -⟩ := occupants_startJob started
  have distinct := queued.distinct
  rw [queue, List.nodup_cons] at distinct
  refine ⟨distinct.2, fun k => ?_⟩
  have connections : (server.setConnection c old new).connection? k = _ :=
    Server.connection?_setConnection found new k
  show k ∈ rest ↔ ∃ connection, (server.setConnection c old new).connection? k =
    some connection ∧ connection.reader.underway ≠ []
  rw [connections]
  by_cases same : k = c
  · subst same
    rw [if_pos rfl]
    simp only [Option.some.injEq, exists_eq_left', reading]
    exact ⟨fun present => absurd present distinct.1, fun waits => absurd rfl waits⟩
  · rw [if_neg same, ← queued.waiting, queue, List.mem_cons, or_iff_right same]

lemma queued_of_steps (slotted : Slotted n server)
    (kept : Kept registry settings server journal) (steps : Steps server next entries) :
    Queued next := by
  have queued := slotted.queued
  cases steps with
  | aside connections _ _ _ _ _ slotQueue =>
    refine ⟨slotQueue ▸ queued.distinct, fun k => ?_⟩
    rw [slotQueue, Server.connection?_congr connections]
    exact queued.waiting k
  | accepted accepted => exact queued_accept queued (kept.unborn _ (Nat.le_refl _)) accepted
  | starts _ _ _ granted => exact queued_grant queued granted
  | acts acts touches result =>
    have orderly := (kept.books _ _ touches.found).orderly
    subst result
    exact queued_acted queued touches.found (acts.waits orderly) touches

lemma numbers_of_steps (slotted : Slotted n server)
    (kept : Kept registry settings server journal) (steps : Steps server next entries) :
    (next.connections.map Prod.fst).Nodup := by
  cases steps with
  | aside connections => exact connections ▸ slotted.numbers
  | accepted accepted =>
    obtain ⟨-, -, -, -, numbers⟩ := occupants_accept accepted
    have unborn := List.lookup_eq_none_iff.mp (kept.unborn _ (Nat.le_refl _))
    rw [numbers, List.nodup_append_comm, List.singleton_append, List.nodup_cons]
    refine ⟨fun present => ?_, slotted.numbers⟩
    obtain ⟨entry, among, same⟩ := List.mem_map.mp present
    exact bne_iff_ne.mp (unborn entry among) same.symm
  | starts _ _ _ granted =>
    obtain ⟨c, rest, free, old, new, -, -, -, -, rfl⟩ := Server.grant_eq_some granted
    exact (server.numbers_setConnection c old new).symm ▸ slotted.numbers
  | @acts c old new entries acts touches result =>
    rw [result]
    exact (server.numbers_setConnection c old new).symm ▸ slotted.numbers

lemma Slotted.steps (slotted : Slotted n server)
    (kept : Kept registry settings server journal) (steps : Steps server next entries) :
    Slotted n next := by
  have turn := turn_of_steps slotted kept steps
  exact ⟨numbers_of_steps slotted kept steps, turn.ids slotted.ids,
    turn.total.trans slotted.total, queued_of_steps slotted kept steps⟩

omit [Handles η] in
lemma fields_create {server : Server η}
    (created : Server.create registry settings = .ok server) :
    0 < settings.maxHandlers ∧ server.freeSlots = settings.maxHandlers ∧
      server.connections = [] ∧ server.slotQueue = [] := by
  unfold Server.create ServerSettings.validate at created
  by_cases slots : settings.maxHandlers = 0
  · rw [if_pos slots] at created
    cases created
  · rw [if_neg slots] at created
    split at created
    · cases created
    · cases created
      exact ⟨Nat.pos_of_ne_zero slots, rfl, rfl, rfl⟩

omit [Handles η] in
lemma slotted_create {server : Server η}
    (created : Server.create registry settings = .ok server) :
    Slotted settings.maxHandlers server := by
  obtain ⟨-, free, none, queue⟩ := fields_create created
  have unoccupied : server.occupants = [] := by
    rw [Server.occupants, none, List.flatMap_nil]
  refine ⟨none ▸ List.nodup_nil, unoccupied ▸ List.nodup_nil, ?_, queue ▸ List.nodup_nil,
    fun c => ?_⟩
  · rw [unoccupied, free]
    rfl
  · rw [queue, Server.connection?, none]
    simp

end

end Racing

end RemoteCall
