import Mathlib
import RemoteCall.Proofs.Server.Replies
import RemoteCall.Proofs.Server.Slots

/-!
# Slots over a whole run

What a run has done to the slots can be read off the jobs before and after each of its steps: a job
that is new has taken a slot, and a job that is gone has given one back (`taken`, `returned`).
`Turnover` balances the two against the slots that are occupied.  `Dispatched` compares the slots
that were taken on a connection with the requests that it has looked up: they were taken in order,
for each registered request once, and at most the last one is still without.

Neither of the two is in the state of the server, so a run is looked at from outside: `along`
gathers what a view shows of each step.  A job's slot is known by the ID of the job, which is not
given twice (`Accounts`), so a slot that was given back is not given back again.

A handler that panics ends like one that returns.  There is no action by which a slot is lost
without its job, and so none is lost.

A request for an unknown call takes no slot and waits for none; the reader answers it by itself
(`slots_of_unknown`).

## Main statements

* `Racing.slots_bounded` — slots over every run of a server: none is lost, none is used twice, and a
  request that waits for one gets it unless its connection ends.
-/

namespace RemoteCall

namespace Racing

variable {η : Type}

/-! ## What is taken and what is given back -/

/-- The slots that a step gives away: their jobs were not there before. -/
def taken (server next : Server η) : List (Occupant η) :=
  next.occupants.filter fun occupant => occupant.job ∉ server.occupants.map Occupant.job

/-- The slots that a step gets back: their jobs are not there any more. -/
def returned (server next : Server η) : List (Occupant η) := taken next server

/-- The requests on a connection for which slots were taken, in order. -/
def startedOn (c : Nat) (occupants : List (Occupant η)) : List (Registration η × Frame) :=
  (occupants.filter (·.connection = c)).map fun occupant =>
    (occupant.registration, occupant.request)

lemma startedOn_append (c : Nat) (first second : List (Occupant η)) :
    startedOn c (first ++ second) = startedOn c first ++ startedOn c second := by
  unfold startedOn
  rw [List.filter_append, List.map_append]

lemma startedOn_singleton (c : Nat) (occupant : Occupant η) :
    startedOn c [occupant] =
      if occupant.connection = c then [(occupant.registration, occupant.request)] else [] := by
  unfold startedOn
  rw [List.filter_singleton]
  by_cases same : occupant.connection = c
  · rw [if_pos same, decide_eq_true same]
    rfl
  · rw [if_neg same, decide_eq_false same]
    rfl

section

variable {server next : Server η} {entries : List (Nat × Entry η)}

lemma taken_of_subset (subset : next.occupants ⊆ server.occupants) :
    taken server next = [] := by
  unfold taken
  rw [List.filter_eq_nil_iff]
  intro occupant among
  simpa using List.mem_map_of_mem (subset among)

lemma taken_of_eq (same : next.occupants = server.occupants) : taken server next = [] :=
  taken_of_subset (same ▸ List.Subset.refl _)

lemma taken_of_perm {occupant : Occupant η}
    (occupants : next.occupants.Perm (occupant :: server.occupants))
    (fresh : occupant.job ∉ server.occupants.map Occupant.job) :
    taken server next = [occupant] ∧ taken next server = [] := by
  constructor
  · have others : server.occupants.filter
        (fun other => other.job ∉ server.occupants.map Occupant.job) = [] := taken_of_eq rfl
    rw [← List.perm_singleton]
    have both := occupants.filter fun other => other.job ∉ server.occupants.map Occupant.job
    rwa [List.filter_cons_of_pos (by simpa using fresh), others] at both
  · refine taken_of_subset fun other among => ?_
    exact occupants.mem_iff.mpr (List.mem_cons_of_mem _ among)

/-- A step takes a slot, or gets one back, or neither. -/
lemma Turn.cases (turn : Turn server next entries)
    (ids : (server.occupants.map Occupant.job).Nodup) :
    (taken server next = [] ∧ returned server next = [] ∧
        next.occupants = server.occupants) ∨
      (∃ occupant, taken server next = [occupant] ∧ returned server next = [] ∧
        occupant.job = server.nextJob ∧ next.occupants.Perm (occupant :: server.occupants)) ∨
      ∃ occupant, taken server next = [] ∧ returned server next = [occupant] ∧
        server.occupants.Perm (occupant :: next.occupants) := by
  cases turn with
  | keeps occupants =>
    exact Or.inl ⟨taken_of_eq occupants, taken_of_eq occupants.symm, occupants⟩
  | takes occupants number fresh =>
    obtain ⟨taken, returned⟩ := taken_of_perm occupants fresh
    exact Or.inr (Or.inl ⟨_, taken, returned, number, occupants⟩)
  | returns occupants =>
    rw [(occupants.map _).nodup_iff, List.map_cons, List.nodup_cons] at ids
    obtain ⟨returned, taken⟩ := taken_of_perm occupants ids.1
    exact Or.inr (Or.inr ⟨_, taken, returned, occupants⟩)

end

/-- A slot is taken only from those that were free. -/
lemma Turn.taken_eq_nil (turn : Turn server next entries)
    (free : server.freeSlots ≤ next.freeSlots) : taken server next = [] := by
  cases turn with
  | keeps occupants => exact taken_of_eq occupants
  | takes _ _ _ fewer => omega
  | returns occupants =>
    refine taken_of_subset fun other among => ?_
    exact occupants.mem_iff.mpr (List.mem_cons_of_mem _ among)

/-- The slots that were taken and given back so far. -/
structure Turnover (server : Server η) (taken returned : List (Occupant η)) : Prop where
  earlier : ∀ id ∈ taken.map Occupant.job, id < server.nextJob
  /-- No job takes two slots. -/
  once : (taken.map Occupant.job).Nodup
  /-- What was taken is occupied or was given back. -/
  balance : taken.Perm (server.occupants ++ returned)

open scoped List in
/-- A step adds to what was taken or to what was given back. -/
lemma Turnover.turn {server next : Server η} {entries : List (Nat × Entry η)}
    {before after : List (Occupant η)} (turnover : Turnover server before after)
    (turn : Turn server next entries) (ids : (server.occupants.map Occupant.job).Nodup)
    (later : server.nextJob ≤ next.nextJob)
    (spent : ∀ occupant ∈ next.occupants, occupant.job < next.nextJob) :
    Turnover next (before ++ taken server next) (after ++ returned server next) := by
  have earlier : ∀ id ∈ before.map Occupant.job, id < next.nextJob := fun id among =>
    Nat.lt_of_lt_of_le (turnover.earlier id among) later
  rcases turn.cases ids with ⟨none, nothing, same⟩ |
    ⟨occupant, one, nothing, number, occupants⟩ | ⟨occupant, none, one, occupants⟩
  · rw [none, nothing, List.append_nil, List.append_nil]
    exact ⟨earlier, turnover.once, same ▸ turnover.balance⟩
  · rw [one, nothing, List.append_nil]
    refine ⟨?_, ?_, ?_⟩
    · intro id among
      rw [List.map_append, List.mem_append] at among
      rcases among with before | last
      · exact earlier id before
      · rw [List.mem_singleton.mp last]
        exact spent occupant (occupants.mem_iff.mpr List.mem_cons_self)
    · rw [List.map_append, List.nodup_append_comm]
      refine List.nodup_cons.mpr ⟨fun present => ?_, turnover.once⟩
      exact absurd number (Nat.ne_of_lt (turnover.earlier _ present))
    · calc before ++ [occupant]
          ~ occupant :: before := List.perm_append_singleton _ _
        _ ~ occupant :: (server.occupants ++ after) := turnover.balance.cons _
        _ ~ next.occupants ++ after := (occupants.symm.append_right after)
  · rw [none, one, List.append_nil]
    refine ⟨earlier, turnover.once, ?_⟩
    calc before
        ~ server.occupants ++ after := turnover.balance
      _ ~ (occupant :: next.occupants) ++ after := occupants.append_right after
      _ ~ next.occupants ++ after ++ [occupant] := (List.perm_append_singleton _ _).symm
      _ = next.occupants ++ (after ++ [occupant]) := List.append_assoc _ _ _

/-! ## Requests and their slots -/

/-- Slots were taken for the registered requests that a connection has looked up, in order. -/
structure Dispatched (history : List (Entry η)) (started : List (Registration η × Frame))
    (connection : Connection η) : Prop where
  /-- While the reader goes on, only the request for which it waits has no slot. -/
  served : connection.isServed = true →
    known (looked history) = started ++ connection.reader.underway
  /-- Once the reader has ended, the last request may be without a slot. -/
  ended : ∃ lost, lost.length ≤ 1 ∧ known (looked history) = started ++ lost

variable {history entries : List (Entry η)} {started : List (Registration η × Frame)}
  {old new connection : Connection η}

lemma Dispatched.of_served (served : connection.isServed = true →
    known (looked history) = started ++ connection.reader.underway)
    (ended : connection.isServed = false → ∃ lost, lost.length ≤ 1 ∧
      known (looked history) = started ++ lost) : Dispatched history started connection := by
  refine ⟨served, ?_⟩
  cases goes : connection.isServed with
  | true => exact ⟨_, length_underway_le connection.reader, served goes⟩
  | false => exact ended goes

lemma Dispatched.acts (dispatched : Dispatched history started old)
    (waits : (known (looked entries) ≠ [] → new.isServed = true) ∧
      (new.isServed = true → old.isServed = true ∧
        new.reader.underway = old.reader.underway ++ known (looked entries))) :
    Dispatched (history ++ entries) started new := by
  have history_append : known (looked (history ++ entries)) =
      known (looked history) ++ known (looked entries) := by
    rw [looked_append, known_append]
  refine .of_served (fun served => ?_) (fun ended => ?_)
  · obtain ⟨before, underway⟩ := waits.2 served
    rw [history_append, dispatched.served before, underway, List.append_assoc]
  · have unknown : known (looked entries) = [] := by
      by_contra some
      rw [waits.1 some] at ended
      cases ended
    rw [history_append, unknown, List.append_nil]
    exact dispatched.ended

lemma Dispatched.starts (dispatched : Dispatched history started old)
    {registration : Registration η} {request : Frame}
    (awaits : old.reader = .awaitingSlot registration request) (reading : new.reader = .reading) :
    Dispatched history (started ++ [(registration, request)]) new := by
  have before := dispatched.served (by rw [Connection.isServed, awaits])
  rw [awaits] at before
  refine .of_served (fun _ => ?_) (fun _ => ⟨[], Nat.zero_le 1, ?_⟩)
  · rw [before, reading]
    exact (List.append_nil _).symm
  · rw [before]
    exact (List.append_nil _).symm

/-- Connections that were not accepted have taken no slot. -/
structure Requests (server : Server η) (journal : List (Nat × Entry η))
    (before : List (Occupant η)) : Prop where
  dispatched : ∀ c connection, server.connection? c = some connection →
    Dispatched (on c journal) (startedOn c before) connection
  unborn : ∀ c, server.connection? c = none → startedOn c before = []

section

variable {server next : Server η} {entries journal : List (Nat × Entry η)}
  {settings : ServerSettings} {registry : Registry} {n : Nat} {before : List (Occupant η)}

/-- Without a slot that is taken, the requests are those of the connections that were there. -/
lemma Requests.congr (requests : Requests server journal before)
    (silent : ∀ c, server.connection? c = none → on c journal = [])
    (connections : ∀ c connection, next.connection? c = some connection →
      server.connection? c = some connection ∨
        server.connection? c = none ∧ connection.isServed = true ∧
          connection.reader.underway = [])
    (unborn : ∀ c, next.connection? c = none → server.connection? c = none) :
    Requests next journal before := by
  refine ⟨fun c connection found => ?_, fun c absent => requests.unborn c (unborn c absent)⟩
  rcases connections c connection found with same | ⟨absent, served, idle⟩
  · exact requests.dispatched c connection same
  · rw [silent c absent, requests.unborn c absent]
    refine .of_served (fun _ => by rw [idle]; rfl) (fun ended => ?_)
    rw [served] at ended
    cases ended

lemma Requests.acted (requests : Requests server journal before) {c : Nat}
    {old new : Connection η} {entries : List (Entry η)}
    (touches : Server.Touches c old new server next)
    (waits : (known (looked entries) ≠ [] → new.isServed = true) ∧
      (new.isServed = true → old.isServed = true ∧
        new.reader.underway = old.reader.underway ++ known (looked entries))) :
    Requests next (journal ++ entries.map (c, ·)) before := by
  refine ⟨fun k connection found => ?_, fun k absent => ?_⟩
  · rw [touches.connections] at found
    rw [on_append, on_tagged]
    by_cases same : k = c
    · subst same
      rw [if_pos rfl] at found ⊢
      obtain rfl := Option.some.inj found
      exact (requests.dispatched k old touches.found).acts waits
    · rw [if_neg same] at found ⊢
      rw [List.append_nil]
      exact requests.dispatched k connection found
  · rw [touches.connections] at absent
    split at absent
    · cases absent
    · exact requests.unborn k absent

lemma Requests.starts (requests : Requests server journal before) {occupant : Occupant η}
    {old new : Connection η} (touches : Server.Touches occupant.connection old new server next)
    (awaits : old.reader = .awaitingSlot occupant.registration occupant.request)
    (reading : new.reader = .reading) : Requests next journal (before ++ [occupant]) := by
  have here : startedOn occupant.connection (before ++ [occupant]) =
      startedOn occupant.connection before ++ [(occupant.registration, occupant.request)] := by
    rw [startedOn_append, startedOn_singleton, if_pos rfl]
  have elsewhere : ∀ k, k ≠ occupant.connection →
      startedOn k (before ++ [occupant]) = startedOn k before := by
    intro k other
    rw [startedOn_append, startedOn_singleton, if_neg (Ne.symm other), List.append_nil]
  refine ⟨fun k connection found => ?_, fun k absent => ?_⟩
  · rw [touches.connections] at found
    by_cases same : k = occupant.connection
    · subst same
      rw [if_pos rfl] at found
      obtain rfl := Option.some.inj found
      rw [here]
      exact (requests.dispatched _ old touches.found).starts awaits reading
    · rw [if_neg same] at found
      rw [elsewhere k same]
      exact requests.dispatched k connection found
  · rw [touches.connections] at absent
    split at absent
    · cases absent
    · rename_i other
      rw [elsewhere k other]
      exact requests.unborn k absent

end

/-! ## Runs -/

/-- What a view of steps shows along a run. -/
def along [Handles η] {α : Type} (view : Server η → Server η → List α) (server : Server η) :
    List (Event η) → List α
  | [] => []
  | event :: rest =>
    view server (step server event).1 ++ along view (step server event).1 rest

section

variable [Handles η] {server next : Server η} {entries journal : List (Nat × Entry η)}
  {settings : ServerSettings} {registry : Registry} {before after : List (Occupant η)}

lemma along_concat {α : Type} (view : Server η → Server η → List α) (server : Server η)
    (events : List (Event η)) (event : Event η) :
    along view server (events ++ [event]) = along view server events ++
      view (run server events).1 (step (run server events).1 event).1 := by
  induction events generalizing server with
  | nil => exact List.append_nil _
  | cons first rest ih =>
    rw [List.cons_append, along, ih, along, List.append_assoc]
    rfl

/-- All accounts of a server. -/
structure Accounts (registry : Registry) (settings : ServerSettings) (server : Server η)
    (journal : List (Nat × Entry η)) (before after : List (Occupant η)) : Prop where
  kept : Kept registry settings server journal
  slotted : Slotted settings.maxHandlers server
  turnover : Turnover server before after
  requests : Requests server journal before

lemma nextJob_of_steps (steps : Steps server next entries) :
    server.nextJob ≤ next.nextJob := by
  cases steps with
  | aside _ _ _ _ nextJob => exact nextJob.ge
  | accepted accepted =>
    obtain ⟨-, -, -, nextJob, -⟩ := occupants_accept accepted
    exact nextJob.ge
  | starts _ touches => exact touches.nextJob
  | acts _ touches => exact touches.nextJob

omit [Handles η] in
/-- The request for which the first connection in the queue has waited is the one that starts. -/
lemma requests_of_grant (requests : Requests server journal before)
    (turn : Turn server next []) (granted : server.grant = some next) :
    Requests next journal (before ++ taken server next) := by
  obtain ⟨c, rest, free, old, new, queue, slots, found, started, rfl⟩ :=
    Server.grant_eq_some granted
  have connections := (Server.touches_setConnection found new).connections
  obtain ⟨-, -, -, reading, -⟩ := occupants_startJob started
  cases turn with
  | keeps _ same =>
    have same : free = server.freeSlots := same
    omega
  | returns _ more =>
    have more : free = server.freeSlots + 1 := more
    omega
  | @takes occupant connection occupants _ fresh _ first found' awaits =>
    obtain rfl : c = occupant.connection := (List.cons.inj (queue.symm.trans first)).1
    obtain rfl := Option.some.inj (found.symm.trans found')
    rw [(taken_of_perm occupants fresh).1]
    exact requests.starts ⟨found, connections, rfl, rfl, rfl, rfl, Nat.le_succ _⟩ awaits reading

lemma requests_of_steps (accounts : Accounts registry settings server journal before after)
    (steps : Steps server next entries) :
    Requests next (journal ++ entries) (before ++ taken server next) := by
  have turn := turn_of_steps accounts.slotted accounts.kept steps
  have requests := accounts.requests
  cases steps with
  | aside connections _ _ _ _ free =>
    have same := Server.connection?_congr connections
    rw [turn.taken_eq_nil free.ge, List.append_nil, List.append_nil]
    refine requests.congr accounts.kept.silent (fun c connection found => ?_) (fun c absent => ?_)
    · exact Or.inl ((same c).symm.trans found)
    · exact (same c).symm.trans absent
  | accepted accepted =>
    obtain ⟨-, free, -⟩ := occupants_accept accepted
    have connections := Server.connection?_accept accepted
    rw [turn.taken_eq_nil free.ge, List.append_nil, List.append_nil]
    refine requests.congr accounts.kept.silent (fun c connection found => ?_) (fun c absent => ?_)
    · rw [connections] at found
      cases there : server.connection? c with
      | some old =>
        rw [there, Option.some_or] at found
        exact Or.inl found
      | none =>
        rw [there, Option.none_or] at found
        split at found
        · cases found
          exact Or.inr ⟨rfl, rfl, rfl⟩
        · cases found
    · rw [connections, Option.or_eq_none_iff] at absent
      exact absent.1
  | starts _ _ _ granted =>
    rw [List.append_nil]
    exact requests_of_grant requests turn granted
  | @acts c old new entries acts touches result =>
    have orderly := (accounts.kept.books c old touches.found).orderly
    have free : server.freeSlots ≤ next.freeSlots := by
      rw [result]
      exact Nat.le_add_right _ _
    rw [turn.taken_eq_nil free, List.append_nil]
    exact requests.acted touches (acts.waits orderly)

lemma Accounts.steps (accounts : Accounts registry settings server journal before after)
    (steps : Steps server next entries) :
    Accounts registry settings next (journal ++ entries) (before ++ taken server next)
      (after ++ returned server next) := by
  have kept := accounts.kept.steps steps
  have slotted := accounts.slotted.steps accounts.kept steps
  have turn := turn_of_steps accounts.slotted accounts.kept steps
  have spent : ∀ occupant ∈ next.occupants, occupant.job < next.nextJob := by
    intro occupant among
    obtain ⟨c, connection, job, running, found, rfl⟩ :=
      Server.exists_job_of_mem slotted.numbers among
    exact kept.spent c connection found job.id (List.mem_map_of_mem running)
  exact ⟨kept, slotted,
    accounts.turnover.turn turn accounts.slotted.ids (nextJob_of_steps steps) spent,
    requests_of_steps accounts steps⟩

lemma accounts_create (created : Server.create registry settings = .ok server) :
    Accounts registry settings server [] [] [] := by
  obtain ⟨-, -, none, -⟩ := fields_create created
  have unoccupied : server.occupants = [] := by
    rw [Server.occupants, none, List.flatMap_nil]
  refine ⟨kept_create created, slotted_create created, ⟨?_, List.nodup_nil, ?_⟩, ?_, ?_⟩
  · intro id among
    cases among
  · rw [unoccupied]
    exact List.Perm.nil
  · intro c connection found
    rw [Server.connection?, none] at found
    cases found
  · exact fun _ _ => rfl

/-- The accounts of a server that was just created are kept by every run. -/
lemma accounts_run (created : Server.create registry settings = .ok server)
    (events : List (Event η)) :
    Accounts registry settings (run server events).1 (run server events).2
      (along taken server events) (along returned server events) := by
  induction events using List.reverseRecOn with
  | nil => exact accounts_create created
  | append_singleton events event ih =>
    have steps := ih.steps (steps_step (run server events).1 event)
    rw [along_concat, along_concat, run, Machine.run_append, Machine.run_cons, Machine.run_nil,
      List.append_nil]
    exact steps

/-! ## The request that waits -/

omit [Handles η] in
lemma awaits_of_underway {reader : Reader η} {registration : Registration η} {request : Frame}
    (underway : reader.underway = [(registration, request)]) :
    reader = .awaitingSlot registration request := by
  cases reader with
  | awaitingSlot registration' request' =>
    obtain ⟨rfl, rfl⟩ := Prod.mk.inj (List.cons.inj underway).1
    rfl
  | reading | answering | queueing | ended => cases underway

/-- A request goes on waiting until it gets a slot, or its reader ends. -/
lemma awaits_of_steps (slotted : Slotted settings.maxHandlers server)
    (kept : Kept registry settings server journal) (steps : Steps server next entries) {c : Nat}
    {old : Connection η} (found : server.connection? c = some old)
    {registration : Registration η} {request : Frame}
    (awaits : old.reader = .awaitingSlot registration request) :
    ∃ new, next.connection? c = some new ∧
      (new.reader = .awaitingSlot registration request ∨
        (∃ id, taken server next = [⟨c, id, registration, request⟩]) ∨
        new.isServed = false) := by
  -- What a step does to the slots tells which connection was given one, and what it does to the
  -- connection tells that its reader goes on waiting otherwise.
  have turn := turn_of_steps slotted kept steps
  cases steps with
  | aside connections =>
    exact ⟨old, (Server.connection?_congr connections c).trans found, Or.inl awaits⟩
  | accepted accepted =>
    refine ⟨old, ?_, Or.inl awaits⟩
    rw [Server.connection?_accept accepted, found, Option.some_or]
  | starts _ _ _ granted =>
    obtain ⟨k, rest, free, before, new, queue, slots, found', started, rfl⟩ :=
      Server.grant_eq_some granted
    have connections := (Server.touches_setConnection found' new).connections
    by_cases same : c = k
    · subst same
      obtain rfl := Option.some.inj (found.symm.trans found')
      refine ⟨new, (connections c).trans (if_pos rfl), Or.inr (Or.inl ?_)⟩
      cases turn with
      | keeps _ same =>
        have same : free = server.freeSlots := same
        omega
      | returns _ more =>
        have more : free = server.freeSlots + 1 := more
        omega
      | @takes occupant connection occupants _ fresh _ first found'' awaits' =>
        obtain rfl : c = occupant.connection := (List.cons.inj (queue.symm.trans first)).1
        obtain rfl := Option.some.inj (found.symm.trans found'')
        obtain ⟨rfl, rfl⟩ := Reader.awaitingSlot.inj (awaits.symm.trans awaits')
        exact ⟨occupant.job, (taken_of_perm occupants fresh).1⟩
    · exact ⟨old, (connections c).trans ((if_neg same).trans found), Or.inl awaits⟩
  | @acts k before new entries acts touches result =>
    by_cases same : c = k
    · subst same
      obtain rfl := Option.some.inj (found.symm.trans touches.found)
      refine ⟨new, (touches.connections c).trans (if_pos rfl), ?_⟩
      cases served : new.isServed with
      | false => exact Or.inr (Or.inr rfl)
      | true =>
        obtain ⟨-, underway⟩ := (acts.waits (kept.books c old found).orderly).2 served
        -- A reader has at most one request under way; it had this one, so it looked no other up.
        have few := length_underway_le new.reader
        rw [awaits] at underway
        rw [underway, List.length_append] at few
        have unknown : known (looked entries) = [] := by
          refine List.eq_nil_of_length_eq_zero ?_
          have one : (Reader.awaitingSlot registration request).underway.length = 1 := rfl
          omega
        rw [unknown, List.append_nil] at underway
        exact Or.inl (awaits_of_underway underway)
    · exact ⟨old, (touches.connections c).trans ((if_neg same).trans found), Or.inl awaits⟩

omit [Handles η] in
/-- Whoever waits is given a slot if one is free. -/
lemma exists_grant (slotted : Slotted settings.maxHandlers server)
    (free : 0 < server.freeSlots) (waits : server.slotQueue ≠ []) :
    ∃ next, server.grant = some next := by
  obtain ⟨c, rest, queue⟩ := List.exists_cons_of_ne_nil waits
  obtain ⟨more, slots⟩ := Nat.exists_eq_succ_of_ne_zero (Nat.ne_of_gt free)
  obtain ⟨connection, found, underway⟩ := (slotted.queued.waiting c).mp (by simp [queue])
  unfold Server.grant
  rw [queue, slots]
  simp only [found]
  cases awaits : connection.reader with
  | awaitingSlot registration request =>
    unfold Connection.startJob
    rw [awaits]
    exact ⟨_, rfl⟩
  | reading | answering | queueing | ended =>
    rw [awaits] at underway
    exact absurd rfl underway

/-- A request for an unknown call takes no slot and waits for none. -/
lemma slots_of_unknown (slotted : Slotted settings.maxHandlers server)
    (steps : Steps server next entries) {c : Nat} {request : Frame}
    (shown : (c, .looked request none) ∈ entries) :
    next.occupants = server.occupants ∧ next.freeSlots = server.freeSlots ∧
      next.slotQueue = server.slotQueue := by
  cases steps with
  | aside | accepted | starts => cases shown
  | @acts k old new entries acts touches result =>
    obtain ⟨entry, among, same⟩ := List.mem_map.mp shown
    obtain ⟨rfl, rfl⟩ := Prod.mk.inj same
    rcases looked_cases acts with nothing | ⟨request', found, rfl, looks⟩
    · have seen : (request, none) ∈ looked entries := List.mem_filterMap.mpr ⟨_, among, rfl⟩
      rw [nothing] at seen
      cases seen
    · obtain ⟨rfl, rfl⟩ := Entry.looked.inj (List.mem_singleton.mp among)
      obtain ⟨-, rest, -, -, rfl⟩ := Connection.lookUp_cases looks
      subst result
      obtain ⟨front, back, before, after⟩ := Server.occupants_setConnection slotted.numbers
        touches.found { old with
          backlog := rest, reader := Connection.afterLookUp request none }
      refine ⟨after.trans before.symm, ?_, List.append_nil _⟩
      show server.freeSlots + (old.jobs.length - old.jobs.length) = server.freeSlots
      omega

/-- The slots of a server, after a run in which some were taken and some given back, and in the step
after the run. -/
structure Bounded (n : Nat) (server : Server η) (journal : List (Nat × Entry η))
    (before after : List (Occupant η)) : Prop where
  /-- Each slot is free or occupied. -/
  total : server.freeSlots + server.occupants.length = n
  /-- No more handlers run than there are slots. -/
  executing : server.executing.length ≤ n
  /-- No job has taken two slots. -/
  once : (before.map Occupant.job).Nodup
  /-- The slots that were taken are those that are occupied and those that were given back, each
  once. -/
  balance : before.Perm (server.occupants ++ after)
  /-- A slot changes hands only when a waiting request gets it, or when the reply of its job is
  queued or dropped; and then it does. -/
  turn : ∀ event, Turn server (step server event).1 (step server event).2
  /-- A request for an unknown call takes no slot and waits for none. -/
  unknown : ∀ event c request, (c, .looked request none) ∈ (step server event).2 →
    (step server event).1.occupants = server.occupants ∧
      (step server event).1.freeSlots = server.freeSlots ∧
      (step server event).1.slotQueue = server.slotQueue
  /-- The requests that wait are in the queue, one for each connection whose reader waits. -/
  queued : Queued server
  /-- The first of them is given a slot if one is free. -/
  granted : 0 < server.freeSlots → server.slotQueue ≠ [] → ∃ next, server.grant = some next
  /-- A request goes on waiting until it gets a slot or its reader ends. -/
  abides : ∀ event c old registration request, server.connection? c = some old →
    old.reader = .awaitingSlot registration request →
    ∃ new, (step server event).1.connection? c = some new ∧
      (new.reader = .awaitingSlot registration request ∨
        (∃ id, taken server (step server event).1 = [⟨c, id, registration, request⟩]) ∨
        new.isServed = false)
  /-- On each connection the slots were taken for the registered requests, in order and once. -/
  dispatched : ∀ c connection, server.connection? c = some connection →
    Dispatched (on c journal) (startedOn c before) connection

/-- Whatever the peers of a server send, in whichever order its parties go on, and however handlers
end: no slot is lost and none is used twice, and no request that waits for one is lost or started
twice as long as the reader of its connection goes on. -/
theorem slots_bounded (created : Server.create registry settings = .ok server)
    (events : List (Event η)) :
    0 < settings.maxHandlers ∧
      Bounded settings.maxHandlers (run server events).1 (run server events).2
        (along taken server events) (along returned server events) := by
  have accounts := accounts_run created events
  have slotted := accounts.slotted
  have steps := steps_step (run server events).1
  have within : (run server events).1.occupants.length ≤ settings.maxHandlers := by
    have total := slotted.total
    omega
  refine ⟨(fields_create created).1, slotted.total, ?_, accounts.turnover.once,
    accounts.turnover.balance, ?_, ?_, slotted.queued, exists_grant slotted, ?_,
    accounts.requests.dispatched⟩
  · exact (Server.length_executing_le _).trans within
  · exact fun event => turn_of_steps slotted accounts.kept (steps event)
  · exact fun event c request shown => slots_of_unknown slotted (steps event) shown
  · exact fun event c old registration request found awaits =>
      awaits_of_steps slotted accounts.kept (steps event) found awaits

end

/-- Two connections contend for one slot.  The handler of the first request panics, and the second
connection is given the slot when the reply of the first has been queued. -/
def crowded : List (Event Trial) :=
  [.act (.start "here"), .act (.register ⟨7, none, [], [], .panics⟩), .act (.accept 0),
    .act (.accept 0),
    .act (.receive 0 ([Frame.request 1 9 [], .request 2 7 [], .request 3 7 []].flatMap
      Frame.encode)),
    .act (.receive 1 (Frame.request 1 7 []).encode), .act (.lookUp 0), .pass 0 .reader,
    .act (.lookUp 0), .act (.lookUp 1), .act .grant, .act (.lookUp 0), .act .grant,
    .act (.finish 0 0), .pass 0 (.job 0), .act .grant]

/-- The settings of a server with one slot. -/
def single : ServerSettings := { maxHandlers := 1 }

theorem slots_bounded_crowded : ∃ server : Server Trial,
    Server.create .empty single = .ok server ∧
      (run server crowded).1.freeSlots = 0 ∧ (run server crowded).1.slotQueue = [0] ∧
      (along taken server crowded).map Occupant.job = [0, 1] ∧
      (along returned server crowded).map Occupant.job = [0] ∧
      Bounded 1 (run server crowded).1 (run server crowded).2 (along taken server crowded)
        (along returned server crowded) := by
  obtain ⟨server, created⟩ : ∃ server : Server Trial, Server.create .empty single = .ok server :=
    ⟨_, rfl⟩
  have bounded := (slots_bounded created crowded).2
  refine ⟨server, created, ?_, ?_, ?_, ?_, bounded⟩ <;> cases created <;> cbv

end Racing

end RemoteCall
