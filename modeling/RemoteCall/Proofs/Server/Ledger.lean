import RemoteCall.Proofs.Frame.Reassembly
import RemoteCall.Proofs.Server.Owed

/-!
# The books of a connection

The journal of a connection is kept in two books.  `Intake` is about requests: those that were
looked up are, in order, the first frames of the bytes that were read, and all of them as long as
the reader goes on.  `Balance` is about replies: the answers of the requests that were looked up are
those that were queued, those that were dropped and those that are still owed.

Both hold of a connection that was just accepted, and everything that can happen on it keeps them
(`Connection.Books.acts`), so they hold of all connections at any time (`Racing.kept_run`).

The two books divide the actions between them.  An action of a reading reader is entered in `Intake`
and leaves what was queued and dropped as it is; all other actions make progress, and `Balance` is
brought up to date by it.  Neither book is kept without `Orderly`: that a frame is sent by the party
that owes it is known only because those who wait are in the order of their frames.

A server starts jobs under IDs of its own, so the books of the whole server (`Racing.Kept`) also say
that no ID is given twice and that nothing has happened on a connection that is not there yet.

## Main statements

* `Connection.Books.acts` — what happens on a connection keeps its books.
* `Racing.kept_run` — the books of all connections are kept by every run.
-/

namespace RemoteCall

open Racing RemoteCall.Frame

variable {η : Type} {registry : Registry} {limit : UInt32} {functions : Functions η}

namespace Connection

/-! ## Requests -/

/-- What was looked up is what was read. -/
structure Intake (limit : UInt32) (history : List (Entry η)) (connection : Connection η) :
    Prop where
  reading : connection.isServed = true →
    Reassembly.Received limit (reads history).flatten connection.reassembly
  begun : (looked history).map Prod.fst <+: (parse limit (reads history).flatten).frames
  handed : connection.isServed = true ∨ .ended ∈ history →
    (looked history).map Prod.fst ++ connection.backlog =
      (parse limit (reads history).flatten).frames
  /-- The read that breaks framing is the last, and nothing of it is looked up. -/
  broken : (parse limit (reads history).flatten).invalid = true →
    connection.isServed = false ∧
      (parse limit (reads history).dropLast.flatten).invalid = false ∧
      (looked history).map Prod.fst = (parse limit (reads history).dropLast.flatten).frames
  ended : .ended ∈ history → connection.isServed = false ∧ .reader ∉ connection.queueing

lemma intake_accepted (generation : Nat) {settings : ServerSettings} :
    Intake settings.maxPayload [] (accepted generation settings : Connection η) := by
  refine ⟨fun _ => Reassembly.received_fresh _, ?_, ?_, ?_, nofun⟩
  · exact List.nil_prefix
  · intro _
    exact (congrArg Parse.frames (parse_nil _)).symm
  · intro broken
    have valid : (parse settings.maxPayload []).invalid = false := by rw [parse_nil]
    exact absurd (valid.symm.trans broken) nofun

section

variable {history entries : List (Entry η)} {old new : Connection η}

/-- A connection that goes on with what it owes takes nothing in. -/
lemma Intake.progress [Handles η] (intake : Intake limit history old) (orderly : Orderly old)
    (progress : Progress registry limit old entries new) (tidy : Orderly new) :
    Intake limit (history ++ entries) new := by
  have read : reads (history ++ entries) = reads history := by
    rw [reads_append, progress.unread.1, List.append_nil]
  have looked : looked (history ++ entries) = looked history := by
    rw [looked_append, progress.unlooked, List.append_nil]
  have seen : .ended ∈ history ++ entries → .ended ∈ history := fun present =>
    (List.mem_append.mp present).resolve_right progress.unread.2
  have unserved : old.isServed = false → new.isServed = false := by
    intro gone
    by_contra still
    rw [(progress.served (by simpa using still)).1] at gone
    cases gone
  refine ⟨?_, ?_, ?_, ?_, ?_⟩
  · intro served
    obtain ⟨before, reassembly, -⟩ := progress.served served
    rw [read, reassembly]
    exact intake.reading before
  · rw [read, looked]
    exact intake.begun
  · intro live
    rw [read, looked]
    rcases live with served | present
    · obtain ⟨before, -, backlog⟩ := progress.served served
      rw [backlog]
      exact intake.handed (Or.inl before)
    · have gone := (intake.ended (seen present)).1
      have frames := intake.handed (Or.inr (seen present))
      rw [orderly.idle gone] at frames
      rw [tidy.idle (unserved gone)]
      exact frames
  · intro broken
    rw [read] at broken ⊢
    rw [looked]
    obtain ⟨gone, frames⟩ := intake.broken broken
    exact ⟨unserved gone, frames⟩
  · intro present
    obtain ⟨gone, absent⟩ := intake.ended (seen present)
    refine ⟨unserved gone, fun waits => ?_⟩
    rcases progress.queueing waits with before | served
    · exact absent before
    · rw [gone] at served
      cases served

/-- Nothing that was read so far breaks framing while the reader goes on. -/
lemma Intake.valid (intake : Intake limit history old) (served : old.isServed = true) :
    (parse limit (reads history).flatten).invalid = false :=
  (intake.reading served).valid

lemma Intake.unended (intake : Intake limit history old) (served : old.isServed = true)
    {entry : Entry η} (other : .ended ≠ entry) : .ended ∉ history ++ [entry] := by
  intro present
  rcases List.mem_append.mp present with earlier | now
  · rw [(intake.ended earlier).1] at served
    cases served
  · exact other (List.mem_singleton.mp now)

/-- A read gives further frames, or breaks framing; then all frames before it were looked up. -/
lemma Intake.receive (intake : Intake limit history old) {bytes : Bytes}
    (received : old.receive bytes = some new) :
    Intake limit (history ++ [.received bytes]) new := by
  obtain ⟨reading, empty, outcome⟩ := receive_cases received
  have served : old.isServed = true := by simp [isServed, reading]
  have before := intake.reading served
  have all : (looked history).map Prod.fst = (parse limit (reads history).flatten).frames := by
    have frames := intake.handed (Or.inl served)
    rwa [empty, List.append_nil] at frames
  have read : reads (history ++ [.received bytes]) = reads history ++ [bytes] := reads_append _ _
  have stream : (reads (history ++ [.received bytes])).flatten =
      (reads history).flatten ++ bytes := by
    rw [read, List.flatten_append, List.flatten_singleton]
  have looked : looked (history ++ [.received bytes]) = looked history := by
    rw [looked_append]
    exact List.append_nil _
  have unended : .ended ∉ history ++ [.received bytes] := intake.unended served (by rintro ⟨⟩)
  have longer : (parse limit (reads history).flatten).frames <+:
      (parse limit ((reads history).flatten ++ bytes)).frames := by
    rw [parse_append before.valid]
    exact List.prefix_append _ _
  -- The reassembly and the parse break at the same read. If they do, the reader has ended, and
  -- every frame before that read was looked up.
  rcases Reassembly.push_of_received before bytes with
      ⟨broken, fault, failed⟩ | ⟨frames, pushed, found, after⟩
  · rcases outcome with ⟨frames, pushed, -⟩ | ⟨-, rfl⟩
    · rw [failed] at pushed
      cases pushed
    · have gone := isServed_endReading { old with reassembly := (old.reassembly.push bytes).2 }
      refine ⟨?_, ?_, ?_, ?_, fun present => absurd present unended⟩
      · intro still
        rw [gone] at still
        cases still
      · rw [stream, looked, all]
        exact longer
      · rintro (still | present)
        · rw [gone] at still
          cases still
        · exact absurd present unended
      · intro _
        refine ⟨gone, ?_⟩
        rw [looked, read, List.dropLast_concat]
        exact ⟨before.valid, all⟩
  · rcases outcome with ⟨frames', pushed', rfl⟩ | ⟨⟨fault, failed⟩, -⟩
    · rw [pushed, Except.ok.injEq] at pushed'
      subst pushed'
      refine ⟨?_, ?_, ?_, ?_, fun present => absurd present unended⟩
      · intro _
        rw [stream]
        exact after
      · rw [stream, looked, all]
        exact longer
      · intro _
        rw [stream, looked, all]
        exact found.symm
      · intro broken
        rw [stream, after.valid] at broken
        cases broken
    · rw [pushed] at failed
      cases failed

lemma Intake.streamEnded (intake : Intake limit history old) (orderly : Orderly old)
    (ended : old.streamEnded = some new) : Intake limit (history ++ [.ended]) new := by
  obtain ⟨reading, empty, rfl⟩ := streamEnded_cases ended
  have served : old.isServed = true := by simp [isServed, reading]
  have read : reads (history ++ [.ended]) = reads history := by
    rw [reads_append]
    exact List.append_nil _
  have looked : looked (history ++ [.ended]) = looked history := by
    rw [looked_append]
    exact List.append_nil _
  have gone := isServed_endReading old
  refine ⟨?_, ?_, ?_, ?_, ?_⟩
  · intro still
    rw [gone] at still
    cases still
  · rw [read, looked]
    exact intake.begun
  · intro _
    have frames := intake.handed (Or.inl served)
    rw [empty] at frames
    rw [read, looked, endReading, backlog_settle]
    exact frames
  · intro broken
    rw [read, intake.valid served] at broken
    cases broken
  · intro _
    refine ⟨gone, ?_⟩
    rw [endReading, queueing_settle]
    exact orderly.reading_absent reading

lemma Intake.lookUp (intake : Intake limit history old)
    {request : Frame} {found : Option (Registration η)}
    (looks : old.lookUp functions = some (request, found, new)) :
    Intake limit (history ++ [.looked request found]) new := by
  obtain ⟨reading, rest, next, -, rfl⟩ := lookUp_cases looks
  have served : old.isServed = true := by simp [isServed, reading]
  have still : ({ old with backlog := rest, reader := afterLookUp request found } :
      Connection η).isServed = true := by
    cases found <;> rfl
  have read : reads (history ++ [.looked request found]) = reads history := by
    rw [reads_append]
    exact List.append_nil _
  have requests : (looked (history ++ [.looked request found])).map Prod.fst =
      (looked history).map Prod.fst ++ [request] := by
    rw [looked_append, List.map_append]
    rfl
  have frames : ((looked history).map Prod.fst ++ [request]) ++ rest =
      (parse limit (reads history).flatten).frames := by
    rw [List.append_assoc, List.singleton_append, ← next]
    exact intake.handed (Or.inl served)
  refine ⟨?_, ?_, ?_, ?_, ?_⟩
  · intro _
    rw [read]
    exact intake.reading served
  · rw [read, requests, ← frames]
    exact List.prefix_append _ _
  · intro _
    rw [read, requests]
    exact frames
  · intro broken
    rw [read, intake.valid served] at broken
    cases broken
  · intro present
    exact absurd present (intake.unended served (by rintro ⟨⟩))

lemma Intake.reads (intake : Intake limit history old) (orderly : Orderly old)
    (reads : old.Reads functions entries new) : Intake limit (history ++ entries) new := by
  cases reads with
  | receive received => exact intake.receive received
  | streamEnded ended => exact intake.streamEnded orderly ended
  | lookUp looked => exact intake.lookUp looked

end

/-! ## Replies -/

/-- What was looked up is what was queued, dropped, or is owed. -/
structure Balance [Handles η] (registry : Registry) (limit : UInt32) (history : List (Entry η))
    (connection : Connection η) : Prop where
  bounded : ∀ reply, (queued history).count reply + (connection.owed registry limit).count reply ≤
    ((looked history).map (answerTo registry limit)).count reply
  /-- Nothing gets lost but what the writer does not take, as long as the reader goes on or has seen
  the end of the stream. -/
  exact : connection.isServed = true ∨ .ended ∈ history →
    ∀ reply, (queued history).count reply + (refused history).count reply +
      (expired history).count reply + (connection.owed registry limit).count reply =
        ((looked history).map (answerTo registry limit)).count reply
  going : connection.writer.isOver = false → refused history = []
  streams : connection.writer.Streams (queued history) (written history)

variable [Handles η]

lemma balance_accepted (generation : Nat) (settings : ServerSettings) :
    Balance registry limit [] (accepted generation settings : Connection η) :=
  ⟨fun _ => Nat.le_refl _, fun _ _ => rfl, fun _ => rfl, Writer.streams_start _⟩

section

variable {history entries : List (Entry η)} {old new : Connection η}

/-- What is owed becomes less by what is queued or dropped. -/
lemma Balance.progress (balance : Balance registry limit history old)
    (intake : Intake limit history old) (progress : Progress registry limit old entries new) :
    Balance registry limit (history ++ entries) new := by
  have looked : looked (history ++ entries) = looked history := by
    rw [looked_append, progress.unlooked, List.append_nil]
  refine ⟨?_, ?_, ?_, ?_⟩
  · intro reply
    rw [looked, queued_append, List.count_append]
    have before := balance.bounded reply
    have now := progress.bounded reply
    omega
  · intro live reply
    have both : (old.isServed = true ∨ .ended ∈ history) ∧
        (new.isServed = true ∨ old.isServed = false ∧ .reader ∉ old.queueing) := by
      rcases live with served | present
      · exact ⟨Or.inl (progress.served served).1, Or.inl served⟩
      · have earlier := (List.mem_append.mp present).resolve_right progress.unread.2
        exact ⟨Or.inr earlier, Or.inr (intake.ended earlier)⟩
    rw [looked, queued_append, refused_append, expired_append, List.count_append,
      List.count_append, List.count_append]
    have before := balance.exact both.1 reply
    have now := progress.exact both.2 reply
    omega
  · intro alive
    obtain ⟨before, none⟩ := progress.going alive
    rw [refused_append, balance.going before, none, List.append_nil]
  · rw [queued_append, written_append]
    exact progress.streams _ _ balance.streams

/-- Reading queues and drops nothing.  What it adds to the requests it adds to what is owed. -/
lemma Balance.read (balance : Balance registry limit history old) (served : old.isServed = true)
    (unsent : queued entries = [] ∧ refused entries = [] ∧ expired entries = [] ∧
      written entries = [])
    (owed : ∀ reply, (new.owed registry limit).count reply = (old.owed registry limit).count reply +
      ((Racing.looked entries).map (answerTo registry limit)).count reply)
    (task : new.writer.task = old.writer.task)
    (streams : ∀ before written, old.writer.Streams before written →
      new.writer.Streams before written) :
    Balance registry limit (history ++ entries) new := by
  obtain ⟨unqueued, unrefused, unexpired, unwritten⟩ := unsent
  refine ⟨?_, ?_, ?_, ?_⟩
  · intro reply
    rw [looked_append, List.map_append, List.count_append, queued_append, unqueued,
      List.append_nil, owed]
    have before := balance.bounded reply
    omega
  · intro _ reply
    rw [looked_append, List.map_append, List.count_append, queued_append, refused_append,
      expired_append, unqueued, unrefused, unexpired, List.append_nil, List.append_nil,
      List.append_nil, owed]
    have before := balance.exact (Or.inl served) reply
    omega
  · intro alive
    rw [refused_append, unrefused, List.append_nil]
    refine balance.going ?_
    unfold Writer.isOver at alive ⊢
    rwa [task] at alive
  · rw [queued_append, written_append, unqueued, unwritten, List.append_nil, List.append_nil]
    exact streams _ _ balance.streams

/-- A reader that ends while it reads owes nothing of its own. -/
lemma owed_endReading (reading : old.reader = .reading) (reassembly : Reassembly) :
    ({ old with reassembly }.endReading).owed registry limit = old.owed registry limit := by
  unfold endReading owed
  rw [reader_settle, jobs_settle, reading]
  rfl

lemma Balance.reads (balance : Balance registry limit history old)
    (reads : old.Reads functions entries new) :
    Balance registry limit (history ++ entries) new := by
  cases reads with
  | receive received =>
    obtain ⟨reading, -, ⟨frames, -, rfl⟩ | ⟨-, rfl⟩⟩ := receive_cases received
    · exact balance.read (by simp [isServed, reading]) ⟨rfl, rfl, rfl, rfl⟩ (fun _ => rfl) rfl
        fun _ _ streams => streams
    · refine balance.read (by simp [isServed, reading]) ⟨rfl, rfl, rfl, rfl⟩ ?_ (task_settle _)
        (eases_endReading old _).streams
      intro reply
      rw [owed_endReading reading]
      rfl
  | streamEnded ended =>
    obtain ⟨reading, -, rfl⟩ := streamEnded_cases ended
    refine balance.read (by simp [isServed, reading]) ⟨rfl, rfl, rfl, rfl⟩ ?_ (task_settle _)
      (eases_endReading old old.reassembly).streams
    intro reply
    have same : old.endReading.owed registry limit = old.owed registry limit :=
      owed_endReading reading old.reassembly
    rw [same]
    rfl
  | @lookUp _ found _ looks =>
    obtain ⟨reading, rest, -, -, rfl⟩ := lookUp_cases looks
    refine balance.read (by simp [isServed, reading]) ⟨rfl, rfl, rfl, rfl⟩ ?_ rfl
      fun _ _ streams => streams
    intro reply
    unfold owed
    rw [reading, List.count_append, List.count_append, Nat.add_comm]
    refine congrArg₂ (· + ·) (Nat.zero_add _).symm ?_
    cases found <;> rfl

end

end Connection

/-! ## Both books -/

variable [Handles η]

/-- The books of a connection agree with what it is about. -/
structure Connection.Books (registry : Registry) (limit : UInt32) (history : List (Entry η))
    (connection : Connection η) : Prop where
  orderly : connection.Orderly
  intake : connection.Intake limit history
  balance : connection.Balance registry limit history

namespace Connection.Books

open Connection

variable {history entries : List (Entry η)} {old new : Connection η}

lemma accepted (registry : Registry) (generation : Nat) (settings : ServerSettings) :
    Books registry settings.maxPayload [] (.accepted generation settings : Connection η) :=
  ⟨orderly_accepted generation settings, intake_accepted generation,
    balance_accepted generation settings⟩

theorem acts (books : Books registry limit history old)
    (acts : old.Acts registry limit functions entries new) :
    Books registry limit (history ++ entries) new := by
  have tidy := acts.orderly books.orderly
  rcases acts.progress books.orderly with reads | progress
  · exact ⟨tidy, books.intake.reads books.orderly reads, books.balance.reads reads⟩
  · exact ⟨tidy, books.intake.progress books.orderly progress tidy,
      books.balance.progress books.intake progress⟩

lemma startJob (books : Books registry limit history old) {id : Nat}
    (fresh : ∀ job ∈ old.jobs, job.id ≠ id) (started : old.startJob id = some new) :
    Books registry limit history new := by
  have tidy := orderly_startJob books.orderly fresh started
  have progress : Progress registry limit old [] new := progress_startJob started
  have intake := books.intake.progress books.orderly progress tidy
  have balance := books.balance.progress books.intake progress
  rw [List.append_nil] at intake balance
  exact ⟨tidy, intake, balance⟩

end Connection.Books

/-! ## Runs -/

namespace Racing

/-- The books of all connections are kept. -/
structure Kept (registry : Registry) (settings : ServerSettings) (server : Server η)
    (journal : List (Nat × Entry η)) : Prop where
  registry_eq : server.registry = registry
  settings_eq : server.settings = settings
  unborn : ∀ c, server.nextConnection ≤ c → server.connection? c = none
  silent : ∀ c, server.connection? c = none → on c journal = []
  books : ∀ c connection, server.connection? c = some connection →
    connection.Books registry settings.maxPayload (on c journal)
  /-- IDs of jobs are not given twice. -/
  spent : ∀ c connection, server.connection? c = some connection →
    ∀ id ∈ connection.jobs.map Job.id, id < server.nextJob

lemma kept_create {settings : ServerSettings} {server : Server η}
    (created : Server.create registry settings = .ok server) :
    Kept registry settings server [] := by
  obtain ⟨sameRegistry, sameSettings, absent⟩ : server.registry = registry ∧
      server.settings = settings ∧ ∀ c, server.connection? c = none := by
    unfold Server.create at created
    split at created
    · cases created
    · cases created
      exact ⟨rfl, rfl, fun _ => rfl⟩
  refine ⟨sameRegistry, sameSettings, fun c _ => absent c, fun _ _ => rfl, ?_, ?_⟩
  all_goals
    intro c connection found
    rw [absent] at found
    cases found

variable {settings : ServerSettings} {server next : Server η} {journal : List (Nat × Entry η)}

/-- A step on one connection leaves the books of the others as they are. -/
lemma Kept.touch (kept : Kept registry settings server journal) {c : Nat}
    {old new : Connection η} {entries : List (Entry η)}
    (touches : Server.Touches c old new server next)
    (books : new.Books registry settings.maxPayload (on c journal ++ entries))
    (spent : ∀ id ∈ new.jobs.map Job.id, id < next.nextJob) :
    Kept registry settings next (journal ++ entries.map (c, ·)) := by
  -- each of the four clauses splits into this connection, whose books are given, and the others,
  -- which look as before
  have elsewhere : ∀ k, k ≠ c → next.connection? k = server.connection? k ∧
      on k (journal ++ entries.map (c, ·)) = on k journal := by
    intro k other
    rw [touches.connections, if_neg other, on_append, on_tagged, if_neg other, List.append_nil]
    exact ⟨rfl, rfl⟩
  have here : next.connection? c = some new := by rw [touches.connections, if_pos rfl]
  refine ⟨touches.registry.trans kept.registry_eq, touches.settings.trans kept.settings_eq, ?_, ?_,
    ?_, ?_⟩
  · intro k unborn
    rw [touches.nextConnection] at unborn
    have absent := kept.unborn k unborn
    rw [(elsewhere k ?_).1]
    · exact absent
    · rintro rfl
      rw [touches.found] at absent
      cases absent
  · intro k absent
    by_cases same : k = c
    · rw [same, here] at absent
      cases absent
    · rw [(elsewhere k same).1] at absent
      rw [(elsewhere k same).2]
      exact kept.silent k absent
  · intro k connection found
    by_cases same : k = c
    · subst same
      rw [here, Option.some.injEq] at found
      subst found
      rw [on_append, on_tagged, if_pos rfl]
      exact books
    · rw [(elsewhere k same).1] at found
      rw [(elsewhere k same).2]
      exact kept.books k connection found
  · intro k connection found
    by_cases same : k = c
    · subst same
      rw [here, Option.some.injEq] at found
      subst found
      exact spent
    · rw [(elsewhere k same).1] at found
      intro id present
      exact Nat.lt_of_lt_of_le (kept.spent k connection found id present) touches.nextJob

lemma Kept.accept (kept : Kept registry settings server journal) {generation : Nat}
    (accepted : server.accept generation = some next) : Kept registry settings next journal := by
  obtain ⟨sameRegistry, sameSettings, -, born⟩ := Server.fields_accept accepted
  have sameJobs : next.nextJob = server.nextJob := by
    unfold Server.accept at accepted
    split at accepted
    · cases accepted
      rfl
    · cases accepted
  have connections := Server.connection?_accept accepted
  -- the number of the new connection was not in use, so the journal has no entries of it
  have fresh := kept.unborn server.nextConnection (Nat.le_refl _)
  refine ⟨sameRegistry.trans kept.registry_eq, sameSettings.trans kept.settings_eq, ?_, ?_, ?_, ?_⟩
  · intro k unborn
    rw [born] at unborn
    rw [connections, kept.unborn k (by omega), if_neg (by omega)]
    rfl
  · intro k absent
    rw [connections, Option.or_eq_none_iff] at absent
    exact kept.silent k absent.1
  · intro k connection found
    rw [connections] at found
    by_cases new : k = server.nextConnection
    · subst new
      rw [fresh, if_pos rfl, Option.none_or, Option.some.injEq] at found
      subst found
      rw [kept.silent _ fresh, kept.settings_eq]
      exact .accepted registry generation settings
    · rw [if_neg new, Option.or_none] at found
      exact kept.books k connection found
  · intro k connection found
    rw [connections] at found
    by_cases new : k = server.nextConnection
    · subst new
      rw [fresh, if_pos rfl, Option.none_or, Option.some.injEq] at found
      subst found
      nofun
    · rw [if_neg new, Option.or_none] at found
      rw [sameJobs]
      exact kept.spent k connection found

/-- Whatever the server does in one step, the books are kept. -/
lemma Kept.steps (kept : Kept registry settings server journal)
    {entries : List (Nat × Entry η)} (steps : Steps server next entries) :
    Kept registry settings next (journal ++ entries) := by
  cases steps with
  | aside same sameRegistry sameSettings sameConnections sameJobs =>
    have connections := Server.connection?_congr same
    rw [List.append_nil]
    refine ⟨sameRegistry.trans kept.registry_eq, sameSettings.trans kept.settings_eq, ?_, ?_, ?_,
      ?_⟩
    · intro c unborn
      rw [connections]
      exact kept.unborn c (sameConnections ▸ unborn)
    · intro c absent
      rw [connections] at absent
      exact kept.silent c absent
    · intro c connection found
      rw [connections] at found
      exact kept.books c connection found
    · intro c connection found
      rw [connections] at found
      rw [sameJobs]
      exact kept.spent c connection found
  | accepted accepted =>
    rw [List.append_nil]
    exact kept.accept accepted
  | @starts c old new started touches nextJob =>
    have books := kept.books c old touches.found
    have spent := kept.spent c old touches.found
    -- numbers of jobs are given out in ascending order, so none that is running has the new one
    have fresh : ∀ job ∈ old.jobs, job.id ≠ server.nextJob := fun job among =>
      Nat.ne_of_lt (spent job.id (List.mem_map.mpr ⟨job, among, rfl⟩))
    refine (kept.touch touches ?_ ?_ :
      Kept registry settings next (journal ++ [].map fun entry => (c, entry)))
    · rw [List.append_nil]
      exact books.startJob fresh started
    · obtain ⟨registration, request, -, rfl⟩ := Connection.startJob_cases started
      intro id present
      rw [nextJob]
      rw [List.map_append] at present
      rcases List.mem_append.mp present with before | last
      · exact Nat.lt_succ_of_lt (spent id before)
      · rw [List.mem_singleton.mp last]
        exact Nat.lt_succ_self _
  | @acts c old new entries acts touches =>
    rw [kept.registry_eq, kept.settings_eq] at acts
    refine kept.touch touches ((kept.books c old touches.found).acts acts) ?_
    intro id present
    exact Nat.lt_of_lt_of_le (kept.spent c old touches.found id (acts.ids present)) touches.nextJob

/-- The books of a server that was just created are kept by every run. -/
theorem kept_run (created : Server.create registry settings = .ok server)
    (events : List (Event η)) :
    Kept registry settings (run server events).1 (run server events).2 := by
  have kept : Kept registry settings (run server events).1 ([] ++ (run server events).2) := by
    refine Machine.run_history ?_ (fun _ _ => trivial) (kept_create created)
    exact fun state history event (_ : True) before => before.steps (steps_step state event)
  exact kept

end Racing

end RemoteCall
