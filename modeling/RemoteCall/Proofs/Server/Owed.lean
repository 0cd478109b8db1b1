import RemoteCall.Proofs.Server.Order

/-!
# What a connection owes

From the moment in which a request is looked up, its reply is determined (`answerTo`): by what was
found, by the request itself, and by nothing else.  Until the reply is queued or dropped, somebody
owes it: first the reader, and later perhaps a job.

`Progress` says of an action how what is owed becomes less: by just what was queued or dropped,
unless the reader ends.  Every action but those of a reading reader makes progress
(`Acts.progress`).

What is owed is compared up to order.  Jobs end in any order, and where a reply stands among those
that are owed means nothing; how often it is there does, for two requests may have the same reply.
While the reader goes on, what was owed is, but for the order, what was queued or dropped together
with what is still owed.  A reader that ends may take a reply with it; then what was queued and what
is still owed is at most what was owed before.

The lemmas follow the life of a reply.  A job starts and owes what the reader has owed; its handler
ends, and the reply is the one that was owed all along; the reply is offered, perhaps waits for
room, and its party is done (`Done`).
-/

namespace RemoteCall

open Racing

variable {η : Type}

/-- The reply that a request is to have, given what was found when it was looked up. -/
def answerTo [Handles η] (registry : Registry) (limit : UInt32) :
    Frame × Option (Registration η) → Frame
  | (request, none) => .errorReply request.xid Status.noHandler
  | (request, some registration) =>
    (registration.answer registry limit request.xid request.payload).1

/-- The reply that a job is to send. -/
def Job.owed [Handles η] (registry : Registry) (limit : UInt32) (job : Job η) : Frame :=
  match job.stage with
  | .executing => answerTo registry limit (job.request, some job.registration)
  | .replying reply | .queueing reply => reply

/-- The reply that the reader is to send or to have sent. -/
def Reader.owed [Handles η] (registry : Registry) (limit : UInt32) : Reader η → List Frame
  | .awaitingSlot registration request => [answerTo registry limit (request, some registration)]
  | .answering reply | .queueing reply => [reply]
  | .reading | .ended => []

namespace Connection

/-- The replies of requests that were looked up, as far as they were neither queued nor dropped. -/
def owed [Handles η] (registry : Registry) (limit : UInt32) (connection : Connection η) :
    List Frame :=
  connection.reader.owed registry limit ++ connection.jobs.map (Job.owed registry limit)

/-! ## What leaves and what stays -/

section

variable [Handles η] {registry : Registry} {limit : UInt32}
  {old base new : Connection η} {party : Party} {id : Nat} {reply : Frame}

lemma Reader.owed_of_unsent {reader : Reader η} (unsent : reader.unsentReplies = [reply]) :
    reader.owed registry limit = [reply] := by
  cases reader with
  | answering other | queueing other => exact unsent
  | reading | awaitingSlot | ended => cases unsent

lemma owed_of_reply {job : Job η} (ready : job.stage.reply? = some reply) :
    job.owed registry limit = reply := by
  unfold Job.owed
  cases stage : job.stage with
  | executing =>
    rw [stage] at ready
    cases ready
  | replying other | queueing other =>
    rw [stage] at ready
    exact Option.some.inj ready

/-- A job leaves with its reply. -/
lemma perm_endJob (orderly : Orderly old) {job : Job η} (found : old.job? id = some job) :
    (old.owed registry limit).Perm
      (job.owed registry limit :: (old.endJob id).owed registry limit) := by
  obtain ⟨among, rfl⟩ := orderly.job?_eq_some.mp found
  obtain ⟨before, after, split, others⟩ := orderly.exists_place among
  have left : (old.endJob job.id).owed registry limit = old.reader.owed registry limit ++
      (before ++ after).map (Job.owed registry limit) := by
    unfold owed endJob
    rw [reader_settle, jobs_settle, others]
  rw [left]
  unfold owed
  rw [split, List.map_append, List.map_cons, List.map_append, ← List.append_assoc,
    ← List.append_assoc]
  exact List.perm_middle

/-- A party is done with its reply. -/
structure Done (registry : Registry) (limit : UInt32) (base : Connection η) (reply : Frame)
    (new : Connection η) : Prop where
  eases : Eases base new
  queueing : new.queueing = base.queueing
  task : new.writer.task = base.writer.task
  owed : (base.owed registry limit).Perm (reply :: new.owed registry limit)

lemma done_endJob (orderly : Orderly base) (holds : base.Holds (.job id) reply) :
    Done registry limit base reply (base.endJob id) := by
  obtain ⟨job, found, ready⟩ := holds
  refine ⟨eases_endJob base id, queueing_settle _, task_settle _, ?_⟩
  rw [← owed_of_reply ready]
  exact perm_endJob orderly found

lemma done_sent (orderly : Orderly base) (holds : base.Holds party reply) :
    Done registry limit base reply (base.sent party) := by
  cases party with
  | job id => exact done_endJob orderly holds
  | reader =>
    have eases := eases_sent base .reader
    have unsent : base.reader.unsentReplies = [reply] := holds
    have going : base.sent .reader = { base with reader := .reading } := by
      unfold sent
      cases state : base.reader with
      | ended =>
        rw [state] at unsent
        cases unsent
      | reading | awaitingSlot | answering | queueing => rfl
    rw [going] at eases ⊢
    refine ⟨eases, rfl, rfl, ?_⟩
    unfold owed
    rw [Reader.owed_of_unsent unsent]
    exact .refl _

lemma done_unsent (orderly : Orderly base) (holds : base.Holds party reply) :
    Done registry limit base reply (base.unsent party) := by
  cases party with
  | job id => exact done_endJob orderly holds
  | reader =>
    refine ⟨eases_unsent base .reader, queueing_settle _, task_settle _, ?_⟩
    unfold unsent endReading owed
    rw [reader_settle, jobs_settle, Reader.owed_of_unsent holds]
    exact .refl _

/-- A job whose stage changes owes what it owed. -/
lemma owed_setStage (orderly : Orderly old) {job : Job η} (found : old.job? id = some job)
    {stage : Stage} (same : ({ job with stage } : Job η).owed registry limit =
      job.owed registry limit) :
    (old.setStage id stage).owed registry limit = old.owed registry limit := by
  obtain ⟨among, rfl⟩ := orderly.job?_eq_some.mp found
  unfold owed setStage
  rw [List.map_map]
  congr 1
  refine List.map_congr_left fun other present => ?_
  dsimp only [Function.comp]
  split
  · rename_i hit
    rw [List.inj_on_of_nodup_map orderly.ids present among hit]
    exact same
  · rfl

lemma owed_wait (orderly : Orderly old) (outgoing : old.outgoing? party = some reply) :
    (old.wait reply party).owed registry limit = old.owed registry limit := by
  cases party with
  | reader =>
    unfold wait owed
    rw [reader_of_outgoing outgoing]
    rfl
  | job id =>
    obtain ⟨job, found, replying⟩ := job_of_outgoing outgoing
    refine owed_setStage orderly found ?_
    unfold Job.owed
    rw [replying]

/-! ## Progress -/

/-- The connection goes on with what it owes.  Nothing is read or looked up, and what is owed
becomes less by what was queued or dropped.  More than that gets lost only if the reader ends. -/
structure Progress (registry : Registry) (limit : UInt32) (old : Connection η)
    (entries : List (Entry η)) (new : Connection η) : Prop where
  unread : reads entries = [] ∧ .ended ∉ entries
  unlooked : looked entries = []
  served : new.isServed = true →
    old.isServed = true ∧ new.reassembly = old.reassembly ∧ new.backlog = old.backlog
  queueing : .reader ∈ new.queueing → .reader ∈ old.queueing ∨ old.isServed = true
  bounded : ∀ reply, (queued entries).count reply + (new.owed registry limit).count reply ≤
    (old.owed registry limit).count reply
  exact : new.isServed = true ∨ old.isServed = false ∧ .reader ∉ old.queueing →
    ∀ reply, (queued entries).count reply + (refused entries).count reply +
      (expired entries).count reply + (new.owed registry limit).count reply =
        (old.owed registry limit).count reply
  going : new.writer.isOver = false → old.writer.isOver = false ∧ refused entries = []
  streams : ∀ before written, old.writer.Streams before written →
    new.writer.Streams (before ++ queued entries) (written ++ Racing.written entries)

/-- A party has queued or dropped its reply. -/
lemma Done.progress {writer : Writer} {parties : List Party} {entries : List (Entry η)}
    (done : Done registry limit { old with writer, queueing := parties } reply new)
    (fewer : parties ⊆ old.queueing) (task : writer.task = old.writer.task)
    (streams : ∀ before written, old.writer.Streams before written →
      writer.Streams (before ++ queued entries) written)
    (shown : entries = [.queued reply] ∨ entries = [.expired reply] ∨
      entries = [.refused reply] ∧ old.writer.isOver = true) :
    Progress registry limit old entries new := by
  have owed : ∀ other, (old.owed registry limit).count other =
      [reply].count other + (new.owed registry limit).count other := by
    intro other
    have same : ({ old with writer, queueing := parties } : Connection η).owed registry limit =
        old.owed registry limit := rfl
    rw [← same, done.owed.count_eq, ← List.count_append]
    rfl
  have halted : new.writer.isOver = old.writer.isOver := by
    unfold Writer.isOver
    rw [done.task, task]
  have parts : reads entries = [] ∧ .ended ∉ entries ∧ looked entries = [] ∧
      Racing.written entries = [] ∧
      (∀ other, (queued entries).count other + (refused entries).count other +
        (expired entries).count other = [reply].count other) ∧
      (old.writer.isOver = false → refused entries = []) := by
    -- the reply is counted under the one way in which it has left the party
    rcases shown with rfl | rfl | ⟨rfl, stopped⟩
    · exact ⟨rfl, by simp, rfl, rfl, fun _ => rfl, fun _ => rfl⟩
    · exact ⟨rfl, by simp, rfl, rfl, fun _ => Nat.zero_add _, fun _ => rfl⟩
    · refine ⟨rfl, by simp, rfl, rfl, fun _ => Nat.zero_add _, fun going => ?_⟩
      rw [stopped] at going
      cases going
  obtain ⟨unread, going, unlooked, unwritten, counts, refusals⟩ := parts
  refine ⟨⟨unread, going⟩, unlooked, done.eases.reading, ?_, ?_, ?_, ?_, ?_⟩
  · intro present
    rw [done.queueing] at present
    exact Or.inl (fewer present)
  · intro other
    have := owed other
    have := counts other
    omega
  · intro _ other
    rw [counts, owed]
  · intro alive
    rw [halted] at alive
    exact ⟨alive, refusals alive⟩
  · intro before written before_streams
    rw [unwritten, List.append_nil]
    exact done.eases.streams _ _ (streams before written before_streams)

/-- A party has dropped its reply, and the writer is as it was. -/
lemma Done.progress_dropped {writer : Writer} {parties : List Party} {entries : List (Entry η)}
    (done : Done registry limit { old with writer, queueing := parties } reply new)
    (fewer : parties ⊆ old.queueing) (task : writer.task = old.writer.task)
    (streams : ∀ before written, old.writer.Streams before written → writer.Streams before written)
    (shown : entries = [.expired reply] ∨ entries = [.refused reply] ∧ old.writer.isOver = true) :
    Progress registry limit old entries new := by
  have unqueued : queued entries = [] := by
    rcases shown with rfl | ⟨rfl, -⟩ <;> rfl
  refine done.progress fewer task ?_ (Or.inr shown)
  intro before written before_streams
  rw [unqueued, List.append_nil]
  exact streams before written before_streams

/-- Nobody is done with a reply. -/
lemma Progress.of_owed_eq {entries : List (Entry η)}
    (unread : reads entries = [] ∧ .ended ∉ entries)
    (unlooked : looked entries = [])
    (unsent : queued entries = [] ∧ refused entries = [] ∧ expired entries = [])
    (served : new.isServed = true →
      old.isServed = true ∧ new.reassembly = old.reassembly ∧ new.backlog = old.backlog)
    (queueing : .reader ∈ new.queueing → .reader ∈ old.queueing ∨ old.isServed = true)
    (owed : (new.owed registry limit).Perm (old.owed registry limit))
    (going : new.writer.isOver = false → old.writer.isOver = false)
    (streams : ∀ before written, old.writer.Streams before written →
      new.writer.Streams before (written ++ Racing.written entries)) :
    Progress registry limit old entries new := by
  refine ⟨unread, unlooked, served, queueing, ?_, ?_, ?_, ?_⟩
  · intro reply
    simp only [unsent.1, owed.count_eq, List.count_nil, Nat.zero_add, Nat.le_refl]
  · intro _ reply
    rw [unsent.1, unsent.2.1, unsent.2.2, owed.count_eq, List.count_nil, Nat.zero_add]
  · intro alive
    exact ⟨going alive, unsent.2.1⟩
  · intro before written before_streams
    rw [unsent.1, List.append_nil]
    exact streams before written before_streams

/-- Nothing is seen of what the connection does. -/
lemma Progress.silent
    (served : new.isServed = true →
      old.isServed = true ∧ new.reassembly = old.reassembly ∧ new.backlog = old.backlog)
    (queueing : .reader ∈ new.queueing → .reader ∈ old.queueing ∨ old.isServed = true)
    (owed : (new.owed registry limit).Perm (old.owed registry limit))
    (going : new.writer.isOver = false → old.writer.isOver = false)
    (streams : ∀ before written, old.writer.Streams before written →
      new.writer.Streams before written) : Progress registry limit old [] new := by
  refine .of_owed_eq ⟨rfl, nofun⟩ rfl ⟨rfl, rfl, rfl⟩ served queueing owed going ?_
  intro before written before_streams
  show new.writer.Streams before (written ++ [])
  rw [List.append_nil]
  exact streams before written before_streams

lemma going_of_halted {first second : Writer}
    (halted : first.isOver = true → second.isOver = true) (going : second.isOver = false) :
    first.isOver = false := by
  by_contra stopped
  rw [halted (by simpa using stopped)] at going
  cases going

/-! ## Every action but those of a reading reader makes progress -/

lemma Progress.still : Progress registry limit old [] old :=
  .silent (fun served => ⟨served, rfl, rfl⟩) Or.inl (.refl _) id fun _ _ streams => streams

/-- The handler of a job ends, and the job has the reply that it owes. -/
lemma progress_finish (orderly : Orderly old) {job : Job η} (found : old.job? id = some job)
    (executing : job.stage = .executing) :
    Progress registry limit old [] (old.setStage id (.replying
      (job.registration.answer registry limit job.request.xid job.request.payload).1)) := by
  have owed : (old.setStage id (.replying (job.registration.answer registry limit job.request.xid
      job.request.payload).1)).owed registry limit = old.owed registry limit := by
    refine owed_setStage orderly found ?_
    unfold Job.owed
    rw [executing]
    rfl
  exact .silent (fun served => ⟨served, rfl, rfl⟩) Or.inl (.of_eq owed) (fun alive => alive)
    fun _ _ streams => streams

lemma progress_pass (orderly : Orderly old) {delivery : Delivery}
    (passed : old.pass party = some (delivery, new)) :
    Progress registry limit old (delivery.entries false) new := by
  obtain ⟨reply, outgoing, ⟨writer, rfl, rfl, task, waiting, streams⟩ |
    ⟨writer, rfl, rfl, task, waiting, queue⟩ | ⟨rfl, rfl, halted⟩⟩ := pass_cases passed
  · have same : writer.isOver = old.writer.isOver := congrArg Writer.Task.isOver task
    have between : Orderly { old with writer } := orderly.write waiting fun halted => same ▸ halted
    have holds : ({ old with writer } : Connection η).Holds party reply :=
      holds_of_outgoing outgoing
    have done : Done registry limit { old with writer, queueing := old.queueing } reply
        ({ old with writer }.sent party) := done_sent between holds
    exact done.progress (List.Subset.refl _) task streams (Or.inl rfl)
  · have same : writer.isOver = old.writer.isOver := congrArg Writer.Task.isOver task
    have waits : Eases { old with writer } ({ old with writer }.wait reply party) :=
      eases_wait outgoing
    have parties : ({ old with writer }.wait reply party).queueing = old.queueing ++ [party] ∧
        ({ old with writer }.wait reply party).writer = writer := by
      cases party <;> exact ⟨rfl, rfl⟩
    refine .silent waits.reading ?_ ?_ ?_ ?_
    · intro present
      rw [parties.1] at present
      rcases List.mem_append.mp present with before | last
      · exact Or.inl before
      · rw [← List.mem_singleton.mp last] at outgoing
        exact Or.inr (by simp [isServed, reader_of_outgoing outgoing])
    · have owed : ({ old with writer }.wait reply party).owed registry limit =
          (old.wait reply party).owed registry limit := by
        cases party <;> rfl
      rw [owed, owed_wait orderly outgoing]
    · rw [parties.2, same]
      exact fun alive => alive
    · intro before written streams
      rw [parties.2]
      exact streams.congr task queue
  · have done : Done registry limit { old with writer := old.writer, queueing := old.queueing }
        reply (old.unsent party) := done_unsent orderly (holds_of_outgoing outgoing)
    exact done.progress_dropped (List.Subset.refl _) rfl (fun _ _ streams => streams)
      (Or.inr ⟨rfl, halted⟩)

lemma progress_expire (orderly : Orderly old) (outgoing : old.outgoing? party = some reply) :
    Progress registry limit old [.expired reply] (old.unsent party) := by
  have done : Done registry limit { old with writer := old.writer, queueing := old.queueing } reply
      (old.unsent party) := done_unsent orderly (holds_of_outgoing outgoing)
  exact done.progress_dropped (List.Subset.refl _) rfl (fun _ _ streams => streams) (Or.inl rfl)

lemma progress_resume (orderly : Orderly old) {delivery : Delivery}
    (resumed : old.resume = some (delivery, new)) :
    Progress registry limit old (delivery.entries false) new := by
  obtain ⟨party, rest, reply, others, writer, parties, frames, waiting, task, outcome⟩ :=
    resume_cases resumed
  have same : writer.isOver = old.writer.isOver := congrArg Writer.Task.isOver task
  obtain ⟨waits, -, between⟩ := orderly.leave parties frames waiting same
  have fewer : rest ⊆ old.queueing := by
    rw [parties]
    exact List.subset_cons_self _ _
  rcases outcome with ⟨rfl, rfl, going, streams⟩ | ⟨rfl, rfl, halted, queue⟩
  · rcases holds_of_waits orderly waits with holds | ⟨-, -, halted⟩
    · have done : Done registry limit { old with writer, queueing := rest } reply
          ({ old with writer, queueing := rest }.sent party) := done_sent between holds
      exact done.progress fewer task streams (Or.inl rfl)
    · rw [going] at halted
      cases halted
  -- a writer that is over lets go of the party without taking its frame
  · have unchanged : ∀ before written, old.writer.Streams before written →
        writer.Streams before written := fun _ _ streams => streams.congr task queue
    rcases holds_of_waits orderly waits with holds | ⟨rfl, ended, -⟩
    · have done : Done registry limit { old with writer, queueing := rest } reply
          ({ old with writer, queueing := rest }.unsent party) := done_unsent between holds
      exact done.progress_dropped fewer task unchanged (Or.inr ⟨rfl, halted⟩)
    -- The reader was stopped before, so its reply is not among those that are owed.
    · have unserved : ({ old with writer, queueing := rest }.unsent .reader).isServed = false :=
        isServed_endReading _
      have eases := eases_unsent { old with writer, queueing := rest } .reader
      have owed : ({ old with writer, queueing := rest }.unsent .reader).owed registry limit =
          old.owed registry limit := by
        unfold unsent endReading Connection.owed
        rw [reader_settle, jobs_settle, ended]
      refine ⟨⟨rfl, by simp [Delivery.entries]⟩, rfl, eases.reading, ?_, ?_, ?_, ?_, ?_⟩
      · intro present
        refine Or.inl (fewer ?_)
        rwa [unsent, endReading, queueing_settle] at present
      · intro other
        rw [owed]
        exact Nat.le_of_eq (Nat.zero_add _)
      · rintro (served | ⟨-, absent⟩)
        · rw [unserved] at served
          cases served
        · rw [parties] at absent
          exact absurd List.mem_cons_self absent
      · intro alive
        have stopped : ({ old with writer, queueing := rest }.unsent .reader).writer.isOver =
            old.writer.isOver := by
          unfold Writer.isOver unsent endReading
          rw [task_settle, task]
        rw [stopped, halted] at alive
        cases alive
      · intro before written streams
        show Writer.Streams (before ++ []) (written ++ []) _
        rw [List.append_nil, List.append_nil]
        exact eases.streams _ _ (unchanged before written streams)

/-- The writer goes on with the frames that it has. -/
lemma progress_write {writer : Writer}
    (halted : old.writer.isOver = true → writer.isOver = true)
    (streams : ∀ before written, old.writer.Streams before written →
      writer.Streams before written) :
    Progress registry limit old [] { old with writer } :=
  .silent (fun served => ⟨served, rfl, rfl⟩) Or.inl (.refl _) (going_of_halted halted) streams

lemma progress_accept (n : Nat) :
    Progress registry limit old [.wrote (old.writer.offered.flatten.take n)]
      (old.updateWriter (·.accept n)) := by
  refine .of_owed_eq ⟨rfl, by simp⟩ rfl ⟨rfl, rfl, rfl⟩ (fun served => ⟨served, rfl, rfl⟩) Or.inl
    (.refl _) (going_of_halted (Writer.isOver_accept · n)) ?_
  intro before written streams
  show Writer.Streams before (written ++ ([_] : List Bytes).flatten) _
  rw [List.flatten_singleton]
  exact streams.accept n

lemma progress_stop : Progress registry limit old [] old.stop := by
  cases served : old.isServed with
  | false =>
    have same : old.stop = old := by simp [Connection.stop, served]
    rw [same]
    exact .still
  | true =>
    have stopped : old.stop = (old.updateWriter Writer.abort).endReading := by
      simp [Connection.stop, served]
    have unserved : old.stop.isServed = false := by
      rw [stopped]
      exact isServed_endReading _
    refine ⟨⟨rfl, nofun⟩, rfl, (eases_stop old).reading, fun _ => Or.inr served, ?_, ?_, ?_, ?_⟩
    · intro reply
      rw [stopped]
      unfold endReading Connection.owed
      rw [reader_settle, jobs_settle, List.count_append, List.count_append]
      simp only [queued, List.filterMap_nil, List.count_nil, Reader.owed, Nat.zero_add]
      exact Nat.le_add_left _ _
    · rintro (still | ⟨gone, -⟩)
      · rw [unserved] at still
        cases still
      · rw [served] at gone
        cases gone
    · intro alive
      have halted : old.stop.writer.isOver = true := by
        rw [stopped]
        exact (congrArg Writer.Task.isOver (task_settle _)).trans (Writer.isOver_abort _)
      rw [halted] at alive
      cases alive
    · intro before written streams
      show Writer.Streams (before ++ []) (written ++ []) _
      rw [List.append_nil, List.append_nil]
      exact (eases_stop old).streams _ _ streams

/-- A job starts, and owes what the reader has owed. -/
lemma progress_startJob (started : old.startJob id = some new) :
    Progress registry limit old [] new := by
  obtain ⟨registration, request, awaits, rfl⟩ := startJob_cases started
  have served : old.isServed = true := by simp [isServed, awaits]
  have owes : old.owed registry limit =
      answerTo registry limit (request, some registration) ::
        old.jobs.map (Job.owed registry limit) := by
    unfold Connection.owed
    rw [awaits]
    rfl
  refine .silent (fun _ => ⟨served, rfl, rfl⟩) Or.inl ?_ (fun alive => alive)
    fun _ _ streams => streams
  unfold Connection.owed at owes ⊢
  rw [owes, List.map_append]
  exact List.perm_append_singleton _ _

/-- Whatever happens on a connection, its reader reads or it makes progress. -/
lemma Acts.progress {functions : Functions η} {entries : List (Entry η)}
    (acts : old.Acts registry limit functions entries new) (orderly : Orderly old) :
    old.Reads functions entries new ∨ Progress registry limit old entries new := by
  cases acts with
  | read reads => exact Or.inl reads
  | finish found executing => exact Or.inr (progress_finish orderly found executing)
  | pass passed => exact Or.inr (progress_pass orderly passed)
  | expire outgoing => exact Or.inr (progress_expire orderly outgoing)
  | resume resumed => exact Or.inr (progress_resume orderly resumed)
  | collect collected =>
    exact Or.inr (progress_write (Writer.isOver_collect · collected)
      fun _ _ streams => streams.collect collected)
  | accept n => exact Or.inr (progress_accept n)
  | fail e =>
    exact Or.inr (progress_write (Writer.isOver_fail · e) fun _ _ streams => streams.fail e)
  | flushed =>
    exact Or.inr (progress_write Writer.isOver_flushed fun _ _ streams => streams.flushed)
  | stop => exact Or.inr progress_stop

end

end Connection

end RemoteCall
