import RemoteCall.Proofs.Writer.Stream
import RemoteCall.Server.Connection

/-!
# What a connection has under way

A request that was looked up is under way until its handler has been called: it waits for a slot, or
it is a job that executes.  After that there is only a reply, which is with its sender until the
writer has it.  `Eases` says of two states of a connection that nothing came up between them:
whatever is under way was so before, and so was every reply.

Most of what a connection does is of this kind.  It ends its reader, drops jobs, puts a party in
line, closes its writer.  An invariant that speaks of what is under way, or of replies, is kept by
all of it for the one reason that nothing came up; so each of these actions has its lemma here, and
`Eases.trans` puts them together where an action of the connection does several of them.

The number of a request's occurrences matters, since no request may be handled twice; of a reply it
only matters that it is known.  So the requests under way form a sublist of those before, and the
replies a subset.
-/

namespace RemoteCall

variable {η : Type}

/-- The reply that a job of this stage has to send. -/
def Stage.reply? : Stage → Option Frame
  | .executing => none
  | .replying reply | .queueing reply => some reply

/-- The request of a job whose handler was not called. -/
def Job.underway? (job : Job η) : Option (Registration η × Frame) :=
  match job.stage with
  | .executing => some (job.registration, job.request)
  | .replying _ | .queueing _ => none

/-- The reply of a job whose handler was called. -/
def Job.reply? (job : Job η) : Option Frame := job.stage.reply?

/-- The request for which the reader waits for a slot. -/
def Reader.underway : Reader η → List (Registration η × Frame)
  | .awaitingSlot registration request => [(registration, request)]
  | _ => []

/-- The answer that the reader has to send. -/
def Reader.unsentReplies : Reader η → List Frame
  | .answering reply | .queueing reply => [reply]
  | _ => []

namespace Connection

/-- The requests that were looked up and whose handlers were not called. -/
def underway (connection : Connection η) : List (Registration η × Frame) :=
  connection.reader.underway ++ connection.jobs.filterMap Job.underway?

/-- The replies that the writer does not have. -/
def unsentReplies (connection : Connection η) : List Frame :=
  connection.reader.unsentReplies ++ connection.jobs.filterMap Job.reply?

/-- Nothing came up from one state to another. -/
structure Eases (old new : Connection η) : Prop where
  underway : List.Sublist new.underway old.underway
  unsent : ∀ reply ∈ new.unsentReplies, reply ∈ old.unsentReplies
  reading : new.isServed = true →
    old.isServed = true ∧ new.reassembly = old.reassembly ∧ new.backlog = old.backlog
  waiting : new.writer.waiting = old.writer.waiting
  streams : ∀ queued written, old.writer.Streams queued written →
    new.writer.Streams queued written

lemma Eases.refl (connection : Connection η) : Eases connection connection :=
  ⟨List.Sublist.refl _, fun _ present => present, fun served => ⟨served, rfl, rfl⟩, rfl,
    fun _ _ streams => streams⟩

lemma Eases.trans {first second third : Connection η} (sooner : Eases first second)
    (later : Eases second third) : Eases first third := by
  refine ⟨later.underway.trans sooner.underway, ?_, ?_, later.waiting.trans sooner.waiting, ?_⟩
  · intro reply present
    exact sooner.unsent reply (later.unsent reply present)
  · intro served
    obtain ⟨between, reassembly', backlog'⟩ := later.reading served
    obtain ⟨before, reassembly, backlog⟩ := sooner.reading between
    exact ⟨before, reassembly'.trans reassembly, backlog'.trans backlog⟩
  · intro queued written streams
    exact later.streams _ _ (sooner.streams _ _ streams)

lemma eases_settle (connection : Connection η) : Eases connection connection.settle := by
  unfold settle
  split
  · exact ⟨List.Sublist.refl _, fun _ present => present, fun served => ⟨served, rfl, rfl⟩, rfl,
      fun _ _ streams => streams.release⟩
  · exact .refl connection

lemma isServed_settle (connection : Connection η) :
    connection.settle.isServed = connection.isServed := by
  unfold settle
  split <;> rfl

lemma isServed_endReading (connection : Connection η) :
    connection.endReading.isServed = false := isServed_settle _

lemma eases_queueing (connection : Connection η) (queueing : List Party) :
    Eases connection { connection with queueing } :=
  ⟨List.Sublist.refl _, fun _ present => present, fun served => ⟨served, rfl, rfl⟩, rfl,
    fun _ _ streams => streams⟩

/-- A reader that ends takes what it was about with it. -/
lemma eases_endReading (connection : Connection η) (reassembly : Reassembly) :
    Eases connection { connection with reassembly }.endReading := by
  have ended : Eases connection
      { connection with reassembly, reader := .ended, backlog := [] } := by
    refine ⟨List.sublist_append_right _ _, ?_, fun served => (by cases served), rfl,
      fun _ _ streams => streams⟩
    intro reply present
    exact List.mem_append_right _ present
  exact ended.trans (eases_settle _)

/-- A job may leave, or come to a stage that is no longer under way. -/
lemma eases_jobs {connection : Connection η} {jobs : List (Job η)}
    (underway : List.Sublist (jobs.filterMap Job.underway?)
      (connection.jobs.filterMap Job.underway?))
    (unsent : ∀ reply ∈ jobs.filterMap Job.reply?, reply ∈ connection.unsentReplies) :
    Eases connection { connection with jobs } := by
  refine ⟨underway.append_left _, ?_, fun served => ⟨served, rfl, rfl⟩, rfl,
    fun _ _ streams => streams⟩
  intro reply present
  rcases List.mem_append.mp present with reader | job
  · exact List.mem_append_left _ reader
  · exact unsent reply job

lemma eases_endJob (connection : Connection η) (id : Nat) :
    Eases connection (connection.endJob id) := by
  have fewer : List.Sublist (connection.jobs.filter (·.id ≠ id)) connection.jobs :=
    List.filter_sublist
  refine Eases.trans (eases_jobs (fewer.filterMap _) ?_) (eases_settle _)
  intro reply present
  exact List.mem_append_right _ ((fewer.filterMap _).subset present)

lemma eases_sent (connection : Connection η) (party : Party) :
    Eases connection (connection.sent party) := by
  cases party with
  | job id => exact eases_endJob connection id
  | reader =>
    unfold sent
    dsimp only
    split
    · exact .refl connection
    · rename_i going
      refine ⟨List.sublist_append_right _ _, ?_, ?_, rfl, fun _ _ streams => streams⟩
      · intro reply present
        exact List.mem_append_right _ present
      · intro _
        refine ⟨?_, rfl, rfl⟩
        unfold isServed
        split
        · rename_i ended
          exact absurd ended going
        · rfl

lemma eases_unsent (connection : Connection η) (party : Party) :
    Eases connection (connection.unsent party) := by
  cases party with
  | job id => exact eases_endJob connection id
  | reader => exact eases_endReading connection connection.reassembly

lemma eases_stop (connection : Connection η) : Eases connection connection.stop := by
  unfold stop
  split
  · have aborted : Eases connection (connection.updateWriter Writer.abort) :=
      ⟨List.Sublist.refl _, fun _ present => present, fun served => ⟨served, rfl, rfl⟩,
        Writer.waiting_abort _, fun _ _ streams => streams.abort⟩
    exact aborted.trans (eases_endReading _ _)
  · exact .refl connection

/-! ## Stages of jobs -/

/-- The jobs of an ID are at a stage, and the others where they were. -/
def setStages (id : Nat) (stage : Stage) (jobs : List (Job η)) : List (Job η) :=
  jobs.map fun job => if job.id = id then { job with stage } else job

section

variable {stage : Stage} {id : Nat} {reply : Frame}

lemma underway_setStages (ready : stage.reply? = some reply) (jobs : List (Job η)) :
    List.Sublist ((setStages id stage jobs).filterMap Job.underway?)
      (jobs.filterMap Job.underway?) := by
  induction jobs with
  | nil => exact List.Sublist.refl _
  | cons job rest ih =>
    have rest_sublist : List.Sublist ((setStages id stage rest).filterMap Job.underway?)
        ((job :: rest).filterMap Job.underway?) :=
      ih.trans ((List.sublist_cons_self job rest).filterMap _)
    show List.Sublist (((if job.id = id then { job with stage } else job) ::
      setStages id stage rest).filterMap Job.underway?) _
    by_cases hit : job.id = id
    · rw [if_pos hit]
      cases stage with
      | executing => cases ready
      | replying | queueing => exact rest_sublist
    · rw [if_neg hit]
      cases here : job.underway? with
      | none =>
        rw [List.filterMap_cons_none here]
        exact rest_sublist
      | some entry =>
        rw [List.filterMap_cons_some here, List.filterMap_cons_some here]
        exact ih.cons_cons entry

lemma mem_replies_setStages {jobs : List (Job η)} {reply' : Frame}
    (ready : stage.reply? = some reply)
    (present : reply' ∈ (setStages id stage jobs).filterMap Job.reply?) :
    reply' = reply ∨ reply' ∈ jobs.filterMap Job.reply? := by
  obtain ⟨changed, member, shows⟩ := List.mem_filterMap.mp present
  obtain ⟨job, among, rfl⟩ := List.mem_map.mp member
  by_cases hit : job.id = id
  · rw [if_pos hit] at shows
    cases stage with
    | executing => cases ready
    | replying | queueing =>
      cases ready
      cases shows
      exact Or.inl rfl
  · rw [if_neg hit] at shows
    exact Or.inr (List.mem_filterMap.mpr ⟨job, among, shows⟩)

/-- A job whose handler was called is under way no more. -/
lemma underway_setStages_of_find {jobs : List (Job η)} {job : Job η}
    {entry : Registration η × Frame} (ready : stage.reply? = some reply)
    (found : jobs.find? (·.id = id) = some job) (executing : job.underway? = some entry) :
    ∃ before after, jobs.filterMap Job.underway? = before ++ entry :: after ∧
      List.Sublist ((setStages id stage jobs).filterMap Job.underway?) (before ++ after) := by
  induction jobs with
  | nil => cases found
  | cons first rest ih =>
    by_cases hit : first.id = id
    · rw [List.find?_cons_of_pos (by simpa using hit)] at found
      cases found
      refine ⟨[], rest.filterMap Job.underway?, List.filterMap_cons_some executing, ?_⟩
      show List.Sublist (((if job.id = id then { job with stage } else job) ::
        setStages id stage rest).filterMap Job.underway?) _
      rw [if_pos hit]
      cases stage with
      | executing => cases ready
      | replying | queueing => exact underway_setStages ready rest
    · rw [List.find?_cons_of_neg (by simpa using hit)] at found
      obtain ⟨before, after, split, fewer⟩ := ih found
      have tail : setStages id stage (first :: rest) = first :: setStages id stage rest := by
        show (if first.id = id then { first with stage } else first) :: _ = _
        rw [if_neg hit]
        rfl
      rw [tail]
      cases here : first.underway? with
      | none =>
        rw [List.filterMap_cons_none here, List.filterMap_cons_none here]
        exact ⟨before, after, split, fewer⟩
      | some other =>
        rw [List.filterMap_cons_some here, List.filterMap_cons_some here]
        refine ⟨other :: before, after, ?_, fewer.cons_cons other⟩
        rw [split]
        rfl

/-- A job whose reply is known is under way no more. -/
lemma eases_setStage {connection : Connection η} (ready : stage.reply? = some reply)
    (known : reply ∈ connection.unsentReplies) :
    Eases connection (connection.setStage id stage) := by
  refine eases_jobs (underway_setStages ready connection.jobs) ?_
  intro reply' present
  rcases mem_replies_setStages ready present with rfl | before
  · exact known
  · exact List.mem_append_right _ before

end

lemma mem_unsentReplies_of_outgoing {connection : Connection η} {party : Party} {reply : Frame}
    (outgoing : connection.outgoing? party = some reply) :
    reply ∈ connection.unsentReplies := by
  cases party with
  | reader =>
    apply List.mem_append_left
    unfold outgoing? at outgoing
    dsimp only at outgoing
    split at outgoing
    · rename_i answers
      cases outgoing
      rw [answers]
      exact List.mem_singleton_self _
    · cases outgoing
  | job id =>
    apply List.mem_append_right
    unfold outgoing? at outgoing
    dsimp only at outgoing
    split at outgoing
    · rename_i found
      cases outgoing
      exact List.mem_filterMap.mpr ⟨_, List.mem_of_find?_eq_some found, rfl⟩
    · cases outgoing

lemma eases_wait {connection : Connection η} {party : Party} {reply : Frame}
    (outgoing : connection.outgoing? party = some reply) :
    Eases connection (connection.wait reply party) := by
  have known := mem_unsentReplies_of_outgoing outgoing
  have queued := eases_queueing connection (connection.queueing ++ [party])
  cases party with
  | job id => exact queued.trans (eases_setStage rfl known)
  | reader =>
    refine queued.trans ⟨List.sublist_append_right _ _, ?_, ?_, rfl, fun _ _ streams => streams⟩
    · intro reply' present
      rcases List.mem_append.mp present with reader | job
      · rw [List.mem_singleton.mp reader]
        exact known
      · exact List.mem_append_right _ job
    · intro _
      refine ⟨?_, rfl, rfl⟩
      unfold outgoing? at outgoing
      dsimp only at outgoing
      unfold isServed
      split at outgoing
      · rename_i answers
        simp only [answers]
      · cases outgoing

end Connection

end RemoteCall
