import RemoteCall.Proofs.Writer.Batches

/-!
# Sends, step by step

A send reads the count of pending frames, adds its own frame to the count, and hands the frame to
the queue.  Each of these is a step, and other senders or the task may act between any two of them.
A send that finds the limit reached is held: it reads the count again and again until it finds it
below the limit or its time is up.  A thread that is held also looks whether the task is over; a
task that is held does not look.

The task takes a batch off the count when the batch is flushed, or when the sink has failed.  In the
second case it closes the queue only afterwards, so a sender may still get in between the two.

`Sending` is a writer whose sends go in these steps.  It also keeps the frames that its task has
left behind, which stay on the count for good.  A send that nobody comes in between does what
`Writer.send` says (`exists_run_of_send`), and the runs of a writer are among the runs here
(`exists_run_of_writer`).

## What is assumed of senders

A send that has begun is carried on until it ends.  It may stand still as long as it likes, but no
step takes it away: a task that sends is never cancelled while it waits for room.  Were it cancelled
there, its frame would not enter the queue, and would stay on the count for good, as the count goes
up before the frame is handed over and goes down only with a batch or a failure.  The connections of
this library cancel no task of theirs that sends, except together with the writer, of which nothing
is asked any more then.
-/

namespace RemoteCall

open Writer

/-! ## Steps of a writer -/

/-- The frames of the batch that a task writes. -/
def Writer.Task.batch : Task → List Frame
  | .writing batch _ | .flushing batch => batch
  | .idle | .finished | .failed _ | .aborted => []

@[simp] lemma Writer.Task.batch_writing (batch : List Frame) (accepted : Nat) :
    (Task.writing batch accepted).batch = batch := rfl

@[simp] lemma Writer.Task.batch_flushing (batch : List Frame) :
    (Task.flushing batch).batch = batch := rfl

@[simp] lemma Writer.Task.batch_idle : Task.idle.batch = [] := rfl

@[simp] lemma Writer.Task.batch_failed (e : Error) : (Task.failed e).batch = [] := rfl

@[simp] lemma Writer.Task.batch_aborted : Task.aborted.batch = [] := rfl

/-- A sender counts its frame, which then waits for a place in the queue. -/
def Writer.count (writer : Writer) (frame : Frame) : Writer :=
  { writer with pending := writer.pending + 1, waiting := writer.waiting ++ [frame] }

/-- A sender that has counted its frame goes on: it finds the task over and takes the frame off the
count again, or it finds room. -/
def Writer.enter (writer : Writer) (n : Nat) : Option (Sent × Writer) :=
  match writer.waiting[n]? with
  | none => none
  | some frame =>
    if writer.isOver then
      some (.failed .connectionClosed,
        { writer with waiting := writer.waiting.eraseIdx n, pending := writer.pending - 1 })
    else if writer.queue.length < writer.settings.capacity then
      some (.queued,
        { writer with waiting := writer.waiting.eraseIdx n, queue := writer.queue ++ [frame] })
    else none

/-- The first of them goes on as one that waits for room. -/
lemma Writer.enter_zero (writer : Writer) : writer.enter 0 = writer.resume := by
  unfold Writer.enter Writer.resume
  cases writer.waiting <;> rfl

lemma eraseIdx_append_singleton {α : Type} (l : List α) (a : α) :
    (l ++ [a]).eraseIdx l.length = l := by
  rw [List.eraseIdx_append_of_length_le (Nat.le_refl _), Nat.sub_self, List.eraseIdx_cons_zero,
    List.append_nil]

/-- A sender that has just counted its frame goes on at once. -/
lemma Writer.enter_count (writer : Writer) (frame : Frame) :
    (writer.count frame).enter writer.waiting.length =
      if writer.isOver then some (.failed .connectionClosed, writer)
      else if writer.queue.length < writer.settings.capacity then
        some (.queued, { writer with
          pending := writer.pending + 1
          queue := writer.queue ++ [frame] })
      else none := by
  have here : (writer.count frame).waiting[writer.waiting.length]? = some frame :=
    List.getElem?_concat_length
  have left : (writer.count frame).waiting.eraseIdx writer.waiting.length = writer.waiting :=
    eraseIdx_append_singleton _ _
  unfold Writer.enter
  rw [here]
  simp only [left]
  rfl

/-- The task gives its batch up.  Until it has closed the queue, it has a flush of nothing left. -/
def Writer.dropBatch (writer : Writer) : Writer :=
  { writer with pending := writer.pending - writer.task.batch.length, task := .flushing [] }

/-- A failure is the loss of the batch, and then the end. -/
lemma Writer.fail_dropBatch {writer : Writer}
    (busy : (∃ batch accepted, writer.task = .writing batch accepted) ∨
      ∃ batch, writer.task = .flushing batch) (e : Error) :
    writer.dropBatch.fail e = writer.fail e := by
  unfold Writer.fail Writer.dropBatch
  rcases busy with ⟨batch, accepted, writing⟩ | ⟨batch, flushing⟩
  · simp [writing]
  · simp [flushing]

/-! ## Sends -/

/-- How far a send is that has not counted its frame. -/
inductive Sending.Progress where
  /-- It has not read the count. -/
  | arrived
  /-- It has found the limit reached. -/
  | held
  /-- It has found the count below the limit. -/
  | passed
  deriving DecidableEq, Repr

/-- A send that has not counted its frame. -/
structure Sending.Attempt where
  sender : Sender
  frame : Frame
  progress : Sending.Progress
  deriving DecidableEq, Repr

/-- A writer and the sends that are under way. -/
structure Sending where
  writer : Writer
  /-- The frames that the idle task has taken out of the queue for its next batch. -/
  gathered : List Frame
  /-- The sends that have not counted their frames.  The frames of the others wait at the writer. -/
  attempts : List Sending.Attempt
  /-- The failure of a task that has given its batch up and has not closed the queue. -/
  broken : Option Error
  /-- The frames that the task has left behind: it was over before it had written them. -/
  stranded : List Frame
  deriving DecidableEq, Repr

namespace Sending

/-- A writer that has not been used. -/
def start (settings : QueueSettings) : Sending := ⟨.start settings, [], [], none, []⟩

/-- How many sends have begun and not ended. -/
def underway (sending : Sending) : Nat := sending.attempts.length + sending.writer.waiting.length

/-- Whether a sender finds the limit reached. -/
def atLimit (sending : Sending) : Prop :=
  sending.writer.settings.maxPending ≤ sending.writer.pending

instance (sending : Sending) : Decidable sending.atLimit :=
  inferInstanceAs (Decidable (_ ≤ _))

/-- What an action did. -/
inductive Effect where
  /-- The count of pending frames was changed by so much. -/
  | adjusted (change : Int)
  /-- A frame entered the queue: its send has succeeded. -/
  | queued (frame : Frame)
  /-- A send has failed. -/
  | failed (frame : Frame) (e : Error)
  /-- The sink accepted bytes. -/
  | wrote (bytes : Bytes)
  deriving DecidableEq, Repr

/-! ### What a send does -/

/-- A send reads the count. -/
def look (sending : Sending) (n : Nat) : Sending :=
  match sending.attempts[n]? with
  | some ⟨_, _, .passed⟩ | none => sending
  | some ⟨sender, frame, _⟩ =>
    let progress := if sending.atLimit then .held else .passed
    { sending with attempts := sending.attempts.set n ⟨sender, frame, progress⟩ }

/-- The time of a send is up that is held. -/
def expire (sending : Sending) (n : Nat) : Sending × List Effect :=
  match sending.attempts[n]? with
  | some ⟨_, frame, .held⟩ =>
    ({ sending with attempts := sending.attempts.eraseIdx n },
      [.failed frame .backpressureTimeout])
  | _ => (sending, [])

/-- A thread that is held looks whether the task is over. -/
def notice (sending : Sending) (n : Nat) : Sending × List Effect :=
  match sending.attempts[n]?, sending.writer.isOver with
  | some ⟨.thread, frame, .held⟩, true =>
    ({ sending with attempts := sending.attempts.eraseIdx n }, [.failed frame .connectionClosed])
  | _, _ => (sending, [])

/-- A send that has passed the limit counts its frame. -/
def count (sending : Sending) (n : Nat) : Sending × List Effect :=
  match sending.attempts[n]? with
  | some ⟨_, frame, .passed⟩ =>
    ({ sending with
        attempts := sending.attempts.eraseIdx n
        writer := sending.writer.count frame }, [.adjusted 1])
  | _ => (sending, [])

/-- A send that has counted its frame goes on. -/
def enter (sending : Sending) (n : Nat) : Sending × List Effect :=
  match sending.writer.waiting[n]?, sending.writer.enter n with
  | some frame, some (.queued, writer) => ({ sending with writer }, [.queued frame])
  | some frame, some (.failed e, writer) =>
    ({ sending with writer }, [.adjusted (-1), .failed frame e])
  | _, _ => (sending, [])

/-! ### What the task and its owner do -/

/-- The task puts a batch together. -/
def onBatching (sending : Sending) (change : Batching → Batching) : Sending :=
  let batching := change ⟨sending.writer, sending.gathered⟩
  { sending with writer := batching.writer, gathered := batching.gathered }

/-- Writing or flushing has failed, and the task takes its batch off the count. -/
def breakDown (sending : Sending) (e : Error) : Sending × List Effect :=
  match sending.broken, sending.writer.task with
  | none, .writing batch _ | none, .flushing batch =>
    ({ sending with writer := sending.writer.dropBatch, broken := some e },
      [.adjusted (-batch.length)])
  | _, _ => (sending, [])

/-- The task that has failed closes the queue, and is over. -/
def close (sending : Sending) : Sending :=
  match sending.broken with
  | some e =>
    { sending with
      writer := sending.writer.fail e
      broken := none
      stranded := sending.writer.queue }
  | none => sending

/-- The sink accepts bytes.  A sink that accepts nothing has failed. -/
def accept (sending : Sending) (n : Nat) : Sending × List Effect :=
  let wrote := .wrote (sending.writer.offered.flatten.take n)
  match sending.writer.task, n with
  | .writing .., 0 =>
    let (next, effects) := sending.breakDown nothingWritten
    (next, wrote :: effects)
  | _, _ => ({ sending with writer := sending.writer.accept n }, [wrote])

/-- The flush is done, and the task takes its batch off the count. -/
def flushed (sending : Sending) : Sending × List Effect :=
  match sending.broken, sending.writer.task with
  | none, .flushing batch =>
    ({ sending with writer := sending.writer.flushed }, [.adjusted (-batch.length)])
  | _, _ => (sending, [])

/-- The task is cancelled wherever it waits, and drops what it has. -/
def abort (sending : Sending) : Sending :=
  if sending.writer.isOver ∨ sending.broken ≠ none then sending
  else
    { sending with
      writer := sending.writer.abort
      gathered := []
      stranded := sending.gathered ++ sending.writer.task.batch ++ sending.writer.queue }

/-! ### Runs -/

/-- An action on a writer.  There is none that cancels a send: one that has begun ends with
`queued` or `failed`, or stands still. -/
inductive Event where
  /-- A send begins. -/
  | arrive (sender : Sender) (frame : Frame)
  | look (n : Nat)
  | expire (n : Nat)
  | notice (n : Nat)
  | count (n : Nat)
  | enter (n : Nat)
  | gather
  | writeBatch
  | finish
  | accept (n : Nat)
  | flushed
  | breakDown (e : Error)
  | close
  | release
  | abort
  deriving DecidableEq, Repr

/-- Run one action.  An action that is not possible changes nothing. -/
def step (sending : Sending) : Event → Sending × List Effect
  | .arrive sender frame =>
    ({ sending with attempts := sending.attempts ++ [⟨sender, frame, .arrived⟩] }, [])
  | .look n => (sending.look n, [])
  | .expire n => sending.expire n
  | .notice n => sending.notice n
  | .count n => sending.count n
  | .enter n => sending.enter n
  | .gather => (sending.onBatching Batching.gather, [])
  | .writeBatch => (sending.onBatching Batching.writeBatch, [])
  | .finish => (sending.onBatching Batching.finish, [])
  | .accept n => sending.accept n
  | .flushed => sending.flushed
  | .breakDown e => sending.breakDown e
  | .close => (sending.close, [])
  | .release => ({ sending with writer := sending.writer.release }, [])
  | .abort => (sending.abort, [])

/-- Run actions one after the other. -/
def run (sending : Sending) (events : List Event) : Sending × List Effect :=
  Machine.run step sending events

lemma run_append (sending : Sending) (first second : List Event) :
    sending.run (first ++ second) =
      (((sending.run first).1.run second).1,
        (sending.run first).2 ++ ((sending.run first).1.run second).2) :=
  Machine.run_append step sending first second

/-! ## A send that nobody comes in between -/

/-- What is seen of an action besides the count. -/
def Effect.seen? : Effect → Option Batching.Effect
  | .adjusted _ => none
  | .queued frame => some (.queued frame)
  | .failed frame e => some (.failed frame e)
  | .wrote bytes => some (.wrote bytes)

section

variable (sending : Sending) (sender : Sender) (frame : Frame)

/-- A send comes and reads the count. -/
lemma run_look :
    sending.run [.arrive sender frame, .look sending.attempts.length] =
      ({ sending with
          attempts := sending.attempts ++
            [⟨sender, frame, if sending.atLimit then .held else .passed⟩] }, []) := by
  have here : (sending.attempts ++ [⟨sender, frame, .arrived⟩])[sending.attempts.length]? =
      some (⟨sender, frame, .arrived⟩ : Attempt) := List.getElem?_concat_length
  have changed : ∀ last attempt : Attempt,
      (sending.attempts ++ [last]).set sending.attempts.length attempt =
        sending.attempts ++ [attempt] := by
    intro last attempt
    rw [List.set_append_right _ _ (Nat.le_refl _), Nat.sub_self, List.set_cons_zero]
  simp only [run, Machine.run_cons, Machine.run_nil, step, look, here, changed, List.append_nil]
  rfl

/-- Below the limit it counts its frame. -/
lemma run_count (below : ¬ sending.atLimit) :
    sending.run [.arrive sender frame, .look sending.attempts.length,
        .count sending.attempts.length] =
      ({ sending with writer := sending.writer.count frame }, [.adjusted 1]) := by
  have here : (sending.attempts ++ [⟨sender, frame, .passed⟩])[sending.attempts.length]? =
      some (⟨sender, frame, .passed⟩ : Attempt) := List.getElem?_concat_length
  show sending.run ([.arrive sender frame, .look _] ++ [.count _]) = _
  rw [run_append, run_look, if_neg below]
  simp only [run, Machine.run_cons, Machine.run_nil, step, count, here, eraseIdx_append_singleton,
    List.nil_append, List.append_nil]

/-- The steps of a send that goes straight on: it comes, reads the count, adds to it, and hands its
frame to the queue. -/
def straight : List Event :=
  [.arrive sender frame, .look sending.attempts.length, .count sending.attempts.length,
    .enter sending.writer.waiting.length]

lemma run_straight (below : ¬ sending.atLimit) :
    sending.run (sending.straight sender frame) =
      if sending.writer.isOver then
        (sending, [.adjusted 1, .adjusted (-1), .failed frame .connectionClosed])
      else if sending.writer.queue.length < sending.writer.settings.capacity then
        ({ sending with
          writer := { sending.writer with
            pending := sending.writer.pending + 1
            queue := sending.writer.queue ++ [frame] } }, [.adjusted 1, .queued frame])
      else ({ sending with writer := sending.writer.count frame }, [.adjusted 1]) := by
  have here : (sending.writer.count frame).waiting[sending.writer.waiting.length]? = some frame :=
    List.getElem?_concat_length
  show sending.run ([.arrive sender frame, .look _, .count _] ++ [.enter _]) = _
  rw [run_append, run_count sending sender frame below]
  simp only [run, Machine.run_cons, Machine.run_nil, step, enter, here, Writer.enter_count]
  by_cases stopped : sending.writer.isOver = true
  · simp only [if_pos stopped]
    rfl
  · by_cases room : sending.writer.queue.length < sending.writer.settings.capacity
    · simp only [if_neg stopped, if_pos room]
      rfl
    · simp only [if_neg stopped, if_neg room]
      rfl

/-- Below the limit it does what a sender does that has passed. -/
lemma exists_run_of_pass (below : ¬ sending.atLimit) :
    ∃ events history, sending.run events =
        ({ sending with writer := (sending.writer.pass frame).2 }, history) ∧
      history.filterMap Effect.seen? = Batching.report frame (sending.writer.pass frame).1 := by
  have straight := run_straight sending .task frame below
  by_cases stopped : sending.writer.isOver = true
  · have passed : sending.writer.pass frame = (.failed .connectionClosed, sending.writer) :=
      if_pos stopped
    rw [if_pos stopped] at straight
    rw [passed]
    exact ⟨_, _, straight, rfl⟩
  · by_cases room : sending.writer.hasRoom = true
    · have free : sending.writer.queue.length < sending.writer.settings.capacity := by
        unfold Writer.hasRoom at room
        simpa using (Bool.and_eq_true_iff.mp room).2
      have passed : sending.writer.pass frame = (.queued, { sending.writer with
          pending := sending.writer.pending + 1
          queue := sending.writer.queue ++ [frame] }) :=
        (if_neg stopped).trans (if_pos room)
      rw [if_neg stopped, if_pos free] at straight
      rw [passed]
      exact ⟨_, _, straight, rfl⟩
    · have passed : sending.writer.pass frame = (.waiting, sending.writer.count frame) :=
        (if_neg stopped).trans (if_neg room)
      rw [passed]
      exact ⟨_, _, run_count sending .task frame below, rfl⟩

/-- A send that nobody comes in between does what `Writer.send` says. -/
theorem exists_run_of_send :
    ∃ events history, sending.run events =
        ({ sending with writer := (sending.writer.send sender frame).2 }, history) ∧
      history.filterMap Effect.seen? =
        Batching.report frame (sending.writer.send sender frame).1 := by
  have sent : sending.writer.send sender frame =
      if sending.atLimit then (.failed (sending.writer.heldError sender), sending.writer)
      else sending.writer.pass frame := Writer.send_eq _ _ _
  by_cases held : sending.atLimit
  · rw [sent, if_pos held]
    have here : (sending.attempts ++ [⟨sender, frame, .held⟩])[sending.attempts.length]? =
        some (⟨sender, frame, .held⟩ : Attempt) := List.getElem?_concat_length
    have come := run_look sending sender frame
    rw [if_pos held] at come
    by_cases noticed : sender = .thread ∧ sending.writer.isOver = true ∧
        0 < sending.writer.settings.timeout
    · obtain ⟨rfl, stopped, time⟩ := noticed
      refine ⟨[.arrive .thread frame, .look sending.attempts.length] ++
        [.notice sending.attempts.length],
        [.failed frame .connectionClosed], ?_, ?_⟩
      · rw [run_append, come]
        simp only [run, Machine.run_cons, Machine.run_nil, step, notice, here, stopped,
          eraseIdx_append_singleton, List.nil_append, List.append_nil]
      · simp only [heldError, if_pos (And.intro stopped time)]
        rfl
    · refine ⟨[.arrive sender frame, .look sending.attempts.length] ++
        [.expire sending.attempts.length],
        [.failed frame .backpressureTimeout], ?_, ?_⟩
      · rw [run_append, come]
        simp only [run, Machine.run_cons, Machine.run_nil, step, expire, here,
          eraseIdx_append_singleton, List.nil_append, List.append_nil]
      · have late : sending.writer.heldError sender = .backpressureTimeout := by
          cases sender with
          | task => rfl
          | thread => exact if_neg fun both => noticed ⟨rfl, both⟩
        rw [late]
        rfl
  · rw [sent, if_neg held]
    exact exists_run_of_pass sending frame held

end

/-! ## The runs of a writer -/

/-- A writer that nobody sends to at the moment. -/
def ofWriter (writer : Writer) (stranded : List Frame) : Sending := ⟨writer, [], [], none, stranded⟩

/-- The task puts a batch together as it does without the senders. -/
lemma run_onBatching (sending : Sending) (n : Nat) :
    sending.run (List.replicate n .gather ++ [.writeBatch]) =
      (sending.onBatching fun batching =>
        (batching.run (List.replicate n .gather ++ [.writeBatch])).1, []) := by
  induction n generalizing sending with
  | zero => rfl
  | succ n ih => exact congrArg (fun result => (result.1, [] ++ result.2)) (ih _)

lemma exists_run_of_collect (writer : Writer) (stranded : List Frame) :
    ∃ events, (ofWriter writer stranded).run events =
      (ofWriter (writer.collect.getD writer) stranded, []) := by
  cases state : writer.task with
  | idle =>
    cases next : writer.queue with
    | nil =>
      refine ⟨[.finish], ?_⟩
      simp [run, step, onBatching, Batching.finish, next, ofWriter]
    | cons frame rest =>
      refine ⟨List.replicate (min batchLimit writer.queue.length) .gather ++ [.writeBatch], ?_⟩
      rw [run_onBatching]
      simp only [onBatching, ofWriter]
      rw [Batching.run_gather_collect state (next ▸ List.cons_ne_nil frame rest)]
  | writing | flushing | finished | failed | aborted =>
    refine ⟨[], ?_⟩
    simp [run, Writer.collect, state]

/-- A failure takes two steps. -/
lemma exists_run_of_fail (writer : Writer) (stranded : List Frame) (e : Error) :
    ∃ events history left, (ofWriter writer stranded).run events =
        (ofWriter (writer.fail e) left, history) ∧ history.filterMap Effect.seen? = [] := by
  cases state : writer.task with
  | writing batch accepted =>
    refine ⟨[.breakDown e, .close], [.adjusted (-batch.length)], writer.dropBatch.queue, ?_, rfl⟩
    rw [← Writer.fail_dropBatch (Or.inl ⟨batch, accepted, state⟩)]
    simp [run, step, breakDown, close, ofWriter, state]
  | flushing batch =>
    refine ⟨[.breakDown e, .close], [.adjusted (-batch.length)], writer.dropBatch.queue, ?_, rfl⟩
    rw [← Writer.fail_dropBatch (Or.inr ⟨batch, state⟩)]
    simp [run, step, breakDown, close, ofWriter, state]
  | idle | finished | failed | aborted =>
    refine ⟨[], [], stranded, ?_, rfl⟩
    simp [run, Writer.fail, state]

lemma exists_run_of_accept (writer : Writer) (stranded : List Frame) (n : Nat) :
    ∃ events history left, (ofWriter writer stranded).run events =
        (ofWriter (writer.accept n) left, history) ∧
      history.filterMap Effect.seen? = [.wrote (writer.offered.flatten.take n)] := by
  by_cases nothing : (∃ batch accepted, writer.task = .writing batch accepted) ∧ n = 0
  · obtain ⟨⟨batch, accepted, state⟩, rfl⟩ := nothing
    have failed : writer.accept 0 = writer.dropBatch.fail nothingWritten := by
      rw [Writer.fail_dropBatch (Or.inl ⟨batch, accepted, state⟩)]
      simp only [Writer.accept, state, if_true]
    refine ⟨[.accept 0, .close], [.wrote [], .adjusted (-batch.length)], writer.dropBatch.queue, ?_,
      rfl⟩
    rw [failed]
    simp [run, step, accept, breakDown, close, ofWriter, state]
  · refine ⟨[.accept n], [.wrote (writer.offered.flatten.take n)], stranded, ?_, rfl⟩
    have accepts : (ofWriter writer stranded).accept n =
        (ofWriter (writer.accept n) stranded, [.wrote (writer.offered.flatten.take n)]) := by
      unfold accept
      dsimp only
      split
      · rename_i writing
        exact absurd ⟨⟨_, _, writing⟩, rfl⟩ nothing
      · rfl
    simp only [run, Machine.run_cons, Machine.run_nil, step, accepts, List.append_nil]

lemma exists_run_of_resume (writer : Writer) (stranded : List Frame) :
    ∃ events history, (ofWriter writer stranded).run events =
        (ofWriter (writer.step .resume).1 stranded, history) ∧
      (history.filterMap Effect.seen?).filterMap Batching.Effect.shown? =
        (writer.step .resume).2 := by
  cases waits : writer.waiting with
  | nil => refine ⟨[], [], ?_, ?_⟩ <;> simp [run, Writer.step, waits]
  | cons frame rest =>
    cases resumed : writer.resume with
    | none => refine ⟨[], [], ?_, ?_⟩ <;> simp [run, Writer.step, resumed]
    | some result =>
      obtain ⟨outcome, next⟩ := result
      have ended := (Batching.hands_resume waits resumed).2.2
      cases outcome with
      | waiting => exact absurd rfl ended
      | queued =>
        refine ⟨[.enter 0], [.queued frame], ?_, ?_⟩
        · simp [run, step, enter, ofWriter, Writer.enter_zero, Writer.step, waits, resumed]
        · simp only [Writer.step, waits, resumed]
          rfl
      | failed e =>
        refine ⟨[.enter 0], [.adjusted (-1), .failed frame e], ?_, ?_⟩
        · simp [run, step, enter, ofWriter, Writer.enter_zero, Writer.step, waits, resumed]
        · simp only [Writer.step, waits, resumed]
          rfl

lemma exists_run_of_offer (writer : Writer) (stranded : List Frame) (frame : Frame) :
    ∃ events history, (ofWriter writer stranded).run events =
        (ofWriter (writer.step (.offer frame)).1 stranded, history) ∧
      (history.filterMap Effect.seen?).filterMap Batching.Effect.shown? =
        (writer.step (.offer frame)).2 := by
  by_cases held : (ofWriter writer stranded).atLimit
  · have reached : writer.settings.maxPending ≤ writer.pending := held
    refine ⟨[], [], ?_, ?_⟩ <;> simp [run, Writer.step, Writer.offer_eq, reached]
  · have below : ¬ writer.settings.maxPending ≤ writer.pending := held
    obtain ⟨events, history, ran, seen⟩ := exists_run_of_pass _ frame held
    refine ⟨events, history, ran.trans ?_, ?_⟩
    · simp only [Writer.step, Writer.offer_eq, if_neg below, ofWriter]
      cases (writer.pass frame).1 <;> rfl
    · rw [seen]
      simp only [Writer.step, Writer.offer_eq, if_neg below, ofWriter]
      cases (writer.pass frame).1 <;> rfl

/-- A flush takes the batch off the count; there is nothing to flush otherwise. -/
lemma exists_run_of_flushed (writer : Writer) (stranded : List Frame) :
    ∃ history, (ofWriter writer stranded).run [.flushed] =
        (ofWriter writer.flushed stranded, history) ∧ history.filterMap Effect.seen? = [] := by
  cases state : writer.task with
  | flushing batch =>
    refine ⟨[.adjusted (-batch.length)], ?_, rfl⟩
    simp [run, step, flushed, ofWriter, state]
  | idle | writing | finished | failed | aborted =>
    refine ⟨[], ?_, rfl⟩
    simp [run, step, flushed, ofWriter, state, Writer.flushed]

/-- Every action of a writer is a run. -/
lemma exists_run_of_step (writer : Writer) (stranded : List Frame) (event : Writer.Event) :
    ∃ events history left, (ofWriter writer stranded).run events =
        (ofWriter (writer.step event).1 left, history) ∧
      (history.filterMap Effect.seen?).filterMap Batching.Effect.shown? =
        (writer.step event).2 := by
  cases event with
  | offer frame =>
    obtain ⟨events, history, ran, seen⟩ := exists_run_of_offer writer stranded frame
    exact ⟨events, history, stranded, ran, seen⟩
  | resume =>
    obtain ⟨events, history, ran, seen⟩ := exists_run_of_resume writer stranded
    exact ⟨events, history, stranded, ran, seen⟩
  | collect =>
    obtain ⟨events, ran⟩ := exists_run_of_collect writer stranded
    exact ⟨events, [], stranded, ran, rfl⟩
  | accept n =>
    obtain ⟨events, history, left, ran, seen⟩ := exists_run_of_accept writer stranded n
    refine ⟨events, history, left, ran, ?_⟩
    rw [seen]
    rfl
  | fail e =>
    obtain ⟨events, history, left, ran, seen⟩ := exists_run_of_fail writer stranded e
    refine ⟨events, history, left, ran, ?_⟩
    rw [seen]
    rfl
  | flushed =>
    obtain ⟨history, ran, seen⟩ := exists_run_of_flushed writer stranded
    refine ⟨[.flushed], history, stranded, ran, ?_⟩
    rw [seen]
    rfl
  | release => exact ⟨[.release], [], stranded, rfl, rfl⟩
  | abort =>
    by_cases stopped : writer.isOver = true
    · refine ⟨[], [], stranded, ?_, rfl⟩
      simp [run, Writer.step, Writer.abort, stopped]
    · refine ⟨[.abort], [], [] ++ writer.task.batch ++ writer.queue, ?_, rfl⟩
      simp [run, step, abort, ofWriter, stopped, Writer.step]

/-- The runs of a writer are among those whose sends go step by step. -/
theorem exists_run_of_writer (writer : Writer) (stranded : List Frame)
    (events : List Writer.Event) :
    ∃ actions history left, (ofWriter writer stranded).run actions =
        (ofWriter (writer.run events).1 left, history) ∧
      (history.filterMap Effect.seen?).filterMap Batching.Effect.shown? =
        (writer.run events).2 := by
  induction events generalizing writer stranded with
  | nil => exact ⟨[], [], stranded, rfl, rfl⟩
  | cons event rest ih =>
    obtain ⟨first, shown, between, ran, agrees⟩ := exists_run_of_step writer stranded event
    obtain ⟨later, more, left, ran', agrees'⟩ := ih (writer.step event).1 between
    refine ⟨first ++ later, shown ++ more, left, ?_, ?_⟩
    · rw [run_append, ran, ran']
      rfl
    · rw [List.filterMap_append, List.filterMap_append, agrees, agrees']
      rfl

end Sending

end RemoteCall
