import RemoteCall.Proofs.Writer.Sends

/-!
# The count of pending frames

Every frame that is on the count of a writer is in the queue, in the hands of the task, with a
sender that has counted it and has no place in the queue yet, or was left behind by a task that is
over (`Writer.Counts`).  Each action keeps this, whoever comes in between, so nothing is ever taken
off the count that was not on it (`Sound.level`).

## The invariant

`Counts` is an equation between numbers, the count on the one side and the lengths of four lists on
the other.  The frames that were left behind are no part of a writer; `Sending` remembers them, and
they are none as long as the task goes on (`Counts.going`).

A batch that is being gathered is in nobody's hands yet as far as `Writer` is concerned: it was
taken out of the queue, and the task is still idle.  So the equation is stated of the writer as it
would be if the task had not begun to gather (`whole`).

## Batches and failures

A batch is taken off the count as a whole when it was flushed or when the sink has failed, and never
more than its length is taken off (`Sound.batch_le`).  What is in the queue when the task ends is
left there, and stays on the count.

## Main statement

* `Sending.sound_run` — what is on the count, in every run.
-/

namespace RemoteCall

open Writer

/-! ## What is on the count -/

/-- Every frame on the count is somewhere; `stranded` are those that the task has left behind. -/
structure Writer.Counts (stranded : List Frame) (writer : Writer) : Prop where
  pending : writer.pending = writer.queue.length + writer.task.batch.length +
    writer.waiting.length + stranded.length
  /-- Only a task that came to a bad end leaves frames behind. -/
  left : stranded = [] ∨ writer.task = .aborted ∨ ∃ e, writer.task = .failed e
  /-- A task that is over leaves nothing in the queue. -/
  cleared : writer.isOver = true → writer.queue = []

namespace Writer

lemma counts_start (settings : QueueSettings) : Counts [] (start settings) :=
  ⟨rfl, Or.inl rfl, fun _ => rfl⟩

section

variable {writer : Writer} {stranded : List Frame}

lemma Counts.going (counts : Counts stranded writer) (going : writer.isOver = false) :
    stranded = [] := by
  unfold isOver at going
  rcases counts.left with nothing | aborted | ⟨e, failed⟩
  · exact nothing
  · rw [aborted] at going
    cases going
  · rw [failed] at going
    cases going

/-! ### Senders -/

lemma Counts.count (counts : Counts stranded writer) (frame : Frame) :
    Counts stranded (writer.count frame) := by
  refine ⟨?_, counts.left, counts.cleared⟩
  have pending := counts.pending
  simp only [Writer.count, List.length_append, List.length_singleton]
  omega

lemma Counts.enter (counts : Counts stranded writer) {n : Nat} {outcome : Sent} {next : Writer}
    (entered : writer.enter n = some (outcome, next)) : Counts stranded next := by
  have pending := counts.pending
  unfold Writer.enter at entered
  split at entered
  · cases entered
  · rename_i frame here
    obtain ⟨within, -⟩ := List.getElem?_eq_some_iff.mp here
    split at entered
    · cases entered
      refine ⟨?_, counts.left, counts.cleared⟩
      simp only [List.length_eraseIdx, if_pos within]
      omega
    · rename_i going
      split at entered
      · cases entered
        refine ⟨?_, counts.left, fun halted => absurd halted going⟩
        simp only [List.length_eraseIdx, if_pos within, List.length_append, List.length_singleton]
        omega
      · cases entered

lemma Counts.resume (counts : Counts stranded writer) {outcome : Sent} {next : Writer}
    (resumed : writer.resume = some (outcome, next)) : Counts stranded next :=
  counts.enter ((enter_zero writer).trans resumed)

lemma Counts.pass (counts : Counts stranded writer) (frame : Frame) :
    Counts stranded (writer.pass frame).2 := by
  unfold Writer.pass
  split
  · exact counts
  · rename_i going
    split
    · refine ⟨?_, counts.left, fun halted => absurd halted going⟩
      have pending := counts.pending
      simp only [List.length_append, List.length_singleton]
      omega
    · exact counts.count frame

/-! ### The task -/

lemma Counts.collect (counts : Counts stranded writer) {next : Writer}
    (collected : writer.collect = some next) : Counts stranded next := by
  unfold Writer.collect at collected
  split at collected
  · rename_i idle empty
    have nothing := counts.going (by rw [isOver, idle]; rfl)
    split at collected
    · cases collected
      refine ⟨?_, Or.inl nothing, fun _ => empty⟩
      have pending := counts.pending
      rw [idle] at pending
      exact pending
    · cases collected
  · rename_i idle _
    cases collected
    refine ⟨?_, Or.inl (counts.going (by rw [isOver, idle]; rfl)), nofun⟩
    have pending := counts.pending
    simp only [idle, Task.batch_idle, Task.batch_writing, List.length_nil, List.length_take,
      List.length_drop] at pending ⊢
    omega
  · cases collected

/-- An idle task that finds the queue empty ends, or goes on waiting. -/
lemma collect_of_empty {next : Writer} (empty : writer.queue = [])
    (collected : writer.collect = some next) :
    writer.task = .idle ∧ next = { writer with task := .finished } := by
  unfold Writer.collect at collected
  split at collected
  · rename_i idle _
    split at collected
    · cases collected
      exact ⟨idle, rfl⟩
    · cases collected
  · rename_i some
    exact absurd empty some
  · cases collected

lemma Counts.dropBatch (counts : Counts stranded writer)
    (going : writer.isOver = false) : Counts stranded writer.dropBatch := by
  refine ⟨?_, Or.inl (counts.going going), nofun⟩
  have pending := counts.pending
  simp only [Writer.dropBatch, Task.batch_flushing, List.length_nil]
  omega

/-- The frames in the queue are left behind, and the batch is not. -/
lemma Counts.fail (counts : Counts stranded writer)
    (busy : (∃ batch accepted, writer.task = .writing batch accepted) ∨
      ∃ batch, writer.task = .flushing batch) (e : Error) :
    Counts writer.queue (writer.fail e) := by
  have going : writer.isOver = false := by
    unfold isOver
    rcases busy with ⟨batch, accepted, writing⟩ | ⟨batch, flushing⟩
    · rw [writing]
      rfl
    · rw [flushing]
      rfl
  have pending := counts.pending
  rw [counts.going going, List.length_nil] at pending
  unfold Writer.fail
  rcases busy with ⟨batch, accepted, writing⟩ | ⟨batch, flushing⟩
  · simp only [writing, Task.batch_writing] at pending ⊢
    refine ⟨?_, Or.inr (Or.inr ⟨e, rfl⟩), fun _ => rfl⟩
    simp only [Task.batch_failed, List.length_nil]
    omega
  · simp only [flushing, Task.batch_flushing] at pending ⊢
    refine ⟨?_, Or.inr (Or.inr ⟨e, rfl⟩), fun _ => rfl⟩
    simp only [Task.batch_failed, List.length_nil]
    omega

lemma Counts.flushed (counts : Counts stranded writer) : Counts stranded writer.flushed := by
  unfold Writer.flushed
  split
  · rename_i batch flushing
    refine ⟨?_, Or.inl (counts.going (by rw [isOver, flushing]; rfl)), nofun⟩
    have pending := counts.pending
    simp only [flushing, Task.batch_flushing, Task.batch_idle, List.length_nil] at pending ⊢
    omega
  · exact counts

/-- A task that goes on writing keeps its batch. -/
lemma Counts.written (counts : Counts stranded writer)
    (busy : ∃ batch accepted, writer.task = .writing batch accepted) {task : Task}
    (batch : task.batch = writer.task.batch) (going : task.isOver = false) :
    Counts stranded { writer with task } := by
  obtain ⟨_, _, writing⟩ := busy
  refine ⟨?_, Or.inl (counts.going (by rw [isOver, writing]; rfl)), ?_⟩
  · have pending := counts.pending
    rw [← batch] at pending
    exact pending
  · intro halted
    rw [show isOver { writer with task } = task.isOver from rfl, going] at halted
    cases halted

/-- A sink that accepts nothing has failed; otherwise the batch stays in the hands of the task. -/
lemma accept_cases (writer : Writer) (n : Nat) : writer.accept n = writer ∨
    (∃ batch accepted, writer.task = .writing batch accepted) ∧
      (n = 0 ∧ writer.accept n = writer.fail nothingWritten ∨
        ∃ task, task.batch = writer.task.batch ∧ task.isOver = false ∧
          writer.accept n = { writer with task }) := by
  unfold Writer.accept
  split
  · rename_i batch accepted writing
    refine Or.inr ⟨⟨batch, accepted, writing⟩, ?_⟩
    rw [writing]
    by_cases nothing : n = 0
    · exact Or.inl ⟨nothing, if_pos nothing⟩
    · rw [if_neg nothing]
      by_cases done : (content batch).length ≤ accepted + n
      · exact Or.inr ⟨.flushing batch, rfl, rfl, if_pos done⟩
      · exact Or.inr ⟨.writing batch (accepted + n), rfl, rfl, if_neg done⟩
  · exact Or.inl rfl

lemma Counts.accept (counts : Counts stranded writer) (n : Nat) :
    ∃ stranded', Counts stranded' (writer.accept n) := by
  rcases writer.accept_cases n with still | ⟨busy, ⟨-, fails⟩ | ⟨task, batch, going, accepts⟩⟩
  · rw [still]
    exact ⟨stranded, counts⟩
  · rw [fails]
    exact ⟨_, counts.fail (Or.inl busy) _⟩
  · rw [accepts]
    exact ⟨stranded, counts.written busy batch going⟩

/-- All that the task had is left behind. -/
lemma Counts.abort (counts : Counts stranded writer) (going : writer.isOver = false) :
    Counts (writer.task.batch ++ writer.queue) writer.abort := by
  have pending := counts.pending
  rw [counts.going going, List.length_nil] at pending
  unfold Writer.abort
  rw [if_neg (by rw [going]; exact Bool.false_ne_true)]
  -- Nothing is taken off the count: what was somewhere is among what is left behind.
  refine ⟨?_, Or.inr (Or.inl rfl), fun _ => rfl⟩
  simp only [Task.batch_aborted, List.length_nil, List.length_append]
  omega

/-- The task is idle, and nothing is queued. -/
structure Rests (writer : Writer) : Prop where
  idle : writer.task = .idle
  queue : writer.queue = []

/-- At rest only the senders count that are about to enter the queue. -/
lemma Counts.pending_of_rests (counts : Counts stranded writer) (rests : writer.Rests) :
    writer.pending = writer.waiting.length := by
  have pending := counts.pending
  rw [counts.going (by simp [isOver, rests.idle, Task.isOver])] at pending
  simpa [rests.idle, rests.queue] using pending

lemma Counts.release (counts : Counts stranded writer) : Counts stranded writer.release :=
  ⟨counts.pending, counts.left, counts.cleared⟩

end

end Writer

namespace Sending

/-! ## What an action does -/

/-- By how much an action has changed the count. -/
def Effect.change : Effect → Int
  | .adjusted change => change
  | _ => 0

/-- What was added to the count, less what was taken off it. -/
def level : List Effect → Int
  | [] => 0
  | effect :: rest => effect.change + level rest

lemma level_append (first second : List Effect) :
    level (first ++ second) = level first + level second := by
  induction first with
  | nil => simp [level]
  | cons effect rest ih => simp [level, ih, Int.add_assoc]

/-- The writer as it would be had its task not begun to gather. -/
def whole (sending : Sending) : Writer :=
  { sending.writer with queue := sending.gathered ++ sending.writer.queue }

section

variable (sending : Sending) (n : Nat)

/-- A send that reads the count changes nothing but what it knows. -/
lemma look_cases : sending.look n = sending ∨
    ∃ sender frame, sending.look n = { sending with
      attempts := sending.attempts.set n
        ⟨sender, frame, if sending.atLimit then .held else .passed⟩ } := by
  unfold look
  split
  · exact Or.inl rfl
  · exact Or.inl rfl
  · exact Or.inr ⟨_, _, rfl⟩

lemma expire_cases : sending.expire n = (sending, []) ∨
    ∃ frame, sending.expire n = ({ sending with attempts := sending.attempts.eraseIdx n },
      [.failed frame .backpressureTimeout]) := by
  unfold expire
  split
  · exact Or.inr ⟨_, rfl⟩
  · exact Or.inl rfl

lemma notice_cases : sending.notice n = (sending, []) ∨
    ∃ frame, sending.notice n = ({ sending with attempts := sending.attempts.eraseIdx n },
      [.failed frame .connectionClosed]) := by
  unfold notice
  split
  · exact Or.inr ⟨_, rfl⟩
  · exact Or.inl rfl

lemma count_cases : sending.count n = (sending, []) ∨
    ∃ sender frame, sending.attempts[n]? = some ⟨sender, frame, .passed⟩ ∧
      sending.count n = ({ sending with
        attempts := sending.attempts.eraseIdx n
        writer := sending.writer.count frame }, [.adjusted 1]) := by
  unfold count
  split
  · rename_i sender frame here
    exact Or.inr ⟨sender, frame, here, rfl⟩
  · exact Or.inl rfl

/-- A send whose frame is counted gives its place back, or enters the queue, or goes on waiting. -/
lemma enter_cases : sending.enter n = (sending, []) ∨
    ∃ frame, sending.writer.waiting[n]? = some frame ∧
      (sending.writer.isOver = true ∧
          sending.enter n = ({ sending with
            writer := { sending.writer with
              waiting := sending.writer.waiting.eraseIdx n
              pending := sending.writer.pending - 1 } },
            [.adjusted (-1), .failed frame .connectionClosed]) ∨
        sending.writer.isOver = false ∧
          sending.writer.queue.length < sending.writer.settings.capacity ∧
          sending.enter n = ({ sending with
            writer := { sending.writer with
              waiting := sending.writer.waiting.eraseIdx n
              queue := sending.writer.queue ++ [frame] } }, [.queued frame])) := by
  unfold enter Writer.enter
  cases here : sending.writer.waiting[n]? with
  | none => exact Or.inl rfl
  | some frame =>
    by_cases stopped : sending.writer.isOver = true
    · refine Or.inr ⟨frame, rfl, Or.inl ⟨stopped, ?_⟩⟩
      simp only [if_pos stopped]
    · have going : sending.writer.isOver = false := by simpa using stopped
      by_cases room : sending.writer.queue.length < sending.writer.settings.capacity
      · refine Or.inr ⟨frame, rfl, Or.inr ⟨going, room, ?_⟩⟩
        simp only [if_neg stopped, if_pos room]
      · refine Or.inl ?_
        simp only [if_neg stopped, if_neg room]

lemma breakDown_cases (e : Error) : sending.breakDown e = (sending, []) ∨
    sending.broken = none ∧ ((∃ batch accepted, sending.writer.task = .writing batch accepted) ∨
        ∃ batch, sending.writer.task = .flushing batch) ∧
      sending.breakDown e = ({ sending with writer := sending.writer.dropBatch, broken := some e },
        [.adjusted (-sending.writer.task.batch.length)]) := by
  unfold breakDown
  split
  · rename_i batch accepted unbroken writing
    exact Or.inr ⟨unbroken, Or.inl ⟨batch, accepted, writing⟩, by rw [writing]; rfl⟩
  · rename_i batch unbroken flushing
    exact Or.inr ⟨unbroken, Or.inr ⟨batch, flushing⟩, by rw [flushing]; rfl⟩
  · exact Or.inl rfl

/-- Bytes that the sink accepts change nothing but how far the batch is, unless there are none. -/
lemma accept_cases : ∃ bytes, sending.accept n = (sending, [.wrote bytes]) ∨
    (∃ batch accepted, sending.writer.task = .writing batch accepted) ∧
      (sending.accept n = ((sending.breakDown nothingWritten).1,
          .wrote bytes :: (sending.breakDown nothingWritten).2) ∨
        ∃ task, task.batch = sending.writer.task.batch ∧ task.isOver = false ∧
          sending.accept n =
            ({ sending with writer := { sending.writer with task } }, [.wrote bytes])) := by
  refine ⟨sending.writer.offered.flatten.take n, ?_⟩
  unfold accept
  dsimp only
  split
  · rename_i batch accepted writing
    exact Or.inr ⟨⟨batch, accepted, writing⟩, Or.inl rfl⟩
  · rename_i n _ _ stays
    rcases sending.writer.accept_cases n with
      still | ⟨⟨batch, accepted, writing⟩, ⟨nothing, -⟩ | ⟨task, same, going, accepts⟩⟩
    · rw [still]
      exact Or.inl rfl
    · exact (stays batch accepted writing nothing).elim
    · rw [accepts]
      exact Or.inr ⟨⟨batch, accepted, writing⟩, Or.inr ⟨task, same, going, rfl⟩⟩

lemma flushed_cases : sending.flushed = (sending, []) ∨
    ∃ batch, sending.broken = none ∧ sending.writer.task = .flushing batch ∧
      sending.flushed = ({ sending with writer := sending.writer.flushed },
        [.adjusted (-batch.length)]) := by
  unfold flushed
  split
  · rename_i batch unbroken flushing
    exact Or.inr ⟨batch, unbroken, flushing, rfl⟩
  · exact Or.inl rfl

end

/-! ## The invariant -/

/-- What is on the count is somewhere, and what the count shows is what was added and taken off. -/
structure Sound (settings : QueueSettings) (sending : Sending) (history : List Effect) : Prop where
  settings_eq : sending.writer.settings = settings
  counts : sending.whole.Counts sending.stranded
  /-- A task that writes has nothing gathered. -/
  between : sending.gathered = [] ∨ sending.writer.task = .idle
  /-- A task that has given its batch up has none. -/
  window : sending.broken ≠ none → sending.writer.task = .flushing []
  room : sending.writer.queue.length ≤ settings.capacity
  level : level history = sending.writer.pending

lemma sound_start (settings : QueueSettings) : Sound settings (start settings) [] :=
  ⟨rfl, counts_start settings, Or.inl rfl, fun broken => absurd rfl broken, Nat.zero_le _, rfl⟩

section

variable {settings : QueueSettings} {sending : Sending} {history seen : List Effect}

lemma whole_eq (nothing : sending.gathered = []) : sending.whole = sending.writer := by
  unfold whole
  rw [nothing, List.nil_append]

lemma counts_whole (counts : sending.writer.Counts sending.stranded)
    (nothing : sending.gathered = []) : sending.whole.Counts sending.stranded := by
  rw [whole_eq nothing]
  exact counts

/-- A task that is not idle has nothing gathered. -/
lemma Sound.busy (sound : Sound settings sending history)
    (busy : sending.writer.task ≠ .idle) :
    sending.gathered = [] ∧ sending.writer.Counts sending.stranded := by
  rcases sound.between with nothing | idle
  · exact ⟨nothing, whole_eq nothing ▸ sound.counts⟩
  · exact absurd idle busy

/-- Nothing changes but how far the sends are. -/
lemma Sound.attempts (sound : Sound settings sending history) (attempts : List Attempt)
    (level : Sending.level seen = 0) :
    Sound settings { sending with attempts } (history ++ seen) := by
  refine ⟨sound.settings_eq, sound.counts, sound.between, sound.window, sound.room, ?_⟩
  rw [level_append, level, Int.add_zero]
  exact sound.level

lemma Sound.still (sound : Sound settings sending history) :
    Sound settings sending (history ++ []) := sound.attempts sending.attempts rfl

lemma Sound.look (sound : Sound settings sending history) (n : Nat) :
    Sound settings (sending.look n) (history ++ []) := by
  rcases sending.look_cases n with still | ⟨sender, frame, looks⟩
  · rw [still]
    exact sound.still
  · rw [looks]
    exact sound.attempts _ rfl

lemma Sound.expire (sound : Sound settings sending history) (n : Nat) :
    Sound settings (sending.expire n).1 (history ++ (sending.expire n).2) := by
  rcases sending.expire_cases n with still | ⟨frame, expires⟩
  · rw [still]
    exact sound.still
  · rw [expires]
    exact sound.attempts _ rfl

lemma Sound.notice (sound : Sound settings sending history) (n : Nat) :
    Sound settings (sending.notice n).1 (history ++ (sending.notice n).2) := by
  rcases sending.notice_cases n with still | ⟨frame, notices⟩
  · rw [still]
    exact sound.still
  · rw [notices]
    exact sound.attempts _ rfl

lemma Sound.count (sound : Sound settings sending history) (n : Nat) :
    Sound settings (sending.count n).1 (history ++ (sending.count n).2) := by
  rcases sending.count_cases n with still | ⟨sender, frame, -, counts⟩
  · rw [still]
    exact sound.still
  · rw [counts]
    refine ⟨sound.settings_eq, sound.counts.count frame, sound.between, sound.window, sound.room,
      ?_⟩
    rw [level_append, sound.level]
    rfl

lemma Sound.enter (sound : Sound settings sending history) (n : Nat) :
    Sound settings (sending.enter n).1 (history ++ (sending.enter n).2) := by
  rcases sending.enter_cases n with
    still | ⟨frame, here, ⟨stopped, fails⟩ | ⟨going, room, enters⟩⟩
  · rw [still]
    exact sound.still
  · obtain ⟨within, -⟩ := List.getElem?_eq_some_iff.mp here
    have pending := sound.counts.pending
    -- The subtraction takes off a frame that is on the count.
    have some : 1 ≤ sending.writer.pending := by
      have same : sending.whole.pending = sending.writer.pending := rfl
      have waits : sending.whole.waiting.length = sending.writer.waiting.length := rfl
      omega
    rw [fails]
    refine ⟨sound.settings_eq, ?_, sound.between, sound.window, sound.room, ?_⟩
    · refine ⟨?_, sound.counts.left, sound.counts.cleared⟩
      simp only [whole, List.length_eraseIdx, if_pos within] at pending ⊢
      omega
    · rw [level_append, sound.level]
      show (sending.writer.pending : Int) + (-1 + (0 + 0)) =
        ((sending.writer.pending - 1 : Nat) : Int)
      omega
  · obtain ⟨within, -⟩ := List.getElem?_eq_some_iff.mp here
    have pending := sound.counts.pending
    rw [enters]
    refine ⟨sound.settings_eq, ?_, sound.between, sound.window, ?_, ?_⟩
    · refine ⟨?_, sound.counts.left, fun halted => ?_⟩
      · simp only [whole, List.length_eraseIdx, if_pos within, List.length_append,
          List.length_singleton] at pending ⊢
        omega
      · have halted : sending.writer.isOver = true := halted
        rw [going] at halted
        cases halted
    · rw [List.length_append, List.length_singleton]
      exact sound.settings_eq ▸ room
    · rw [level_append, sound.level]
      exact Int.add_zero _

/-! ### The task -/

lemma Sound.gather (sound : Sound settings sending history) :
    Sound settings (sending.onBatching Batching.gather) (history ++ []) := by
  unfold onBatching Batching.gather
  split
  · rename_i frame rest idle next
    dsimp only at idle next
    split
    · have same : ({ sending with
          writer := { sending.writer with queue := rest }
          gathered := sending.gathered ++ [frame] } : Sending).whole = sending.whole := by
        unfold whole
        rw [next, List.append_assoc, List.singleton_append]
      have room := sound.room
      rw [next, List.length_cons] at room
      refine ⟨sound.settings_eq, ?_, Or.inr idle, sound.window, Nat.le_of_succ_le room, ?_⟩
      · rw [same]
        exact sound.counts
      · rw [List.append_nil]
        exact sound.level
    · exact sound.still
  · exact sound.still

lemma Sound.writeBatch (sound : Sound settings sending history) :
    Sound settings (sending.onBatching Batching.writeBatch) (history ++ []) := by
  unfold onBatching Batching.writeBatch
  split
  · rename_i frame rest idle gathered
    dsimp only at idle gathered
    have going : sending.whole.isOver = false := by
      show sending.writer.task.isOver = false
      rw [idle]
      rfl
    have pending := sound.counts.pending
    refine ⟨sound.settings_eq, ⟨?_, Or.inl (sound.counts.going going), nofun⟩, Or.inl rfl, ?_,
      sound.room, ?_⟩
    · simp only [whole, idle, gathered, Task.batch_idle, Task.batch_writing, List.length_append,
        List.length_nil] at pending ⊢
      omega
    · intro broken
      have flushing := sound.window broken
      rw [idle] at flushing
      cases flushing
    · rw [List.append_nil]
      exact sound.level
  · exact sound.still

lemma Sound.finish (sound : Sound settings sending history) :
    Sound settings (sending.onBatching Batching.finish) (history ++ []) := by
  unfold onBatching Batching.finish
  split
  · rename_i nothing empty
    dsimp only at nothing empty
    cases collected : sending.writer.collect with
    | none => exact sound.still
    | some next =>
      have same : ∀ writer : Writer, ({ sending with writer } : Sending).whole = writer := by
        intro writer
        unfold whole
        dsimp only
        rw [nothing, List.nil_append]
      have counts := sound.counts
      rw [same sending.writer] at counts
      obtain ⟨idle, rfl⟩ := collect_of_empty empty collected
      refine ⟨sound.settings_eq, ?_, Or.inl nothing, ?_, sound.room, ?_⟩
      · rw [Option.getD_some]
        exact same _ ▸ counts.collect collected
      · intro broken
        have flushing := sound.window broken
        rw [idle] at flushing
        cases flushing
      · rw [List.append_nil]
        exact sound.level
  · exact sound.still

/-- A batch that is taken off the count was on it. -/
lemma Sound.batch_le (sound : Sound settings sending history) :
    sending.writer.task.batch.length ≤ sending.writer.pending := by
  have pending := sound.counts.pending
  have same : sending.whole.pending = sending.writer.pending := rfl
  have batch : sending.whole.task.batch.length = sending.writer.task.batch.length := rfl
  omega

lemma Sound.breakDown (sound : Sound settings sending history) (e : Error) :
    Sound settings (sending.breakDown e).1 (history ++ (sending.breakDown e).2) := by
  rcases sending.breakDown_cases e with still | ⟨-, busy, breaks⟩
  · rw [still]
    exact sound.still
  · have going : sending.writer.isOver = false ∧ sending.writer.task ≠ .idle := by
      unfold isOver
      rcases busy with ⟨batch, accepted, writing⟩ | ⟨batch, flushing⟩
      · rw [writing]
        exact ⟨rfl, nofun⟩
      · rw [flushing]
        exact ⟨rfl, nofun⟩
    obtain ⟨nothing, counts⟩ := sound.busy going.2
    rw [breaks]
    refine ⟨sound.settings_eq, ?_, Or.inl nothing, fun _ => rfl, sound.room, ?_⟩
    · exact counts_whole (counts.dropBatch going.1) nothing
    · rw [level_append, sound.level]
      have within := sound.batch_le
      show (sending.writer.pending : Int) + (-sending.writer.task.batch.length + 0) =
        ((sending.writer.pending - sending.writer.task.batch.length : Nat) : Int)
      omega

lemma Sound.close (sound : Sound settings sending history) :
    Sound settings sending.close (history ++ []) := by
  unfold Sending.close
  split
  · rename_i e broken
    have flushing := sound.window (by rw [broken]; nofun)
    obtain ⟨nothing, counts⟩ := sound.busy (by rw [flushing]; nofun)
    have failed : sending.writer.fail e = { sending.writer with
        queue := []
        pending := sending.writer.pending - 0
        task := .failed e } := by
      simp only [Writer.fail, flushing, List.length_nil]
    refine ⟨?_, ?_, Or.inl nothing, fun broken => absurd rfl broken, ?_, ?_⟩
    · rw [failed]
      exact sound.settings_eq
    · exact counts_whole (counts.fail (Or.inr ⟨[], flushing⟩) e) nothing
    · rw [failed]
      exact Nat.zero_le _
    · rw [failed, List.append_nil]
      exact sound.level
  · exact sound.still

lemma Sound.accept (sound : Sound settings sending history) (n : Nat) :
    Sound settings (sending.accept n).1 (history ++ (sending.accept n).2) := by
  obtain ⟨bytes, still | ⟨busy, fails | ⟨task, batch, going, accepts⟩⟩⟩ := sending.accept_cases n
  · rw [still]
    exact sound.attempts _ rfl
  · -- The bytes come first in the history, and then what the failure takes off the count.
    have wrote : Sound settings sending (history ++ [.wrote bytes]) := sound.attempts _ rfl
    have breaks := wrote.breakDown nothingWritten
    rw [List.append_assoc] at breaks
    rw [fails]
    exact breaks
  · obtain ⟨_, _, writing⟩ := id busy
    obtain ⟨nothing, counts⟩ := sound.busy (by rw [writing]; nofun)
    rw [accepts]
    refine ⟨sound.settings_eq, counts_whole (counts.written busy batch going) nothing,
      Or.inl nothing, ?_, sound.room, ?_⟩
    · intro broken
      have flushing := sound.window broken
      rw [writing] at flushing
      cases flushing
    · rw [level_append, sound.level]
      exact Int.add_zero _

lemma Sound.flushed (sound : Sound settings sending history) :
    Sound settings sending.flushed.1 (history ++ sending.flushed.2) := by
  rcases sending.flushed_cases with still | ⟨batch, unbroken, flushing, flushes⟩
  · rw [still]
    exact sound.still
  · obtain ⟨nothing, counts⟩ := sound.busy (by rw [flushing]; nofun)
    have result : sending.writer.flushed = { sending.writer with
        pending := sending.writer.pending - batch.length
        task := .idle } := by
      simp only [Writer.flushed, flushing]
    rw [flushes]
    refine ⟨?_, ?_, Or.inl nothing, fun broken => absurd unbroken broken, ?_, ?_⟩
    · rw [result]
      exact sound.settings_eq
    · exact counts_whole counts.flushed nothing
    · rw [result]
      exact sound.room
    · have within := sound.batch_le
      rw [flushing, Task.batch_flushing] at within
      rw [level_append, sound.level, result]
      show (sending.writer.pending : Int) + (-batch.length + 0) =
        ((sending.writer.pending - batch.length : Nat) : Int)
      omega

lemma Sound.abort (sound : Sound settings sending history) :
    Sound settings sending.abort (history ++ []) := by
  unfold Sending.abort
  split
  · exact sound.still
  · rename_i able
    obtain ⟨running, unbroken⟩ := not_or.mp able
    have going : sending.writer.isOver = false := by simpa using running
    have aborted : sending.writer.abort =
        { sending.writer with queue := [], task := .aborted } := if_neg running
    have pending := sound.counts.pending
    rw [sound.counts.going going] at pending
    rw [aborted]
    refine ⟨sound.settings_eq, ⟨?_, Or.inr (Or.inl rfl), fun _ => rfl⟩, Or.inl rfl,
      fun broken => absurd broken unbroken, Nat.zero_le _, ?_⟩
    · simp only [whole, List.length_append, List.length_nil, Task.batch_aborted] at pending ⊢
      omega
    · rw [List.append_nil]
      exact sound.level

lemma Sound.step (sound : Sound settings sending history) (event : Event) :
    Sound settings (sending.step event).1 (history ++ (sending.step event).2) := by
  cases event with
  | arrive sender frame => exact sound.attempts _ rfl
  | look n => exact sound.look n
  | expire n => exact sound.expire n
  | notice n => exact sound.notice n
  | count n => exact sound.count n
  | enter n => exact sound.enter n
  | gather => exact sound.gather
  | writeBatch => exact sound.writeBatch
  | finish => exact sound.finish
  | accept n => exact sound.accept n
  | flushed => exact sound.flushed
  | breakDown e => exact sound.breakDown e
  | close => exact sound.close
  | release =>
    exact ⟨sound.settings_eq, sound.counts.release, sound.between, sound.window, sound.room,
      sound.still.level⟩
  | abort => exact sound.abort

end

lemma Sound.run {settings : QueueSettings} {sending : Sending} {history : List Effect}
    (sound : Sound settings sending history) (events : List Event) :
    Sound settings (sending.run events).1 (history ++ (sending.run events).2) := by
  have allowed : ∀ event ∈ events, True := fun _ _ => trivial
  refine Machine.run_history ?_ allowed sound
  intro sending history event _ sound
  exact sound.step event

/-- Nothing is queued, and the task has nothing in its hands. -/
structure Rests (sending : Sending) : Prop where
  writer : sending.writer.Rests
  gathered : sending.gathered = []

/-- At rest only the sends count that are about to enter the queue. -/
lemma Sound.pending_of_rests {settings : QueueSettings} {sending : Sending}
    {history : List Effect} (sound : Sound settings sending history) (rests : sending.Rests) :
    sending.writer.pending = sending.writer.waiting.length := by
  have counts := sound.counts
  rw [whole_eq rests.gathered] at counts
  exact counts.pending_of_rests rests.writer

/-- What is on the count, whatever senders, task and owner do. -/
theorem sound_run (settings : QueueSettings) (events : List Event) :
    Sound settings ((start settings).run events).1 ((start settings).run events).2 :=
  (sound_start settings).run events

end Sending

end RemoteCall
