import RemoteCall.Proofs.Writer.Pending

/-!
# Sends to a writer whose task is over

Once the task is over it stays over, and the frames that it has left behind stay on the count
(`Sound.ended_run`).  So the count is what was left behind and what the senders hold that have not
learned of the end yet.

As long as this is below the limit, every sender learns that the connection is closed.  If it has
reached the limit, only a thread learns it, for a task does not look at anything but the count while
it is held: the two kinds of senders then disagree (`senders_disagree`).

A sender that has counted its frame before the end learns of the end when it tries to enter the
queue, and takes its frame off the count again.  So it is held against later senders only for a
while, and the frames that were left behind for good.

Which frames these are depends on how the task came to its end.  A failure of the sink takes its
batch off the count and leaves the queue; a task that is cancelled leaves its batch as well.

## Main statement

* `Sending.sends_refused` — how every later send ends.
-/

namespace RemoteCall

open Writer

/-- A task that is over has no batch. -/
lemma Writer.Task.batch_of_isOver (task : Task) (halted : task.isOver = true) :
    task.batch = [] := by
  cases task with
  | idle | finished | failed | aborted => rfl
  | writing | flushing => simp [Task.isOver] at halted

namespace Sending

section

variable {settings : QueueSettings} {sending : Sending} {history : List Effect}

/-! ## The end is final -/

/-- A task that is over does not act again. -/
lemma Sound.ended_step (sound : Sound settings sending history)
    (halted : sending.writer.isOver = true) (event : Event) :
    (sending.step event).1.writer.task = sending.writer.task ∧
      (sending.step event).1.stranded = sending.stranded := by
  -- An action of the task needs a state that a task which is over is not in.
  have idle : sending.writer.task ≠ .idle := by
    intro idle
    simp [isOver, Task.isOver, idle] at halted
  have writing : ∀ batch accepted, sending.writer.task ≠ .writing batch accepted := by
    intro batch accepted writing
    simp [isOver, Task.isOver, writing] at halted
  have flushing : ∀ batch, sending.writer.task ≠ .flushing batch := by
    intro batch flushing
    simp [isOver, Task.isOver, flushing] at halted
  have unbroken : sending.broken = none :=
    Decidable.byContradiction fun broken => flushing [] (sound.window broken)
  have breaks : ∀ e, (sending.breakDown e).1 = sending := by
    intro e
    rcases sending.breakDown_cases e with still | ⟨-, ⟨_, _, busy⟩ | ⟨_, busy⟩, -⟩
    · rw [still]
    · exact absurd busy (writing _ _)
    · exact absurd busy (flushing _)
  cases event with
  | arrive | release => exact ⟨rfl, rfl⟩
  | look n =>
    rcases sending.look_cases n with still | ⟨sender, frame, looks⟩
    · simp [Sending.step, still]
    · simp [Sending.step, looks]
  | expire n =>
    rcases sending.expire_cases n with still | ⟨frame, expires⟩
    · simp [Sending.step, still]
    · simp [Sending.step, expires]
  | notice n =>
    rcases sending.notice_cases n with still | ⟨frame, notices⟩
    · simp [Sending.step, still]
    · simp [Sending.step, notices]
  | count n =>
    rcases sending.count_cases n with still | ⟨sender, frame, -, counts⟩
    · simp [Sending.step, still]
    · simp [Sending.step, counts, Writer.count]
  | enter n =>
    rcases sending.enter_cases n with still | ⟨frame, -, ⟨-, fails⟩ | ⟨-, -, enters⟩⟩
    · simp [Sending.step, still]
    · simp [Sending.step, fails]
    · simp [Sending.step, enters]
  | gather => simp [Sending.step, onBatching, Batching.gather, idle]
  | writeBatch => simp [Sending.step, onBatching, Batching.writeBatch, idle]
  | finish =>
    have none : sending.writer.collect = none := by
      simp [Writer.collect, idle]
    simp [Sending.step, onBatching, Batching.finish, none]
    split <;> rfl
  | accept n =>
    obtain ⟨bytes, still | ⟨⟨_, _, busy⟩, -⟩⟩ := sending.accept_cases n
    · simp [Sending.step, still]
    · exact absurd busy (writing _ _)
  | flushed =>
    rcases sending.flushed_cases with still | ⟨batch, -, busy, -⟩
    · simp [Sending.step, still]
    · exact absurd busy (flushing _)
  | breakDown e => simp [Sending.step, breaks]
  | close => simp [Sending.step, Sending.close, unbroken]
  | abort => simp [Sending.step, Sending.abort, halted]

theorem Sound.ended_run (sound : Sound settings sending history)
    (halted : sending.writer.isOver = true) (events : List Event) :
    (sending.run events).1.writer.task = sending.writer.task ∧
      (sending.run events).1.stranded = sending.stranded := by
  induction events generalizing sending history with
  | nil => exact ⟨rfl, rfl⟩
  | cons event rest ih =>
    obtain ⟨task, stranded⟩ := sound.ended_step halted event
    have still : (sending.step event).1.writer.isOver = true := by
      rw [isOver, task]
      exact halted
    obtain ⟨task', stranded'⟩ := ih (sound.step event) still
    exact ⟨task'.trans task, stranded'.trans stranded⟩

/-- Nothing else is on the count then. -/
lemma Sound.pending_of_over (sound : Sound settings sending history)
    (halted : sending.writer.isOver = true) :
    sending.writer.pending = sending.stranded.length + sending.writer.waiting.length := by
  have busy : sending.writer.task ≠ .idle := by
    intro idle
    simp [isOver, Task.isOver, idle] at halted
  have counts := (sound.busy busy).2
  have batch := sending.writer.task.batch_of_isOver halted
  have pending := counts.pending
  simp only [counts.cleared halted, batch, List.length_nil] at pending
  omega

/-! ## How a send ends -/

/-- How a writer answers whose task is over. -/
structure Refuses (settings : QueueSettings) (sending : Sending) : Prop where
  halted : sending.writer.isOver = true
  pending : sending.writer.pending = sending.stranded.length + sending.writer.waiting.length
  /-- Below the limit every sender learns of the end, and nothing changes. -/
  below : sending.stranded.length + sending.writer.waiting.length < settings.maxPending →
    ∀ sender frame,
      sending.writer.send sender frame = (.failed .connectionClosed, sending.writer) ∧
        sending.run (sending.straight sender frame) =
          (sending, [.adjusted 1, .adjusted (-1), .failed frame .connectionClosed])
  /-- At the limit nothing changes either, but a task does not learn of the end, nor does a thread
  that has no time. -/
  reached : settings.maxPending ≤ sending.stranded.length + sending.writer.waiting.length →
    ∀ frame, sending.writer.send .task frame = (.failed .backpressureTimeout, sending.writer) ∧
      sending.writer.send .thread frame =
        (.failed (if 0 < settings.timeout then .connectionClosed else .backpressureTimeout),
          sending.writer)

lemma Sound.refuses (sound : Sound settings sending history)
    (halted : sending.writer.isOver = true) : Refuses settings sending := by
  have pending := sound.pending_of_over halted
  refine ⟨halted, pending, ?_, ?_⟩
  · rw [← pending]
    intro room sender frame
    have below : ¬ sending.atLimit := by
      rw [atLimit, sound.settings_eq]
      exact Nat.not_le.mpr room
    have sent : sending.writer.send sender frame = sending.writer.pass frame := by
      rw [Writer.send_eq]
      exact if_neg below
    refine ⟨?_, ?_⟩
    · rw [sent, Writer.pass, if_pos halted]
    · rw [run_straight sending sender frame below, if_pos halted]
  · rw [← pending]
    intro full frame
    have held : sending.writer.settings.maxPending ≤ sending.writer.pending :=
      sound.settings_eq.symm ▸ full
    rw [Writer.send_eq, Writer.send_eq, if_pos held, if_pos held]
    simp [heldError, halted, sound.settings_eq]

end

/-- **Once the task is over, it stays over**, whatever senders and owner do, and the count is what
the task has left behind and what senders hold that have not learned of the end.  A send fails with
the closed connection and changes nothing, whoever sends, as long as this is below the limit. -/
theorem sends_refused (settings : QueueSettings) {events : List Event}
    (halted : ((start settings).run events).1.writer.isOver = true) (more : List Event) :
    let ended := ((start settings).run events).1
    Refuses settings (ended.run more).1 ∧ (ended.run more).1.stranded = ended.stranded := by
  intro ended
  have sound := sound_run settings events
  obtain ⟨task, stranded⟩ := sound.ended_run halted more
  refine ⟨(sound.run more).refuses ?_, stranded⟩
  rw [isOver, task]
  exact halted

/-- The sink fails while a second frame is queued, and a third sender has counted its frame. -/
def brokenSink : List Event :=
  [.arrive .task (.ofPayload 1 7 []), .look 0, .count 0, .enter 0, .gather, .writeBatch,
    .arrive .task (.ofPayload 2 7 []), .look 0, .count 0, .enter 0,
    .arrive .thread (.ofPayload 3 7 []), .look 0, .count 0, .breakDown .connectionClosed, .close]

theorem sends_refused_below :
    let ended := ((start ⟨3, 4, 50⟩).run brokenSink).1
    ended.writer.isOver = true ∧ ended.stranded = [.ofPayload 2 7 []] ∧
      ended.writer.pending = 2 ∧
      ended.writer.send .task (.ofPayload 4 7 []) = (.failed .connectionClosed, ended.writer) ∧
      ended.writer.send .thread (.ofPayload 4 7 []) =
        (.failed .connectionClosed, ended.writer) := by
  intro ended
  have halted : ended.writer.isOver = true := by decide
  have refuses : Refuses ⟨3, 4, 50⟩ ended := (sends_refused ⟨3, 4, 50⟩ halted []).1
  have room : ended.stranded.length + ended.writer.waiting.length < 3 := by decide
  refine ⟨halted, by decide, by decide, ?_, ?_⟩
  · exact (refuses.below room .task _).1
  · exact (refuses.below room .thread _).1

/-- The task is cancelled while a frame is queued that stays on the count.  With a limit of one, a
task that sends runs out of time, and a thread learns of the end. -/
theorem senders_disagree :
    let ended := ((start ⟨1, 4, 50⟩).run
      [.arrive .task (.ofPayload 1 7 []), .look 0, .count 0, .enter 0, .abort]).1
    ended.writer.isOver = true ∧
      (ended.writer.send .task (.ofPayload 2 7 [])).1 = .failed .backpressureTimeout ∧
      (ended.writer.send .thread (.ofPayload 2 7 [])).1 = .failed .connectionClosed := by
  decide

end Sending

end RemoteCall
