import Mathlib.Data.List.Induction
import RemoteCall.Proofs.Writer.Pending

/-!
# Sends that do not overlap

Senders that overlap may pass the limit together, since each of them reads the count before it adds
to it.  If no send begins while another one is under way, the count stays within the limit: the task
and its owner only ever take from it (`eases_of_task`), so a send still finds the room that it has
seen (`Alone`).

A send that fails for want of room leaves no trace.  The run without it and its steps leads to the
same state (`traced_run`).

## The proof

Whether sends overlap is a matter of the run, and can be computed from it (`apart`): a send begins
only if none is under way.  The invariant `Alone` has at most one send, and remembers what this has
seen of the count; it is kept by the steps of the send itself, and by whatever the task does in
between, because that can only make room.

To leave a send out of a run, its steps have to be told from those of the task.  A step of the send
changes how far the send is or ends it (`step_of_send`), and a step of the task does not look at
sends that have not counted their frames (`step_of_task`).  So the run with the send and the run
without it differ in the send alone, until it is gone.

## Main statement

* `Sending.pending_accounted` — what is on the count when sends do not overlap, and the limits.
-/

namespace RemoteCall

open Writer

namespace Sending

/-! ## Runs whose sends do not overlap -/

/-- Whether a send begins. -/
def Event.begins : Event → Bool
  | .arrive .. => true
  | _ => false

/-- Whether the task acts, or its owner. -/
def Event.ofTask : Event → Bool
  | .gather | .writeBatch | .finish | .accept _ | .flushed | .breakDown _ | .close | .release
  | .abort => true
  | .arrive .. | .look _ | .expire _ | .notice _ | .count _ | .enter _ => false

/-- Whether no send begins while another one is under way. -/
def apart (sending : Sending) : List Event → Bool
  | [] => true
  | event :: rest =>
    (!event.begins || sending.underway == 0) && (sending.step event).1.apart rest

lemma apart_append (sending : Sending) (first second : List Event) :
    sending.apart (first ++ second) =
      (sending.apart first && (sending.run first).1.apart second) := by
  induction first generalizing sending with
  | nil => simp [apart, run]
  | cons event rest ih => simp [apart, run, ih, Bool.and_assoc]

/-! ## What the task does -/

section

variable (sending : Sending) {event : Event}

/-- The task does not look at the sends that have not counted their frames. -/
lemma step_of_task (task : event.ofTask = true) (attempts : List Attempt) :
    ({ sending with attempts } : Sending).step event =
      ({ (sending.step event).1 with attempts }, (sending.step event).2) := by
  -- No action of the task reads the attempts, so both sides compute once the rest is in sight.
  obtain ⟨⟨settings, queue, waiting, pending, state, released⟩, gathered, _, broken, stranded⟩ :=
    sending
  cases event with
  | accept n => cases n <;> cases broken <;> cases state <;> rfl
  | breakDown e => cases broken <;> cases state <;> rfl
  | close => cases broken <;> rfl
  | flushed => cases broken <;> cases state <;> rfl
  | abort => cases broken <;> cases state <;> rfl
  | gather | writeBatch | finish | release => rfl
  | arrive | look | expire | notice | count | enter => simp [Event.ofTask] at task

/-- No sender has moved, and the count has not risen. -/
structure Eases (before after : Sending) : Prop where
  attempts : after.attempts = before.attempts
  waiting : after.writer.waiting = before.writer.waiting
  settings_eq : after.writer.settings = before.writer.settings
  pending : after.writer.pending ≤ before.writer.pending

lemma Eases.refl : Eases sending sending := ⟨rfl, rfl, rfl, Nat.le_refl _⟩

lemma eases_gather : Eases sending (sending.onBatching Batching.gather) := by
  unfold onBatching Batching.gather
  split
  · split
    · exact ⟨rfl, rfl, rfl, Nat.le_refl _⟩
    · exact .refl sending
  · exact .refl sending

lemma eases_writeBatch : Eases sending (sending.onBatching Batching.writeBatch) := by
  unfold onBatching Batching.writeBatch
  split
  · exact ⟨rfl, rfl, rfl, Nat.le_refl _⟩
  · exact .refl sending

lemma eases_finish : Eases sending (sending.onBatching Batching.finish) := by
  unfold onBatching Batching.finish
  split
  · rename_i nothing empty
    cases collected : sending.writer.collect with
    | none => exact .refl sending
    | some next =>
      obtain ⟨-, rfl⟩ := collect_of_empty empty collected
      exact ⟨rfl, rfl, rfl, Nat.le_refl _⟩
  · exact .refl sending

lemma eases_breakDown (e : Error) : Eases sending (sending.breakDown e).1 := by
  rcases sending.breakDown_cases e with still | ⟨-, -, breaks⟩
  · rw [still]
    exact .refl sending
  · rw [breaks]
    exact ⟨rfl, rfl, rfl, Nat.sub_le _ _⟩

lemma eases_close : Eases sending sending.close := by
  unfold Sending.close Writer.fail
  split
  · split
    · exact ⟨rfl, rfl, rfl, Nat.sub_le _ _⟩
    · exact ⟨rfl, rfl, rfl, Nat.sub_le _ _⟩
    · exact ⟨rfl, rfl, rfl, Nat.le_refl _⟩
  · exact .refl sending

lemma eases_accept (n : Nat) : Eases sending (sending.accept n).1 := by
  obtain ⟨bytes, still | ⟨-, fails | ⟨task, -, -, accepts⟩⟩⟩ := sending.accept_cases n
  · rw [still]
    exact .refl sending
  · rw [fails]
    exact sending.eases_breakDown nothingWritten
  · rw [accepts]
    exact ⟨rfl, rfl, rfl, Nat.le_refl _⟩

lemma eases_flushed : Eases sending sending.flushed.1 := by
  rcases sending.flushed_cases with still | ⟨batch, -, flushing, flushes⟩
  · rw [still]
    exact .refl sending
  · rw [flushes]
    simp only [Writer.flushed, flushing]
    exact ⟨rfl, rfl, rfl, Nat.sub_le _ _⟩

lemma eases_abort : Eases sending sending.abort := by
  unfold Sending.abort Writer.abort
  split
  · exact .refl sending
  · split
    · exact ⟨rfl, rfl, rfl, Nat.le_refl _⟩
    · exact ⟨rfl, rfl, rfl, Nat.le_refl _⟩

theorem eases_of_task (task : event.ofTask = true) : Eases sending (sending.step event).1 := by
  cases event with
  | gather => exact sending.eases_gather
  | writeBatch => exact sending.eases_writeBatch
  | finish => exact sending.eases_finish
  | accept n => exact sending.eases_accept n
  | flushed => exact sending.eases_flushed
  | breakDown e => exact sending.eases_breakDown e
  | close => exact sending.eases_close
  | release => exact ⟨rfl, rfl, rfl, Nat.le_refl _⟩
  | abort => exact sending.eases_abort
  | arrive | look | expire | notice | count | enter => simp [Event.ofTask] at task

end

/-! ## A send on its own -/

/-- The one send that is under way, and what it has seen. -/
structure Alone (settings : QueueSettings) (sending : Sending) : Prop where
  settings_eq : sending.writer.settings = settings
  one : sending.underway ≤ 1
  /-- The room that a send has seen is still there. -/
  below : ∀ attempt ∈ sending.attempts, attempt.progress = .passed →
    sending.writer.pending < settings.maxPending
  within : sending.writer.pending ≤ settings.maxPending

lemma alone_start (settings : QueueSettings) : Alone settings (start settings) := by
  refine ⟨rfl, Nat.zero_le _, ?_, Nat.zero_le _⟩
  simp [start]

section

variable {settings : QueueSettings} {sending : Sending}

lemma Alone.task (alone : Alone settings sending) {event : Event}
    (task : event.ofTask = true) : Alone settings (sending.step event).1 := by
  have eases := sending.eases_of_task task
  refine ⟨eases.settings_eq.trans alone.settings_eq, ?_, ?_,
    Nat.le_trans eases.pending alone.within⟩
  · rw [underway, eases.attempts, eases.waiting]
    exact alone.one
  · rw [eases.attempts]
    intro attempt here passed
    exact Nat.lt_of_le_of_lt eases.pending (alone.below attempt here passed)

/-- The send goes away. -/
lemma Alone.leave (alone : Alone settings sending) (n : Nat) :
    Alone settings { sending with attempts := sending.attempts.eraseIdx n } := by
  refine ⟨alone.settings_eq, ?_, ?_, alone.within⟩
  · exact Nat.le_trans (Nat.add_le_add_right (List.length_eraseIdx_le _ _) _) alone.one
  · intro attempt here passed
    exact alone.below attempt (List.mem_of_mem_eraseIdx here) passed

lemma Alone.arrive (alone : Alone settings sending) (nobody : sending.underway = 0)
    (sender : Sender) (frame : Frame) :
    Alone settings { sending with
      attempts := sending.attempts ++ [⟨sender, frame, .arrived⟩] } := by
  obtain ⟨none, nothing⟩ := Nat.add_eq_zero_iff.mp nobody
  refine ⟨alone.settings_eq, ?_, ?_, alone.within⟩
  · simp [underway, none, nothing]
  · simp [List.eq_nil_of_length_eq_zero none]

lemma Alone.look (alone : Alone settings sending) (n : Nat) :
    Alone settings (sending.look n) := by
  rcases sending.look_cases n with still | ⟨sender, frame, looks⟩
  · rw [still]
    exact alone
  · rw [looks]
    refine ⟨alone.settings_eq, ?_, ?_, alone.within⟩
    · simpa [underway] using alone.one
    · intro attempt here passed
      rcases List.mem_or_eq_of_mem_set here with old | rfl
      · exact alone.below attempt old passed
      · by_cases held : sending.atLimit
        · simp [held] at passed
        · rw [atLimit, alone.settings_eq] at held
          exact Nat.not_le.mp held

/-- The send takes the room that it has seen. -/
lemma Alone.count (alone : Alone settings sending) (n : Nat) :
    Alone settings (sending.count n).1 := by
  rcases sending.count_cases n with still | ⟨sender, frame, here, counts⟩
  · rw [still]
    exact alone
  · have room := alone.below _ (List.mem_of_getElem? here) rfl
    have one := alone.one
    obtain ⟨first, -⟩ := List.getElem?_eq_some_iff.mp here
    rw [counts]
    simp only [underway] at one
    refine ⟨alone.settings_eq, ?_, ?_, room⟩
    · simp only [underway, Writer.count, List.length_eraseIdx, if_pos first, List.length_append,
        List.length_singleton]
      omega
    · -- The send that counts its frame was the only one, so no other has passed.
      have nobody : (sending.attempts.eraseIdx n).length = 0 := by
        rw [List.length_eraseIdx, if_pos first]
        omega
      simp [List.eq_nil_of_length_eq_zero nobody]

lemma Alone.enter (alone : Alone settings sending) (n : Nat) :
    Alone settings (sending.enter n).1 := by
  have fewer : sending.attempts.length + (sending.writer.waiting.eraseIdx n).length ≤ 1 :=
    Nat.le_trans (Nat.add_le_add_left (List.length_eraseIdx_le _ _) _) alone.one
  rcases sending.enter_cases n with still | ⟨frame, -, ⟨-, fails⟩ | ⟨-, -, enters⟩⟩
  · rw [still]
    exact alone
  · rw [fails]
    refine ⟨alone.settings_eq, fewer, ?_, Nat.le_trans (Nat.sub_le _ _) alone.within⟩
    intro attempt here passed
    exact Nat.lt_of_le_of_lt (Nat.sub_le _ _) (alone.below attempt here passed)
  · rw [enters]
    exact ⟨alone.settings_eq, fewer, alone.below, alone.within⟩

lemma Alone.step (alone : Alone settings sending) {event : Event}
    (nobody : event.begins = true → sending.underway = 0) :
    Alone settings (sending.step event).1 := by
  cases event with
  | arrive sender frame => exact alone.arrive (nobody rfl) sender frame
  | look n => exact alone.look n
  | expire n =>
    rcases sending.expire_cases n with still | ⟨frame, expires⟩
    · simpa [Sending.step, still] using alone
    · simpa [Sending.step, expires] using alone.leave n
  | notice n =>
    rcases sending.notice_cases n with still | ⟨frame, notices⟩
    · simpa [Sending.step, still] using alone
    · simpa [Sending.step, notices] using alone.leave n
  | count n => exact alone.count n
  | enter n => exact alone.enter n
  | gather | writeBatch | finish | accept n | flushed | breakDown e | close | release | abort =>
    exact alone.task rfl

lemma Alone.run (alone : Alone settings sending) {events : List Event}
    (apart : sending.apart events = true) : Alone settings (sending.run events).1 := by
  induction events generalizing sending with
  | nil => exact alone
  | cons event rest ih =>
    rw [Sending.apart, Bool.and_eq_true] at apart
    obtain ⟨now, later⟩ := apart
    refine ih (alone.step ?_) later
    intro begins
    simpa [begins] using now

end

/-! ## A send that is given up -/

/-- The send that is under way has come last, and has changed nothing: without it and its steps the
run leads to the same state. -/
def Traced (sending : Sending) (events : List Event) : Prop :=
  ∀ attempt ∈ (sending.run events).1.attempts, ∃ before middle,
    events = before ++ .arrive attempt.sender attempt.frame :: middle ∧
    (∀ event ∈ middle, event.begins = false) ∧
    (sending.run (before ++ middle.filter Event.ofTask)).1.underway = 0 ∧
    (sending.run events).1 =
      { (sending.run (before ++ middle.filter Event.ofTask)).1 with attempts := [attempt] }

lemma run_concat (sending : Sending) (events : List Event) (event : Event) :
    (sending.run (events ++ [event])).1 = ((sending.run events).1.step event).1 := by
  rw [run_append]
  simp [run]

section

variable {sending : Sending} {events : List Event} {event : Event}

/-- A step of the send that is under way, or of none, changes how far the send is, or ends it. -/
lemma step_of_send (nobody : sending.underway = 0) (attempt : Attempt)
    (sends : event.ofTask = false) (later : event.begins = false) :
    (∃ progress, (step { sending with attempts := [attempt] } event).1 =
        { sending with attempts := [{ attempt with progress }] }) ∨
      (step { sending with attempts := [attempt] } event).1.attempts = [] := by
  have waits : sending.writer.waiting = [] :=
    List.eq_nil_of_length_eq_zero (Nat.add_eq_zero_iff.mp nobody).2
  obtain ⟨sender, frame, progress⟩ := attempt
  cases event with
  | look n =>
    cases n with
    | zero => cases progress <;> simp [step, look]
    | succ n => simp [step, look]
  | expire n =>
    cases n with
    | zero => cases progress <;> simp [step, expire]
    | succ n => simp [step, expire]
  | notice n =>
    cases n with
    | zero =>
      by_cases halted : sending.writer.isOver = true <;> cases sender <;> cases progress <;>
        simp [step, notice, halted]
    | succ n => simp [step, notice]
  | count n =>
    cases n with
    | zero => cases progress <;> simp [step, count]
    | succ n => simp [step, count]
  | enter n => simp [step, enter, waits]
  | arrive => simp [Event.begins] at later
  | gather | writeBatch | finish | accept | flushed | breakDown | close | release | abort =>
    simp [Event.ofTask] at sends

/-- Where no send is under way that has not counted its frame, none turns up. -/
lemma attempts_of_send (none : sending.attempts = []) (sends : event.ofTask = false)
    (later : event.begins = false) : (sending.step event).1.attempts = [] := by
  cases event with
  | look n => simp [step, look, none]
  | expire n => simp [step, expire, none]
  | notice n => simp [step, notice, none]
  | count n => simp [step, count, none]
  | enter n =>
    rcases sending.enter_cases n with still | ⟨frame, -, ⟨-, fails⟩ | ⟨-, -, enters⟩⟩
    · simp [step, still, none]
    · simp [step, fails, none]
    · simp [step, enters, none]
  | arrive => simp [Event.begins] at later
  | gather | writeBatch | finish | accept | flushed | breakDown | close | release | abort =>
    simp [Event.ofTask] at sends

lemma Traced.arrive (nobody : (sending.run events).1.underway = 0) (sender : Sender)
    (frame : Frame) : Traced sending (events ++ [.arrive sender frame]) := by
  have none : (sending.run events).1.attempts = [] :=
    List.eq_nil_of_length_eq_zero (Nat.add_eq_zero_iff.mp nobody).1
  have state : (sending.run (events ++ [.arrive sender frame])).1 =
      { (sending.run events).1 with attempts := [⟨sender, frame, .arrived⟩] } := by
    rw [run_concat]
    simp [step, none]
  intro attempt here
  rw [state] at here
  obtain rfl := List.mem_singleton.mp here
  refine ⟨events, [], rfl, ?_, ?_, ?_⟩
  · simp
  · simpa using nobody
  · simpa using state

lemma Traced.task (traced : Traced sending events) (task : event.ofTask = true)
    (later : event.begins = false) : Traced sending (events ++ [event]) := by
  intro attempt here
  have eases := (sending.run events).1.eases_of_task task
  rw [run_concat, eases.attempts] at here
  obtain ⟨before, middle, rfl, alone, nobody, state⟩ := traced attempt here
  have filtered : before ++ (middle ++ [event]).filter Event.ofTask =
      before ++ middle.filter Event.ofTask ++ [event] := by
    simp [task]
  refine ⟨before, middle ++ [event], by simp, ?_, ?_, ?_⟩
  · exact List.forall_mem_append.mpr ⟨alone, List.forall_mem_singleton.mpr later⟩
  · rw [filtered, run_concat]
    have eases := (sending.run (before ++ middle.filter Event.ofTask)).1.eases_of_task task
    rw [underway, eases.attempts, eases.waiting]
    exact nobody
  · rw [filtered, run_concat, run_concat, state, step_of_task _ task]

lemma Traced.send (traced : Traced sending events) (sends : event.ofTask = false)
    (later : event.begins = false) : Traced sending (events ++ [event]) := by
  intro attempt here
  rw [run_concat] at here
  cases under : (sending.run events).1.attempts with
  | nil => simp [attempts_of_send under sends later] at here
  | cons first rest =>
    obtain ⟨before, middle, rfl, alone, nobody, state⟩ := traced first (by simp [under])
    have filtered : (middle ++ [event]).filter Event.ofTask = middle.filter Event.ofTask := by
      simp [sends]
    rw [state] at here
    rcases step_of_send nobody first sends later with ⟨progress, moved⟩ | gone
    · rw [moved] at here
      obtain rfl := List.mem_singleton.mp here
      refine ⟨before, middle ++ [event], by simp, ?_, ?_, ?_⟩
      · exact List.forall_mem_append.mpr ⟨alone, List.forall_mem_singleton.mpr later⟩
      · rw [filtered]
        exact nobody
      · rw [filtered, run_concat, state, moved]
    · simp [gone] at here

end

theorem traced_run {sending : Sending} (none : sending.attempts = []) {events : List Event}
    (apart : sending.apart events = true) : Traced sending events := by
  -- From the right: whether the last action begins a send tells which send is under way.
  induction events using List.reverseRecOn with
  | nil => simp [Traced, run, none]
  | append_singleton before event ih =>
    rw [apart_append, Bool.and_eq_true] at apart
    obtain ⟨first, now⟩ := apart
    cases begins : event.begins with
    | true =>
      have nobody : (sending.run before).1.underway = 0 := by
        simpa [Sending.apart, begins] using now
      cases event with
      | arrive sender frame => exact Traced.arrive nobody sender frame
      | _ => simp [Event.begins] at begins
    | false =>
      cases task : event.ofTask with
      | true => exact (ih first).task task begins
      | false => exact (ih first).send task begins

/-- Only a send that is held gives up for want of room. -/
lemma held_of_timeout {sending : Sending} {event : Event} {frame : Frame}
    (gives : .failed frame .backpressureTimeout ∈ (sending.step event).2) :
    ∃ n sender, event = .expire n ∧ sending.attempts[n]? = some ⟨sender, frame, .held⟩ := by
  cases event with
  | expire n =>
    have gives : .failed frame .backpressureTimeout ∈ (sending.expire n).2 := gives
    unfold expire at gives
    split at gives
    · rename_i sender frame' here
      obtain rfl : frame = frame' := by simpa using gives
      exact ⟨n, sender, rfl, here⟩
    · simp at gives
  | notice n =>
    rcases sending.notice_cases n with still | ⟨frame', notices⟩
    · simp [step, still] at gives
    · simp [step, notices] at gives
  | count n =>
    rcases sending.count_cases n with still | ⟨sender, frame', -, counts⟩
    · simp [step, still] at gives
    · simp [step, counts] at gives
  | enter n =>
    rcases sending.enter_cases n with still | ⟨frame', -, ⟨-, fails⟩ | ⟨-, -, enters⟩⟩
    · simp [step, still] at gives
    · simp [step, fails] at gives
    · simp [step, enters] at gives
  | accept n =>
    obtain ⟨bytes, still | ⟨-, fails | ⟨task, -, -, accepts⟩⟩⟩ := sending.accept_cases n
    · simp [step, still] at gives
    · rcases sending.breakDown_cases nothingWritten with still | ⟨-, -, breaks⟩
      · simp [step, fails, still] at gives
      · simp [step, fails, breaks] at gives
    · simp [step, accepts] at gives
  | breakDown e =>
    rcases sending.breakDown_cases e with still | ⟨-, -, breaks⟩
    · simp [step, still] at gives
    · simp [step, breaks] at gives
  | flushed =>
    rcases sending.flushed_cases with still | ⟨batch, -, -, flushes⟩
    · simp [step, still] at gives
    · simp [step, flushes] at gives
  | arrive | look | gather | writeBatch | finish | close | release | abort => simp [step] at gives

/-! ## The accounts -/

/-- What is on the count of a writer whose sends do not overlap, and what the limits let in. -/
structure Accounted (settings : QueueSettings) (sending : Sending) (history : List Effect) :
    Prop where
  /-- Unless the task has come to a bad end, a frame on the count is in the queue, in the batch that
  the task puts together or writes, or with the one sender that waits for room. -/
  pending : sending.writer.task ≠ .aborted → (∀ e, sending.writer.task ≠ .failed e) →
    sending.writer.pending = sending.writer.queue.length +
      (sending.gathered ++ sending.writer.task.batch).length +
      if sending.writer.waiting = [] then 0 else 1
  within : sending.writer.pending ≤ settings.maxPending
  /-- What was taken off the count had been added before. -/
  level : Sending.level history = sending.writer.pending
  room : sending.writer.queue.length ≤ settings.capacity
  /-- Nothing is left on the count when nothing is left to write, so no sender is held then. -/
  rests : sending.Rests → sending.writer.waiting = [] →
    sending.writer.pending = 0 ∧ (0 < settings.maxPending → ¬ sending.atLimit)
  /-- A sender does not go on waiting while there is nothing to write. -/
  enters : sending.Rests → 0 < settings.capacity → ∀ frame ∈ sending.writer.waiting,
    sending.enter 0 =
      ({ sending with writer := { sending.writer with waiting := [], queue := [frame] } },
        [.queued frame])

lemma Sound.accounted {settings : QueueSettings} {sending : Sending} {history : List Effect}
    (sound : Sound settings sending history) (alone : Alone settings sending) :
    Accounted settings sending history := by
  have one : sending.writer.waiting.length ≤ 1 :=
    Nat.le_trans (Nat.le_add_left _ _) alone.one
  refine ⟨?_, alone.within, sound.level, sound.room, ?_, ?_⟩
  · intro unaborted unfailed
    -- frames are stranded only by a task that was aborted or has failed
    have nothing : sending.stranded = [] := by
      rcases sound.counts.left with nothing | aborted | ⟨e, failed⟩
      · exact nothing
      · exact absurd aborted unaborted
      · exact absurd failed (unfailed e)
    have pending := sound.counts.pending
    rw [nothing] at pending
    simp only [whole, List.length_append, List.length_nil] at pending
    rw [pending, List.length_append]
    cases waits : sending.writer.waiting with
    | nil =>
      simp only [List.length_nil, if_true]
      omega
    | cons frame rest =>
      have none : rest.length = 0 := by simpa [waits] using one
      simp only [List.length_cons, none, reduceCtorEq, if_false]
      omega
  · intro rests nobody
    have zero : sending.writer.pending = 0 := by
      rw [sound.pending_of_rests rests, nobody, List.length_nil]
    refine ⟨zero, ?_⟩
    rw [atLimit, sound.settings_eq, zero]
    exact Nat.not_le.mpr
  · intro rests free frame waits
    have only : sending.writer.waiting = [frame] := by
      obtain ⟨first, rest, waiting⟩ := List.exists_cons_of_ne_nil (List.ne_nil_of_mem waits)
      have none : rest = [] := by simpa [waiting] using one
      rw [waiting, none] at waits ⊢
      rw [List.mem_singleton.mp waits]
    have room : 0 < sending.writer.settings.capacity := sound.settings_eq ▸ free
    have entered : sending.writer.enter 0 =
        some (.queued, { sending.writer with waiting := [], queue := [frame] }) := by
      simp [Writer.enter, only, rests.writer.idle, rests.writer.queue, isOver, Task.isOver, room]
    simp [Sending.enter, entered, only]

/-- **If no send begins while another one is under way**, the count is what is queued, what is being
written, and the sender that waits for room.  It stays within its limit, and is zero when nothing is
left to write.  A send that fails for want of room leaves the writer as if it had not come. -/
theorem pending_accounted (settings : QueueSettings) {events : List Event}
    (apart : (start settings).apart events = true) :
    Accounted settings ((start settings).run events).1 ((start settings).run events).2 ∧
      ∀ before event frame, events = before ++ [event] →
        .failed frame .backpressureTimeout ∈ (((start settings).run before).1.step event).2 →
        ∃ earlier sender middle, before = earlier ++ .arrive sender frame :: middle ∧
          (∀ event ∈ middle, event.begins = false) ∧
          ((start settings).run events).1 =
            ((start settings).run (earlier ++ middle.filter Event.ofTask)).1 := by
  refine ⟨(sound_run settings events).accounted ((alone_start settings).run apart), ?_⟩
  rintro before event frame rfl gives
  rw [apart_append, Bool.and_eq_true] at apart
  obtain ⟨n, sender, rfl, held⟩ := held_of_timeout gives
  obtain ⟨earlier, middle, came, later, nobody, state⟩ :=
    traced_run rfl apart.1 _ (List.mem_of_getElem? held)
  refine ⟨earlier, sender, middle, came, later, ?_⟩
  rw [state] at held
  have nothing : ((start settings).run (earlier ++ middle.filter Event.ofTask)).1.attempts = [] :=
    List.eq_nil_of_length_eq_zero (Nat.add_eq_zero_iff.mp nobody).1
  cases n with
  | zero =>
    rw [run_concat, state]
    simp [step, expire, ← nothing]
  | succ n => simp at held

/-- Four sends to a queue of one frame.  The third is held and gives up, and the fourth waits for
room. -/
def throttled : List Event :=
  [.arrive .task (.ofPayload 1 7 []), .look 0, .count 0, .enter 0, .gather, .writeBatch,
    .arrive .thread (.ofPayload 2 7 []), .look 0, .count 0, .enter 0,
    .arrive .task (.ofPayload 3 7 []), .look 0, .accept 5, .look 0, .expire 0,
    .accept 100, .flushed, .arrive .task (.ofPayload 4 7 []), .look 0, .count 0, .enter 0]

theorem pending_accounted_throttled :
    let sending := ((start ⟨2, 1, 0⟩).run throttled).1
    (start ⟨2, 1, 0⟩).apart throttled = true ∧
      sending.writer.waiting = [.ofPayload 4 7 []] ∧ sending.writer.pending = 2 ∧
      Accounted ⟨2, 1, 0⟩ sending ((start ⟨2, 1, 0⟩).run throttled).2 :=
  ⟨by decide, by decide, by decide, (pending_accounted ⟨2, 1, 0⟩ (by decide)).1⟩

end Sending

end RemoteCall
