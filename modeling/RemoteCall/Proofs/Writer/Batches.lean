import RemoteCall.Proofs.Writer.Stream

/-!
# Batches of any size

The task of a writer takes frames out of the queue one at a time, and how many make up a batch
depends on the senders that come in meanwhile.  `Writer.collect` is the case in which nobody does.
`Batching` is a writer whose task may be anywhere in putting a batch together, so that any cut of
the queue into batches of at most `Writer.batchLimit` frames is a run of it (`run_gather`), and the
runs of a writer are among its runs (`exists_run_of_writer`).

Senders are taken apart in the same way.  Several of them may read the count of pending frames
before one of them adds to it, so a sender that has read it goes on without a second look
(`Writer.pass`).

A task that gathers is idle as far as the writer is concerned, and has frames in its hands that are
no longer in the queue.  So there are two ways to be idle.  The task rests when it waits for a
frame, and then it has nothing gathered; a task that has something gathered goes on by itself, and
is at rest again only after the batch was written and flushed.

## Main statements

* `Batching.Intact.gathered_writeBatch` — once a batch is begun nothing is gathered, so an idle task
  that has something gathered has not begun to write it.
* `Batching.stream_intact` — what the sink has accepted is the front of what was queued, and all of
  it once the task rests.
-/

namespace RemoteCall

open Writer

/-- A sender that has passed the limit hands its frame over. -/
def Writer.pass (writer : Writer) (frame : Frame) : Sent × Writer :=
  if writer.isOver then (.failed .connectionClosed, writer)
  else if writer.hasRoom then
    (.queued, { writer with pending := writer.pending + 1, queue := writer.queue ++ [frame] })
  else
    (.waiting, { writer with pending := writer.pending + 1, waiting := writer.waiting ++ [frame] })

/-- How an offer fares that ends as the rest of a send does. -/
def Writer.Sent.admission : Sent → Admission
  | .queued => .queued
  | .waiting => .waiting
  | .failed _ => .refused

/-- An offer is a look at the limit, and then the rest of a send. -/
lemma Writer.offer_eq (writer : Writer) (frame : Frame) :
    writer.offer frame =
      if writer.settings.maxPending ≤ writer.pending then (.held, writer)
      else ((writer.pass frame).1.admission, (writer.pass frame).2) := by
  unfold Writer.offer Writer.pass
  by_cases held : writer.settings.maxPending ≤ writer.pending
  · simp only [if_pos held]
  · by_cases stopped : writer.isOver = true
    · simp only [if_neg held, if_pos stopped, Sent.admission]
    · by_cases room : writer.hasRoom = true
      · simp only [if_neg held, if_neg stopped, if_pos room, Sent.admission]
      · simp only [if_neg held, if_neg stopped, if_neg room, Sent.admission]

lemma Writer.error_of_pass {writer : Writer} {frame : Frame} {e : Error}
    (failed : (writer.pass frame).1 = .failed e) : e = .connectionClosed := by
  unfold Writer.pass at failed
  split at failed
  · exact (Sent.failed.inj failed).symm
  · split at failed <;> cases failed

lemma Writer.send_eq (writer : Writer) (sender : Sender) (frame : Frame) :
    writer.send sender frame =
      if writer.settings.maxPending ≤ writer.pending then
        (.failed (writer.heldError sender), writer)
      else writer.pass frame := by
  by_cases held : writer.settings.maxPending ≤ writer.pending
  · simp only [Writer.send, Writer.offer_eq, if_pos held]
  · rcases passed : writer.pass frame with ⟨outcome, next⟩
    cases outcome with
    | queued | waiting =>
      simp only [Writer.send, Writer.offer_eq, if_neg held, passed, Sent.admission]
    | failed e =>
      have closed : e = .connectionClosed := error_of_pass (congrArg Prod.fst passed)
      simp only [Writer.send, Writer.offer_eq, if_neg held, passed, Sent.admission, closed]

/-- A writer whose task may be putting a batch together. -/
structure Batching where
  writer : Writer
  /-- The frames that the idle task has taken out of the queue for its next batch. -/
  gathered : List Frame

namespace Batching

/-- A writer that has not been used. -/
def start (settings : QueueSettings) : Batching := ⟨.start settings, []⟩

/-- The idle task takes the next frame out of the queue, while the batch may grow. -/
def gather (batching : Batching) : Batching :=
  match batching.writer.task, batching.writer.queue with
  | .idle, frame :: rest =>
    if batching.gathered.length < batchLimit then
      ⟨{ batching.writer with queue := rest }, batching.gathered ++ [frame]⟩
    else batching
  | _, _ => batching

/-- The idle task starts to write what it has gathered. -/
def writeBatch (batching : Batching) : Batching :=
  match batching.writer.task, batching.gathered with
  | .idle, frame :: rest => ⟨{ batching.writer with task := .writing (frame :: rest) 0 }, []⟩
  | _, _ => batching

/-- The idle task has nothing gathered, and finds that nobody is left to send. -/
def finish (batching : Batching) : Batching :=
  match batching.gathered, batching.writer.queue with
  | [], [] => { batching with writer := batching.writer.collect.getD batching.writer }
  | _, _ => batching

/-! ## Steps -/

/-- An action on a writer. -/
inductive Event where
  /-- A send whose time is up unless the writer lets it pass now. -/
  | send (sender : Sender) (frame : Frame)
  /-- A send that had passed the limit before, and goes on now. -/
  | pass (frame : Frame)
  | resume
  | gather
  | writeBatch
  | finish
  | accept (n : Nat)
  | fail (e : Error)
  | flushed
  | release
  | abort
  deriving DecidableEq, Repr

/-- What an action did, as seen from outside. -/
inductive Effect where
  /-- A sender has turned up with a frame. -/
  | sent (frame : Frame)
  /-- A frame entered the queue: its send has succeeded. -/
  | queued (frame : Frame)
  /-- A send has failed. -/
  | failed (frame : Frame) (e : Error)
  /-- The sink accepted bytes. -/
  | wrote (bytes : Bytes)
  deriving DecidableEq, Repr

/-- How a send has ended, unless it waits. -/
def report (frame : Frame) : Sent → List Effect
  | .queued => [.queued frame]
  | .waiting => []
  | .failed e => [.failed frame e]

/-- Run one action. An action that is not possible changes nothing. -/
def step (batching : Batching) : Event → Batching × List Effect
  | .send sender frame =>
    let (sent, writer) := batching.writer.send sender frame
    ({ batching with writer }, .sent frame :: report frame sent)
  | .pass frame =>
    let (sent, writer) := batching.writer.pass frame
    ({ batching with writer }, .sent frame :: report frame sent)
  | .resume =>
    match batching.writer.waiting, batching.writer.resume with
    | frame :: _, some (sent, writer) => ({ batching with writer }, report frame sent)
    | _, _ => (batching, [])
  | .gather => (batching.gather, [])
  | .writeBatch => (batching.writeBatch, [])
  | .finish => (batching.finish, [])
  | .accept n =>
    ({ batching with writer := batching.writer.accept n },
      [.wrote (batching.writer.offered.flatten.take n)])
  | .fail e => ({ batching with writer := batching.writer.fail e }, [])
  | .flushed => ({ batching with writer := batching.writer.flushed }, [])
  | .release => ({ batching with writer := batching.writer.release }, [])
  | .abort => ({ batching with writer := batching.writer.abort }, [])

/-- Run actions one after the other. -/
def run (batching : Batching) (events : List Event) : Batching × List Effect :=
  Machine.run step batching events

/-! ## What a run has shown -/

/-- The frames that were sent. -/
def sent (history : List Effect) : List Frame :=
  history.filterMap fun
    | .sent frame => some frame
    | _ => none

/-- The frames whose sends have succeeded, in the order in which they entered the queue. -/
def queued (history : List Effect) : List Frame :=
  history.filterMap fun
    | .queued frame => some frame
    | _ => none

/-- The frames whose sends have failed. -/
def failed (history : List Effect) : List Frame :=
  history.filterMap fun
    | .failed frame _ => some frame
    | _ => none

/-- The bytes that the sink has accepted. -/
def written (history : List Effect) : Bytes :=
  history.flatMap fun
    | .wrote bytes => bytes
    | _ => []

lemma sent_append (first second : List Effect) :
    sent (first ++ second) = sent first ++ sent second := List.filterMap_append

lemma queued_append (first second : List Effect) :
    queued (first ++ second) = queued first ++ queued second := List.filterMap_append

lemma failed_append (first second : List Effect) :
    failed (first ++ second) = failed first ++ failed second := List.filterMap_append

lemma written_append (first second : List Effect) :
    written (first ++ second) = written first ++ written second := List.flatMap_append

@[simp] lemma sent_report (frame : Frame) (outcome : Sent) :
    sent (report frame outcome) = [] := by
  cases outcome <;> rfl

@[simp] lemma written_report (frame : Frame) (outcome : Sent) :
    written (report frame outcome) = [] := by
  cases outcome <;> rfl

/-! ## Senders -/

/-- What a sender does to the queue: its frame comes last, if the send succeeds. -/
structure Hands (writer : Writer) (frame : Frame) (outcome : Sent) (next : Writer) : Prop where
  task : next.task = writer.task
  queue : next.queue = writer.queue ++ queued (report frame outcome)
  going : outcome = .queued → writer.isOver = false

lemma hands_pass (writer : Writer) (frame : Frame) :
    Hands writer frame (writer.pass frame).1 (writer.pass frame).2 ∧
      (writer.pass frame).2.waiting =
        writer.waiting ++ if (writer.pass frame).1 = .waiting then [frame] else [] := by
  unfold Writer.pass
  by_cases stopped : writer.isOver = true
  · simp only [if_pos stopped]
    refine ⟨⟨rfl, ?_, by simp⟩, by simp⟩
    simp [report, queued]
  · have going : writer.isOver = false := by simpa using stopped
    by_cases room : writer.hasRoom = true
    · simp only [if_neg stopped, if_pos room]
      refine ⟨⟨rfl, ?_, fun _ => going⟩, by simp⟩
      simp [report, queued]
    · simp only [if_neg stopped, if_neg room]
      refine ⟨⟨rfl, ?_, by simp⟩, by simp⟩
      simp [report, queued]

lemma hands_send (writer : Writer) (sender : Sender) (frame : Frame) :
    Hands writer frame (writer.send sender frame).1 (writer.send sender frame).2 ∧
      (writer.send sender frame).2.waiting =
        writer.waiting ++ if (writer.send sender frame).1 = .waiting then [frame] else [] := by
  rw [Writer.send_eq]
  split
  · refine ⟨⟨rfl, ?_, by simp⟩, by simp⟩
    simp [report, queued]
  · exact hands_pass writer frame

lemma hands_resume {writer next : Writer} {frame : Frame} {rest : List Frame} {outcome : Sent}
    (waits : writer.waiting = frame :: rest) (resumed : writer.resume = some (outcome, next)) :
    Hands writer frame outcome next ∧ next.waiting = rest ∧ outcome ≠ .waiting := by
  unfold Writer.resume at resumed
  simp only [waits] at resumed
  by_cases stopped : writer.isOver = true
  · rw [if_pos stopped, Option.some.injEq, Prod.mk.injEq] at resumed
    obtain ⟨rfl, rfl⟩ := resumed
    refine ⟨⟨rfl, ?_, by simp⟩, rfl, by simp⟩
    simp [report, queued]
  · have going : writer.isOver = false := by simpa using stopped
    rw [if_neg stopped] at resumed
    by_cases room : writer.queue.length < writer.settings.capacity
    · rw [if_pos room, Option.some.injEq, Prod.mk.injEq] at resumed
      obtain ⟨rfl, rfl⟩ := resumed
      refine ⟨⟨rfl, ?_, fun _ => going⟩, rfl, by simp⟩
      simp [report, queued]
    · rw [if_neg room] at resumed
      cases resumed

/-! ## The stream -/

/-- The writer as it would be had its task not begun to gather. -/
def whole (batching : Batching) : Writer :=
  { batching.writer with queue := batching.gathered ++ batching.writer.queue }

/-- The bytes of what was queued were accepted in order, or are still to be written, and each send
has ended in one way or waits. -/
structure Intact (batching : Batching) (history : List Effect) : Prop where
  streams : batching.whole.Streams (queued history) (written history)
  /-- A task that writes has nothing gathered. -/
  between : batching.gathered = [] ∨ batching.writer.task = .idle ∨ batching.writer.task = .aborted
  senders : ∀ frame, (sent history).count frame =
    (queued history).count frame + (failed history).count frame +
      batching.writer.waiting.count frame

lemma intact_start (settings : QueueSettings) : Intact (start settings) [] :=
  ⟨streams_start settings, Or.inl rfl, fun _ => rfl⟩

section

variable {batching : Batching} {history : List Effect}

/-- Nothing is gathered by a task that is neither idle nor aborted. -/
lemma Intact.whole_eq (intact : Intact batching history) (busy : batching.writer.task ≠ .idle)
    (going : batching.writer.task ≠ .aborted) :
    batching.gathered = [] ∧ batching.whole = batching.writer := by
  have nothing : batching.gathered = [] := by
    rcases intact.between with nothing | idle | aborted
    · exact nothing
    · exact absurd idle busy
    · exact absurd aborted going
  refine ⟨nothing, ?_⟩
  unfold whole
  rw [nothing, List.nil_append]

/-- A sender hands its frame over, or fails to. -/
lemma Intact.hand (intact : Intact batching history) {frame : Frame} {outcome : Sent}
    {writer : Writer} (hands : Hands batching.writer frame outcome writer) (before : List Effect)
    (quiet : queued before = [] ∧ failed before = [] ∧ written before = [])
    (waiting : ∀ other, batching.writer.waiting.count other + (sent before).count other =
      (queued (report frame outcome)).count other + (failed (report frame outcome)).count other +
        writer.waiting.count other) :
    Intact { batching with writer } (history ++ (before ++ report frame outcome)) := by
  have task : ({ batching with writer } : Batching).whole.task = batching.whole.task := hands.task
  have queue : ({ batching with writer } : Batching).whole.queue =
      batching.whole.queue ++ queued (report frame outcome) := by
    unfold whole
    rw [hands.queue, List.append_assoc]
  refine ⟨?_, ?_, ?_⟩
  · simp only [queued_append, written_append, quiet, written_report, List.nil_append,
      List.append_nil]
    by_cases success : outcome = .queued
    · subst success
      exact intact.streams.enqueue (hands.going rfl) task queue
    · have nothing : queued (report frame outcome) = [] := by
        cases outcome with
        | queued => exact absurd rfl success
        | waiting | failed => rfl
      rw [nothing, List.append_nil] at queue
      rw [nothing, List.append_nil]
      exact intact.streams.congr task queue
  · rw [hands.task]
    exact intact.between
  · intro other
    have held := intact.senders other
    have moved := waiting other
    simp only [sent_append, queued_append, failed_append, quiet, sent_report, List.nil_append,
      List.append_nil, List.count_append]
    omega

/-- The task or the owner acts on the writer as a whole. -/
lemma Intact.act (intact : Intact batching history) {next : Batching} {seen : List Effect}
    (streams : next.whole.Streams (queued history) (written history ++ written seen))
    (between : next.gathered = [] ∨ next.writer.task = .idle ∨ next.writer.task = .aborted)
    (waiting : next.writer.waiting = batching.writer.waiting)
    (quiet : sent seen = [] ∧ queued seen = [] ∧ failed seen = []) :
    Intact next (history ++ seen) := by
  refine ⟨?_, between, ?_⟩
  · simp only [queued_append, written_append, quiet, List.append_nil]
    exact streams
  · intro frame
    simp only [sent_append, queued_append, failed_append, quiet, List.append_nil, waiting]
    exact intact.senders frame

/-! ### The task -/

/-- An idle task may write any front of its queue next. -/
lemma streams_cut {queued : List Frame} {written : Bytes} {writer : Writer}
    (streams : writer.Streams queued written) (idle : writer.task = .idle)
    {first rest : List Frame} (cut : writer.queue = first ++ rest) :
    ({ writer with task := .writing first 0, queue := rest } : Writer).Streams queued written := by
  refine ⟨?_, streams.behind, by simp⟩
  intro ahead h
  apply streams.ahead
  simp only [ahead?, idle, cut, content_append, Option.some.injEq] at h ⊢
  rw [← h, List.drop_zero]

lemma Intact.gather (intact : Intact batching history) : Intact batching.gather history := by
  unfold Batching.gather
  split
  · rename_i frame rest idle next
    split
    · have same : (⟨{ batching.writer with queue := rest }, batching.gathered ++ [frame]⟩ :
          Batching).whole = batching.whole := by
        unfold whole
        rw [next, List.append_assoc, List.singleton_append]
      refine ⟨?_, Or.inr (Or.inl idle), intact.senders⟩
      rw [same]
      exact intact.streams
    · exact intact
  · exact intact

/-- What an idle task has gathered is the batch that it writes, and nothing is gathered then. -/
lemma writeBatch_of_idle (idle : batching.writer.task = .idle) (some : batching.gathered ≠ []) :
    batching.writeBatch =
      ⟨{ batching.writer with task := .writing batching.gathered 0 }, []⟩ := by
  obtain ⟨frame, rest, gathered⟩ := List.exists_cons_of_ne_nil some
  unfold writeBatch
  simp only [idle, gathered]

lemma writeBatch_of_empty (nothing : batching.gathered = []) :
    batching.writeBatch = batching := by
  unfold writeBatch
  split
  · rename_i gathered
    rw [nothing] at gathered
    cases gathered
  · rfl

lemma writeBatch_of_busy (busy : batching.writer.task ≠ .idle) :
    batching.writeBatch = batching := by
  unfold writeBatch
  split
  · rename_i idle _
    exact absurd idle busy
  · rfl

/-- Only a task that was aborted keeps what it has gathered. -/
theorem Intact.gathered_writeBatch (intact : Intact batching history)
    (going : batching.writer.task ≠ .aborted) : batching.writeBatch.gathered = [] := by
  by_cases some : batching.gathered = []
  · rw [writeBatch_of_empty some]
    exact some
  · have idle := (intact.between.resolve_left some).resolve_right going
    rw [writeBatch_of_idle idle some]

lemma Intact.writeBatch (intact : Intact batching history) :
    Intact batching.writeBatch history := by
  by_cases some : batching.gathered = []
  · rw [writeBatch_of_empty some]
    exact intact
  · by_cases idle : batching.writer.task = .idle
    · rw [writeBatch_of_idle idle some]
      exact ⟨streams_cut intact.streams idle rfl, Or.inl rfl, intact.senders⟩
    · rw [writeBatch_of_busy idle]
      exact intact

lemma Intact.finish (intact : Intact batching history) : Intact batching.finish history := by
  unfold Batching.finish
  split
  · rename_i nothing empty
    have same : ∀ writer : Writer, ({ batching with writer } : Batching).whole = writer := by
      intro writer
      unfold whole
      rw [nothing, List.nil_append]
    have streams := intact.streams
    rw [same batching.writer] at streams
    cases collected : batching.writer.collect with
    | none => exact intact
    | some next =>
      refine ⟨?_, Or.inl nothing, ?_⟩
      · rw [same]
        exact streams.collect collected
      · rw [Option.getD_some, waiting_collect collected]
        exact intact.senders
  · exact intact

/-- The sink has no part in a task that is idle or was aborted. -/
lemma sink_of_resting {writer : Writer} (rests : writer.task = .idle ∨ writer.task = .aborted) :
    (∀ n, writer.accept n = writer) ∧ writer.offered = [] ∧
      (∀ e, writer.fail e = writer) ∧ writer.flushed = writer := by
  unfold Writer.accept Writer.offered Writer.fail Writer.flushed
  rcases rests with idle | aborted
  · simp only [idle, implies_true, and_self]
  · simp only [aborted, implies_true, and_self]

/-- The sink answers a task. -/
lemma Intact.answer (intact : Intact batching history) {answered : Writer} {seen : List Effect}
    (streams : ∀ queued written, batching.writer.Streams queued written →
      answered.Streams queued (written ++ Batching.written seen))
    (resting : batching.writer.task = .idle ∨ batching.writer.task = .aborted →
      answered = batching.writer ∧ written seen = [])
    (waiting : answered.waiting = batching.writer.waiting)
    (quiet : sent seen = [] ∧ queued seen = [] ∧ failed seen = []) :
    Intact { batching with writer := answered } (history ++ seen) := by
  rcases intact.between with nothing | rests
  · have same : ∀ writer : Writer, ({ batching with writer } : Batching).whole = writer := by
      intro writer
      unfold whole
      rw [nothing, List.nil_append]
    refine intact.act ?_ (Or.inl nothing) waiting quiet
    have before := intact.streams
    rw [same batching.writer] at before
    rw [same]
    exact streams _ _ before
  · obtain ⟨rfl, silent⟩ := resting rests
    refine intact.act ?_ (Or.inr rests) rfl quiet
    rw [silent, List.append_nil]
    exact intact.streams

lemma Intact.accept (intact : Intact batching history) (n : Nat) :
    Intact { batching with writer := batching.writer.accept n }
      (history ++ [.wrote (batching.writer.offered.flatten.take n)]) := by
  refine intact.answer ?_ ?_ (waiting_accept _ n) ⟨rfl, rfl, rfl⟩
  · intro queued written streams
    simpa [Batching.written] using streams.accept n
  · intro rests
    obtain ⟨same, silent, -⟩ := sink_of_resting rests
    refine ⟨same n, ?_⟩
    simp [silent, Batching.written]

lemma Intact.fail (intact : Intact batching history) (e : Error) :
    Intact { batching with writer := batching.writer.fail e } (history ++ []) := by
  refine intact.answer ?_ ?_ (waiting_fail _ e) ⟨rfl, rfl, rfl⟩
  · intro queued written streams
    simpa [Batching.written] using streams.fail e
  · intro rests
    exact ⟨(sink_of_resting rests).2.2.1 e, rfl⟩

lemma Intact.flushed (intact : Intact batching history) :
    Intact { batching with writer := batching.writer.flushed } (history ++ []) := by
  refine intact.answer ?_ ?_ (waiting_flushed _) ⟨rfl, rfl, rfl⟩
  · intro queued written streams
    simpa [Batching.written] using streams.flushed
  · intro rests
    exact ⟨(sink_of_resting rests).2.2.2, rfl⟩

/-! ### The owner -/

lemma Intact.release (intact : Intact batching history) :
    Intact { batching with writer := batching.writer.release } history :=
  ⟨intact.streams.congr rfl rfl, intact.between, intact.senders⟩

lemma Intact.abort (intact : Intact batching history) :
    Intact { batching with writer := batching.writer.abort } history := by
  unfold Writer.abort
  by_cases stopped : batching.writer.isOver = true
  · rw [if_pos stopped]
    exact intact
  · rw [if_neg stopped]
    refine ⟨?_, Or.inr (Or.inr rfl), intact.senders⟩
    exact intact.streams.halt (Or.inr rfl)

/-! ### Runs -/

lemma Intact.send (intact : Intact batching history) {frame : Frame} {outcome : Sent}
    {writer : Writer} (hands : Hands batching.writer frame outcome writer)
    (waiting : writer.waiting =
      batching.writer.waiting ++ if outcome = .waiting then [frame] else []) :
    Intact { batching with writer } (history ++ .sent frame :: report frame outcome) := by
  refine intact.hand hands [.sent frame] ⟨rfl, rfl, rfl⟩ ?_
  intro other
  rw [waiting, List.count_append]
  cases outcome with
  | queued | waiting | failed =>
    simp [report, Batching.sent, Batching.queued, Batching.failed, Nat.add_comm]

lemma Intact.resume (intact : Intact batching history) {frame : Frame} {rest : List Frame}
    {outcome : Sent} {writer : Writer} (waits : batching.writer.waiting = frame :: rest)
    (resumed : batching.writer.resume = some (outcome, writer)) :
    Intact { batching with writer } (history ++ report frame outcome) := by
  obtain ⟨hands, rest_eq, ended⟩ := hands_resume waits resumed
  refine intact.hand hands [] ⟨rfl, rfl, rfl⟩ ?_
  intro other
  have split : batching.writer.waiting.count other = [frame].count other + rest.count other := by
    rw [waits, ← List.count_append, List.singleton_append]
  rw [split, rest_eq]
  cases outcome with
  | waiting => exact absurd rfl ended
  | queued | failed => simp [report, Batching.sent, Batching.queued, Batching.failed]

lemma Intact.step (intact : Intact batching history) (event : Event) :
    Intact (batching.step event).1 (history ++ (batching.step event).2) := by
  cases event with
  | send sender frame =>
    obtain ⟨hands, waiting⟩ := hands_send batching.writer sender frame
    exact intact.send hands waiting
  | pass frame =>
    obtain ⟨hands, waiting⟩ := hands_pass batching.writer frame
    exact intact.send hands waiting
  | resume =>
    simp only [Batching.step]
    split
    · rename_i frame rest outcome writer waits resumed
      exact intact.resume waits resumed
    · simpa using intact
  | gather => simpa [Batching.step] using intact.gather
  | writeBatch => simpa [Batching.step] using intact.writeBatch
  | finish => simpa [Batching.step] using intact.finish
  | accept n => exact intact.accept n
  | fail e => exact intact.fail e
  | flushed => exact intact.flushed
  | release => simpa [Batching.step] using intact.release
  | abort => simpa [Batching.step] using intact.abort

end

lemma Intact.run {batching : Batching} {history : List Effect}
    (intact : Intact batching history) (events : List Event) :
    Intact (batching.run events).1 (history ++ (batching.run events).2) := by
  have allowed : ∀ event ∈ events, True := fun _ _ => trivial
  refine Machine.run_history ?_ allowed intact
  intro batching history event _ intact
  exact intact.step event

/-! ## The runs of a writer

A batch may be any front of the queue, and `Writer.collect` takes the longest one that is allowed.
With that the runs of a writer are found again, action by action. -/

lemma run_gathers {writer : Writer} (idle : writer.task = .idle) (gathered : List Frame) {n : Nat}
    (few : gathered.length + n ≤ batchLimit) (enough : n ≤ writer.queue.length) :
    run ⟨writer, gathered⟩ (List.replicate n .gather) =
      (⟨{ writer with queue := writer.queue.drop n }, gathered ++ writer.queue.take n⟩, []) := by
  induction n generalizing writer gathered with
  | zero =>
    simp [run]
  | succ n ih =>
    have some := Nat.lt_of_lt_of_le n.succ_pos enough
    obtain ⟨frame, rest, next⟩ := List.exists_cons_of_length_pos some
    rw [next, List.length_cons] at enough
    have gathers : gather ⟨writer, gathered⟩ =
        ⟨{ writer with queue := rest }, gathered ++ [frame]⟩ := by
      unfold gather
      simp only [idle, next]
      rw [if_pos (by omega)]
    have idle' : ({ writer with queue := rest } : Writer).task = .idle := idle
    have others := ih idle' (gathered ++ [frame])
      (by rw [List.length_append, List.length_singleton]; omega) (Nat.le_of_succ_le_succ enough)
    rw [List.replicate_succ, run, Machine.run_cons]
    show ((run (gather ⟨writer, gathered⟩) _).1, [] ++ (run (gather ⟨writer, gathered⟩) _).2) = _
    rw [gathers, others, next, List.drop_succ_cons, List.take_succ_cons, List.append_assoc,
      List.singleton_append, List.append_nil]

/-- A batch may be any front of the queue that is neither empty nor too long. -/
theorem run_gather {writer : Writer} (idle : writer.task = .idle) {n : Nat} (some : 0 < n)
    (few : n ≤ batchLimit) (enough : n ≤ writer.queue.length) :
    run ⟨writer, []⟩ (List.replicate n .gather ++ [.writeBatch]) =
      (⟨{ writer with queue := writer.queue.drop n, task := .writing (writer.queue.take n) 0 }, []⟩,
        []) := by
  have gathers := run_gathers idle [] (by simpa using few) enough
  have filled : 0 < (writer.queue.take n).length := by
    rw [List.length_take]
    omega
  have batch := List.ne_nil_of_length_pos filled
  unfold run at gathers ⊢
  rw [Machine.run_append, gathers, List.nil_append]
  simp only [Machine.run_cons, Machine.run_nil, Batching.step, List.append_nil]
  rw [writeBatch_of_idle idle batch]

/-- The batch that a writer collects is the longest one. -/
lemma run_gather_collect {writer : Writer} (idle : writer.task = .idle) (some : writer.queue ≠ []) :
    run ⟨writer, []⟩
        (List.replicate (min batchLimit writer.queue.length) .gather ++ [.writeBatch]) =
      (⟨writer.collect.getD writer, []⟩, []) := by
  have filled : 0 < min batchLimit writer.queue.length :=
    Nat.lt_min.mpr ⟨by decide, List.length_pos_iff.mpr some⟩
  have collected : writer.collect = Option.some { writer with
      queue := writer.queue.drop batchLimit
      task := .writing (writer.queue.take batchLimit) 0 } := by
    obtain ⟨frame, rest, next⟩ := List.exists_cons_of_ne_nil some
    unfold Writer.collect
    simp only [idle, next]
  rw [run_gather idle filled (Nat.min_le_left _ _) (Nat.min_le_right _ _), collected,
    Option.getD_some, ← List.take_eq_take_min, ← List.drop_eq_drop_min]

lemma exists_run_of_collect (writer : Writer) :
    ∃ events, run ⟨writer, []⟩ events = (⟨writer.collect.getD writer, []⟩, []) := by
  cases state : writer.task with
  | idle =>
    cases next : writer.queue with
    | nil =>
      refine ⟨[.finish], ?_⟩
      simp [run, step, finish, next]
    | cons frame rest => exact ⟨_, run_gather_collect state (next ▸ List.cons_ne_nil frame rest)⟩
  | writing | flushing | finished | failed | aborted =>
    refine ⟨[], ?_⟩
    simp [run, Writer.collect, state]

/-- What an action shows of a writer. -/
def Effect.shown? : Effect → Option Writer.Effect
  | .sent _ => none
  | .queued frame => some (.queued frame)
  | .failed frame _ => some (.refused frame)
  | .wrote bytes => some (.wrote bytes)

lemma exists_run_of_offer (writer : Writer) (frame : Frame) :
    ∃ events seen, run ⟨writer, []⟩ events = (⟨(writer.step (.offer frame)).1, []⟩, seen) ∧
      seen.filterMap Effect.shown? = (writer.step (.offer frame)).2 := by
  by_cases held : writer.settings.maxPending ≤ writer.pending
  · refine ⟨[], [], ?_, ?_⟩ <;> simp [run, Writer.step, Writer.offer_eq, held]
  · refine ⟨[.pass frame], .sent frame :: report frame (writer.pass frame).1, ?_, ?_⟩
    · simp only [run, Machine.run_cons, Machine.run_nil, step, List.append_nil, Writer.step,
        Writer.offer_eq, if_neg held]
      cases (writer.pass frame).1 <;> rfl
    · simp only [Writer.step, Writer.offer_eq, if_neg held]
      cases (writer.pass frame).1 <;> rfl

lemma exists_run_of_resume (writer : Writer) :
    ∃ events seen, run ⟨writer, []⟩ events = (⟨(writer.step .resume).1, []⟩, seen) ∧
      seen.filterMap Effect.shown? = (writer.step .resume).2 := by
  cases waits : writer.waiting with
  | nil => refine ⟨[], [], ?_, ?_⟩ <;> simp [run, Writer.step, waits]
  | cons frame rest =>
    cases resumed : writer.resume with
    | none => refine ⟨[], [], ?_, ?_⟩ <;> simp [run, Writer.step, resumed]
    | some result =>
      obtain ⟨outcome, next⟩ := result
      have ended := (hands_resume waits resumed).2.2
      refine ⟨[.resume], report frame outcome, ?_, ?_⟩
      · cases outcome <;> simp [run, step, Writer.step, waits, resumed]
      · cases outcome with
        | waiting => exact absurd rfl ended
        | queued | failed => simp [Writer.step, waits, resumed, report, Effect.shown?]

/-- Every action of a writer is a run. -/
lemma exists_run_of_step (writer : Writer) (event : Writer.Event) :
    ∃ events seen, run ⟨writer, []⟩ events = (⟨(writer.step event).1, []⟩, seen) ∧
      seen.filterMap Effect.shown? = (writer.step event).2 := by
  cases event with
  | offer frame => exact exists_run_of_offer writer frame
  | resume => exact exists_run_of_resume writer
  | collect =>
    obtain ⟨events, collected⟩ := exists_run_of_collect writer
    exact ⟨events, [], collected, rfl⟩
  | accept n => exact ⟨[.accept n], _, rfl, rfl⟩
  | fail e => exact ⟨[.fail e], _, rfl, rfl⟩
  | flushed => exact ⟨[.flushed], _, rfl, rfl⟩
  | release => exact ⟨[.release], _, rfl, rfl⟩
  | abort => exact ⟨[.abort], _, rfl, rfl⟩

/-- The runs of a writer are among those in which the task takes its frames one at a time. -/
theorem exists_run_of_writer (writer : Writer) (events : List Writer.Event) :
    ∃ actions seen, run ⟨writer, []⟩ actions = (⟨(writer.run events).1, []⟩, seen) ∧
      seen.filterMap Effect.shown? = (writer.run events).2 := by
  induction events generalizing writer with
  | nil => exact ⟨[], [], rfl, rfl⟩
  | cons event rest ih =>
    obtain ⟨first, shown, ran, agrees⟩ := exists_run_of_step writer event
    obtain ⟨later, more, ran', agrees'⟩ := ih (writer.step event).1
    refine ⟨first ++ later, shown ++ more, ?_, ?_⟩
    · unfold run at ran ran' ⊢
      rw [Machine.run_append, ran, ran']
      rfl
    · rw [List.filterMap_append, agrees, agrees']
      rfl

/-- Whatever senders, sink and owner do, and however the queue is cut into batches: the bytes that
the sink has accepted are the front of the frames whose sends have succeeded, in the order in which
these entered the queue.  A send that has failed is none of those, so its frame contributes nothing.
Once the task has come to its end, or rests with nothing left to write, every byte of them was
accepted. -/
theorem stream_intact (settings : QueueSettings) (events : List Event) :
    let batching := ((start settings).run events).1
    let history := ((start settings).run events).2
    written history <+: (queued history).flatMap Frame.encode ∧
      (sent history).Perm (queued history ++ failed history ++ batching.writer.waiting) ∧
      (batching.writer.task = .finished ∨
          (batching.writer.task = .idle ∧ batching.gathered = [] ∧ batching.writer.queue = []) →
        written history = (queued history).flatMap Frame.encode) := by
  intro batching history
  have intact : Intact batching history := (intact_start settings).run events
  refine ⟨intact.streams.behind, ?_, ?_⟩
  · rw [List.perm_iff_count]
    intro frame
    rw [List.count_append, List.count_append]
    exact intact.senders frame
  · intro rests
    have nothing : batching.whole.ahead? = some [] := by
      rcases rests with finished | ⟨idle, gathered, empty⟩
      · have same := (intact.whole_eq (by simp [finished]) (by simp [finished])).2
        have empty := intact.streams.ended (by rw [same]; exact finished)
        simp only [ahead?, same, finished] at empty ⊢
        simp [empty, content]
      · simp [ahead?, whole, idle, gathered, empty, content]
    have all := intact.streams.ahead [] nothing
    rw [List.append_nil] at all
    exact all.symm

/-- Three frames are sent, and two of them make up the first batch.  The sink takes that in two
parts, and after the second batch the task rests. -/
example :
    let first := Frame.ofPayload 1 7 [1, 2, 3]
    let second := Frame.ofPayload 2 7 []
    let third := Frame.ofPayload 3 7 [4]
    let ran := (start {}).run [.send .task first, .send .thread second, .gather, .gather,
      .writeBatch, .send .task third, .accept 17, .accept 18, .flushed, .gather, .writeBatch,
      .accept 17, .flushed]
    ran.1.writer.task = .idle ∧ ran.1.gathered = [] ∧ ran.1.writer.queue = [] ∧
      queued ran.2 = [first, second, third] ∧
      written ran.2 = first.encode ++ second.encode ++ third.encode := by
  decide

end Batching

end RemoteCall
