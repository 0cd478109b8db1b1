import RemoteCall.Proofs.Machine
import RemoteCall.Writer.Basic

/-!
# What a writer has written

The frames of a connection reach its stream whole and in the order in which they were queued.
`Streams` says this of a writer between two actions: while its task goes on, the bytes that were
written and those still to be written are the bytes of all frames ever queued; once the task is
over, what was written remains the front of them.

Frames whose senders wait for room are not queued, so they have no part in it.  Neither has the
count of pending frames, nor the limit: what a stream says depends on the task and the queue only
(`Streams.congr`), and most actions leave both as they are.

The frames that were queued and the bytes that were written are no part of a writer.  They are
handed along from one action to the next by the invariant, so whoever uses it has to know them from
the history of the connection: a client from the requests that it has sent, a server from its
replies.  A frame counts as queued from the moment on when it enters the queue, and that is when its
sender is told that it was sent.

What `Streams` does not say is that anything is ever written.  A task may stand still for ever, and
a sink may accept nothing.
-/

namespace RemoteCall

namespace Writer

/-- The bytes that are still to be written, as long as the task did not fail. -/
def ahead? (writer : Writer) : Option Bytes :=
  match writer.task with
  | .idle | .flushing _ | .finished => some (content writer.queue)
  | .writing batch accepted => some ((content batch).drop accepted ++ content writer.queue)
  | .failed _ | .aborted => none

/-- What was queued was written in order, or is still to be written. -/
structure Streams (queued : List Frame) (written : Bytes) (writer : Writer) : Prop where
  ahead : ∀ ahead, writer.ahead? = some ahead → content queued = written ++ ahead
  behind : written <+: content queued
  /-- A task that came to its end left nothing in the queue. -/
  ended : writer.task = .finished → writer.queue = []

lemma content_append (first second : List Frame) :
    content (first ++ second) = content first ++ content second := List.flatMap_append

lemma content_take_drop (n : Nat) (frames : List Frame) :
    content (frames.take n) ++ content (frames.drop n) = content frames := by
  rw [← content_append, List.take_append_drop]

lemma streams_start (settings : QueueSettings) : Streams [] [] (start settings) := by
  refine ⟨?_, List.prefix_refl _, ?_⟩
  · intro ahead h
    simp only [ahead?, start, Option.some.injEq] at h
    rw [← h]
    rfl
  · intro h
    cases h

section

variable {queued : List Frame} {written : Bytes} {writer : Writer}

/-- What a stream says depends on the task and the queue only. -/
lemma Streams.congr {writer' : Writer} (streams : Streams queued written writer)
    (task : writer'.task = writer.task) (queue : writer'.queue = writer.queue) :
    Streams queued written writer' := by
  have same : writer'.ahead? = writer.ahead? := by
    unfold ahead?
    rw [task, queue]
  refine ⟨?_, streams.behind, ?_⟩
  · rw [same]
    exact streams.ahead
  · rw [task, queue]
    exact streams.ended

/-- A frame that enters the queue of a task that goes on is the last to be written. -/
lemma Streams.enqueue {writer' : Writer} {frame : Frame} (streams : Streams queued written writer)
    (going : writer.isOver = false) (task : writer'.task = writer.task)
    (queue : writer'.queue = writer.queue ++ [frame]) :
    Streams (queued ++ [frame]) written writer' := by
  have longer : content (queued ++ [frame]) = content queued ++ content [frame] :=
    content_append _ _
  refine ⟨?_, ?_, ?_⟩
  · intro ahead h
    have before : ∀ ahead, writer.ahead? = some ahead → content queued = written ++ ahead :=
      streams.ahead
    unfold isOver at going
    unfold ahead? at h before
    rw [task, queue, content_append] at h
    cases state : writer.task with
    | idle | flushing =>
      simp only [state, Option.some.injEq] at h before
      rw [longer, before _ rfl, ← h, List.append_assoc]
    | writing batch accepted =>
      simp only [state, Option.some.injEq] at h before
      rw [longer, before _ rfl, ← h, List.append_assoc, List.append_assoc]
    | finished | failed | aborted =>
      rw [state] at going
      cases going
  · rw [longer]
    exact streams.behind.trans (List.prefix_append _ _)
  · intro finished
    unfold isOver at going
    rw [← task, finished] at going
    cases going

/-- A task that is over writes nothing more. -/
lemma Streams.halt {writer' : Writer} (streams : Streams queued written writer)
    (stopped : (∃ e, writer'.task = .failed e) ∨ writer'.task = .aborted) :
    Streams queued written writer' := by
  have nothing : writer'.ahead? = none ∧ writer'.task ≠ .finished := by
    unfold ahead?
    rcases stopped with ⟨e, failed⟩ | aborted
    · rw [failed]
      exact ⟨rfl, nofun⟩
    · rw [aborted]
      exact ⟨rfl, nofun⟩
  refine ⟨?_, streams.behind, fun finished => absurd finished nothing.2⟩
  intro ahead h
  rw [nothing.1] at h
  cases h

/-! ## Senders -/

lemma Streams.offer {frame : Frame} {next : Writer} {admission : Admission}
    (streams : Streams queued written writer) (offered : writer.offer frame = (admission, next)) :
    Streams (if admission = .queued then queued ++ [frame] else queued) written next := by
  unfold Writer.offer at offered
  split at offered
  · cases offered
    exact streams
  · split at offered
    · cases offered
      exact streams
    · rename_i going
      split at offered
      · cases offered
        exact streams.enqueue (by simpa using going) rfl rfl
      · cases offered
        exact streams.congr rfl rfl

lemma Streams.resume {next : Writer} {sent : Sent} (streams : Streams queued written writer)
    (resumed : writer.resume = some (sent, next)) :
    ∃ frame rest, writer.waiting = frame :: rest ∧ next.waiting = rest ∧
      ((sent = .queued ∧ Streams (queued ++ [frame]) written next) ∨
        (∃ e, sent = .failed e) ∧ Streams queued written next) := by
  unfold Writer.resume at resumed
  cases waits : writer.waiting with
  | nil =>
    rw [waits] at resumed
    cases resumed
  | cons frame rest =>
    rw [waits] at resumed
    refine ⟨frame, rest, rfl, ?_⟩
    cases state : writer.isOver with
    | true =>
      simp only [state, if_pos] at resumed
      cases resumed
      exact ⟨rfl, Or.inr ⟨⟨_, rfl⟩, streams.congr rfl rfl⟩⟩
    | false =>
      simp only [state, Bool.false_eq_true, if_false] at resumed
      split at resumed
      · cases resumed
        exact ⟨rfl, Or.inl ⟨rfl, streams.enqueue state rfl rfl⟩⟩
      · cases resumed

/-! ## The task -/

lemma Streams.collect {next : Writer} (streams : Streams queued written writer)
    (collected : writer.collect = some next) :
    Streams queued written next := by
  unfold Writer.collect at collected
  split at collected
  · rename_i idle empty
    split at collected
    · cases collected
      refine ⟨?_, streams.behind, fun _ => empty⟩
      intro ahead h
      apply streams.ahead
      unfold ahead? at h ⊢
      rw [idle]
      exact h
    · cases collected
  · rename_i idle _
    cases collected
    refine ⟨?_, streams.behind, nofun⟩
    intro ahead h
    apply streams.ahead
    unfold ahead? at h ⊢
    rw [idle]
    simpa only [List.drop_zero, content_take_drop] using h
  · cases collected

lemma Streams.fail (streams : Streams queued written writer) (e : Error) :
    Streams queued written (writer.fail e) := by
  unfold Writer.fail
  split
  · exact streams.halt (Or.inl ⟨e, rfl⟩)
  · exact streams.halt (Or.inl ⟨e, rfl⟩)
  · exact streams

/-- The sink accepts a front of what is offered, and nothing else becomes written. -/
lemma Streams.accept (streams : Streams queued written writer) (n : Nat) :
    Streams queued (written ++ writer.offered.flatten.take n) (writer.accept n) := by
  cases state : writer.task with
  | writing batch accepted =>
    -- only a task that writes offers anything
    have offers : writer.offered.flatten = (content batch).drop accepted := by
      unfold offered
      rw [state]
      simp only [flatten_dropBytes, flatten_slices]
    have before : content queued =
        written ++ ((content batch).drop accepted ++ content writer.queue) := by
      apply streams.ahead
      unfold ahead?
      rw [state]
    unfold Writer.accept
    rw [offers, state]
    -- a sink that takes nothing is an error for the task
    by_cases zero : n = 0
    · subst zero
      simp only [if_true, List.take_zero, List.append_nil]
      exact streams.fail _
    · simp only [if_neg zero]
      -- the cut between what is written and what lies ahead moves on by `n` bytes
      have cut : content queued = written ++ ((content batch).drop accepted).take n ++
          ((content batch).drop (accepted + n) ++ content writer.queue) := by
        rw [before, List.append_assoc, ← List.append_assoc (List.take n _), ← List.drop_drop,
          List.take_append_drop]
      have behind : written ++ ((content batch).drop accepted).take n <+: content queued :=
        ⟨_, cut.symm⟩
      by_cases all : (content batch).length ≤ accepted + n
      · rw [if_pos all]
        refine ⟨?_, behind, nofun⟩
        intro ahead h
        simp only [ahead?, Option.some.injEq] at h
        rw [cut, List.drop_of_length_le all, ← h, List.nil_append]
      · rw [if_neg all]
        refine ⟨?_, behind, nofun⟩
        intro ahead h
        simp only [ahead?, Option.some.injEq] at h
        rw [cut, ← h]
  | idle | flushing | finished | failed | aborted =>
    have offers : writer.offered = [] := by
      unfold offered
      rw [state]
    have same : writer.accept n = writer := by
      unfold Writer.accept
      rw [state]
    rw [offers, same, List.flatten_nil, List.take_nil, List.append_nil]
    exact streams

lemma Streams.flushed (streams : Streams queued written writer) :
    Streams queued written writer.flushed := by
  unfold Writer.flushed
  split
  · rename_i batch state
    refine ⟨?_, streams.behind, nofun⟩
    intro ahead h
    apply streams.ahead
    unfold ahead? at h ⊢
    rw [state]
    exact h
  · exact streams

/-! ## The owner -/

lemma Streams.release (streams : Streams queued written writer) :
    Streams queued written writer.release := streams.congr rfl rfl

lemma Streams.abort (streams : Streams queued written writer) :
    Streams queued written writer.abort := by
  unfold Writer.abort
  split
  · exact streams
  · exact streams.halt (Or.inr rfl)

end

/-! ## The senders that wait

Only senders change which frames wait for room. -/

lemma waiting_offer {writer next : Writer} {frame : Frame} {admission : Admission}
    (offered : writer.offer frame = (admission, next)) :
    next.waiting =
      if admission = .waiting then writer.waiting ++ [frame] else writer.waiting := by
  unfold offer at offered
  split at offered
  · cases offered
    rfl
  · split at offered
    · cases offered
      rfl
    · split at offered <;> cases offered <;> rfl

lemma waiting_collect {writer next : Writer} (collected : writer.collect = some next) :
    next.waiting = writer.waiting := by
  unfold collect at collected
  split at collected
  · split at collected <;> cases collected
    rfl
  · cases collected
    rfl
  · cases collected

lemma waiting_fail (writer : Writer) (e : Error) : (writer.fail e).waiting = writer.waiting := by
  unfold fail
  split <;> rfl

lemma waiting_accept (writer : Writer) (n : Nat) :
    (writer.accept n).waiting = writer.waiting := by
  unfold accept
  split
  · split
    · exact waiting_fail writer _
    · split <;> rfl
  · rfl

lemma waiting_flushed (writer : Writer) : writer.flushed.waiting = writer.waiting := by
  unfold flushed
  split <;> rfl

lemma waiting_abort (writer : Writer) : writer.abort.waiting = writer.waiting := by
  unfold abort
  split <;> rfl

end Writer

end RemoteCall
