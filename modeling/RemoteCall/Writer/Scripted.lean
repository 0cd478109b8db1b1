import RemoteCall.Writer.Basic

/-!
# A writer over a scripted sink

A scripted sink behaves as a list says: how many bytes each write accepts, where a write fails,
stalls or is not ready at first, and whether flushing fails. `Scripted` runs a writer over such a
sink and keeps a record of the writes.

The writer's task runs only while somebody waits. A sender waits while it is held or while the
queue is full, and the owner waits to drain the writer; `Scripted.settle` then runs the task until
it can do nothing more. A sender that blocks its thread never lets the task run.
-/

namespace RemoteCall

namespace Writer

/-- How one write to a scripted sink goes. -/
inductive Answer where
  /-- Up to so many bytes are accepted. -/
  | accept (limit : Nat)
  | fail
  /-- The write never ends. -/
  | stall
  /-- The sink is not ready; the write is repeated. -/
  | notReady
  deriving DecidableEq, Repr

/-- One write as the sink has seen it. -/
structure Write where
  slices : Nat
  offered : Nat
  /-- The number of bytes accepted, unless the write failed. -/
  accepted : Option Nat
  deriving DecidableEq, Repr

/-- A sink that follows a script. After its end it accepts everything. -/
structure Sink where
  script : List Answer
  failsFlush : Bool
  stalled : Bool
  writes : List Write
  flushes : Nat
  accepted : Bytes
  deriving DecidableEq, Repr

/-- A writer and its sink. -/
structure Scripted where
  writer : Writer
  sink : Sink
  deriving DecidableEq, Repr

/-- The failure that a scripted sink reports. -/
def sinkFailure : Error := .io "the sink failed"

namespace Scripted

/-- A new writer over a sink with a script. -/
def start (settings : QueueSettings) (script : List Answer) (failsFlush : Bool) : Scripted :=
  ⟨.start settings, ⟨script, failsFlush, false, [], 0, []⟩⟩

/-- The answer of the sink to the next write. -/
def nextAnswer (sink : Sink) (offered : Nat) : Answer × List Answer :=
  match sink.script with
  | [] => (.accept offered, [])
  | answer :: rest => (answer, rest)

/-- One write: the sink consumes an entry of its script and records what happened. -/
def write (s : Scripted) : Scripted :=
  let slices := s.writer.offered
  let offered := slices.flatten
  let record (accepted : Option Nat) : List Write :=
    s.sink.writes ++ [⟨slices.length, offered.length, accepted⟩]
  match nextAnswer s.sink offered.length with
  | (.accept limit, script) =>
    let n := min limit offered.length
    { writer := s.writer.accept n
      sink := { s.sink with
        script
        writes := record (some n)
        accepted := s.sink.accepted ++ offered.take n } }
  | (.fail, script) =>
    { writer := s.writer.fail sinkFailure
      sink := { s.sink with script, writes := record none } }
  | (.stall, script) => { s with sink := { s.sink with script, stalled := true } }
  | (.notReady, script) => { s with sink := { s.sink with script } }

/-- One flush. -/
def flush (s : Scripted) : Scripted :=
  if s.sink.failsFlush then { s with writer := s.writer.fail sinkFailure }
  else { s with
    writer := s.writer.flushed
    sink := { s.sink with flushes := s.sink.flushes + 1 } }

/-- The next step of the task, if it can do anything. -/
def advance (s : Scripted) : Option Scripted :=
  match s.writer.task with
  | .idle => s.writer.collect.map fun writer => { s with writer }
  | .writing .. => if s.sink.stalled then none else some s.write
  | .flushing _ => some s.flush
  | .finished | .failed _ | .aborted => none

/-! ## The task comes to rest

Every step takes frames out of the queue, has bytes accepted, ends a batch, ends the task or
consumes an entry of the script. -/

/-- What is left to do in a task. -/
def taskWork : Task → Nat
  | .idle => 1
  | .writing batch accepted => 2 * ((content batch).length - accepted) + 3
  | .flushing _ => 2
  | .finished | .failed _ | .aborted => 0

/-- What is left to do: a bound on the steps that the task can take. -/
def work (s : Scripted) : Nat :=
  3 * (content s.writer.queue).length + taskWork s.writer.task + s.sink.script.length +
    (if s.sink.stalled then 0 else 1)

theorem length_content_cons (frame : Frame) (rest : List Frame) :
    (content (frame :: rest)).length = frame.size + (content rest).length := by
  simp [content]

theorem length_content_take_add_drop (n : Nat) (frames : List Frame) :
    (content (frames.take n)).length + (content (frames.drop n)).length =
      (content frames).length := by
  have h : content (frames.take n) ++ content (frames.drop n) = content frames := by
    simp only [content, ← List.flatMap_append, List.take_append_drop]
  rw [← h, List.length_append]

theorem le_length_content_of_ne_nil {frames : List Frame} (h : frames ≠ []) :
    16 ≤ (content frames).length := by
  cases frames with
  | nil => exact absurd rfl h
  | cons frame rest =>
    rw [length_content_cons]
    simp only [Frame.size, Header.width]
    omega

theorem work_lt_of_collect {s : Scripted} {writer : Writer} (idle : s.writer.task = .idle)
    (h : s.writer.collect = some writer) : work { s with writer } < work s := by
  unfold collect at h
  simp only [idle] at h
  cases hq : s.writer.queue with
  | nil =>
    simp only [hq] at h
    split at h
    · simp only [Option.some.injEq] at h
      subst h
      simp [work, taskWork, idle, hq]
    · simp at h
  | cons frame rest =>
    simp only [hq, Option.some.injEq] at h
    subst h
    have total := length_content_take_add_drop batchLimit (frame :: rest)
    have some := @le_length_content_of_ne_nil ((frame :: rest).take batchLimit)
      (by simp [batchLimit])
    simp only [work, taskWork, idle, hq] at *
    omega

theorem work_lt_of_flush {s : Scripted} {batch : List Frame}
    (flushing : s.writer.task = .flushing batch) : work s.flush < work s := by
  unfold flush
  split
  · simp only [work, fail, flushing, taskWork, content]
    simp only [List.flatMap_nil, List.length_nil]
    omega
  · simp only [work, flushed, flushing, taskWork]
    omega

theorem taskWork_accept_lt {writer : Writer} {batch : List Frame} {accepted n : Nat}
    (writing : writer.task = .writing batch accepted) :
    3 * (content (writer.accept n).queue).length + taskWork (writer.accept n).task <
      3 * (content writer.queue).length + taskWork writer.task := by
  unfold accept
  simp only [writing]
  split
  · simp only [fail, writing, taskWork, content, List.flatMap_nil, List.length_nil]
    omega
  · split
    · simp only [taskWork]
      omega
    · simp only [taskWork]
      omega

theorem work_lt_of_write {s : Scripted} {batch : List Frame} {accepted : Nat}
    (writing : s.writer.task = .writing batch accepted) (ready : s.sink.stalled = false) :
    work s.write < work s := by
  have shorter : ∀ offered answer script, nextAnswer s.sink offered = (answer, script) →
      script.length ≤ s.sink.script.length ∧
        ((answer = .notReady ∨ answer = .stall) → script.length < s.sink.script.length) := by
    intro offered answer script h
    unfold nextAnswer at h
    split at h
    · next hs =>
      obtain ⟨rfl, rfl⟩ := Prod.mk.inj h
      simp
    · next hs =>
      obtain ⟨rfl, rfl⟩ := Prod.mk.inj h
      simp [hs]
  unfold write
  dsimp only
  split
  · next limit script h =>
    have lt := taskWork_accept_lt (n := min limit s.writer.offered.flatten.length) writing
    have le := (shorter _ _ _ h).1
    simp only [work]
    omega
  · next script h =>
    have le := (shorter _ _ _ h).1
    simp only [work, fail, writing, taskWork, content, List.flatMap_nil, List.length_nil]
    omega
  · next script h =>
    have le := (shorter _ _ _ h).1
    simp only [work, ready]
    simp
    omega
  · next script h =>
    have lt := (shorter _ _ _ h).2 (.inl rfl)
    simp only [work]
    omega

theorem work_lt_of_advance {s next : Scripted} (h : s.advance = some next) :
    work next < work s := by
  unfold advance at h
  split at h
  · next idle =>
    obtain ⟨writer, hc, rfl⟩ := Option.map_eq_some_iff.mp h
    exact work_lt_of_collect idle hc
  · next writing =>
    split at h
    · simp at h
    · next ready =>
      simp only [Option.some.injEq] at h
      exact h ▸ work_lt_of_write writing (by simpa using ready)
  · next flushing =>
    simp only [Option.some.injEq] at h
    exact h ▸ work_lt_of_flush flushing
  all_goals simp at h

/-- Run the task until it can do nothing more. -/
def settle (s : Scripted) : Scripted :=
  match h : s.advance with
  | none => s
  | some next =>
    have := work_lt_of_advance h
    settle next
termination_by s.work

/-! ## Senders and owner -/

/-- A sender that found no room waits: the task runs, then the sender goes on. -/
def awaitRoom (s : Scripted) : Except Error Unit × Scripted :=
  let s := s.settle
  match s.writer.resume with
  | some (.queued, writer) => (.ok (), { s with writer })
  | some (.failed e, writer) => (.error e, { s with writer })
  | some (.waiting, _) | none => (.error .backpressureTimeout, s)

/-- Send once, without waiting to be let in. -/
def sendNow (s : Scripted) (sender : Sender) (frame : Frame) : Except Error Unit × Scripted :=
  match s.writer.send sender frame with
  | (.queued, writer) => (.ok (), { s with writer })
  | (.failed e, writer) => (.error e, { s with writer })
  | (.waiting, writer) => awaitRoom { s with writer }

/-- Send a frame. A task that is held lets the writer run before it tries again, unless it has no
time to wait. -/
def send (s : Scripted) (sender : Sender) (frame : Frame) : Except Error Unit × Scripted :=
  match sender, s.writer.offer frame with
  | .task, (.held, _) =>
    if s.writer.settings.timeout = 0 then s.sendNow sender frame
    else s.settle.sendNow sender frame
  | _, _ => s.sendNow sender frame

/-- Let the task run, and count the bytes that the sink has accepted. -/
def drain (s : Scripted) : Nat × Scripted :=
  let s := s.settle
  (s.sink.accepted.length, s)

/-- The last sender goes away. -/
def release (s : Scripted) : Scripted := { s with writer := s.writer.release }

/-- Cancel the task. -/
def abort (s : Scripted) : Scripted := { s with writer := s.writer.abort }

end Scripted

/-- Run the task over a sink that accepts everything; what it has written, and the writer after
that. -/
def writeAll (writer : Writer) : Bytes × Writer :=
  let s := Scripted.settle ⟨writer, ⟨[], false, false, [], 0, []⟩⟩
  (s.sink.accepted, s.writer)

end Writer

end RemoteCall
