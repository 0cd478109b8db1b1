import RemoteCall.Error
import RemoteCall.Frame.Basic
import RemoteCall.Machine
import RemoteCall.Settings.Basic

/-!
# The writer of a connection

All frames of a connection go through one task that owns the sending side, so frames never
interleave. Senders put frames into a bounded queue; the task takes what is ready, at most
`Writer.batchLimit` frames at a time, and writes the batch until the sink has accepted all of it.

Two limits slow senders down. A frame is *pending* from the moment its sender has passed the first
limit until its batch is flushed; while `maxPending` frames are pending, further senders are held.
A sender that has passed may still have to wait for room in the queue.

## The actions

`Writer` is the state between two actions, and each action is a function on it: those of a sender
(`offer`, `send`, `resume`), those of the task (`collect`, `accept`, `fail`, `flushed`), and those
of the owner (`release`, `abort`). `Writer.step` runs any of them and says what it did.

## Main statements

* `Writer.flatten_dropBytes` — what is offered after `k` accepted bytes is what follows them.
* `Writer.ne_nil_of_mem_dropBytes` — no empty slice is offered.
-/

namespace RemoteCall

/-- What the task of a writer is doing. -/
inductive Writer.Task where
  /-- Waiting for a frame. -/
  | idle
  /-- Writing a batch of which the sink has accepted some bytes. -/
  | writing (batch : List Frame) (accepted : Nat)
  /-- Flushing after the last byte of a batch. -/
  | flushing (batch : List Frame)
  /-- Over: no sender was left and every frame is written. -/
  | finished
  /-- Over: the sink failed. -/
  | failed (e : Error)
  /-- Over: cancelled. -/
  | aborted
  deriving DecidableEq, Repr

/-- Whether the task is over. -/
def Writer.Task.isOver : Writer.Task → Bool
  | finished | failed _ | aborted => true
  | idle | writing .. | flushing _ => false

/-- A writer between two actions. -/
structure Writer where
  settings : QueueSettings
  /-- The frames in the queue, oldest first. -/
  queue : List Frame
  /-- The frames of senders that passed the limit and wait for room in the queue. -/
  waiting : List Frame
  /-- The number of frames counted as pending. -/
  pending : Nat
  task : Writer.Task
  /-- No sender is left. -/
  released : Bool
  deriving DecidableEq, Repr

namespace Writer

/-- The most frames that are written together. -/
def batchLimit : Nat := 64

/-- A writer that has not been used. -/
def start (settings : QueueSettings) : Writer := ⟨settings, [], [], 0, .idle, false⟩

/-- Whether the task is over. -/
def isOver (writer : Writer) : Bool := writer.task.isOver

/-- Whether the queue takes a frame without its sender waiting. -/
def hasRoom (writer : Writer) : Bool :=
  writer.waiting.isEmpty && decide (writer.queue.length < writer.settings.capacity)

/-! ## What is offered to the sink -/

/-- The slices that remain after their first `k` bytes. -/
def dropBytes : Nat → List Bytes → List Bytes
  | _, [] => []
  | k, slice :: rest =>
    if k < slice.length then slice.drop k :: rest else dropBytes (k - slice.length) rest

theorem flatten_dropBytes (k : Nat) (slices : List Bytes) :
    (dropBytes k slices).flatten = slices.flatten.drop k := by
  induction slices generalizing k with
  | nil => simp [dropBytes]
  | cons slice rest ih =>
    rw [dropBytes]
    split
    · next h =>
      simp [List.drop_append, Nat.sub_eq_zero_of_le (Nat.le_of_lt h)]
    · next h =>
      rw [ih]
      simp [List.drop_append, List.drop_eq_nil_of_le (Nat.le_of_not_lt h)]

theorem ne_nil_of_mem_dropBytes {k : Nat} {slices : List Bytes}
    (h : ∀ slice ∈ slices, slice ≠ []) : ∀ slice ∈ dropBytes k slices, slice ≠ [] := by
  induction slices generalizing k with
  | nil => simp [dropBytes]
  | cons slice rest ih =>
    have hrest : ∀ slice ∈ rest, slice ≠ [] := fun s hs => h s (List.mem_cons_of_mem _ hs)
    rw [dropBytes]
    split
    · next hk =>
      intro s hs
      rcases List.mem_cons.mp hs with rfl | hs
      · simp only [ne_eq, List.drop_eq_nil_iff]
        omega
      · exact hrest s hs
    · exact ih hrest

/-- The slices of a batch: an envelope for each frame, and its payload unless that is empty. -/
def slices (batch : List Frame) : List Bytes := batch.flatMap Frame.slices

/-- The bytes of a batch. -/
def content (batch : List Frame) : Bytes := batch.flatMap Frame.encode

/-- The slices that the task offers to the sink next. -/
def offered (writer : Writer) : List Bytes :=
  match writer.task with
  | .writing batch accepted => dropBytes accepted (slices batch)
  | _ => []

theorem ne_nil_of_mem_slices {batch : List Frame} : ∀ slice ∈ slices batch, slice ≠ [] := by
  intro slice hs
  obtain ⟨frame, -, hs⟩ := List.mem_flatMap.mp hs
  have envelope : frame.header.encode ≠ [] := by
    intro h
    have := Header.length_encode frame.header
    simp [h, Header.width] at this
  unfold Frame.slices at hs
  split at hs
  · simp only [List.mem_singleton] at hs
    exact hs ▸ envelope
  · next hp =>
    simp only [List.mem_cons, List.not_mem_nil, or_false] at hs
    rcases hs with rfl | rfl
    · exact envelope
    · exact hp

@[simp] theorem flatten_slices (batch : List Frame) : (slices batch).flatten = content batch := by
  induction batch with
  | nil => rfl
  | cons frame rest ih =>
    have tail : (List.flatMap Frame.slices rest).flatten = List.flatMap Frame.encode rest := ih
    simp [slices, content, tail]

/-! ## Senders -/

/-- How a sender fares at first. -/
inductive Admission where
  /-- Too many frames are pending; nothing has changed. -/
  | held
  /-- The frame is in the queue. -/
  | queued
  /-- The frame is pending and waits for room in the queue. -/
  | waiting
  /-- The task is over; nothing has changed. -/
  | refused
  deriving DecidableEq, Repr

/-- A sender offers a frame. -/
def offer (writer : Writer) (frame : Frame) : Admission × Writer :=
  if writer.settings.maxPending ≤ writer.pending then (.held, writer)
  else if writer.isOver then (.refused, writer)
  else if writer.hasRoom then
    (.queued, { writer with pending := writer.pending + 1, queue := writer.queue ++ [frame] })
  else
    (.waiting,
      { writer with pending := writer.pending + 1, waiting := writer.waiting ++ [frame] })

/-- How a sender waits: as a task among tasks, or by blocking its thread. -/
inductive Sender where
  | task
  | thread
  deriving DecidableEq, Repr

/-- What a sender reports that was held until its time was up. A thread also looks whether the
task is over while it has time; a task does not look. -/
def heldError (writer : Writer) : Sender → Error
  | .task => .backpressureTimeout
  | .thread =>
    if writer.isOver ∧ 0 < writer.settings.timeout then .connectionClosed
    else .backpressureTimeout

/-- How a send ends, or that it waits for room in the queue. -/
inductive Sent where
  | queued
  | waiting
  | failed (e : Error)
  deriving DecidableEq, Repr

/-- A sender whose time is up unless the writer lets it pass now. -/
def send (writer : Writer) (sender : Sender) (frame : Frame) : Sent × Writer :=
  match writer.offer frame with
  | (.held, writer) => (.failed (writer.heldError sender), writer)
  | (.queued, writer) => (.queued, writer)
  | (.waiting, writer) => (.waiting, writer)
  | (.refused, writer) => (.failed .connectionClosed, writer)

/-- The first sender that waits for room goes on: it finds the task over and gives its place back,
or it finds room. -/
def resume (writer : Writer) : Option (Sent × Writer) :=
  match writer.waiting with
  | [] => none
  | frame :: rest =>
    if writer.isOver then
      some (.failed .connectionClosed,
        { writer with waiting := rest, pending := writer.pending - 1 })
    else if writer.queue.length < writer.settings.capacity then
      some (.queued, { writer with waiting := rest, queue := writer.queue ++ [frame] })
    else none

/-! ## The task -/

/-- The idle task takes a batch from the queue, or finds that nobody is left to send. -/
def collect (writer : Writer) : Option Writer :=
  match writer.task, writer.queue with
  | .idle, [] =>
    if writer.released && writer.waiting.isEmpty then some { writer with task := .finished }
    else none
  | .idle, frames =>
    some { writer with
      queue := frames.drop batchLimit
      task := .writing (frames.take batchLimit) 0 }
  | _, _ => none

/-- The sink fails, or the flush does. The frames of the batch are no longer pending; those in the
queue are dropped and stay counted. -/
def fail (writer : Writer) (e : Error) : Writer :=
  match writer.task with
  | .writing batch _ | .flushing batch =>
    { writer with
      queue := []
      pending := writer.pending - batch.length
      task := .failed e }
  | _ => writer

/-- The failure of a sink that accepts nothing. -/
def nothingWritten : Error := .io "the sink accepted nothing"

/-- The sink accepts the first `n` of the offered bytes, or all of them if they are fewer. -/
def accept (writer : Writer) (n : Nat) : Writer :=
  match writer.task with
  | .writing batch accepted =>
    if n = 0 then writer.fail nothingWritten
    else if (content batch).length ≤ accepted + n then { writer with task := .flushing batch }
    else { writer with task := .writing batch (accepted + n) }
  | _ => writer

/-- The flush is done, and the batch is no longer pending. -/
def flushed (writer : Writer) : Writer :=
  match writer.task with
  | .flushing batch =>
    { writer with pending := writer.pending - batch.length, task := .idle }
  | _ => writer

/-! ## The owner -/

/-- The last sender goes away. -/
def release (writer : Writer) : Writer := { writer with released := true }

/-- Cancel the task. Frames that were not written are dropped and stay counted. -/
def abort (writer : Writer) : Writer :=
  if writer.isOver then writer else { writer with queue := [], task := .aborted }

/-! ## Steps -/

/-- An action on a writer. -/
inductive Event where
  | offer (frame : Frame)
  | resume
  | collect
  | accept (n : Nat)
  | fail (e : Error)
  | flushed
  | release
  | abort
  deriving DecidableEq, Repr

/-- What an action did, as seen from outside. -/
inductive Effect where
  /-- A frame entered the queue: its send has succeeded. -/
  | queued (frame : Frame)
  /-- A sender found the task over. -/
  | refused (frame : Frame)
  /-- The sink accepted bytes. -/
  | wrote (bytes : Bytes)
  deriving DecidableEq, Repr

/-- Run one action. An action that is not possible changes nothing. -/
def step (writer : Writer) : Event → Writer × List Effect
  | .offer frame =>
    match writer.offer frame with
    | (.queued, next) => (next, [.queued frame])
    | (.refused, next) => (next, [.refused frame])
    | (_, next) => (next, [])
  | .resume =>
    match writer.waiting, writer.resume with
    | frame :: _, some (.queued, next) => (next, [.queued frame])
    | frame :: _, some (_, next) => (next, [.refused frame])
    | _, _ => (writer, [])
  | .collect => (writer.collect.getD writer, [])
  | .accept n => (writer.accept n, [.wrote (writer.offered.flatten.take n)])
  | .fail e => (writer.fail e, [])
  | .flushed => (writer.flushed, [])
  | .release => (writer.release, [])
  | .abort => (writer.abort, [])

/-- Run actions one after the other. -/
def run (writer : Writer) (events : List Event) : Writer × List Effect :=
  Machine.run step writer events

end Writer

end RemoteCall
