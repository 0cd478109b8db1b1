import Mathlib
import RemoteCall.Proofs.Writer.Stream
import RemoteCall.Writer.Scripted

/-!
# What is left of a batch

A sink may accept any part of what it is offered.  After `k` bytes of a batch the task offers the
rest of it: `remaining` walks over the envelopes and payloads with a running offset and leaves out
what lies within the first `k` bytes.  It is what a writer offers (`remaining_eq`).

`writeBatch` is the writing of one batch as a loop over the answers of the sink, with an exit of its
own for the case that nothing remains although bytes are missing.  A writer does the same, one
answer at a time (`follows_writeRest`).

## The proof

`Writer.offered` drops bytes from the front of the slices, and `remaining` computes offsets.  A
segment is left out, cut, or kept with all that follows, and in each of the cases dropping does the
same (`dropBytes_cons`); so the two agree by induction on the frames, for any offset.  An empty
payload makes no slice.

The slices that remain are those of the bytes that were not accepted, and there are some as long as
bytes are missing.  Hence the exit is never taken (`writeRest_of_lt`), and the loop can be followed
with one case for each answer (`Sound`).

## Main statements

* `Writer.batch_offered` — what remains is what was not accepted, the exit is never taken, and the
  loop is done just when all bytes were accepted.
-/

namespace RemoteCall

namespace Writer

/-! ## The slices that remain -/

/-- What remains of a segment that begins at an offset, after the first `k` bytes of the batch. -/
def segmentAfter (k offset : Nat) (segment : Bytes) : List Bytes :=
  if k < offset + segment.length then [segment.drop (k - offset)] else []

/-- What remains of frames that begin at an offset, after the first `k` bytes of the batch. -/
def remainingFrom (k : Nat) : Nat → List Frame → List Bytes
  | _, [] => []
  | offset, frame :: rest =>
    let behind := offset + Header.width
    let envelope := segmentAfter k offset frame.header.encode
    if frame.payload = [] then envelope ++ remainingFrom k behind rest
    else
      envelope ++ segmentAfter k behind frame.payload ++
        remainingFrom k (behind + frame.payload.length) rest

/-- The slices of a batch after its first `k` bytes. -/
def remaining (batch : List Frame) (k : Nat) : List Bytes := remainingFrom k 0 batch

lemma dropBytes_zero {slices : List Bytes} (full : ∀ slice ∈ slices, slice ≠ []) :
    dropBytes 0 slices = slices := by
  cases slices with
  | nil => rfl
  | cons slice rest =>
    have some : 0 < slice.length := List.length_pos_of_ne_nil (full slice List.mem_cons_self)
    rw [dropBytes, if_pos some, List.drop_zero]

/-- A segment in front is left out, cut, or kept with all that follows. -/
lemma dropBytes_cons (k offset : Nat) {segment : Bytes} {rest : List Bytes}
    (full : ∀ slice ∈ segment :: rest, slice ≠ []) :
    dropBytes (k - offset) (segment :: rest) =
      segmentAfter k offset segment ++ dropBytes (k - (offset + segment.length)) rest := by
  have some : 0 < segment.length := List.length_pos_of_ne_nil (full segment List.mem_cons_self)
  have others : ∀ slice ∈ rest, slice ≠ [] := fun slice among =>
    full slice (List.mem_cons_of_mem _ among)
  unfold segmentAfter
  rw [dropBytes]
  by_cases within : k < offset + segment.length
  · rw [if_pos within, if_pos (by omega), Nat.sub_eq_zero_of_le (Nat.le_of_lt within),
      dropBytes_zero others]
    rfl
  · rw [if_neg within, if_neg (by omega), Nat.sub_sub]
    rfl

lemma slices_cons_of_empty {frame : Frame} (empty : frame.payload = []) (rest : List Frame) :
    slices (frame :: rest) = frame.header.encode :: slices rest := by
  unfold slices Frame.slices
  rw [List.flatMap_cons, if_pos empty]
  rfl

lemma slices_cons_of_full {frame : Frame} (full : frame.payload ≠ []) (rest : List Frame) :
    slices (frame :: rest) = frame.header.encode :: frame.payload :: slices rest := by
  unfold slices Frame.slices
  rw [List.flatMap_cons, if_neg full]
  rfl

lemma remainingFrom_eq (k offset : Nat) (batch : List Frame) :
    remainingFrom k offset batch = dropBytes (k - offset) (slices batch) := by
  induction batch generalizing offset with
  | nil => rfl
  | cons frame rest ih =>
    have full : ∀ slice ∈ slices (frame :: rest), slice ≠ [] := ne_nil_of_mem_slices
    have envelope : frame.header.encode.length = Header.width := Header.length_encode _
    rw [remainingFrom]
    by_cases empty : frame.payload = []
    · rw [slices_cons_of_empty empty] at full ⊢
      rw [if_pos empty, dropBytes_cons k offset full, envelope, ih]
    · rw [slices_cons_of_full empty] at full ⊢
      have behind : ∀ slice ∈ frame.payload :: slices rest, slice ≠ [] := fun slice among =>
        full slice (List.mem_cons_of_mem _ among)
      rw [if_neg empty, dropBytes_cons k offset full, envelope,
        dropBytes_cons k (offset + Header.width) behind, ih, List.append_assoc]

/-- What remains is what the writer offers. -/
theorem remaining_eq (batch : List Frame) (k : Nat) :
    remaining batch k = dropBytes k (slices batch) := remainingFrom_eq k 0 batch

lemma flatten_remaining (batch : List Frame) (k : Nat) :
    (remaining batch k).flatten = (content batch).drop k := by
  rw [remaining_eq, flatten_dropBytes, flatten_slices]

lemma ne_nil_of_mem_remaining {batch : List Frame} {k : Nat} :
    ∀ slice ∈ remaining batch k, slice ≠ [] := by
  rw [remaining_eq]
  exact ne_nil_of_mem_dropBytes ne_nil_of_mem_slices

lemma remaining_eq_nil_iff (batch : List Frame) (k : Nat) :
    remaining batch k = [] ↔ (content batch).length ≤ k := by
  rw [← List.drop_eq_nil_iff, ← flatten_remaining, List.flatten_eq_nil_iff]
  constructor
  · intro nothing slice among
    rw [nothing] at among
    cases among
  · intro empty
    refine List.eq_nil_iff_forall_not_mem.mpr fun slice among => ?_
    exact ne_nil_of_mem_remaining slice among (empty slice among)

lemma remaining_zero (batch : List Frame) : remaining batch 0 = slices batch := by
  rw [remaining_eq, dropBytes_zero ne_nil_of_mem_slices]

/-! ## Writing a batch -/

/-- How the writing of a batch stands. -/
inductive Progress where
  /-- A write is under way. -/
  | waiting
  /-- Everything is written, and the batch is flushed next. -/
  | done
  /-- The loop was left because nothing remained although bytes were missing. -/
  | cutShort
  | failed (e : Error)
  deriving DecidableEq, Repr

/-- The writing of a batch: what was offered, write by write, and what the sink has accepted. -/
structure Writing where
  offers : List (List Bytes)
  taken : Bytes
  progress : Progress
  deriving DecidableEq, Repr

/-- The sink answers a write with the number of bytes that it accepts, or fails. -/
def answered (offer : List Bytes) (next : Nat → Writing) : Except Error Nat → Writing
  | .error e => ⟨[offer], [], .failed e⟩
  | .ok 0 => ⟨[offer], [], .failed nothingWritten⟩
  | .ok (n + 1) =>
    let later := next (n + 1)
    ⟨offer :: later.offers, offer.flatten.take (n + 1) ++ later.taken, later.progress⟩

/-- Write a batch of which some bytes were accepted. -/
def writeRest (batch : List Frame) (accepted : Nat) (answers : List (Except Error Nat)) :
    Writing :=
  if (content batch).length ≤ accepted then ⟨[], [], .done⟩
  else if remaining batch accepted = [] then ⟨[], [], .cutShort⟩
  else
    match answers with
    | [] => ⟨[remaining batch accepted], [], .waiting⟩
    | answer :: rest =>
      answered (remaining batch accepted) (fun n => writeRest batch (accepted + n) rest) answer

/-- Write a batch: at first all of it is offered, and then what the sink has left. -/
def writeBatch (batch : List Frame) (answers : List (Except Error Nat)) : Writing :=
  if batch = [] then ⟨[], [], .done⟩
  else
    match answers with
    | [] => ⟨[slices batch], [], .waiting⟩
    | answer :: rest =>
      answered (slices batch) (fun n =>
        if n = (content batch).length then ⟨[], [], .done⟩ else writeRest batch n rest) answer

/-- The number of bytes that some answers accept. -/
def total (answers : List (Except Error Nat)) : Nat :=
  (answers.map fun answer => answer.toOption.getD 0).sum

@[simp] lemma total_nil : total [] = 0 := rfl

@[simp] lemma total_cons_ok (n : Nat) (rest : List (Except Error Nat)) :
    total (.ok n :: rest) = n + total rest := List.sum_cons

section

variable {batch : List Frame} {accepted : Nat} {answers : List (Except Error Nat)}

lemma writeRest_of_le (all : (content batch).length ≤ accepted) :
    writeRest batch accepted answers = ⟨[], [], .done⟩ := by
  unfold writeRest
  rw [if_pos all]

/-- As long as bytes are missing, something remains to be offered. -/
lemma writeRest_of_lt (missing : accepted < (content batch).length) :
    writeRest batch accepted answers =
      match answers with
      | [] => ⟨[remaining batch accepted], [], .waiting⟩
      | answer :: rest =>
        answered (remaining batch accepted) (fun n => writeRest batch (accepted + n) rest)
          answer := by
  have some : remaining batch accepted ≠ [] := fun nothing =>
    Nat.not_le.mpr missing ((remaining_eq_nil_iff batch accepted).mp nothing)
  conv_lhs => unfold writeRest
  rw [if_neg (Nat.not_le.mpr missing), if_neg some]

lemma length_content_pos (some : batch ≠ []) : 0 < (content batch).length := by
  have width := Scripted.le_length_content_of_ne_nil some
  omega

/-- The first write is no different from the others. -/
lemma writeBatch_eq (some : batch ≠ []) :
    writeBatch batch answers = writeRest batch 0 answers := by
  unfold writeBatch
  rw [if_neg some, writeRest_of_lt (length_content_pos some), remaining_zero]
  cases answers with
  | nil => rfl
  | cons answer rest =>
    have next : (fun n => if n = (content batch).length then ⟨[], [], .done⟩
        else writeRest batch n rest) = fun n => writeRest batch (0 + n) rest := by
      funext n
      rw [Nat.zero_add]
      split
      · rename_i all
        rw [writeRest_of_le (Nat.le_of_eq all.symm)]
      · rfl
    dsimp only
    rw [next]

/-! ## What a loop has offered -/

/-- A loop that goes on from some accepted bytes offers what is missing, and nothing else. -/
structure Sound (batch : List Frame) (accepted : Nat) (answers : List (Except Error Nat))
    (writing : Writing) : Prop where
  unbroken : writing.progress ≠ .cutShort
  offers : ∀ i offer, writing.offers[i]? = some offer →
    offer = remaining batch (accepted + total (answers.take i)) ∧
      accepted + total (answers.take i) < (content batch).length
  taken : writing.taken <+: (content batch).drop accepted
  done : writing.progress = .done → writing.taken = (content batch).drop accepted
  waiting : writing.progress = .waiting → accepted + total answers < (content batch).length

/-- A write that is under way, or has failed. -/
lemma sound_single {progress : Progress} (missing : accepted < (content batch).length)
    (going : progress ≠ .cutShort ∧ progress ≠ .done)
    (waiting : progress = .waiting → accepted + total answers < (content batch).length) :
    Sound batch accepted answers ⟨[remaining batch accepted], [], progress⟩ := by
  refine ⟨going.1, ?_, List.nil_prefix, fun done => absurd done going.2, waiting⟩
  intro i offer here
  rw [List.getElem?_singleton] at here
  split at here
  · rename_i first
    obtain rfl := Option.some.inj here
    rw [first]
    exact ⟨rfl, missing⟩
  · cases here

lemma sound_done (all : (content batch).length ≤ accepted) :
    Sound batch accepted answers ⟨[], [], .done⟩ :=
  ⟨nofun, nofun, List.nil_prefix, fun _ => (List.drop_eq_nil_iff.mpr all).symm, nofun⟩

lemma sound_answered {answer : Except Error Nat} {rest : List (Except Error Nat)}
    {next : Nat → Writing} (missing : accepted < (content batch).length)
    (sound : ∀ n, Sound batch (accepted + n) rest (next n)) :
    Sound batch accepted (answer :: rest) (answered (remaining batch accepted) next answer) := by
  match answer with
  | .error e => exact sound_single missing ⟨nofun, nofun⟩ nofun
  | .ok 0 => exact sound_single missing ⟨nofun, nofun⟩ nofun
  | .ok (n + 1) =>
    have later := sound (n + 1)
    have split : (content batch).drop accepted =
        (remaining batch accepted).flatten.take (n + 1) ++
          (content batch).drop (accepted + (n + 1)) := by
      rw [flatten_remaining, ← List.drop_drop, List.take_append_drop]
    refine ⟨later.unbroken, ?_, ?_, ?_, ?_⟩
    · intro i offer here
      cases i with
      | zero =>
        obtain rfl := Option.some.inj here
        exact ⟨rfl, missing⟩
      | succ i =>
        rw [List.take_succ_cons, total_cons_ok, ← Nat.add_assoc]
        exact later.offers i offer here
    · rw [split]
      exact (List.prefix_append_right_inj _).mpr later.taken
    · intro finished
      rw [split, ← later.done finished]
      rfl
    · intro waits
      rw [total_cons_ok, ← Nat.add_assoc]
      exact later.waiting waits

lemma sound_writeRest (batch : List Frame) (accepted : Nat)
    (answers : List (Except Error Nat)) :
    Sound batch accepted answers (writeRest batch accepted answers) := by
  induction answers generalizing accepted with
  | nil =>
    by_cases all : (content batch).length ≤ accepted
    · rw [writeRest_of_le all]
      exact sound_done all
    · have missing := Nat.not_le.mp all
      rw [writeRest_of_lt missing]
      exact sound_single missing ⟨nofun, nofun⟩ fun _ => missing
  | cons answer rest ih =>
    by_cases all : (content batch).length ≤ accepted
    · rw [writeRest_of_le all]
      exact sound_done all
    · have missing := Nat.not_le.mp all
      rw [writeRest_of_lt missing]
      exact sound_answered missing fun n => ih (accepted + n)

/-- The sink accepts something at every write. -/
def Positive (answers : List (Except Error Nat)) : Prop :=
  ∀ answer ∈ answers, ∃ n, answer = .ok (n + 1)

/-- A sink that accepts something at every write is offered more until it has accepted all. -/
lemma progress_writeRest (positive : Positive answers) :
    (writeRest batch accepted answers).progress =
      if (content batch).length ≤ accepted + total answers then .done else .waiting := by
  induction answers generalizing accepted with
  | nil =>
    rw [total_nil, Nat.add_zero]
    by_cases all : (content batch).length ≤ accepted
    · rw [writeRest_of_le all, if_pos all]
    · rw [writeRest_of_lt (Nat.not_le.mp all), if_neg all]
  | cons answer rest ih =>
    obtain ⟨n, rfl⟩ := positive answer List.mem_cons_self
    rw [total_cons_ok, ← Nat.add_assoc]
    by_cases all : (content batch).length ≤ accepted
    · rw [writeRest_of_le all, if_pos (by omega)]
    · rw [writeRest_of_lt (Nat.not_le.mp all)]
      exact ih fun answer among => positive answer (List.mem_cons_of_mem _ among)

/-! ## A writer at work -/

/-- The action of a writer whose sink gives an answer. -/
def asEvent : Except Error Nat → Event
  | .ok n => .accept n
  | .error e => .fail e

/-- What the task of a writer is doing when its batch stands so. -/
def Progress.task (batch : List Frame) (accepted : Nat) : Progress → Task
  | .waiting => .writing batch accepted
  | .done | .cutShort => .flushing batch
  | .failed e => .failed e

/-- The bytes that the sink has accepted. -/
def written (effects : List Effect) : Bytes :=
  effects.flatMap fun
    | .wrote bytes => bytes
    | _ => []

/-- The writer is left so by the answers that the loop has heard. -/
structure Follows (batch : List Frame) (accepted : Nat) (answers : List (Except Error Nat))
    (writing : Writing) (writer : Writer) : Prop where
  task : (writer.run ((answers.take writing.offers.length).map asEvent)).1.task =
    writing.progress.task batch (accepted + total answers)
  written : written (writer.run ((answers.take writing.offers.length).map asEvent)).2 =
    writing.taken
  offered : ∀ i offer, writing.offers[i]? = some offer →
    (writer.run ((answers.take i).map asEvent)).1.offered = offer

variable {writer : Writer}

lemma offered_of_writing (writing : writer.task = .writing batch accepted) :
    writer.offered = remaining batch accepted := by
  rw [offered, writing, remaining_eq]

lemma follows_waiting (writing : writer.task = .writing batch accepted) :
    Follows batch accepted [] ⟨[remaining batch accepted], [], .waiting⟩ writer := by
  refine ⟨writing, rfl, fun i offer here => ?_⟩
  rw [List.getElem?_singleton] at here
  split at here
  · rw [← Option.some.inj here, List.take_nil]
    exact offered_of_writing writing
  · cases here

lemma follows_failed (writing : writer.task = .writing batch accepted) {e : Error}
    {answer : Except Error Nat} {rest : List (Except Error Nat)}
    (failed : (writer.step (asEvent answer)).1.task = .failed e)
    (nothing : Writer.written (writer.step (asEvent answer)).2 = []) :
    Follows batch accepted (answer :: rest) ⟨[remaining batch accepted], [], .failed e⟩ writer := by
  refine ⟨failed, ?_, fun i offer here => ?_⟩
  · show Writer.written ((writer.step (asEvent answer)).2 ++ []) = []
    rw [List.append_nil, nothing]
  · rw [List.getElem?_singleton] at here
    split at here
    · rename_i first
      rw [← Option.some.inj here, first]
      exact offered_of_writing writing
    · cases here

lemma follows_done (flushing : writer.task = .flushing batch) :
    Follows batch accepted answers ⟨[], [], .done⟩ writer :=
  ⟨flushing, rfl, nofun⟩

lemma follows_accept (writing : writer.task = .writing batch accepted) {n : Nat}
    {rest : List (Except Error Nat)} {next : Nat → Writing}
    (later : Follows batch (accepted + (n + 1)) rest (next (n + 1)) (writer.accept (n + 1))) :
    Follows batch accepted (.ok (n + 1) :: rest)
      (answered (remaining batch accepted) next (.ok (n + 1))) writer := by
  have shown : ∀ events : List Event, Writer.written (writer.run (.accept (n + 1) :: events)).2 =
      (remaining batch accepted).flatten.take (n + 1) ++
        Writer.written ((writer.accept (n + 1)).run events).2 := by
    intro events
    rw [← offered_of_writing writing]
    rfl
  refine ⟨?_, ?_, ?_⟩
  · rw [total_cons_ok, ← Nat.add_assoc]
    exact later.task
  · exact (shown _).trans (congrArg _ later.written)
  · intro i offer here
    cases i with
    | zero =>
      rw [← Option.some.inj here]
      exact offered_of_writing writing
    | succ i => exact later.offered i offer here

/-- What a loop does with the answers of the sink, the writer does one answer at a time. -/
lemma follows_writeRest (answers : List (Except Error Nat))
    (writing : writer.task = .writing batch accepted)
    (missing : accepted < (content batch).length) :
    Follows batch accepted answers (writeRest batch accepted answers) writer := by
  induction answers generalizing writer accepted with
  | nil =>
    rw [writeRest_of_lt missing]
    exact follows_waiting writing
  | cons answer rest ih =>
    rw [writeRest_of_lt missing]
    match answer with
    | .error e =>
      refine follows_failed writing ?_ rfl
      show (writer.fail e).task = _
      simp only [fail, writing]
    | .ok 0 =>
      refine follows_failed writing ?_ ?_
      · show (writer.accept 0).task = _
        simp only [accept, fail, writing, if_pos]
      · show Writer.written [.wrote (writer.offered.flatten.take 0)] = []
        rw [List.take_zero]
        rfl
    | .ok (n + 1) =>
      refine follows_accept writing ?_
      have task : (writer.accept (n + 1)).task =
          if (content batch).length ≤ accepted + (n + 1) then .flushing batch
          else .writing batch (accepted + (n + 1)) := by
        simp only [accept, writing, if_neg (Nat.succ_ne_zero n)]
        split <;> rfl
      by_cases all : (content batch).length ≤ accepted + (n + 1)
      · rw [if_pos all] at task
        rw [writeRest_of_le all]
        exact follows_done task
      · rw [if_neg all] at task
        exact ih task (Nat.not_le.mp all)

/-! ## All of it -/

/-- What remains of a batch after `k` bytes is all that follows them, in slices that are not empty.
So the writing of a batch offers at every write just the bytes that were not accepted, never ends
before all were, and ends with them if the sink accepts something at every write.  A writer that has
collected the batch does the same. -/
theorem batch_offered (batch : List Frame) :
    (∀ k, (remaining batch k).flatten = (batch.flatMap Frame.encode).drop k ∧
      (∀ slice ∈ remaining batch k, slice ≠ []) ∧
      (remaining batch k = [] ↔ (batch.map Frame.size).sum ≤ k)) ∧
    ∀ answers : List (Except Error Nat),
      let writing := writeBatch batch answers
      writing.progress ≠ .cutShort ∧
      (∀ i offer, writing.offers[i]? = some offer →
        offer.flatten = (batch.flatMap Frame.encode).drop (total (answers.take i)) ∧
          offer ≠ []) ∧
      writing.taken <+: batch.flatMap Frame.encode ∧
      (writing.progress = .done → writing.taken = batch.flatMap Frame.encode) ∧
      (Positive answers → writing.progress =
        if (batch.map Frame.size).sum ≤ total answers then .done else .waiting) ∧
      ∀ writer : Writer, batch ≠ [] → writer.task = .writing batch 0 →
        Follows batch 0 answers writing writer := by
  have size : (batch.map Frame.size).sum = (content batch).length := by
    rw [content, List.length_flatMap]
    exact congrArg List.sum (List.map_congr_left fun frame _ => (Frame.length_encode frame).symm)
  refine ⟨fun k => ⟨flatten_remaining batch k, ne_nil_of_mem_remaining, ?_⟩, fun answers => ?_⟩
  · rw [size]
    exact remaining_eq_nil_iff batch k
  rw [size]
  -- the loop is not entered for an empty batch
  by_cases none : batch = []
  · subst none
    refine ⟨fun cut => ?_, fun i offer here => ?_, List.nil_prefix, fun _ => rfl, fun _ => ?_,
      fun _ some => absurd rfl some⟩
    · cases cut
    · cases here
    · exact (if_pos (Nat.zero_le _)).symm
  · rw [writeBatch_eq none]
    have sound := sound_writeRest batch 0 answers
    refine ⟨sound.unbroken, ?_, sound.taken, sound.done, ?_, ?_⟩
    · intro i offer here
      obtain ⟨rfl, missing⟩ := sound.offers i offer here
      rw [Nat.zero_add] at missing ⊢
      refine ⟨flatten_remaining batch _, fun nothing => ?_⟩
      exact Nat.not_le.mpr missing ((remaining_eq_nil_iff batch _).mp nothing)
    · intro positive
      have progress : (writeRest batch 0 answers).progress =
          if (content batch).length ≤ 0 + total answers then .done else .waiting :=
        progress_writeRest positive
      rwa [Nat.zero_add] at progress
    · intro writer _ writing
      exact follows_writeRest answers writing (length_content_pos none)

end

/-- Two frames, the first without a payload. -/
def pair : List Frame := [.request 1 7 [], .request 2 7 [42]]

/-- The sink accepts the first envelope and four bytes of the second one, and then all that is left
of the second envelope and its payload. -/
theorem batch_offered_pair :
    Positive [.ok 20, .ok 13] ∧
      (writeBatch pair [.ok 20, .ok 13]).offers.map (·.map List.length) = [[16, 16, 1], [12, 1]] ∧
      (writeBatch pair [.ok 20, .ok 13]).progress = .done ∧
      (writeBatch pair [.ok 20, .ok 13]).taken = pair.flatMap Frame.encode ∧
      Follows pair 0 [.ok 20, .ok 13] (writeBatch pair [.ok 20, .ok 13])
        ⟨{}, [], [], 2, .writing pair 0, false⟩ := by
  obtain ⟨-, -, -, all, progress, follows⟩ := (batch_offered pair).2 [.ok 20, .ok 13]
  have positive : Positive [.ok 20, .ok 13] := by
    intro answer among
    rcases List.mem_pair.mp among with rfl | rfl
    · exact ⟨19, rfl⟩
    · exact ⟨12, rfl⟩
  have done : (writeBatch pair [.ok 20, .ok 13]).progress = .done := progress positive
  exact ⟨positive, by decide, done, all done, follows _ (by decide) rfl⟩

end Writer

end RemoteCall
