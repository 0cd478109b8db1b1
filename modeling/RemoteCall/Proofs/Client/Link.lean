import RemoteCall.Client.Link
import RemoteCall.Proofs.Client.Slots
import RemoteCall.Proofs.Writer.Stream

/-!
# A link between its reads and writes

Most actions of a link send nothing, read nothing and leave every frame where it is: they let calls
fail, and they may end the reader or the writer.  `Quiet` collects what they have in common, so that
an invariant of the connection has to look at the other actions only.

Of the slots `Quiet` says that they stay where they are and that calls may have failed; of the
writer, that it streams what it has streamed before and that no frame came to wait for room or left;
of the reader, that it is as it was or has ended.  `Keeps` is the stronger notion for actions after
which the tasks go on.  It leaves open which resolutions are allowed, since a reply that is read
resolves a call with success.

The actions that are not quiet are described below by what they do: a request that the writer does
not hold back (`transmit_fields`), and the frames of a read that does or does not break framing
(`keeps_receiveAll`, `read_of_ok`, `read_of_error`).
-/

namespace RemoteCall

namespace Link

open Client

variable {κ : Type}

/-- Nothing was sent or read, and the tasks go on; calls may have been resolved. -/
structure Keeps (allowed : Int64 → Resolution → Prop) (link next : Link κ) : Prop where
  client : Resolves allowed link.client next.client
  reader : next.reader = link.reader
  reassembly : next.reassembly = link.reassembly
  waiting : next.writer.waiting = link.writer.waiting
  streams : ∀ queued written, link.writer.Streams queued written →
    next.writer.Streams queued written

/-- Nothing was sent or read; calls may have failed, and tasks may have ended. -/
structure Quiet (link next : Link κ) : Prop where
  client : Resolves failed link.client next.client
  waiting : next.writer.waiting = link.writer.waiting
  streams : ∀ queued written, link.writer.Streams queued written →
    next.writer.Streams queued written
  reading : next.reader ≠ .ended → link.reader ≠ .ended ∧ next.reassembly = link.reassembly

lemma Keeps.refl {allowed : Int64 → Resolution → Prop} (link : Link κ) :
    Keeps allowed link link := ⟨.refl _, rfl, rfl, rfl, fun _ _ streams => streams⟩

lemma Keeps.trans {allowed : Int64 → Resolution → Prop} {first second third : Link κ}
    (sooner : Keeps allowed first second) (later : Keeps allowed second third) :
    Keeps allowed first third := by
  refine ⟨sooner.client.trans later.client, later.reader.trans sooner.reader,
    later.reassembly.trans sooner.reassembly, later.waiting.trans sooner.waiting, ?_⟩
  intro queued written streams
  exact later.streams _ _ (sooner.streams _ _ streams)

lemma Keeps.quiet {link next : Link κ} (keeps : Keeps failed link next) : Quiet link next := by
  refine ⟨keeps.client, keeps.waiting, keeps.streams, ?_⟩
  rw [keeps.reader]
  exact fun reading => ⟨reading, keeps.reassembly⟩

lemma Quiet.refl (link : Link κ) : Quiet link link := (Keeps.refl link).quiet

lemma Quiet.trans {first second third : Link κ} (sooner : Quiet first second)
    (later : Quiet second third) : Quiet first third := by
  refine ⟨sooner.client.trans later.client, later.waiting.trans sooner.waiting, ?_, ?_⟩
  · intro queued written streams
    exact later.streams _ _ (sooner.streams _ _ streams)
  · intro reading
    obtain ⟨between, kept'⟩ := later.reading reading
    obtain ⟨before, kept⟩ := sooner.reading between
    exact ⟨before, kept'.trans kept⟩

/-- After an action of the client, a disconnected client lets go of the writer. -/
lemma keeps_onClient {allowed : Int64 → Resolution → Prop} {link : Link κ}
    {act : Client κ → Client κ × List (Effect κ)}
    (resolves : Resolves allowed link.client (act link.client).1) :
    Keeps allowed link (link.onClient act).1 := by
  unfold onClient settle
  dsimp only
  split
  · exact ⟨resolves, rfl, rfl, rfl, fun _ _ streams => streams⟩
  · exact ⟨resolves, rfl, rfl, rfl, fun _ _ streams => streams.release⟩

lemma quiet_onClient {link : Link κ} {act : Client κ → Client κ × List (Effect κ)}
    (resolves : Resolves failed link.client (act link.client).1) :
    Quiet link (link.onClient act).1 := (keeps_onClient resolves).quiet

/-- The reader has ended. -/
lemma quiet_ended (link : Link κ) : Quiet link { link with reader := .ended } :=
  ⟨.refl _, rfl, fun _ _ streams => streams, fun reading => absurd rfl reading⟩

lemma quiet_writer {link : Link κ} {writer : Writer}
    (streams : ∀ queued written, link.writer.Streams queued written →
      writer.Streams queued written)
    (waiting : writer.waiting = link.writer.waiting) : Quiet link { link with writer } :=
  ⟨.refl _, waiting, streams, fun reading => ⟨reading, rfl⟩⟩

lemma quiet_endReader (link : Link κ) : Quiet link link.endReader.1 :=
  (quiet_ended link).trans (quiet_onClient (disconnect_resolves _ (by decide) _))

/-- The actions of a link that neither issue a call nor move a frame or a byte. -/
def IsQuiet : Event κ → Prop
  | .issue .. | .resume | .read _ | .sinkAccepts _ => False
  | _ => True

lemma quiet_step (link : Link κ) {event : Event κ} (quiet : IsQuiet event) :
    Quiet link (link.step event).1 := by
  -- No action here adds a slot, a frame or a byte, so all that is known of these stays true.
  cases event with
  | issue | resume | read | sinkAccepts => exact quiet.elim
  | abandon xid => exact quiet_onClient (abandon_resolves _ xid)
  | startReader =>
    show Quiet link link.startReader
    unfold startReader
    split
    · rename_i spawned
      exact ⟨.refl _, rfl, fun _ _ streams => streams, fun _ => ⟨by rw [spawned]; nofun, rfl⟩⟩
    · exact .refl link
  | streamEnded =>
    show Quiet link link.streamEnded.1
    unfold streamEnded
    split
    · exact quiet_endReader link
    · exact .refl link
  | deliver => exact quiet_onClient (deliver_resolves _)
  | closeNext =>
    have acted : Quiet link (link.onClient Client.closeNext).1 :=
      quiet_onClient (closeNext_resolves _)
    unfold step closeNext
    dsimp only
    generalize (link.onClient Client.closeNext).1 = next at acted
    by_cases closed : next.client.closing = .closed
    · rw [if_pos closed]
      exact acted.trans (quiet_ended _)
    · rw [if_neg closed]
      exact acted
  | close =>
    show Quiet link link.close.1
    unfold close
    split
    · exact (quiet_ended link).trans (quiet_onClient (close_resolves _))
    · exact .refl link
  | dropTasks =>
    show Quiet link link.dropTasks.1
    have aborted : Quiet link { link with writer := link.writer.abort } :=
      quiet_writer (fun _ _ streams => streams.abort) (Writer.waiting_abort _)
    unfold dropTasks
    dsimp only
    split
    · exact aborted.trans (quiet_endReader _)
    · exact aborted.trans (quiet_ended _)
  | collect =>
    show Quiet link { link with writer := link.writer.collect.getD link.writer }
    cases collected : link.writer.collect with
    | none => exact .refl link
    | some writer =>
      exact quiet_writer (fun _ _ streams => streams.collect collected)
        (Writer.waiting_collect collected)
  | sinkFails e => exact quiet_writer (fun _ _ streams => streams.fail e) (Writer.waiting_fail _ e)
  | flushed => exact quiet_writer (fun _ _ streams => streams.flushed) (Writer.waiting_flushed _)

/-! ## Sending -/

/-- What becomes of a request that the writer does not hold back. -/
lemma transmit_fields (link : Link κ) (frame : Frame) {admission : Writer.Admission}
    (offered : (link.writer.offer frame).1 = admission) (passed : admission ≠ .held) :
    Resolves failed link.client (link.transmit frame).1.client ∧
      (link.transmit frame).1.reader = link.reader ∧
      (link.transmit frame).1.reassembly = link.reassembly ∧
      (link.transmit frame).1.writer.waiting =
        (if admission = .waiting then link.writer.waiting ++ [frame] else link.writer.waiting) ∧
      ∀ queued written, link.writer.Streams queued written →
        (link.transmit frame).1.writer.Streams
          (if admission = .queued then queued ++ [frame] else queued) written := by
  generalize result : link.writer.offer frame = pair at offered
  obtain ⟨admission', writer⟩ := pair
  obtain rfl : admission' = admission := offered
  have waiting := Writer.waiting_offer result
  have streams : ∀ queued written, link.writer.Streams queued written →
      writer.Streams (if admission' = .queued then queued ++ [frame] else queued) written :=
    fun _ _ streams => streams.offer result
  unfold transmit Writer.send
  rw [result]
  cases admission' with
  | held => exact absurd rfl passed
  | queued => exact ⟨.refl _, rfl, rfl, waiting, streams⟩
  | waiting => exact ⟨.refl _, rfl, rfl, waiting, streams⟩
  | refused =>
    have keeps : Keeps failed { link with writer }
        ({ link with writer }.onClient (·.sendFailed frame.xid .connectionClosed)).1 :=
      keeps_onClient (sendFailed_resolves _ _ _)
    refine ⟨keeps.client, keeps.reader, keeps.reassembly, keeps.waiting.trans waiting, ?_⟩
    intro queued written before
    exact keeps.streams _ _ (streams queued written before)

/-! ## Reading -/

lemma keeps_receiveAll {allowed : Int64 → Resolution → Prop} (link : Link κ)
    {frames : List Frame} (ok : ∀ frame ∈ frames,
      allowed frame.xid ⟨frame.status, Future.replyOf (some frame.payload)⟩) :
    Keeps allowed link (link.receiveAll frames).1 := by
  induction frames generalizing link with
  | nil => exact .refl link
  | cons frame rest ih =>
    have first : Keeps allowed link (link.onClient (·.receive frame)).1 := by
      refine keeps_onClient ((receive_resolves _ frame).mono ?_)
      rintro _ _ ⟨rfl, rfl⟩
      exact ok frame List.mem_cons_self
    exact first.trans (ih _ fun frame later => ok frame (List.mem_cons_of_mem _ later))

lemma read_of_ok {link : Link κ} {bytes : Bytes} {frames : List Frame}
    (running : link.reader = .running) (pushed : (link.reassembly.push bytes).1 = .ok frames) :
    link.read bytes =
      { link with reassembly := (link.reassembly.push bytes).2 }.receiveAll frames := by
  unfold read
  rw [running]
  dsimp only
  generalize link.reassembly.push bytes = result at pushed
  obtain ⟨outcome, reassembly⟩ := result
  obtain rfl : outcome = .ok frames := pushed
  rfl

lemma read_of_error {link : Link κ} {bytes : Bytes} {fault : FrameFault}
    (running : link.reader = .running) (failed : (link.reassembly.push bytes).1 = .error fault) :
    link.read bytes = { link with reassembly := (link.reassembly.push bytes).2 }.endReader := by
  unfold read
  rw [running]
  dsimp only
  generalize link.reassembly.push bytes = result at failed
  obtain ⟨outcome, reassembly⟩ := result
  obtain rfl : outcome = .error fault := failed
  rfl

lemma reader_endReader (link : Link κ) : link.endReader.1.reader = .ended :=
  have keeps : Keeps failed { link with reader := .ended } link.endReader.1 :=
    keeps_onClient (disconnect_resolves _ (by decide) _)
  keeps.reader

end Link

end RemoteCall
