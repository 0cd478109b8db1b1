import RemoteCall.Proofs.Client.Link
import RemoteCall.Proofs.Client.Ordering

/-!
# The reader of a link

The actions of a reader (`Threaded.reading`) are those that a link takes when it reads the same
pieces: if nothing comes between them, both show the same effects and leave the same client
(`run_reading`).  A link whose reader has ended takes no more of the stream (`run_of_ended`), and
neither does a reassembly after the piece that breaks framing.

What is proved of the order of callbacks is proved of the threads of a client, whose reader may be
interrupted at any point.  This module ties that reader to the one that a link has.  A frame is
handed on in two actions of the thread, one that takes the call out of the table and one that
resolves it; a link does both at once (`shows_handing`).  In the end the calls that are left are
taken out together and resolved one after the other (`shows_ending`).  The thread may be given more
turns to resolve than there are calls, since a turn without a call changes nothing.

## Main statements

* `run_of_ended` — a link whose reader has ended reads nothing more.
* `run_reading` — a link reads as its reader does if nobody interrupts it.
-/

namespace RemoteCall

namespace Threaded

open Client

variable {κ : Type}

/-- A run shows some effects. -/
def Shows (state : Threaded κ) (events : List (Event κ)) (next : Threaded κ)
    (effects : List (Client.Effect κ)) : Prop :=
  ∃ seen, state.run events = (next, seen) ∧ seen.filterMap Effect.shown? = effects

lemma Shows.append {first second third : Threaded κ} {before after : List (Event κ)}
    {effects more : List (Client.Effect κ)} (sooner : Shows first before second effects)
    (later : Shows second after third more) :
    Shows first (before ++ after) third (effects ++ more) := by
  obtain ⟨seen, ran, shown⟩ := sooner
  obtain ⟨seen', ran', shown'⟩ := later
  refine ⟨seen ++ seen', ?_, ?_⟩
  · rw [run_append, ran, ran']
  · rw [List.filterMap_append, shown, shown']

lemma shows_handing (client : Client κ) (frame : Frame) :
    Shows ⟨client, [], []⟩ (handing 0 frame) ⟨(client.receive frame).1, [], []⟩
      (client.receive frame).2 := by
  unfold Client.receive
  cases found : client.pendingCall? frame.xid with
  | none =>
    refine ⟨[], ?_, rfl⟩
    simp only [handing, run, Machine.run_cons, Machine.run_nil, step_receive_of_none [] [] found]
    rfl
  | some call =>
    have concluded : step ⟨client.removePending frame.xid, [], [(call, replied frame)]⟩
        (.conclude 0) =
      (⟨((client.removePending frame.xid).conclude call (replied frame)).1, [], []⟩,
        .resolved call.xid (replied frame).resolution ::
          ranFor call ((client.removePending frame.xid).conclude call (replied frame)).2) :=
      step_conclude [] [] [] _ _ _
    refine ⟨.answered frame :: .resolved call.xid (replied frame).resolution ::
      ranFor call ((client.removePending frame.xid).conclude call (replied frame)).2, ?_, ?_⟩
    · simp only [run, handing, Machine.run_cons, Machine.run_nil,
        step_receive_of_some [] [] found, List.nil_append, concluded, List.append_nil]
      rfl
    · rw [List.filterMap_cons_none rfl, List.filterMap_cons_none rfl, shown_conclude]
      rfl

lemma shows_replies (link : Link κ) (frames : List Frame) :
    Shows ⟨link.client, [], []⟩ (frames.flatMap (handing 0))
      ⟨(link.receiveAll frames).1.client, [], []⟩ (link.receiveAll frames).2 := by
  induction frames generalizing link with
  | nil => exact ⟨[], rfl, rfl⟩
  | cons frame rest ih =>
    have first := shows_handing link.client frame
    have others := ih (link.onClient (·.receive frame)).1
    rw [Link.client_onClient] at others
    exact first.append others

/-- The reader of a link ends. -/
lemma shows_ending (link : Link κ) {n : Nat} (enough : link.client.pending.length ≤ n) :
    Shows ⟨link.client, [], []⟩ (ending 0 n) ⟨link.endReader.1.client, [], []⟩
      link.endReader.2 := by
  have enough' : link.client.byXid.length ≤ n := by
    unfold Client.byXid
    rw [List.length_mergeSort]
    exact enough
  obtain ⟨seen, ran, shown⟩ := run_completeAll Status.connectionReset .reader [] []
    link.client.byXid { link.client with isOpen := false, pending := [] } enough'
  refine ⟨seen, ?_, shown⟩
  unfold Link.endReader
  rw [Link.client_onClient]
  exact ran

theorem run_of_ended {link : Link κ} (ended : link.reader = .ended) (pieces : List Bytes)
    (ends : Bool) :
    link.run (pieces.map .read ++ if ends then [.streamEnded] else []) = (link, []) := by
  induction pieces with
  | nil =>
    cases ends with
    | false => rfl
    | true =>
      have idle : link.streamEnded = (link, []) := by
        unfold Link.streamEnded
        rw [ended]
      show ((link.streamEnded).1, (link.streamEnded).2 ++ []) = (link, [])
      rw [idle]
      rfl
  | cons piece rest ih =>
    have idle : link.step (.read piece) = (link, []) := by
      show link.read piece = (link, [])
      unfold Link.read
      rw [ended]
    unfold Link.run at ih ⊢
    rw [List.map_cons, List.cons_append, Machine.run_cons, idle, ih]
    rfl

lemma shows_reading {link : Link κ} (running : link.reader = .running) (pieces : List Bytes)
    (ends : Bool) {n : Nat} (enough : link.client.pending.length ≤ n) :
    Shows ⟨link.client, [], []⟩
      ((link.reassembly.pushAll pieces).1.1.flatMap (handing 0) ++
        if ends || (link.reassembly.pushAll pieces).1.2.isSome then ending 0 n else [])
      ⟨(link.run (pieces.map .read ++ if ends then [.streamEnded] else [])).1.client, [], []⟩
      (link.run (pieces.map .read ++ if ends then [.streamEnded] else [])).2 := by
  -- Along the pieces. The first one that breaks framing ends the reader, and the link takes no more
  -- of them; until then its reader is running, at the same point of the stream.
  induction pieces generalizing link with
  | nil =>
    cases ends with
    | false => exact ⟨[], rfl, rfl⟩
    | true =>
      have last : link.run [.streamEnded] = (link.endReader.1, link.endReader.2 ++ []) := by
        have step : link.step .streamEnded = link.endReader := by
          show link.streamEnded = _
          unfold Link.streamEnded
          rw [running]
        unfold Link.run
        rw [Machine.run_cons, step]
        rfl
      have ended := shows_ending link enough
      rw [← List.append_nil link.endReader.2] at ended
      show Shows _ (ending 0 n) ⟨(link.run [.streamEnded]).1.client, [], []⟩
        (link.run [.streamEnded]).2
      rw [last]
      exact ended
  | cons piece rest ih =>
    have split : link.run ((piece :: rest).map .read ++ if ends then [.streamEnded] else []) =
        (((link.read piece).1.run (rest.map .read ++ if ends then [.streamEnded] else [])).1,
          (link.read piece).2 ++
            ((link.read piece).1.run (rest.map .read ++ if ends then [.streamEnded] else [])).2) :=
      rfl
    rw [split]
    cases pushed : (link.reassembly.push piece).1 with
    | error fault =>
      rw [Reassembly.pushAll_cons_of_error pushed, Link.read_of_error running pushed,
        run_of_ended (Link.reader_endReader _), Option.isSome_some, Bool.or_true, if_pos rfl,
        List.append_nil]
      exact shows_ending { link with reassembly := (link.reassembly.push piece).2 } enough
    | ok frames =>
      rw [Reassembly.pushAll_cons_of_ok pushed, Link.read_of_ok running pushed,
        List.flatMap_append, List.append_assoc]
      generalize kept : ({ link with reassembly := (link.reassembly.push piece).2 } : Link κ) = next
      have keeps : Link.Keeps (fun _ _ => True) next (next.receiveAll frames).1 :=
        Link.keeps_receiveAll next fun _ _ => trivial
      have running' : (next.receiveAll frames).1.reader = .running := by
        rw [keeps.reader, ← kept]
        exact running
      have same : (next.receiveAll frames).1.reassembly = (link.reassembly.push piece).2 := by
        rw [keeps.reassembly, ← kept]
      have first : Shows ⟨link.client, [], []⟩ (frames.flatMap (handing 0))
          ⟨(next.receiveAll frames).1.client, [], []⟩ (next.receiveAll frames).2 := by
        have replies := shows_replies next frames
        rw [← kept] at replies ⊢
        exact replies
      -- Replies only take calls out of the table, so the bound on its size is kept.
      have fewer : (next.receiveAll frames).1.client.pending.length ≤ n := by
        obtain ⟨seen, ran, -⟩ := first
        have left := (settles_replies ⟨link.client, [], []⟩ frames).leaves
        dsimp only [List.length_nil] at left
        rw [ran] at left
        rw [left]
        exact (List.length_filter_le _ _).trans enough
      have others := ih running' fewer
      rw [same] at others
      exact first.append others

/-- The actions of the reader are those of the reader of a link that nobody interrupts. -/
theorem run_reading {link : Link κ} (running : link.reader = .running) (pieces : List Bytes)
    (ends : Bool) :
    Shows ⟨link.client, [], []⟩ (reading ⟨link.client, [], []⟩ link.reassembly pieces ends)
      ⟨(link.run (pieces.map .read ++ if ends then [.streamEnded] else [])).1.client, [], []⟩
      (link.run (pieces.map .read ++ if ends then [.streamEnded] else [])).2 :=
  shows_reading running pieces ends (Nat.le_refl _)

end Threaded

end RemoteCall
