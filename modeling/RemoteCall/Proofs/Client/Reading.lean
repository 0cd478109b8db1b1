import RemoteCall.Proofs.Client.Link
import RemoteCall.Proofs.Client.Threads
import RemoteCall.Proofs.Frame.Reassembly

/-!
# Calls that wait while replies are read

A call that waits is resolved by the first reply of its transaction ID, or by the end of the
connection if there is no such reply before it (`resolution?_run`).

The reader of a link hands on what the parse of the stream finds (`Reading.run`).  A read that
breaks framing ends it, and what comes after is not read (`run_broken`).

## The proof

Replies are handed over one after the other, and each of them either is that of the call or leaves
the call waiting (`awaits_receive`).  A call that is resolved stays as it is, whatever comes later
(`resolution?_complete_of_some`), so by induction on the replies the first one decides.  When the
connection ends all calls of the table are resolved in a loop; the call that waits is among them,
and the others are no concern of its slot.

Where a stream is cut into reads does not matter as long as it is valid.  Between its reads the
reader keeps what the parse of the bytes so far leaves (`Reading`), so the frames that the reads
complete are together the frames of the stream.  The read that makes the stream invalid hands on
nothing, also of what comes before the invalid envelope.

## Main statements

* `resolution?_run` — how a call ends that waits for its reply.
* `run_broken` — a client is handed the replies of the reads before the one that breaks framing.
-/

namespace RemoteCall

namespace Client

variable {κ : Type}

/-- A call waits for its reply. -/
structure Awaits (client : Client κ) (xid : Int64) : Prop where
  pending : ∃ call ∈ client.pending, call.xid = xid
  slot : (client.future? xid).isSome = true
  unresolved : client.resolution? xid = none

section

variable {client : Client κ} {xid : Int64}

/-! ## One resolution -/

lemma resolution?_of_futures {client' : Client κ} (same : client'.futures = client.futures)
    (xid : Int64) : client'.resolution? xid = client.resolution? xid ∧
      client'.future? xid = client.future? xid := by
  unfold resolution? future?
  rw [same]
  exact ⟨rfl, rfl⟩

lemma complete_futures (client : Client κ) (call : PendingCall) (status : Status)
    (payload : Option Bytes) (runner : Runner) :
    (client.complete call status payload runner).1.futures =
      (client.resolve call.xid status payload).futures :=
  conclude_futures client call (.settled status payload runner)

/-- A call that is resolved stays as it is. -/
lemma resolution?_complete_of_some {resolution : Resolution}
    (resolved : client.resolution? xid = some resolution) (call : PendingCall) (status : Status)
    (payload : Option Bytes) (runner : Runner) :
    (client.complete call status payload runner).1.resolution? xid = some resolution := by
  rw [(resolution?_of_futures (complete_futures client call status payload runner) xid).1,
    resolution?_resolve, if_neg]
  · exact resolved
  · rintro ⟨same, -, unresolved⟩
    rw [same, unresolved] at resolved
    cases resolved

lemma resolution?_complete_self (slot : (client.future? xid).isSome = true)
    (unresolved : client.resolution? xid = none) {call : PendingCall} (own : call.xid = xid)
    (status : Status) (payload : Option Bytes) (runner : Runner) :
    (client.complete call status payload runner).1.resolution? xid =
      some ⟨status, Future.replyOf payload⟩ := by
  subst own
  rw [(resolution?_of_futures (complete_futures client call status payload runner) _).1,
    resolution?_resolve, if_pos ⟨rfl, slot, unresolved⟩]

/-- Another call may be resolved meanwhile. -/
lemma unresolved_complete (slot : (client.future? xid).isSome = true)
    (unresolved : client.resolution? xid = none) {call : PendingCall} (other : call.xid ≠ xid)
    (status : Status) (payload : Option Bytes) (runner : Runner) :
    ((client.complete call status payload runner).1.future? xid).isSome = true ∧
      (client.complete call status payload runner).1.resolution? xid = none := by
  obtain ⟨sameResolution, sameFuture⟩ :=
    resolution?_of_futures (complete_futures client call status payload runner) xid
  rw [sameResolution, sameFuture, resolution?_resolve, if_neg fun h => other h.1.symm]
  exact ⟨(isSome_future?_updateFuture client _ _ xid).trans slot, unresolved⟩

/-! ## Replies -/

lemma receive_own (awaits : Awaits client xid) {frame : Frame} (own : frame.xid = xid) :
    (client.receive frame).1.resolution? xid =
      some ⟨frame.status, Future.replyOf (some frame.payload)⟩ := by
  obtain ⟨call, among, named⟩ := awaits.pending
  unfold receive
  cases found : client.pendingCall? frame.xid with
  | none =>
    have missing := List.find?_eq_none.mp found call among
    simp [named, own] at missing
  | some taken =>
    have taken_xid : taken.xid = frame.xid := by simpa using List.find?_some found
    have slot : ((client.removePending frame.xid).future? xid).isSome = true := awaits.slot
    dsimp only
    exact resolution?_complete_self slot awaits.unresolved (taken_xid.trans own) _ _ _

lemma awaits_receive (awaits : Awaits client xid) {frame : Frame} (other : frame.xid ≠ xid) :
    Awaits (client.receive frame).1 xid := by
  unfold receive
  cases found : client.pendingCall? frame.xid with
  | none => exact awaits
  | some taken =>
    have taken_xid : taken.xid = frame.xid := by simpa using List.find?_some found
    have different : taken.xid ≠ xid := taken_xid.symm ▸ other
    obtain ⟨call, among, named⟩ := awaits.pending
    have tables := conclude_tables (client.removePending frame.xid) taken
      (.settled frame.status (some frame.payload) .reader)
    have kept : call ∈ (client.removePending frame.xid).pending :=
      List.mem_filter.mpr ⟨among, by simpa [named] using Ne.symm other⟩
    have slot : ((client.removePending frame.xid).future? xid).isSome = true := awaits.slot
    obtain ⟨slot', unresolved⟩ := unresolved_complete slot awaits.unresolved different
      frame.status (some frame.payload) .reader
    dsimp only
    exact ⟨⟨call, tables.pending.symm ▸ kept, named⟩, slot', unresolved⟩

lemma resolution?_receive_of_some {resolution : Resolution}
    (resolved : client.resolution? xid = some resolution) (frame : Frame) :
    (client.receive frame).1.resolution? xid = some resolution := by
  unfold receive
  cases client.pendingCall? frame.xid with
  | none => exact resolved
  | some call =>
    have before : (client.removePending frame.xid).resolution? xid = some resolution := resolved
    dsimp only
    exact resolution?_complete_of_some before call _ _ _

/-! ## The end of the connection -/

lemma resolution?_completeAll_of_some {resolution : Resolution}
    (resolved : client.resolution? xid = some resolution) (status : Status) (runner : Runner)
    (calls : List PendingCall) :
    (client.completeAll status runner calls).1.resolution? xid = some resolution := by
  induction calls generalizing client with
  | nil => exact resolved
  | cons call rest ih => exact ih (resolution?_complete_of_some resolved call status none runner)

lemma resolution?_completeAll (slot : (client.future? xid).isSome = true)
    (unresolved : client.resolution? xid = none) {calls : List PendingCall}
    (among : ∃ call ∈ calls, call.xid = xid) (status : Status) (runner : Runner) :
    (client.completeAll status runner calls).1.resolution? xid = some ⟨status, none⟩ := by
  induction calls generalizing client with
  | nil =>
    obtain ⟨call, absent, -⟩ := among
    cases absent
  | cons call rest ih =>
    by_cases own : call.xid = xid
    · exact resolution?_completeAll_of_some
        (resolution?_complete_self slot unresolved own status none runner) status runner rest
    · obtain ⟨slot', unresolved'⟩ := unresolved_complete slot unresolved own status none runner
      refine ih slot' unresolved' ?_
      obtain ⟨found, present, named⟩ := among
      rcases List.mem_cons.mp present with rfl | later
      · exact absurd named own
      · exact ⟨found, later, named⟩

lemma disconnect_awaits (awaits : Awaits client xid) (status : Status) (runner : Runner) :
    (client.disconnect status runner).1.resolution? xid = some ⟨status, none⟩ := by
  obtain ⟨call, among, named⟩ := awaits.pending
  have slot : (({ client with isOpen := false, pending := [] } : Client κ).future? xid).isSome =
    true := awaits.slot
  unfold disconnect
  exact resolution?_completeAll slot awaits.unresolved
    ⟨call, List.mem_mergeSort.mpr among, named⟩ status runner

lemma disconnect_of_some {resolution : Resolution}
    (resolved : client.resolution? xid = some resolution) (status : Status) (runner : Runner) :
    (client.disconnect status runner).1.resolution? xid = some resolution := by
  have before : ({ client with isOpen := false, pending := [] } : Client κ).resolution? xid =
    some resolution := resolved
  unfold disconnect
  exact resolution?_completeAll_of_some before status runner _

/-! ## A run -/

lemma state_run_append (client : Client κ) (before after : List (Event κ)) :
    (client.run (before ++ after)).1 = ((client.run before).1.run after).1 := by
  unfold run
  rw [Machine.run_append]

/-- How a call ends that waits for its reply, if the connection ends after some replies. -/
def outcome (replies : List Frame) (xid : Int64) : Resolution :=
  match replies.find? (·.xid = xid) with
  | some reply => ⟨reply.status, Future.replyOf (some reply.payload)⟩
  | none => ⟨Status.connectionReset, none⟩

lemma resolution?_run_of_some {resolution : Resolution}
    (resolved : client.resolution? xid = some resolution) (replies : List Frame) :
    (client.run (replies.map .receive ++ [.connectionLost])).1.resolution? xid =
      some resolution := by
  induction replies generalizing client with
  | nil => exact disconnect_of_some resolved _ _
  | cons reply rest ih => exact ih (resolution?_receive_of_some resolved reply)

/-- A call that waits is resolved with its first reply, or by the end of the connection. -/
theorem resolution?_run (awaits : Awaits client xid) (replies : List Frame) :
    (client.run (replies.map .receive ++ [.connectionLost])).1.resolution? xid =
      some (outcome replies xid) := by
  induction replies generalizing client with
  | nil => exact disconnect_awaits awaits _ _
  | cons reply rest ih =>
    unfold outcome
    by_cases own : reply.xid = xid
    · rw [List.find?_cons_of_pos (by simpa using own)]
      exact resolution?_run_of_some (receive_own awaits own) rest
    · rw [List.find?_cons_of_neg (by simpa using own)]
      exact ih (awaits_receive awaits own)

end

end Client

/-! ## The reader of a link -/

namespace Link

open RemoteCall.Frame Reassembly

variable {κ : Type} {link : Link κ} {limit : UInt32} {bytes : Bytes}

lemma state_run_append (link : Link κ) (before after : List (Event κ)) :
    (link.run (before ++ after)).1 = ((link.run before).1.run after).1 := by
  unfold run
  rw [Machine.run_append]

lemma client_onClient (link : Link κ)
    (act : Client κ → Client κ × List (Client.Effect κ)) :
    (link.onClient act).1.client = (act link.client).1 := by
  unfold onClient settle
  dsimp only
  split <;> rfl

lemma client_receiveAll (link : Link κ) (frames : List Frame) :
    (link.receiveAll frames).1.client = (link.client.run (frames.map .receive)).1 := by
  induction frames generalizing link with
  | nil => rfl
  | cons frame rest ih =>
    have first : (link.onClient (·.receive frame)).1.client = (link.client.receive frame).1 :=
      client_onClient link _
    show ((link.onClient (·.receive frame)).1.receiveAll rest).1.client = _
    rw [ih, first]
    rfl

/-- Between its reads the reader keeps what the parse of the stream leaves. -/
structure Reading (limit : UInt32) (bytes : Bytes) (link : Link κ) : Prop where
  running : link.reader = .running
  received : Received limit bytes link.reassembly

/-- A read that does not break framing hands on the frames that it completes. -/
lemma Reading.read (reading : Reading limit bytes link) {piece : Bytes}
    (valid : (parse limit (bytes ++ piece)).invalid = false) :
    ∃ frames, (parse limit (bytes ++ piece)).frames = (parse limit bytes).frames ++ frames ∧
      (link.read piece).1.client = (link.client.run (frames.map .receive)).1 ∧
      Reading limit (bytes ++ piece) (link.read piece).1 := by
  rcases push_of_received reading.received piece with
      ⟨broken, -⟩ | ⟨frames, pushed, found, received⟩
  · rw [valid] at broken
    cases broken
  · rw [read_of_ok reading.running pushed]
    generalize kept : ({ link with reassembly := (link.reassembly.push piece).2 } : Link κ) = next
    have keeps : Keeps (fun _ _ => True) next (next.receiveAll frames).1 :=
      keeps_receiveAll next fun _ _ => trivial
    refine ⟨frames, found, ?_, ?_, ?_⟩
    · rw [client_receiveAll, ← kept]
    · rw [keeps.reader, ← kept]
      exact reading.running
    · rw [keeps.reassembly, ← kept]
      exact received

/-- As long as the stream does not break framing, the replies that the reads complete are handed to
the client, in order. -/
lemma Reading.run (reading : Reading limit bytes link) (pieces : List Bytes)
    (valid : (parse limit (bytes ++ pieces.flatten)).invalid = false) :
    ∃ frames, (parse limit (bytes ++ pieces.flatten)).frames =
        (parse limit bytes).frames ++ frames ∧
      (link.run (pieces.map .read)).1.client = (link.client.run (frames.map .receive)).1 ∧
      Reading limit (bytes ++ pieces.flatten) (link.run (pieces.map .read)).1 := by
  induction pieces generalizing link bytes with
  | nil =>
    rw [List.flatten_nil, List.append_nil]
    exact ⟨[], (List.append_nil _).symm, rfl, reading⟩
  | cons piece rest ih =>
    rw [List.flatten_cons, ← List.append_assoc] at valid ⊢
    have first : (parse limit (bytes ++ piece)).invalid = false := by
      cases broken : (parse limit (bytes ++ piece)).invalid with
      | false => rfl
      | true =>
        rw [parse_append_of_invalid broken] at valid
        cases valid
    obtain ⟨frames, found, handed, still⟩ := reading.read first
    obtain ⟨more, found', handed', still'⟩ := ih still valid
    refine ⟨frames ++ more, ?_, ?_, still'⟩
    · rw [found', found, List.append_assoc]
    · have later : (link.run ((piece :: rest).map .read)).1.client =
        ((link.read piece).1.run (rest.map .read)).1.client := rfl
      rw [later, handed', handed, List.map_append, Client.state_run_append]

/-- The reader does nothing after its end. -/
lemma run_of_ended (ended : link.reader = .ended) (pieces : List Bytes) :
    (link.run (pieces.map .read)).1 = link := by
  induction pieces with
  | nil => rfl
  | cons piece rest ih =>
    have idle : (link.read piece).1 = link := by
      unfold read
      rw [ended]
    show ((link.read piece).1.run (rest.map .read)).1 = link
    rw [idle, ih]

/-- The read that breaks framing ends the reader, so the client is handed the replies of the reads
before it and is disconnected. -/
theorem run_broken (reading : Reading limit [] link) {before : List Bytes} {piece : Bytes}
    (valid : (parse limit before.flatten).invalid = false)
    (broken : (parse limit (before.flatten ++ piece)).invalid = true) (later : List Bytes) :
    (link.run ((before ++ piece :: later).map .read)).1.client =
      (link.client.run
        ((parse limit before.flatten).frames.map .receive ++ [.connectionLost])).1 := by
  obtain ⟨frames, found, handed, still⟩ := reading.run before valid
  rw [parse_nil, List.nil_append, List.nil_append] at found
  rw [List.nil_append] at still
  have split : (link.run ((before ++ piece :: later).map .read)).1 =
      (((link.run (before.map .read)).1.read piece).1.run (later.map .read)).1 := by
    rw [List.map_append, state_run_append]
    rfl
  generalize (link.run (before.map .read)).1 = last at split handed still
  rcases push_of_received still.received piece with ⟨-, fault, failed⟩ | ⟨-, -, -, received⟩
  · have ends : (last.read piece).1 =
        ({ last with reassembly := (last.reassembly.push piece).2 } : Link κ).endReader.1 := by
      rw [read_of_error still.running failed]
    rw [split, ends, run_of_ended (reader_endReader _), found]
    unfold endReader
    rw [client_onClient, Client.state_run_append, ← handed]
    rfl
  · rw [received.valid] at broken
    cases broken

end Link

end RemoteCall
