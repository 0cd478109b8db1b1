import RemoteCall.Proofs.Call.Requests
import RemoteCall.Proofs.Client.Link
import RemoteCall.Proofs.Frame.Reassembly
import RemoteCall.Proofs.System.History

/-!
# The side of a client

`Peer.Sound` is what holds of a client at any time, given what has happened on its connection.  Its
requests are those of its calls, each of a call of its own, and its wire carries them in order; its
reader is at the parse of what it has read; and a call that ended with success ended with a reply of
its transaction ID, decoded under the types that the call was issued with.

## The invariant

A request has three places: with the caller who issued the call, in the line of those who wait for
room in the queue, and in the queue itself.  `outgoing` is all of them.  Two clauses are about this
list and not about any one place: each of its frames is the request of a call (`made`), and no call
has two of them (`once`).  So an action that moves a request from one place to the next has nothing
to show for these clauses, and an action that drops one has to show only that the list gets shorter.

Transaction IDs are numbered (`numbered`, `next`): the `n`-th call has the ID `xidOf n`.  The
counter wraps around, so calls far apart may have the same one.  The invariant does not rule that
out, it counts: `callsOf` is the list of all calls of an ID.

The clause about the slots is what the whole is for.  A slot that holds a reply holds one that the
server has sent, unless the client has failed the call itself (`Answered`).

## The steps

All actions that neither issue a call nor send a request share `Sound.change`, which is told how the
slots have changed.  Issuing is `Sound.enter`, for calls that are refused with a slot and for those
that are not.  What a client reads has been written by the server, so `Sound.read` takes as a
hypothesis that these are replies of the history; the invariant of the system provides it.

## Main statements

* `seen_step`, `wires_step` — what the server sees of an action of a client.
-/

namespace RemoteCall

namespace Wire

lemma written_write (wire : Wire) (bytes : Bytes) :
    (wire.write bytes).written = wire.written ++ bytes := by
  unfold write written
  rw [List.append_assoc]

lemma written_advance {wire : Wire} {bytes : Bytes} (next : bytes <+: wire.ahead) :
    (wire.advance bytes).written = wire.written := by
  obtain ⟨more, split⟩ := next
  unfold advance written
  dsimp only
  rw [← split, List.drop_left, List.append_assoc]

end Wire

namespace Client

variable {κ : Type}

lemma runCallback_effects (client : Client κ) (id : UInt64) (xid : Int64) (runner : Runner) :
    (client.runCallback id xid runner).2.filterMap Effect.xid? = [] ∧
      (client.runCallback id xid runner).2.filterMap Effect.frame? = [] := by
  unfold runCallback
  split
  · exact ⟨rfl, rfl⟩
  · exact ⟨rfl, rfl⟩

lemma failLocally_effects (client : Client κ) (call : PendingCall) (status : Status) :
    (client.failLocally call status).2.filterMap Effect.xid? = [] ∧
      (client.failLocally call status).2.filterMap Effect.frame? = [] := by
  unfold failLocally
  cases call.callback with
  | none => exact ⟨rfl, rfl⟩
  | some id => exact runCallback_effects _ _ _ _

lemma issue_of_error {client : Client κ} {request : Request} {e : Error}
    (refused : request.encode client.registry client.maxPayload = .error e)
    (callback : Option κ) : client.issue request callback = (client, [.refused e]) := by
  unfold issue
  rw [refused]

/-- A call that is issued has a slot of its own, and at most one request to be sent. -/
lemma issue_of_ok {client : Client κ} {request : Request} {arguments : Bytes}
    (encoded : request.encode client.registry client.maxPayload = .ok arguments)
    (callback : Option κ) :
    Resolves failed
        { client with
          nextXid := client.nextXid + 1
          futures := (client.nextXid, .unresolved request.resultTypes) :: client.futures }
        (client.issue request callback).1 ∧
      (client.issue request callback).2.filterMap Effect.xid? = [client.nextXid] ∧
      ((client.issue request callback).2.filterMap Effect.frame? = [] ∨
        (client.issue request callback).2.filterMap Effect.frame? =
          [.request client.nextXid request.callId arguments]) := by
  unfold issue
  rw [encoded]
  dsimp only
  split
  · refine ⟨?_, rfl, Or.inr rfl⟩
    cases callback with
    | none => exact .of_futures rfl rfl rfl rfl
    | some callback => exact .of_futures rfl rfl rfl rfl
  · generalize issued_eq : ({ (callback.map client.addCallback).getD client with
      nextXid := client.nextXid + 1
      futures := (client.nextXid, Future.unresolved request.resultTypes) ::
        ((callback.map client.addCallback).getD client).futures } : Client κ) = issued
    have slot : Resolves failed
        { client with
          nextXid := client.nextXid + 1
          futures := (client.nextXid, .unresolved request.resultTypes) :: client.futures }
        issued := by
      subst issued_eq
      cases callback with
      | none => exact .of_futures rfl rfl rfl rfl
      | some callback => exact .of_futures rfl rfl rfl rfl
    have effects := issued.failLocally_effects
      ⟨client.nextXid, callback.map fun _ => client.nextCallback⟩ Status.notConnected
    refine ⟨slot.trans (failLocally_resolves issued (by decide)), ?_, Or.inl effects.2⟩
    show client.nextXid :: List.filterMap Effect.xid? _ = _
    rw [effects.1]

end Client

namespace Peer

open RemoteCall.Frame Happening Client

variable {κ η : Type}

/-- A frame is the request of a call. -/
def Requests (registry : Registry) (limit : UInt32) (history : List (Happening η))
    (frame : Frame) : Prop :=
  ∃ request ∈ callsOf frame.xid history, request.encode registry limit = .ok frame.payload ∧
    frame = .request frame.xid request.callId frame.payload

/-- The requests that are on their way to the server: in its order those that were queued, then
those whose callers wait. -/
def outgoing (history : List (Happening η)) (peer : Peer κ) : List Frame :=
  requests history ++ (peer.link.writer.waiting ++ peer.sending)

/-- A call ended with a reply that was sent. -/
def Answered (history : List (Happening η)) (xid : Int64) (resolution : Resolution) : Prop :=
  resolution.status = Status.ok → ∃ reply ∈ replies history, reply.xid = xid ∧
    reply.status = Status.ok ∧ resolution.reply = Future.replyOf (some reply.payload)

/-- The transaction ID of a client's `n`-th call, counted from zero. -/
def xidOf (n : Nat) : Int64 := Int64.ofNat (n + 1)

structure Sound (registry : Registry) (history : List (Happening η)) (peer : Peer κ) : Prop where
  registry_eq : peer.link.client.registry = registry
  onWire : peer.link.client.maxPayload ≤ Header.protocolLimit
  numbered : (calls history).map (·.1) = (List.range (calls history).length).map xidOf
  next : peer.link.client.nextXid = xidOf (calls history).length
  streams : peer.link.writer.Streams (requests history) peer.toServer.written
  made : ∀ frame ∈ outgoing history peer,
    Requests registry peer.link.client.maxPayload history frame
  /-- No call is requested twice. -/
  once : ∀ xid, (outgoing history peer).countP (·.xid = xid) ≤ (callsOf xid history).length
  reading : peer.link.reader ≠ .ended →
    Reassembly.Received peer.link.client.maxPayload peer.toClient.read peer.link.reassembly
  slots : ∀ entry ∈ peer.link.client.futures,
    (∃ request ∈ callsOf entry.1 history, entry.2.resultTypes = request.resultTypes) ∧
      ∀ resolution, entry.2.resolution = some resolution → Answered history entry.1 resolution

/-- An action led to a sound state, together with what it adds to the history. -/
def SoundAfter (registry : Registry) (history : List (Happening η))
    (next : Peer κ × List (Happening η)) : Prop :=
  Sound registry (history ++ next.2) next.1

lemma sound_connected {registry : Registry} {settings : ClientSettings}
    (valid : settings.validate = .ok ()) :
    Sound registry ([] : List (Happening η)) (connected registry settings : Peer κ) := by
  refine ⟨rfl, le_of_checkConnection valid, rfl, rfl, Writer.streams_start _, ?_, ?_, ?_, ?_⟩
  · intro frame absent
    cases absent
  · intro xid
    exact Nat.zero_le _
  · intro _
    exact Reassembly.received_fresh _
  · intro entry absent
    cases absent

section

variable {registry : Registry} {history : List (Happening η)} {peer : Peer κ}

lemma Requests.mono {limit : UInt32} {frame : Frame} (seen : List (Happening η))
    (requested : Requests registry limit history frame) :
    Requests registry limit (history ++ seen) frame := by
  obtain ⟨request, issued, encoded, built⟩ := requested
  refine ⟨request, ?_, encoded, built⟩
  rw [callsOf_append]
  exact List.mem_append_left _ issued

lemma Answered.mono {xid : Int64} {resolution : Resolution} (seen : List (Happening η))
    (answered : Answered history xid resolution) :
    Answered (history ++ seen) xid resolution := by
  intro success
  obtain ⟨reply, sent, rest⟩ := answered success
  refine ⟨reply, ?_, rest⟩
  rw [replies_append]
  exact List.mem_append_left _ sent

/-- A request fits an envelope. -/
lemma Sound.fits (sound : Sound registry history peer) {frame : Frame}
    (sent : frame ∈ requests history) : Fits Header.protocolLimit frame := by
  obtain ⟨request, -, encoded, built⟩ := sound.made frame (List.mem_append_left _ sent)
  have small := (Request.written_of_encode encoded).2
  have bound := UInt32.le_iff_toNat_le.mp sound.onWire
  rw [built]
  exact fits_ofPayload _ _ (by omega) (by omega)

/-! ## What changes nothing but resolutions -/

/-- The client resolves calls, and requests that its callers hold may be given up. -/
lemma Sound.change {next : Peer κ} (sound : Sound registry history peer)
    (seen : List (Happening η)) (none_issued : calls seen = [])
    (streams : next.link.writer.Streams (requests (history ++ seen)) next.toServer.written)
    (requested : ∀ p, (outgoing (history ++ seen) next).countP p ≤
      (outgoing history peer).countP p)
    (reading : next.link.reader ≠ .ended → Reassembly.Received peer.link.client.maxPayload
      next.toClient.read next.link.reassembly)
    (resolves : Resolves (Answered (history ++ seen)) peer.link.client next.link.client) :
    Sound registry (history ++ seen) next := by
  have calls_eq : calls (history ++ seen) = calls history := by
    rw [calls_append, none_issued, List.append_nil]
  refine ⟨?_, ?_, ?_, ?_, streams, ?_, ?_, ?_, ?_⟩
  · rw [resolves.registry]
    exact sound.registry_eq
  · rw [resolves.maxPayload]
    exact sound.onWire
  · rw [calls_eq]
    exact sound.numbered
  · rw [resolves.nextXid, calls_eq]
    exact sound.next
  · intro frame present
    rw [resolves.maxPayload]
    -- a request that is still on its way was so before, because none occurs more often now
    have before : frame ∈ outgoing history peer := by
      have positive : 0 < (outgoing (history ++ seen) next).countP (· == frame) :=
        List.countP_pos_iff.mpr ⟨frame, present, beq_self_eq_true frame⟩
      obtain ⟨frame', present', same⟩ :=
        List.countP_pos_iff.mp (Nat.lt_of_lt_of_le positive (requested _))
      rw [← eq_of_beq same]
      exact present'
    exact (sound.made frame before).mono seen
  · intro xid
    -- the calls of an ID may have become more, and its requests have not
    have grown : (callsOf xid history).length ≤ (callsOf xid (history ++ seen)).length := by
      rw [callsOf_append, List.length_append]
      exact Nat.le_add_right _ _
    exact Nat.le_trans (requested _) (Nat.le_trans (sound.once xid) grown)
  · rw [resolves.maxPayload]
    exact reading
  · intro entry' present'
    obtain ⟨entry, present, key, types, resolution⟩ := resolves.slots entry' present'
    obtain ⟨⟨request, issued, declared⟩, answered⟩ := sound.slots entry present
    rw [key, types]
    refine ⟨⟨request, ?_, declared⟩, ?_⟩
    · rw [callsOf_append]
      exact List.mem_append_left _ issued
    · intro resolution' resolved
      rcases resolution with same | ⟨_, resolved', ok⟩
      · rw [same] at resolved
        exact (answered resolution' resolved).mono seen
      · rw [resolved'] at resolved
        cases resolved
        exact ok

lemma answered_of_failed {xid : Int64} {resolution : Resolution}
    (failure : failed xid resolution) : Answered history xid resolution :=
  fun success => absurd success failure

/-- Nothing happened that the history tells of. -/
lemma Sound.still {next : Peer κ} (sound : Sound registry history peer)
    (streams : next.link.writer.Streams (requests history) next.toServer.written)
    (requested : ∀ p, (next.link.writer.waiting ++ next.sending).countP p ≤
      (peer.link.writer.waiting ++ peer.sending).countP p)
    (reading : next.link.reader ≠ .ended → Reassembly.Received peer.link.client.maxPayload
      next.toClient.read next.link.reassembly)
    (resolves : Resolves (Answered history) peer.link.client next.link.client) :
    Sound registry (history ++ []) next := by
  refine sound.change [] rfl ?_ ?_ reading ?_
  · rw [List.append_nil]
    exact streams
  · intro p
    have split : ∀ frames, (requests history ++ frames).countP p =
        (requests history).countP p + frames.countP p := fun _ => List.countP_append
    unfold outgoing
    rw [List.append_nil, split, split]
    exact Nat.add_le_add_left (requested p) _
  · rw [List.append_nil]
    exact resolves

lemma Sound.quiet {link : Link κ} (sound : Sound registry history peer)
    (quiet : Link.Quiet peer.link link) : Sound registry (history ++ []) { peer with link } := by
  refine sound.still (quiet.streams _ _ sound.streams) ?_ ?_
    (quiet.client.mono fun _ _ => answered_of_failed)
  · intro p
    exact Nat.le_of_eq (by rw [quiet.waiting])
  · intro reading
    obtain ⟨before, kept⟩ := quiet.reading reading
    rw [kept]
    exact sound.reading before

/-! ## Issuing -/

lemma callsOf_issued (xid xid' : Int64) (request : Request) :
    callsOf xid ([.issued xid' request] : List (Happening η)) =
      if xid' = xid then [request] else [] := by
  show ([(xid', request)].filter (·.1 = xid)).map (·.2) = _
  by_cases same : xid' = xid
  · rw [if_pos same, List.filter_cons_of_pos (by simpa using same)]
    rfl
  · rw [if_neg same, List.filter_cons_of_neg (by simpa using same)]
    rfl

lemma mem_callsOf_issued (history : List (Happening η)) (xid : Int64) (request : Request) :
    request ∈ callsOf xid (history ++ [.issued xid request]) := by
  rw [callsOf_append, callsOf_issued, if_pos rfl]
  exact List.mem_append_right _ (List.mem_singleton_self _)

lemma xidOf_succ (n : Nat) : xidOf n + 1 = xidOf (n + 1) := (Int64.ofNat_add (n + 1) 1).symm

/-- A call joins those that the client has made, with a slot and at most one request. -/
lemma Sound.enter (sound : Sound registry history peer) {request : Request} {arguments : Bytes}
    (encoded : request.encode registry peer.link.client.maxPayload = .ok arguments) {xid : Int64}
    (given : peer.link.client.nextXid = xid) {frames : List Frame}
    (sent : frames = [] ∨ frames = [.request xid request.callId arguments]) :
    Sound registry (history ++ [.issued xid request])
      { peer with
        link := { peer.link with
          client := { peer.link.client with
            nextXid := xid + 1
            futures := (xid, .unresolved request.resultTypes) :: peer.link.client.futures } }
        sending := peer.sending ++ frames } := by
  have requests_eq : requests (history ++ [.issued xid request]) = requests history := by
    rw [requests_append]
    exact List.append_nil _
  have outgoing_eq : outgoing (history ++ [.issued xid request])
      { peer with sending := peer.sending ++ frames } = outgoing history peer ++ frames := by
    unfold outgoing
    rw [requests_eq, List.append_assoc, List.append_assoc]
  have calls_eq : calls (history ++ [.issued xid request]) = calls history ++ [(xid, request)] :=
    calls_append _ _
  -- The transaction IDs are counted, so the new one is the next in the list of all calls.
  have xid_eq : xid = xidOf (calls history).length := given.symm.trans sound.next
  refine ⟨sound.registry_eq, sound.onWire, ?_, ?_, ?_, ?_, ?_, sound.reading, ?_⟩
  · rw [calls_eq, List.length_append, List.length_singleton, List.range_succ, List.map_append,
      List.map_append, sound.numbered, List.map_singleton, List.map_singleton, ← xid_eq]
  · rw [calls_eq, List.length_append, List.length_singleton, ← xidOf_succ, ← xid_eq]
  · rw [requests_eq]
    exact sound.streams
  · intro frame present
    have either : frame ∈ outgoing history peer ++ frames := outgoing_eq ▸ present
    rcases List.mem_append.mp either with before | new
    · exact (sound.made frame before).mono _
    · rcases sent with rfl | rfl
      · cases new
      · rw [List.mem_singleton] at new
        subst new
        exact ⟨request, mem_callsOf_issued history xid request, encoded, rfl⟩
  -- The new request is the only one of its transaction ID, and so is the new call.
  · intro xid'
    have before := sound.once xid'
    have count : (outgoing history peer ++ frames).countP (·.xid = xid') ≤
        (callsOf xid' (history ++ [.issued xid request])).length := by
      rw [List.countP_append, callsOf_append, List.length_append, callsOf_issued]
      rcases sent with rfl | rfl
      · simp only [List.countP_nil]
        omega
      · have framed : (Frame.request xid request.callId arguments).xid = xid := rfl
        rw [List.countP_singleton, framed]
        by_cases same : xid = xid'
        · simp only [same, decide_true, if_true, List.length_singleton]
          omega
        · simp only [same, decide_false, if_false, Bool.false_eq_true]
          omega
    exact outgoing_eq ▸ count
  · intro entry present
    rcases List.mem_cons.mp present with rfl | before
    · exact ⟨⟨request, mem_callsOf_issued history xid request, rfl⟩,
        fun _ resolved => by cases resolved⟩
    · obtain ⟨⟨request', issued, declared⟩, answered⟩ := sound.slots entry before
      refine ⟨⟨request', ?_, declared⟩, fun resolution resolved =>
        (answered resolution resolved).mono _⟩
      rw [callsOf_append]
      exact List.mem_append_left _ issued

lemma Sound.issue (sound : Sound registry history peer) (request : Request)
    (callback : Option κ) : SoundAfter registry history (peer.issue request callback) := by
  unfold Peer.issue
  cases encoded : request.encode peer.link.client.registry peer.link.client.maxPayload with
  | error e =>
    rw [issue_of_error encoded]
    refine sound.still sound.streams ?_ sound.reading (.refl _)
    intro p
    show (_ ++ (peer.sending ++ [])).countP p ≤ _
    exact Nat.le_of_eq (by rw [List.append_nil])
  | ok arguments =>
    obtain ⟨resolves, xids, frames⟩ := issue_of_ok encoded callback
    generalize peer.link.client.issue request callback = issued at resolves xids frames
    obtain ⟨client, effects⟩ := issued
    rw [sound.registry_eq] at encoded
    have entered := sound.enter encoded rfl frames
    have seen : (effects.filterMap Effect.xid?).map (.issued · request) =
        ([.issued peer.link.client.nextXid request] : List (Happening η)) := by
      rw [xids]
      rfl
    unfold SoundAfter
    dsimp only
    rw [seen, ← List.append_nil (history ++ _)]
    exact entered.still entered.streams (fun _ => Nat.le_refl _) entered.reading
      (resolves.mono fun _ _ => answered_of_failed)

/-! ## Sending -/

lemma countP_erase {frames : List Frame} {frame : Frame} (present : frame ∈ frames)
    (p : Frame → Bool) :
    frames.countP p = (frames.erase frame).countP p + if p frame then 1 else 0 := by
  rw [(List.perm_cons_erase present).countP_eq p, List.countP_cons]

lemma Sound.offer (sound : Sound registry history peer) (xid : Int64) :
    SoundAfter registry history (peer.offer xid) := by
  unfold Peer.offer
  cases found : peer.sending.find? (·.xid = xid) with
  | none =>
    exact sound.still sound.streams (fun _ => Nat.le_refl _) sound.reading (.refl _)
  | some frame =>
    have present : frame ∈ peer.sending := List.mem_of_find?_eq_some found
    have erased := countP_erase present
    dsimp only
    cases admitted : (peer.link.writer.offer frame).1 with
    | held =>
      exact sound.still sound.streams (fun _ => Nat.le_refl _) sound.reading (.refl _)
    | queued =>
      obtain ⟨resolves, reader, reassembly, waiting, streams⟩ :=
        peer.link.transmit_fields frame admitted (by decide)
      have queued : requests (history ++ [.requested frame]) = requests history ++ [frame] :=
        requests_append _ _
      refine sound.change [.requested frame] rfl ?_ ?_ ?_
        (resolves.mono fun _ _ failure => answered_of_failed failure)
      -- the frame leaves the hands of its caller and is a request of the history from now on
      · rw [queued]
        exact streams _ _ sound.streams
      · intro p
        unfold outgoing
        dsimp only
        rw [queued, waiting, if_neg (by decide)]
        simp only [List.countP_append, List.countP_singleton, erased p]
        omega
      · dsimp only
        rw [reader, reassembly]
        exact sound.reading
    | waiting | refused =>
      obtain ⟨resolves, reader, reassembly, waiting, streams⟩ :=
        peer.link.transmit_fields frame admitted (by decide)
      refine sound.still (streams _ _ sound.streams) ?_ ?_
        (resolves.mono fun _ _ failure => answered_of_failed failure)
      · intro p
        dsimp only
        rw [waiting]
        split
        · simp only [List.countP_append, List.countP_singleton, erased p]
          omega
        · simp only [List.countP_append, erased p]
          omega
      · dsimp only
        rw [reader, reassembly]
        exact sound.reading

/-- A request whose sender gave it up is gone. -/
lemma Sound.unsent (sound : Sound registry history peer) (xid : Int64) (e : Error) :
    SoundAfter registry history (peer.unsent xid e, ([] : List (Happening η))) := by
  unfold Peer.unsent
  cases found : peer.sending.find? (·.xid = xid) with
  | none =>
    exact sound.still sound.streams (fun _ => Nat.le_refl _) sound.reading (.refl _)
  | some frame =>
    have present : frame ∈ peer.sending := List.mem_of_find?_eq_some found
    have quiet : Link.Quiet peer.link (peer.link.onClient (·.sendFailed xid e)).1 :=
      Link.quiet_onClient (sendFailed_resolves _ xid e)
    refine sound.still (quiet.streams _ _ sound.streams) ?_ ?_
      (quiet.client.mono fun _ _ failure => answered_of_failed failure)
    · intro p
      have erased := countP_erase present p
      dsimp only
      rw [quiet.waiting, List.countP_append, List.countP_append]
      omega
    · intro reading
      obtain ⟨before, kept⟩ := quiet.reading reading
      rw [kept]
      exact sound.reading before

/-- The first request that waits for room is queued, or its call fails. -/
lemma Sound.resume (sound : Sound registry history peer) :
    SoundAfter registry history peer.resume := by
  unfold Peer.resume
  cases resumed : peer.link.resume with
  | none =>
    exact sound.still sound.streams (fun _ => Nat.le_refl _) sound.reading (.refl _)
  | some pair =>
    unfold Link.resume at resumed
    split at resumed
    · rename_i xid rest writer _ result
      cases resumed
      obtain ⟨frame, others, waits, waiting, ⟨-, streams⟩ | ⟨⟨e, failure⟩, -⟩⟩ :=
        sound.streams.resume result
      -- the first frame of the line goes to the queue; had the writer failed, the call would fail
      · have queued : requests (history ++ [.requested frame]) = requests history ++ [frame] :=
          requests_append _ _
        dsimp only
        rw [waits, result]
        refine sound.change [.requested frame] rfl (queued ▸ streams) ?_ sound.reading (.refl _)
        intro p
        unfold outgoing
        dsimp only
        rw [queued, waits, waiting]
        simp only [List.countP_append, List.countP_nil, List.countP_cons]
        omega
      · cases failure
    · rename_i xid rest e writer _ result
      obtain ⟨frame, others, waits, waiting, ⟨queued, -⟩ | ⟨-, streams⟩⟩ :=
        sound.streams.resume result
      · cases queued
      · have keeps : Link.Keeps failed { peer.link with writer, queueing := rest }
            ({ peer.link with writer, queueing := rest }.onClient (·.sendFailed xid e)).1 :=
          Link.keeps_onClient (sendFailed_resolves _ _ _)
        generalize ({ peer.link with writer, queueing := rest }.onClient
          (·.sendFailed xid e)) = after at resumed keeps
        cases resumed
        dsimp only
        rw [waits, result]
        refine sound.still (keeps.streams _ _ streams) ?_ ?_
          (keeps.client.mono fun _ _ failure => answered_of_failed failure)
        · intro p
          dsimp only
          rw [keeps.waiting, waiting, waits]
          simp only [List.countP_append, List.countP_cons]
          omega
        · rw [keeps.reader, keeps.reassembly]
          exact sound.reading
    · cases resumed

lemma Sound.write (sound : Sound registry history peer) (n : Nat) :
    SoundAfter registry history (peer.write n, ([] : List (Happening η))) := by
  refine sound.still ?_ ?_ sound.reading (.refl _)
  · have streams := sound.streams.accept n
    rw [← Wire.written_write] at streams
    exact streams
  · intro p
    show ((peer.link.writer.accept n).waiting ++ peer.sending).countP p ≤ _
    exact Nat.le_of_eq (by rw [Writer.waiting_accept])

/-! ## Reading -/

/-- What was read was sent as a reply, and resolves no other call than the one that it answers. -/
lemma Sound.read (sound : Sound registry history peer)
    (fit : ∀ reply ∈ replies history, Fits Header.protocolLimit reply)
    (delivered : peer.toClient.written <+: Writer.content (replies history)) (bytes : Bytes) :
    SoundAfter registry history (peer.read bytes, ([] : List (Happening η))) := by
  unfold Peer.read
  split
  · rename_i possible
    obtain ⟨running, next⟩ := possible
    have received := sound.reading (by rw [running]; nofun)
    rcases Reassembly.push_of_received received bytes with
        ⟨-, fault, stopped⟩ | ⟨frames, pushed, found, received'⟩
    -- the reader ends, which fails calls but shows nothing new
    · have quiet := Link.quiet_endReader
        { peer.link with reassembly := (peer.link.reassembly.push bytes).2 }
      have ended := Link.reader_endReader
        { peer.link with reassembly := (peer.link.reassembly.push bytes).2 }
      rw [Link.read_of_error running stopped]
      refine sound.still (quiet.streams _ _ sound.streams) ?_ ?_
        (quiet.client.mono fun _ _ failure => answered_of_failed failure)
      · intro p
        dsimp only
        exact Nat.le_of_eq (by rw [quiet.waiting])
      · intro reading
        exact absurd ended reading
    · have sent : ∀ frame ∈ frames, frame ∈ replies history := by
        intro frame present
        -- what was parsed is a front of what the server has written
        have here : peer.toClient.read ++ bytes <+: peer.toClient.written := by
          rw [← Wire.written_advance next]
          exact List.prefix_append _ _
        have read : (parse peer.link.client.maxPayload (peer.toClient.read ++ bytes)).frames <+:
            replies history := prefix_frames_parse fit (here.trans delivered)
        apply read.subset
        rw [found]
        exact List.mem_append_right _ present
      have keeps : Link.Keeps (Answered history) _ _ := Link.keeps_receiveAll
        { peer.link with reassembly := (peer.link.reassembly.push bytes).2 }
        fun frame present success => ⟨frame, sent frame present, rfl, success, rfl⟩
      rw [Link.read_of_ok running pushed]
      refine sound.still (keeps.streams _ _ sound.streams) ?_ ?_ keeps.client
      · intro p
        dsimp only
        exact Nat.le_of_eq (by rw [keeps.waiting])
      · intro _
        dsimp only
        rw [keeps.reassembly]
        exact received'
  · exact sound.still sound.streams (fun _ => Nat.le_refl _) sound.reading (.refl _)

lemma Sound.step (sound : Sound registry history peer)
    (fit : ∀ reply ∈ replies history, Fits Header.protocolLimit reply)
    (delivered : peer.toClient.written <+: Writer.content (replies history))
    (event : Event κ) : SoundAfter registry history (peer.step event) := by
  cases event with
  | offer xid => exact sound.offer xid
  | unsent xid e => exact sound.unsent xid e
  | link event =>
    cases event with
    | issue request callback => exact sound.issue request callback
    | resume => exact sound.resume
    | read bytes => exact sound.read fit delivered bytes
    | sinkAccepts n => exact sound.write n
    | abandon | startReader | streamEnded | deliver | closeNext | close | dropTasks | collect
    | sinkFails | flushed => exact sound.quiet (peer.link.quiet_step trivial)

/-! ## What the server sees of it -/

/-- A client issues calls and sends requests; everything else is up to the server. -/
theorem seen_step {event : Event κ} {happening : Happening η}
    (seen : happening ∈ (peer.step event).2) :
    (∃ xid request callback, event = .link (.issue request callback) ∧
      happening = .issued xid request) ∨ ∃ frame, happening = .requested frame := by
  cases event with
  | offer xid =>
    unfold step Peer.offer at seen
    dsimp only at seen
    split at seen
    · cases seen
    · split at seen
      · cases seen
      · exact Or.inr ⟨_, List.mem_singleton.mp seen⟩
      · cases seen
  | unsent xid e => cases seen
  | link event =>
    cases event with
    | issue request callback =>
      obtain ⟨xid, -, rfl⟩ := List.mem_map.mp seen
      exact Or.inl ⟨xid, request, callback, rfl, rfl⟩
    | resume =>
      unfold step Peer.resume at seen
      dsimp only at seen
      split at seen
      · cases seen
      · dsimp only at seen
        split at seen
        · exact Or.inr ⟨_, List.mem_singleton.mp seen⟩
        · cases seen
    | read | sinkAccepts | abandon | startReader | streamEnded | deliver | closeNext | close
    | dropTasks | collect | sinkFails | flushed => cases seen

/-- The client neither reads for the server nor writes for it. -/
theorem wires_step (peer : Peer κ) (event : Event κ) :
    (peer.step event : _ × List (Happening η)).1.toServer.read = peer.toServer.read ∧
      (peer.step event : _ × List (Happening η)).1.toClient.written =
        peer.toClient.written := by
  cases event with
  | offer xid =>
    unfold step Peer.offer
    dsimp only
    split
    · exact ⟨rfl, rfl⟩
    · split <;> exact ⟨rfl, rfl⟩
  | unsent xid e =>
    unfold step Peer.unsent
    dsimp only
    split <;> exact ⟨rfl, rfl⟩
  | link event =>
    cases event with
    | resume =>
      unfold step Peer.resume
      dsimp only
      split <;> exact ⟨rfl, rfl⟩
    | read bytes =>
      unfold step Peer.read
      dsimp only
      split
      · rename_i possible
        exact ⟨rfl, Wire.written_advance possible.2⟩
      · exact ⟨rfl, rfl⟩
    | issue | sinkAccepts | abandon | startReader | streamEnded | deliver | closeNext | close
    | dropTasks | collect | sinkFails | flushed => exact ⟨rfl, rfl⟩

end

end Peer

end RemoteCall
