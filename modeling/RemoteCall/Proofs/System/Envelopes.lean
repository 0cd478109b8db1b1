import RemoteCall.Proofs.Client.Issuing
import RemoteCall.Proofs.Server.Replies

/-!
# Envelopes up to the size limit

An envelope whose payload is longer than `Header.protocolLimit` is written without wrapping and
refused when it is read.  That no such envelope is ever written is not decided by the envelope.  The
settings keep the limit of a client or a server below this line, and both ends compare the length of
an encoding with their limit before they make a frame.  `Frame.Arrives` is what this comes to for a
frame; it holds of every request that a client hands to its writer (`Threaded.MadeBy.arrives`) and
of every reply that a server makes (`Registration.arrives_answer`).

## Where frames come from

A client makes a frame in one place, when a call is issued, and it is handed to the writer by
whichever thread issued the call, at any later time.  The run of the threads remembers where a frame
was made (`Threaded.MadeBy`), so the comparison that was done there is still known when the frame is
written.  A server queues answers and the refusals of calls that nobody handles; the run of its
connections shows every frame that is queued, and `Racing.arrives_of_queued` looks at where it came
from.

The size of an envelope counts the bytes after itself, twelve of the header and the payload, and it
is signed where it is read.  The size of a payload that is too long reads as a negative number, and
every size below twelve is refused.

## Main statements

* `envelopes_exact` — both sides of the codec, and the frames of clients and servers.
-/

namespace RemoteCall

/-! ## Frames -/

/-- A frame reaches a peer with the given limit as it was made. -/
structure Frame.Arrives (limit : UInt32) (frame : Frame) : Prop where
  /-- The length of the payload was not cut to a word. -/
  announced : frame.header.payloadLength.toNat = frame.payload.length
  /-- The size is more than that by twelve, whether it is read as an unsigned or a signed word. -/
  size : frame.header.sizeField.toNat = frame.payload.length + 12
  signed : Header.sizeAt frame.encode = frame.payload.length + 12
  /-- The envelope is read back, from the frame and from whatever follows it. -/
  decoded : ∀ more, Header.decode (frame.encode ++ more) = .ok (some frame.header)
  /-- The peer hands on the frame, in whichever pieces it comes. -/
  accepted : ∀ pieces : List Bytes, pieces.flatten = frame.encode →
    ((Reassembly.fresh limit).pushAll pieces).1 = ([frame], none)

lemma Frame.arrives_of_fits {limit : UInt32} {frame : Frame} (fits : Fits limit frame) :
    Arrives limit frame := by
  have onWire := payloadLength_le fits
  have bound : frame.header.payloadLength.toNat ≤ 2147483635 := UInt32.le_iff_toNat_le.mp onWire
  constructor
  case announced => exact fits.announced
  case size => rw [Header.toNat_sizeField (by omega), fits.announced]
  case signed =>
    rw [← fits.announced]
    exact (Header.decode_encode_append onWire frame.payload).2
  case decoded =>
    intro more
    unfold encode
    rw [List.append_assoc]
    exact (Header.decode_encode_append onWire _).1
  case accepted =>
    intro pieces whole
    refine Reassembly.pushAll_of_fits (fun other among => ?_) ?_
    · rw [List.mem_singleton.mp among]
      exact fits
    · rw [whole, List.flatMap_singleton]

/-! ## Requests and replies -/

lemma Frame.arrives_errorReply (limit : UInt32) (xid : Int64) (status : Status) :
    Arrives limit (.errorReply xid status) :=
  arrives_of_fits (fits_ofPayload xid status (Nat.zero_le _) (Nat.zero_le _))

/-- Arguments over the limit are refused, so every request that is made is within it. -/
theorem Threaded.MadeBy.arrives {κ : Type} {start : Threaded κ} {events : List (Event κ)}
    {frame : Frame} (made : MadeBy start events frame)
    (onWire : start.client.maxPayload ≤ Header.protocolLimit) :
    frame.Arrives start.client.maxPayload := by
  obtain ⟨before, request, callback, after, arguments, -, encoded, rfl⟩ := made
  exact Frame.arrives_of_fits (Request.fits_of_encode encoded onWire (UInt32.le_refl _) _)

lemma Server.create_of_validate {η : Type} (registry : Registry) {settings : ServerSettings}
    (valid : settings.validate = .ok ()) :
    ∃ server : Server η, Server.create registry settings = .ok server := by
  unfold create
  rw [valid]
  exact ⟨_, rfl⟩

section

variable {η : Type} [Handles η] {limit : UInt32}

/-- Results over the limit are not sent, so every answer is within it. -/
theorem Registration.arrives_answer (onWire : limit ≤ Header.protocolLimit)
    (registration : Registration η) (registry : Registry) (xid : Int64) (payload : Bytes) :
    (registration.answer registry limit xid payload).1.Arrives limit := by
  unfold answer
  split
  · exact Frame.arrives_errorReply limit xid _
  · rename_i args decoded
    rcases registration.replyTo_cases registry limit xid (Handles.run registration.handler args)
      with ⟨results, bytes, -, encoded, reply⟩ | ⟨-, reply⟩
    · have within := (encodeResults?_eq_some_iff.mp encoded).2
      have bound := UInt32.le_iff_toNat_le.mp onWire
      dsimp only
      rw [reply]
      exact Frame.arrives_of_fits (Frame.fits_ofPayload _ _ within (by omega))
    · dsimp only
      rw [reply]
      exact Frame.arrives_errorReply limit xid _

/-- A server queues answers, and refusals of calls that nobody handles. -/
lemma Racing.arrives_of_queued {registry : Registry} {settings : ServerSettings}
    {server : Server η} (created : Server.create registry settings = .ok server)
    (events : List (Event η)) (c : Nat) {reply : Frame}
    (queued : reply ∈ queued (on c (run server events).2)) :
    reply.Arrives settings.maxPayload := by
  obtain ⟨-, bounded, -⟩ := books_run created events c
  have answered : reply ∈ (looked (on c (run server events).2)).map
      (answerTo registry settings.maxPayload) :=
    List.count_pos_iff.mp (Nat.lt_of_lt_of_le (List.count_pos_iff.mpr queued) (bounded reply))
  obtain ⟨⟨request, found⟩, -, rfl⟩ := List.mem_map.mp answered
  cases found with
  | none => exact Frame.arrives_errorReply _ _ _
  | some registration =>
    exact registration.arrives_answer (Server.onWire_of_create created) registry request.xid
      request.payload

end

/-- An envelope is read back exactly if its payload is within the limit of the protocol, and is
refused above it.  Of sixteen bytes those are refused whose size is below twelve; the others are the
bytes of the envelope that they are read as.  Under valid settings, every request that a client
hands to its writer and every answer of a server, in particular every reply that it queues, reaches
a peer with the same limit under its transaction ID and as it was made. -/
theorem envelopes_exact :
    -- From the envelope to the bytes.
    (∀ header : Header, header.payloadLength.toNat ≤ 2 ^ 32 - 13 →
      (Header.decode header.encode = .ok (some header) ↔
        header.payloadLength ≤ Header.protocolLimit) ∧
      (Header.protocolLimit < header.payloadLength →
        ∃ size, Header.decode header.encode = .error (.undersized size))) ∧
    -- From the bytes to the envelope.
    (∀ bytes : Bytes, Header.width ≤ bytes.length →
      ((∃ fault, Header.decode bytes = .error fault) ↔ Header.sizeAt bytes < 12) ∧
      (12 ≤ Header.sizeAt bytes → ∃ header, Header.decode bytes = .ok (some header) ∧
        header.encode = bytes.take Header.width ∧
        (header.payloadLength.toNat : Int) = Header.sizeAt bytes - 12)) ∧
    -- The requests of a client.
    (∀ (κ : Type) (registry : Registry) (settings : ClientSettings), settings.validate = .ok () →
      ∀ events : List (Threaded.Event κ),
        ∀ frame ∈ Threaded.transmitted
            ((Threaded.connected registry settings.maxPayload).run events).2,
          Threaded.MadeBy (Threaded.connected registry settings.maxPayload) events frame ∧
            frame.Arrives settings.maxPayload) ∧
    -- The replies of a server.
    (∀ (η : Type) [Handles η] (registry : Registry) (settings : ServerSettings),
      settings.validate = .ok () →
        (∀ (registration : Registration η) (xid : Int64) (payload : Bytes),
          (registration.answer registry settings.maxPayload xid payload).1.xid = xid ∧
            (registration.answer registry settings.maxPayload xid payload).1.Arrives
              settings.maxPayload) ∧
        ∃ server : Server η, Server.create registry settings = .ok server ∧
          ∀ (events : List (Racing.Event η)) (c : Nat),
            ∀ reply ∈ Racing.queued (Racing.on c (Racing.run server events).2),
              reply.Arrives settings.maxPayload) := by
  refine ⟨fun header room => ⟨Header.decode_encode_iff room, Header.decode_encode_of_lt room⟩,
    fun bytes => Header.decode_exact, ?_, ?_⟩
  · intro κ registry settings valid events frame sent
    have made := Threaded.madeBy_of_transmitted rfl sent
    exact ⟨made, made.arrives (le_of_checkConnection valid)⟩
  · intro η _ registry settings valid
    obtain ⟨server, created⟩ : ∃ server : Server η, Server.create registry settings = .ok server :=
      Server.create_of_validate registry valid
    have onWire := Server.onWire_of_create created
    refine ⟨fun registration xid payload => ⟨Racing.xid_answer registration xid payload,
      registration.arrives_answer onWire registry xid payload⟩, server, created, ?_⟩
    intro events c reply queued
    exact Racing.arrives_of_queued created events c queued

end RemoteCall
