import RemoteCall.Proofs.Client.Reading
import RemoteCall.Proofs.Server.Replies

/-!
# Frames before a break

A peer sends some frames and then an envelope that breaks framing.  The read that completes this
envelope is the last.  A frame is handed on exactly if it ends before that read (`frames_handed`):
the client resolves the calls of the replies that do, and the server looks up the requests that do.

So frames that arrive in one read with the invalid envelope are lost, and how the stream is cut into
reads tells which calls succeed (`frame_lost`).  Neither peer has a way to find out: where a read
ends is up to the network.

## The proof

Everything is decided by the parse of the stream.  `Breaks` says that the parse ends in an invalid
envelope after the given frames.  Of the reads there is one with which the parse becomes invalid
(`exists_split`); it has the sixteenth byte of the envelope, and the frames of the reads before it
are those that end there (`handed_iff`).  What a client and a connection do with reads is known from
their own runs, in terms of the same parse, so the two sides are only put together here.

## Main statements

* `frames_handed` — what is handed on of a stream that breaks, on the client and on the server.
* `frames_handed_apart` — a reply that comes in a read of its own resolves its call.
* `frame_lost` — a reply or a request that comes in one read with the invalid envelope is lost.
-/

namespace RemoteCall

open RemoteCall.Frame

/-- Pieces of a stream of frames that is continued by an invalid envelope. -/
structure Breaks (limit : UInt32) (frames : List Frame) (tail : Bytes) (pieces : List Bytes) :
    Prop where
  fit : ∀ frame ∈ frames, Fits limit frame
  envelope : 16 ≤ tail.length
  invalid : announced? limit tail = none
  stream : pieces.flatten = frames.flatMap encode ++ tail

/-- Nothing of the read that breaks framing is looked up. -/
lemma Connection.Intake.looked_of_broken {η : Type} {limit : UInt32}
    {history : List (Racing.Entry η)} {connection : Connection η}
    (intake : connection.Intake limit history) {before later : List Bytes} {piece : Bytes}
    (read : Racing.reads history = before ++ piece :: later)
    (broken : (parse limit (before.flatten ++ piece)).invalid = true) :
    (Racing.looked history).map Prod.fst = (parse limit before.flatten).frames := by
  have stays : ∀ more, (parse limit (before ++ piece :: more).flatten).invalid = true := by
    intro more
    rw [Reassembly.flatten_split, parse_append_of_invalid broken]
  obtain ⟨-, valid, looked⟩ := intake.broken (by rw [read]; exact stays later)
  have last : later = [] := by
    cases later with
    | nil => rfl
    | cons next others =>
      rw [read, List.dropLast_append_cons, List.dropLast_cons_cons, stays] at valid
      cases valid
  rw [looked, read, last, List.dropLast_concat]

namespace Breaks

variable {limit : UInt32} {frames : List Frame} {tail : Bytes} {pieces : List Bytes}

lemma parse_eq (breaks : Breaks limit frames tail pieces) :
    parse limit pieces.flatten = ⟨frames, tail, true⟩ := by
  rw [breaks.stream, parse_flatMap_append breaks.fit,
    parse_of_invalid breaks.envelope breaks.invalid, List.append_nil]

/-- The read that breaks framing has the sixteenth byte of the invalid envelope. -/
lemma exists_split (breaks : Breaks limit frames tail pieces) :
    ∃ before piece later, pieces = before ++ piece :: later ∧
      (parse limit before.flatten).invalid = false ∧
      (parse limit (before.flatten ++ piece)).invalid = true ∧
      before.flatten.length < (frames.flatMap encode).length + 16 ∧
      (frames.flatMap encode).length + 16 ≤ before.flatten.length + piece.length := by
  have whole := breaks.parse_eq
  rcases Reassembly.pushAll_of_received (Reassembly.received_fresh limit) pieces with
      ⟨-, -, received⟩ | ⟨-, before, piece, later, rfl, -, -, valid, broken⟩
  · have valid := received.valid
    rw [List.nil_append, whole] at valid
    cases valid
  · rw [List.nil_append] at valid broken
    have start : (parse limit (before.flatten ++ piece)).invalidAt =
        some (frames.flatMap encode).length := by
      rw [← invalidAt_append_of_invalid broken later.flatten, ← Reassembly.flatten_split, whole,
        length_flatMap_encode]
      rfl
    exact ⟨before, piece, later, rfl, valid, broken, invalidAt_append valid start⟩

/-- The frames of the reads before the break are those that end there. -/
lemma handed_iff (breaks : Breaks limit frames tail pieces) {before : List Bytes}
    (first : before <+: pieces) (valid : (parse limit before.flatten).invalid = false) :
    (parse limit before.flatten).frames <+: frames ∧
      ∀ front, front <+: frames → (front <+: (parse limit before.flatten).frames ↔
        (front.flatMap encode).length ≤ before.flatten.length) := by
  obtain ⟨later, rfl⟩ := first
  have whole := breaks.parse_eq
  have stream := breaks.stream
  rw [List.flatten_append] at whole stream
  rw [parse_append valid] at whole
  have all := congrArg Parse.frames whole
  refine ⟨⟨_, all⟩, ?_⟩
  rintro front ⟨others, rfl⟩
  constructor
  · rintro ⟨more, found⟩
    have bytes := congrArg List.length (encode_parse limit before.flatten)
    rw [← found, List.flatMap_append, List.length_append, List.length_append] at bytes
    omega
  · intro within
    rw [List.flatMap_append, List.append_assoc] at stream
    obtain ⟨behind, split⟩ : front.flatMap encode <+: before.flatten :=
      List.prefix_of_prefix_length_le ⟨_, rfl⟩ ⟨_, stream⟩ within
    have fit : ∀ frame ∈ front, Fits limit frame := fun frame among =>
      breaks.fit frame (List.mem_append_left others among)
    rw [← split, parse_flatMap_append fit]
    exact List.prefix_append _ _

/-- The frames that end before the read with the sixteenth byte of the invalid envelope are handed
on, and no others.  Then the connection is dropped.  So all frames are handed on exactly if none of
them ends in that read.

On a client, a call that waits is resolved with its reply if this was handed on.  On a server, the
requests that were handed on are those that are looked up. -/
theorem frames_handed (breaks : Breaks limit frames tail pieces) :
    ∃ before piece later handed, pieces = before ++ piece :: later ∧
      before.flatten.length < (frames.flatMap encode).length + 16 ∧
      (frames.flatMap encode).length + 16 ≤ before.flatten.length + piece.length ∧
      handed <+: frames ∧
      (∀ front, front <+: frames →
        (front <+: handed ↔ (front.flatMap encode).length ≤ before.flatten.length)) ∧
      (∀ (κ : Type) (link : Link κ), link.reader = .running → link.reassembly = .fresh limit →
        (link.run (pieces.map .read)).1.client =
            (link.client.run (handed.map .receive ++ [.connectionLost])).1 ∧
          ∀ xid, link.client.Awaits xid →
            (link.run (pieces.map .read)).1.client.resolution? xid =
              some (Client.outcome handed xid)) ∧
      ∀ (η : Type) [Handles η] (registry : Registry) (settings : ServerSettings)
        (server : Server η) (events : List (Racing.Event η)) (c : Nat),
        settings.maxPayload = limit → Server.create registry settings = .ok server →
        let history := Racing.on c (Racing.run server events).2
        Racing.reads history <+: pieces → before.length < (Racing.reads history).length →
          (Racing.looked history).map Prod.fst = handed := by
  obtain ⟨before, piece, later, rfl, valid, broken, reached, complete⟩ := breaks.exists_split
  obtain ⟨among, ends⟩ := breaks.handed_iff (List.prefix_append _ _) valid
  refine ⟨before, piece, later, (parse limit before.flatten).frames, rfl, reached, complete,
    among, ends, ?_, ?_⟩
  · intro κ link running fresh
    have reading : Link.Reading limit [] link := ⟨running, fresh ▸ Reassembly.received_fresh limit⟩
    have ran := Link.run_broken reading valid broken later
    refine ⟨ran, ?_⟩
    intro xid awaits
    rw [ran]
    exact Client.resolution?_run awaits _
  · rintro η _ registry settings server events c rfl created history ⟨unread, cut⟩ taken
    -- The reads are those before the break, the one that breaks framing, and maybe others.
    obtain ⟨others, read⟩ : ∃ others, Racing.reads history = before ++ piece :: others := by
      rcases List.append_eq_append_iff.mp cut with ⟨front, split, -⟩ | ⟨more, split, last⟩
      · rw [split, List.length_append] at taken
        omega
      · cases more with
        | nil =>
          rw [split, List.append_nil] at taken
          omega
        | cons next others =>
          obtain ⟨rfl, -⟩ := List.cons.inj last
          exact ⟨others, split⟩
    have kept := Racing.kept_run created events
    cases found : (Racing.run server events).1.connection? c with
    | none =>
      have silent : history = [] := kept.silent c found
      rw [silent] at taken
      cases taken
    | some connection => exact (kept.books c connection found).intake.looked_of_broken read broken

/-- The reply to the first call of a client. -/
def answer : Frame := .reply 1 Status.ok [42, 0, 0, 0]

/-- An envelope with a size that is too small. -/
def spoiled : Bytes := List.replicate 16 0

lemma breaks_spoiled {frame : Frame} (fits : Fits limit frame)
    (stream : pieces.flatten = frame.encode ++ spoiled) : Breaks limit [frame] spoiled pieces := by
  refine ⟨?_, Nat.le_refl 16, rfl, ?_⟩
  · intro frame among
    rw [List.mem_singleton.mp among]
    exact fits
  · rw [stream, List.flatMap_singleton]

/-- A client that waits for the reply to its first call. -/
def waiting : Link Unit :=
  (Link.run (.connected .empty {}) [.startReader, .issue ⟨7, [], [], [.int32]⟩ none]).1

lemma awaits_waiting : waiting.client.Awaits 1 :=
  ⟨⟨⟨1, none⟩, List.mem_singleton_self _, rfl⟩, rfl, rfl⟩

/-- The reply comes in a read of its own. -/
theorem frames_handed_apart : Breaks Header.defaultLimit [answer] spoiled
      [answer.encode, spoiled] ∧
    (waiting.run ([answer.encode, spoiled].map .read)).1.client.resolution? 1 =
      some ⟨Status.ok, some [42, 0, 0, 0]⟩ := by
  have breaks : Breaks Header.defaultLimit [answer] spoiled [answer.encode, spoiled] :=
    breaks_spoiled ⟨by decide, by decide, by decide⟩ rfl
  obtain ⟨before, piece, later, handed, split, reached, complete, among, ends, onClient, -⟩ :=
    frames_handed breaks
  obtain ⟨-, resolved⟩ := onClient Unit waiting rfl rfl
  -- The reply has come before the envelope is complete.
  have ended : ([answer].flatMap encode).length ≤ before.flatten.length := by
    cases before with
    | nil =>
      obtain ⟨rfl, -⟩ := List.cons.inj split
      exact absurd complete (by decide)
    | cons first rest =>
      obtain ⟨rfl, -⟩ := List.cons.inj split
      rw [List.flatten_cons, List.length_append]
      exact Nat.le_add_right _ _
  have all : handed = [answer] :=
    among.eq_of_length_le ((ends [answer] List.prefix_rfl).mpr ended).length_le
  refine ⟨breaks, ?_⟩
  rw [resolved 1 awaits_waiting, all]
  rfl

/-- A request that a server reads together with an invalid envelope. -/
def misread : List (Racing.Event Racing.Trial) :=
  [.act (.start "here"), .act (.accept 0),
    .act (.receive 0 ((Frame.request 1 7 []).encode ++ spoiled)), .act (.lookUp 0)]

/-- A frame that comes in one read with the envelope is lost.  If it is a reply, its call fails
though it succeeds if they come apart; if it is a request, it is not looked up. -/
theorem frame_lost :
    Breaks Header.defaultLimit [answer] spoiled [answer.encode ++ spoiled] ∧
      waiting.client.Awaits 1 ∧
      (waiting.run [.read (answer.encode ++ spoiled)]).1.client.resolution? 1 =
        some ⟨Status.connectionReset, none⟩ ∧
      (waiting.run [.read answer.encode, .read spoiled]).1.client.resolution? 1 =
        some ⟨Status.ok, some [42, 0, 0, 0]⟩ ∧
      Breaks Header.defaultLimit [.request 1 7 []] spoiled
        [(Frame.request 1 7 []).encode ++ spoiled] ∧
      ∃ server : Server Racing.Trial, Server.create .empty {} = .ok server ∧
        Racing.reads (Racing.on 0 (Racing.run server misread).2) =
          [(Frame.request 1 7 []).encode ++ spoiled] ∧
        Racing.looked (Racing.on 0 (Racing.run server misread).2) = [] ∧
        ((Racing.run server misread).1.connection? 0).any (·.isServed) = false := by
  have reply : Breaks Header.defaultLimit [answer] spoiled [answer.encode ++ spoiled] :=
    breaks_spoiled ⟨by decide, by decide, by decide⟩ (List.append_nil _)
  have request : Breaks Header.defaultLimit [.request 1 7 []] spoiled
      [(Frame.request 1 7 []).encode ++ spoiled] :=
    breaks_spoiled ⟨by decide, by decide, by decide⟩ (List.append_nil _)
  refine ⟨reply, awaits_waiting, ?_, ?_, request, _, rfl, ?_, ?_, ?_⟩ <;> cbv

end Breaks

end RemoteCall
