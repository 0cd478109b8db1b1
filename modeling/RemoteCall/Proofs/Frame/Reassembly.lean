import RemoteCall.Frame.Reassembly
import RemoteCall.Proofs.Frame.Parse

/-!
# Reassembly is the parse of the stream

A reassembly sees a stream in pieces and keeps an envelope apart from the payload that it waits for;
`Frame.parse` sees the whole stream at once.  `Received` says what is kept after some bytes: exactly
what the parse of these bytes leaves.  One push takes it to the parse of the longer stream
(`push_of_received`), so any cut of a stream into pieces gives the frames of its parse and breaks
where the parse does (`pushAll_exact`).  A reassembly that has seen some bytes hands on the frames
that the pieces complete, up to the one that breaks framing (`pushAll_sound`).

## The proof

An envelope that is waited on is put back in front of the bytes that are kept (`held`).  A search
that starts with it finds what a search finds that starts with those bytes (`extract_some`), so
there is one kind of search to compare with the parse, and this is by the recursion of the parse
(`extract_agrees`).

The two differ when the stream breaks.  The frames in front of the invalid envelope are in the
parse; the push that finds the envelope returns the fault and no frames.  So `Agrees` compares what
is kept only where nothing was found wrong, and what the pushes hand on together is the parse of the
pieces before the one that fails.

## Main statements

* `push_of_received` — what a push returns and keeps.
* `pushAll_exact` — a stream in pieces is read as the whole stream is.
* `pushAll_sound` — the frames of a stream in pieces.
-/

namespace RemoteCall

namespace Reassembly

open RemoteCall.Frame Header

/-- The bytes that are kept: the envelope in progress, once it is complete, and those behind it. -/
def held (awaited : Option Header) (buffered : Bytes) : Bytes :=
  (awaited.map Header.encode).getD [] ++ buffered

/-- An envelope that can be waited on: it was found valid, and it announces a payload. -/
structure Awaitable (limit : UInt32) (header : Header) : Prop where
  nonempty : header.payloadLength ≠ 0
  within : header.payloadLength.toNat ≤ limit.toNat
  onWire : header.payloadLength ≤ protocolLimit

/-- What is kept of a stream that has not broken framing. -/
structure Received (limit : UInt32) (bytes : Bytes) (reassembly : Reassembly) : Prop where
  limit_eq : reassembly.limit = limit
  valid : (parse limit bytes).invalid = false
  held_eq : held reassembly.awaited reassembly.buffered = (parse limit bytes).rest
  awaitable : ∀ header, reassembly.awaited = some header → Awaitable limit header

lemma received_fresh (limit : UInt32) : Received limit [] (fresh limit) := by
  refine ⟨rfl, ?_, ?_, ?_⟩
  · rw [parse_nil]
  · rw [parse_nil]
    rfl
  · intro header waits
    cases waits

/-! ## One search -/

lemma validate_eq_ok {limit : UInt32} {header : Header}
    (within : header.payloadLength.toNat ≤ limit.toNat) : header.validate limit = .ok () := by
  unfold validate
  rw [if_neg]
  rw [UInt32.lt_iff_toNat_lt]
  omega

/-- Waiting on an envelope is finding it again in front of the kept bytes. -/
lemma extract_some {limit : UInt32} {header : Header} (waits : Awaitable limit header)
    (bytes : Bytes) :
    extract limit (some header) bytes = extract limit none (header.encode ++ bytes) := by
  have length : ¬ (header.encode ++ bytes).length < width := by
    rw [List.length_append, Header.length_encode]
    omega
  have read := (decode_encode_append waits.onWire bytes).1
  have behind : (header.encode ++ bytes).drop width = bytes := by
    rw [List.drop_append_of_le_length (by simp), List.drop_of_length_le (by simp),
      List.nil_append]
  rw [extract.eq_def limit none]
  simp only [dif_neg length, read, validate_eq_ok waits.within, if_neg waits.nonempty, behind]

lemma extract_of_short {limit : UInt32} {bytes : Bytes} (short : bytes.length < 16) :
    extract limit none bytes = ⟨[], none, none, bytes⟩ := by
  rw [extract.eq_def]
  exact dif_pos short

lemma extract_of_invalid {limit : UInt32} {bytes : Bytes} (envelope : 16 ≤ bytes.length)
    (invalid : announced? limit bytes = none) :
    ∃ fault, extract limit none bytes = ⟨[], some fault, none, bytes⟩ := by
  have length : ¬ bytes.length < width := Nat.not_lt.mpr envelope
  have read := decode_of_le_length envelope
  rw [extract.eq_def]
  unfold announced? at invalid
  by_cases small : sizeAt bytes < 12
  · rw [if_pos small] at read
    simp only [dif_neg length, read]
    exact ⟨_, rfl⟩
  · rw [if_neg small] at read
    have size := toNat_size_sub (Int.not_lt.mp small)
    have above : limit < (LittleEndian.readInt32 (bytes.take 4)).toUInt32 - overhead := by
      rw [UInt32.lt_iff_toNat_lt]
      split at invalid
      · cases invalid
      · omega
    have refused : ∀ header : Header, header.payloadLength =
        (LittleEndian.readInt32 (bytes.take 4)).toUInt32 - overhead →
        header.validate limit = .error (.oversized header.payloadLength limit) := by
      intro header announced
      refine if_pos ?_
      rw [announced]
      exact above
    simp only [dif_neg length, read, refused]
    exact ⟨_, rfl⟩

/-- Behind a valid envelope the search goes on in the payload, even if that is empty. -/
lemma extract_of_announced {limit : UInt32} {bytes : Bytes} {length : Nat}
    (announces : announced? limit bytes = some length) (envelope : 16 ≤ bytes.length) :
    extract limit none bytes =
      if length = 0 then
        (extract limit none (bytes.drop 16)).after ⟨frontHeader length bytes, []⟩
      else extract limit (some (frontHeader length bytes)) (bytes.drop 16) := by
  obtain ⟨read, word, within, -⟩ := decode_of_announced announces envelope
  have complete : ¬ bytes.length < width := Nat.not_lt.mpr envelope
  have valid : (frontHeader length bytes).validate limit = .ok () := validate_eq_ok (by omega)
  have empty : (frontHeader length bytes).payloadLength = 0 ↔ length = 0 := by
    rw [← UInt32.toNat_inj, word]
    rfl
  rw [extract.eq_def]
  simp only [dif_neg complete, read, valid]
  by_cases zero : length = 0
  · rw [if_pos zero, if_pos (empty.mpr zero)]
    rfl
  · rw [if_neg zero, if_neg (fun h => zero (empty.mp h))]
    rfl

lemma extract_of_incomplete {limit : UInt32} {bytes : Bytes} {length : Nat}
    (announces : announced? limit bytes = some length) (envelope : 16 ≤ bytes.length)
    (short : bytes.length < 16 + length) :
    extract limit none bytes = ⟨[], none, some (frontHeader length bytes), bytes.drop 16⟩ := by
  obtain ⟨-, word, -, -⟩ := decode_of_announced announces envelope
  rw [extract_of_announced announces envelope, if_neg (by omega), extract.eq_def]
  refine if_pos ?_
  rw [word, List.length_take, List.length_drop]
  omega

lemma extract_of_complete {limit : UInt32} {bytes : Bytes} {length : Nat}
    (announces : announced? limit bytes = some length) (complete : 16 + length ≤ bytes.length) :
    extract limit none bytes =
      (extract limit none (bytes.drop (16 + length))).after (frontFrame length bytes) := by
  have envelope : 16 ≤ bytes.length := by omega
  obtain ⟨-, word, -, -⟩ := decode_of_announced announces envelope
  have frame : frontFrame length bytes =
      ⟨frontHeader length bytes, (bytes.drop 16).take length⟩ := by
    rw [← header_frontFrame complete]
    rfl
  rw [extract_of_announced announces envelope, frame]
  by_cases zero : length = 0
  · subst zero
    rw [if_pos rfl]
    rfl
  · have taken : ¬ ((bytes.drop 16).take length).length < length := by
      rw [List.length_take, List.length_drop]
      omega
    rw [if_neg zero, extract.eq_def]
    simp only [word, if_neg taken, List.drop_drop]

/-- A search agrees with the parse, and unless it is stopped it keeps what the parse leaves. -/
structure Agrees (limit : UInt32) (found : Extraction) (parse : Parse) : Prop where
  frames : found.frames = parse.frames
  fault : found.fault.isSome = parse.invalid
  held_eq : parse.invalid = false → held found.awaited found.buffered = parse.rest
  awaitable : ∀ header, found.awaited = some header → Awaitable limit header

lemma Agrees.after {limit : UInt32} {found : Extraction} {parse : Parse} (frame : Frame)
    (agrees : Agrees limit found parse) : Agrees limit (found.after frame) (parse.after frame) := by
  refine ⟨?_, agrees.fault, agrees.held_eq, agrees.awaitable⟩
  show frame :: found.frames = frame :: parse.frames
  rw [agrees.frames]

lemma extract_agrees (limit : UInt32) (bytes : Bytes) :
    Agrees limit (extract limit none bytes) (parse limit bytes) := by
  fun_induction parse limit bytes with
  | case1 bytes short =>
    rw [extract_of_short short]
    exact ⟨rfl, rfl, fun _ => rfl, fun _ waits => by cases waits⟩
  | case2 bytes envelope invalid =>
    obtain ⟨fault, stopped⟩ := extract_of_invalid (Nat.not_lt.mp envelope) invalid
    rw [stopped]
    exact ⟨rfl, rfl, fun _ => by contradiction, fun _ waits => by cases waits⟩
  | case3 bytes envelope length announces short =>
    have envelope : 16 ≤ bytes.length := Nat.not_lt.mp envelope
    obtain ⟨read, word, within, onWire⟩ := decode_of_announced announces envelope
    rw [extract_of_incomplete announces envelope short]
    refine ⟨rfl, rfl, fun _ => ?_, ?_⟩
    · show (frontHeader length bytes).encode ++ bytes.drop 16 = bytes
      rw [(encode_of_decode read).2]
      exact List.take_append_drop _ _
    · intro header waits
      simp only [Option.some.injEq] at waits
      subst waits
      refine ⟨?_, by omega, by rw [UInt32.le_iff_toNat_le]; omega⟩
      intro zero
      rw [zero] at word
      have : (0 : UInt32).toNat = 0 := rfl
      omega
  | case4 bytes envelope length announces complete ih =>
    rw [extract_of_complete announces (Nat.not_lt.mp complete)]
    exact ih.after _

/-! ## Pushes -/

/-- A push searches the kept bytes and the piece, as if the envelope in progress were read again. -/
lemma push_agrees {limit : UInt32} {bytes : Bytes} {reassembly : Reassembly}
    (received : Received limit bytes reassembly) (piece : Bytes) :
    Agrees limit (extract reassembly.limit reassembly.awaited (reassembly.buffered ++ piece))
      (parse limit ((parse limit bytes).rest ++ piece)) := by
  have kept : extract limit reassembly.awaited (reassembly.buffered ++ piece) =
      extract limit none (held reassembly.awaited reassembly.buffered ++ piece) := by
    cases waits : reassembly.awaited with
    | none => rfl
    | some header =>
      rw [extract_some (received.awaitable header waits), ← List.append_assoc]
      rfl
  rw [received.limit_eq, kept, received.held_eq]
  exact extract_agrees _ _

/-- A push fails if the piece breaks the stream; otherwise it hands on the frames that the parse has
found since, and keeps what the parse leaves. -/
theorem push_of_received {limit : UInt32} {bytes : Bytes} {reassembly : Reassembly}
    (received : Received limit bytes reassembly) (piece : Bytes) :
    ((parse limit (bytes ++ piece)).invalid = true ∧
        ∃ fault, (reassembly.push piece).1 = .error fault) ∨
      ∃ frames, (reassembly.push piece).1 = .ok frames ∧
        (parse limit (bytes ++ piece)).frames = (parse limit bytes).frames ++ frames ∧
        Received limit (bytes ++ piece) (reassembly.push piece).2 := by
  have agrees := push_agrees received piece
  have resumed := parse_append received.valid piece
  unfold push
  generalize extract reassembly.limit reassembly.awaited (reassembly.buffered ++ piece) = found
    at agrees
  cases stopped : found.fault with
  | some fault =>
    have broken := agrees.fault
    rw [stopped] at broken
    refine Or.inl ⟨?_, fault, by simp only [stopped]⟩
    rw [resumed]
    exact broken.symm
  | none =>
    have intact := agrees.fault
    rw [stopped] at intact
    refine Or.inr ⟨found.frames, by simp only [stopped], ?_, ?_⟩
    · rw [resumed, agrees.frames]
    · refine ⟨received.limit_eq, ?_, ?_, agrees.awaitable⟩
      · rw [resumed]
        exact intact.symm
      · rw [resumed]
        exact agrees.held_eq intact.symm

lemma flatten_split (before : List Bytes) (piece : Bytes) (later : List Bytes) :
    (before ++ piece :: later).flatten = before.flatten ++ piece ++ later.flatten := by
  rw [List.flatten_append, List.flatten_cons, List.append_assoc]

lemma pushAll_cons_of_error {reassembly : Reassembly} {piece : Bytes} {fault : FrameFault}
    (failed : (reassembly.push piece).1 = .error fault) (rest : List Bytes) :
    (reassembly.pushAll (piece :: rest)).1 = ([], some fault) := by
  rw [pushAll]
  generalize reassembly.push piece = pushed at failed
  obtain ⟨result, next⟩ := pushed
  have error : result = .error fault := failed
  rw [error]

lemma pushAll_cons_of_ok {reassembly : Reassembly} {piece : Bytes} {frames : List Frame}
    (pushed : (reassembly.push piece).1 = .ok frames) (rest : List Bytes) :
    reassembly.pushAll (piece :: rest) =
      ((frames ++ ((reassembly.push piece).2.pushAll rest).1.1,
          ((reassembly.push piece).2.pushAll rest).1.2),
        ((reassembly.push piece).2.pushAll rest).2) := by
  rw [pushAll]
  generalize reassembly.push piece = after at pushed
  obtain ⟨result, next⟩ := after
  have ok : result = .ok frames := pushed
  rw [ok]

/-- Pushes go on until one of them breaks the stream. -/
lemma pushAll_of_received {limit : UInt32} {bytes : Bytes} {reassembly : Reassembly}
    (received : Received limit bytes reassembly) (pieces : List Bytes) :
    ((reassembly.pushAll pieces).1.2 = none ∧
        (parse limit (bytes ++ pieces.flatten)).frames =
          (parse limit bytes).frames ++ (reassembly.pushAll pieces).1.1 ∧
        Received limit (bytes ++ pieces.flatten) (reassembly.pushAll pieces).2) ∨
      ((reassembly.pushAll pieces).1.2.isSome = true ∧
        ∃ before piece later, pieces = before ++ piece :: later ∧
          (reassembly.pushAll before).1.2 = none ∧
          (∃ fault, ((reassembly.pushAll before).2.push piece).1 = .error fault) ∧
          (parse limit (bytes ++ before.flatten)).invalid = false ∧
          (parse limit (bytes ++ before.flatten ++ piece)).invalid = true) := by
  -- on the pieces, from any state that has received the bytes so far
  induction pieces generalizing bytes reassembly with
  | nil =>
    refine Or.inl ⟨rfl, ?_, ?_⟩
    · rw [List.flatten_nil, List.append_nil]
      exact (List.append_nil _).symm
    · rw [List.flatten_nil, List.append_nil]
      exact received
  | cons piece rest ih =>
    rcases push_of_received received piece with
        ⟨broken, fault, failed⟩ | ⟨frames, pushed, found, received'⟩
    · refine Or.inr ⟨?_, [], piece, rest, rfl, rfl, ⟨fault, failed⟩, ?_, ?_⟩
      · rw [pushAll_cons_of_error failed]
        rfl
      · rw [List.flatten_nil, List.append_nil]
        exact received.valid
      · rw [List.flatten_nil, List.append_nil]
        exact broken
    · rw [pushAll_cons_of_ok pushed]
      obtain ⟨passed, frames', received''⟩ |
          ⟨failed, before, last, later, rfl, passed, fault, valid, broken⟩ := ih received'
      · rw [List.append_assoc, ← List.flatten_cons] at frames' received''
        refine Or.inl ⟨passed, ?_, received''⟩
        rw [frames', found, List.append_assoc]
      · rw [List.append_assoc bytes piece, ← List.flatten_cons] at valid broken
        refine Or.inr ⟨failed, piece :: before, last, later, rfl, ?_, ?_, valid, broken⟩
        · rw [pushAll_cons_of_ok pushed]
          exact passed
        · rw [pushAll_cons_of_ok pushed]
          exact fault

/-- A stream in pieces is read as the whole stream is.  No push fails exactly if the parse meets no
invalid envelope, and otherwise the first that fails is the one with the sixteenth byte of that
envelope; after every push before it, the frames that were handed on are those of the parse so far,
and they and what is kept are the bytes so far. -/
theorem pushAll_exact (limit : UInt32) (pieces : List Bytes) :
    (((fresh limit).pushAll pieces).1.2 = none ↔
      (parse limit pieces.flatten).invalidAt = none) ∧
    (∀ start, (parse limit pieces.flatten).invalidAt = some start →
      ∃ before piece later, pieces = before ++ piece :: later ∧
        ((fresh limit).pushAll before).1.2 = none ∧
        (∃ fault, (((fresh limit).pushAll before).2.push piece).1 = .error fault) ∧
        before.flatten.length < start + 16 ∧
        start + 16 ≤ before.flatten.length + piece.length) ∧
    (∀ before later, pieces = before ++ later → ((fresh limit).pushAll before).1.2 = none →
      ((fresh limit).pushAll before).1.1 = (parse limit before.flatten).frames ∧
      before.flatten =
        (((fresh limit).pushAll before).1.1.flatMap fun frame =>
          (ofPayload frame.xid frame.header.tag frame.payload).encode) ++
        ((((fresh limit).pushAll before).2.awaited.map Header.encode).getD [] ++
          ((fresh limit).pushAll before).2.buffered)) := by
  -- The pushes either all pass, and the parse is valid, or one fails at which the parse breaks.
  have whole := pushAll_of_received (received_fresh limit) pieces
  simp only [List.nil_append] at whole
  refine ⟨?_, ?_, ?_⟩
  · rw [Parse.invalidAt_eq_none_iff]
    obtain ⟨passed, -, received⟩ |
        ⟨failed, before, piece, later, rfl, -, -, -, broken⟩ := whole
    · exact iff_of_true passed received.valid
    · refine iff_of_false (fun passed => ?_) (fun valid => ?_)
      · rw [passed] at failed
        cases failed
      · rw [flatten_split, parse_append_of_invalid broken] at valid
        cases valid
  · intro start breaks
    obtain ⟨-, -, received⟩ |
        ⟨-, before, piece, later, rfl, passed, failed, valid, broken⟩ := whole
    · rw [Parse.invalidAt_eq_none_iff.mpr received.valid] at breaks
      cases breaks
    · rw [flatten_split, invalidAt_append_of_invalid broken] at breaks
      exact ⟨before, piece, later, rfl, passed, failed, invalidAt_append valid breaks⟩
  -- What was handed on is encoded again, and what is held is the rest of the parse.
  · rintro before later rfl passed
    rcases pushAll_of_received (received_fresh limit) before with
        ⟨-, frames, received⟩ | ⟨failed, -⟩
    · rw [List.nil_append, parse_nil, List.nil_append] at frames
      rw [List.nil_append] at received
      have built : (((fresh limit).pushAll before).1.1.flatMap fun frame =>
          (ofPayload frame.xid frame.header.tag frame.payload).encode) =
          ((fresh limit).pushAll before).1.1.flatMap Frame.encode := by
        rw [List.flatMap_def, List.flatMap_def, List.map_congr_left]
        intro frame handed
        rw [← frames] at handed
        exact congrArg Frame.encode (ofPayload_eq (fits_of_mem_parse handed))
      refine ⟨frames.symm, ?_⟩
      rw [built]
      calc before.flatten
          = (parse limit before.flatten).frames.flatMap Frame.encode ++
              (parse limit before.flatten).rest := (encode_parse _ _).symm
        _ = _ := by rw [frames, ← received.held_eq]; rfl
    · rw [passed] at failed
      cases failed

/-- Frames within the limit are handed on whole and in order, however their bytes are cut. -/
lemma pushAll_of_fits {limit : UInt32} {frames : List Frame}
    (fit : ∀ frame ∈ frames, Fits limit frame) {pieces : List Bytes}
    (whole : pieces.flatten = frames.flatMap Frame.encode) :
    ((fresh limit).pushAll pieces).1 = (frames, none) := by
  have parsed : parse limit pieces.flatten = ⟨frames, [], false⟩ := by
    have front := parse_flatMap_append fit []
    rw [parse_nil, List.append_nil, List.append_nil, ← whole] at front
    exact front
  have pushed := pushAll_of_received (received_fresh limit) pieces
  simp only [List.nil_append] at pushed
  rcases pushed with ⟨passed, found, -⟩ | ⟨-, before, piece, later, rfl, -, -, -, broken⟩
  · rw [parsed, parse_nil, List.nil_append] at found
    exact Prod.ext found.symm passed
  · rw [flatten_split, parse_append_of_invalid broken] at parsed
    cases congrArg Parse.invalid parsed

/-! ## The frames of a stream in pieces -/

/-- The pieces that are read before one of them breaks framing, if some bytes were read before. -/
def sound (limit : UInt32) (bytes : Bytes) : List Bytes → List Bytes
  | [] => []
  | piece :: rest =>
    if (parse limit (bytes ++ piece)).invalid then []
    else piece :: sound limit (bytes ++ piece) rest

/-- Whether some piece breaks framing. -/
def breaks (limit : UInt32) (bytes : Bytes) (pieces : List Bytes) : Bool :=
  decide (sound limit bytes pieces ≠ pieces)

/-- The frames that are complete with some more bytes, and were not before. -/
def completed (limit : UInt32) (bytes more : Bytes) : List Frame :=
  (parse limit (bytes ++ more)).frames.drop (parse limit bytes).frames.length

lemma frames_append {limit : UInt32} {bytes : Bytes} (valid : (parse limit bytes).invalid = false)
    (more : Bytes) : (parse limit (bytes ++ more)).frames =
      (parse limit bytes).frames ++ completed limit bytes more := by
  unfold completed
  rw [parse_append valid, List.drop_left]

/-- Reassembly hands on the frames of the stream, whatever its pieces are. -/
theorem pushAll_sound {limit : UInt32} {bytes : Bytes} {reassembly : Reassembly}
    (received : Received limit bytes reassembly) (pieces : List Bytes) :
    (reassembly.pushAll pieces).1.1 =
        completed limit bytes (sound limit bytes pieces).flatten ∧
      (reassembly.pushAll pieces).1.2.isSome = breaks limit bytes pieces := by
  unfold breaks
  induction pieces generalizing bytes reassembly with
  | nil =>
    refine ⟨?_, rfl⟩
    unfold completed
    rw [sound, List.flatten_nil, List.append_nil, List.drop_length]
    rfl
  | cons piece rest ih =>
    rcases push_of_received received piece with
        ⟨broken, fault, failed⟩ | ⟨frames, pushed, found, received'⟩
    · rw [pushAll_cons_of_error failed, sound, if_pos broken]
      refine ⟨?_, rfl⟩
      unfold completed
      rw [List.flatten_nil, List.append_nil, List.drop_length]
    · obtain ⟨more, faultless⟩ := ih received'
      have going : ¬ (parse limit (bytes ++ piece)).invalid = true := by
        rw [received'.valid]
        nofun
      rw [pushAll_cons_of_ok pushed, sound, if_neg going]
      refine ⟨?_, ?_⟩
      · have both := frames_append received'.valid (sound limit (bytes ++ piece) rest).flatten
        rw [found, List.append_assoc, ← more] at both
        unfold completed
        rw [List.flatten_cons, both, List.append_assoc, List.drop_left]
      · rw [faultless]
        exact decide_eq_decide.mpr (not_congr (List.cons_inj_right piece).symm)

end Reassembly

end RemoteCall
