import RemoteCall.Proofs.Frame.Header

/-!
# Reading a byte stream as frames

`Frame.parse` reads a whole byte string at once: an envelope, its payload, and so on, until bytes
run out or a complete envelope is invalid.  It is what a stream means; how the stream is cut into
pieces does not enter it.

A parse can be resumed: more bytes only change what stands behind the complete frames
(`parse_append`), unless the stream broke framing, after which they change nothing
(`parse_append_of_invalid`).  Frames are a prefix code, so a stream that is cut off anywhere inside
the bytes of some frames is read as the first of them (`prefix_frames_parse`).

## How it is used

The recursion takes a frame off the front, so it has the length of the byte string as its measure.
It is opened once for each of the ways in which it may end (`parse_of_short`, `parse_of_invalid`,
`parse_of_incomplete`, `parse_of_complete`), and later proofs take these cases (`parse_cases`).

An envelope is valid if it can be read and announces a payload within the limit of the reader.  The
same limit goes with `Fits`, which says of a frame that this reader accepts it; the frames of a
parse fit, and frames that fit are found by it.

Where the first invalid envelope starts is a number (`Parse.invalidAt`).  It does not depend on the
pieces either, and the piece with its sixteenth byte is the one that breaks the stream
(`invalidAt_append`).

## Main statements

* `parse_append`, `parse_append_of_invalid` — the parse of a longer stream.
* `prefix_frames_parse` — a stream that is cut off is read as the first of its frames.
-/

namespace RemoteCall

namespace Frame

open LittleEndian Header

/-- A byte stream read as frames: the complete ones at its front, the bytes behind them, and whether
these start with an invalid envelope. -/
structure Parse where
  frames : List Frame
  rest : Bytes
  invalid : Bool
  deriving DecidableEq, Repr

/-- Put a frame before those found behind it. -/
def Parse.after (frame : Frame) (rest : Parse) : Parse :=
  { rest with frames := frame :: rest.frames }

/-- Where the first invalid envelope starts, if there is one. -/
def Parse.invalidAt (parse : Parse) : Option Nat :=
  if parse.invalid then some (parse.frames.map size).sum else none

/-- The length of the payload behind the envelope at the front, unless the envelope is invalid. -/
def announced? (limit : UInt32) (bytes : Bytes) : Option Nat :=
  if 12 ≤ sizeAt bytes ∧ sizeAt bytes - 12 ≤ limit.toNat then some (sizeAt bytes - 12).toNat
  else none

/-- The envelope at the front of a byte string, if it announces a payload of the given length. -/
def frontHeader (length : Nat) (bytes : Bytes) : Header :=
  ⟨readInt64 ((bytes.drop 4).take 8), readInt32 ((bytes.drop 12).take 4), UInt32.ofNat length⟩

/-- The frame at the front of a byte string, if its envelope announces a payload of the given
length. -/
def frontFrame (length : Nat) (bytes : Bytes) : Frame :=
  ofPayload (readInt64 ((bytes.drop 4).take 8)) (readInt32 ((bytes.drop 12).take 4))
    ((bytes.drop 16).take length)

/-- Take an envelope and its payload as long as both are complete and the envelope is valid. -/
def parse (limit : UInt32) (bytes : Bytes) : Parse :=
  if _short : bytes.length < 16 then ⟨[], bytes, false⟩
  else
    match announced? limit bytes with
    | none => ⟨[], bytes, true⟩
    | some length =>
      if bytes.length < 16 + length then ⟨[], bytes, false⟩
      else (parse limit (bytes.drop (16 + length))).after (frontFrame length bytes)
termination_by bytes.length
decreasing_by rw [List.length_drop]; omega

/-- The envelope announces the payload, which is within a limit and can be announced at all. -/
structure Fits (limit : UInt32) (frame : Frame) : Prop where
  announced : frame.header.payloadLength.toNat = frame.payload.length
  within : frame.payload.length ≤ limit.toNat
  onWire : frame.payload.length ≤ protocolLimit.toNat

/-! ## Frames and their bytes -/

lemma payloadLength_le {limit : UInt32} {frame : Frame} (fits : Fits limit frame) :
    frame.header.payloadLength ≤ protocolLimit := by
  rw [UInt32.le_iff_toNat_le, fits.announced]
  exact fits.onWire

/-- A frame whose envelope announces its payload is the frame of that payload. -/
lemma ofPayload_eq {limit : UInt32} {frame : Frame} (fits : Fits limit frame) :
    ofPayload frame.header.xid frame.header.tag frame.payload = frame := by
  have length : UInt32.ofNat frame.payload.length = frame.header.payloadLength := by
    rw [← fits.announced]
    exact UInt32.ofNat_toNat
  unfold ofPayload
  rw [length]

lemma fits_ofPayload {limit : UInt32} {payload : Bytes} (xid : Int64) (tag : Int32)
    (within : payload.length ≤ limit.toNat) (onWire : payload.length ≤ protocolLimit.toNat) :
    Fits limit (ofPayload xid tag payload) := by
  refine ⟨?_, within, onWire⟩
  have bound : protocolLimit.toNat = 2147483635 := rfl
  show (UInt32.ofNat payload.length).toNat = payload.length
  rw [UInt32.toNat_ofNat']
  omega

/-- A valid envelope is read, and announces what the parse takes it to announce. -/
lemma decode_of_announced {limit : UInt32} {bytes : Bytes} {length : Nat}
    (announces : announced? limit bytes = some length) (envelope : 16 ≤ bytes.length) :
    decode bytes = .ok (some (frontHeader length bytes)) ∧
      (frontHeader length bytes).payloadLength.toNat = length ∧
      length ≤ limit.toNat ∧ length ≤ protocolLimit.toNat := by
  unfold announced? at announces
  split at announces
  · rename_i valid
    simp only [Option.some.injEq] at announces
    have signed := sizeAt_lt bytes
    have bound : protocolLimit.toNat = 2147483635 := rfl
    have word : (frontHeader length bytes).payloadLength.toNat = length := by
      show (UInt32.ofNat length).toNat = length
      rw [UInt32.toNat_ofNat']
      omega
    have size := toNat_size_sub valid.1
    have same : (readInt32 (bytes.take 4)).toUInt32 - overhead =
        (frontHeader length bytes).payloadLength := by
      apply UInt32.toNat_inj.mp
      omega
    refine ⟨?_, word, by omega, by omega⟩
    rw [decode_of_le_length envelope, if_neg (by omega), same]
    rfl
  · cases announces

lemma header_frontFrame {bytes : Bytes} {length : Nat} (complete : 16 + length ≤ bytes.length) :
    (frontFrame length bytes).header = frontHeader length bytes := by
  have taken : ((bytes.drop 16).take length).length = length := by
    rw [List.length_take, List.length_drop]
    omega
  show Header.mk _ _ (UInt32.ofNat ((bytes.drop 16).take length).length) = _
  rw [taken]
  rfl

lemma fits_frontFrame {limit : UInt32} {bytes : Bytes} {length : Nat}
    (announces : announced? limit bytes = some length) (complete : 16 + length ≤ bytes.length) :
    Fits limit (frontFrame length bytes) := by
  obtain ⟨-, -, within, onWire⟩ := decode_of_announced announces (by omega)
  have taken : ((bytes.drop 16).take length).length = length := by
    rw [List.length_take, List.length_drop]
    omega
  exact fits_ofPayload _ _ (by omega) (by omega)

/-- The bytes of the frame at the front are those that it was read from. -/
lemma encode_frontFrame {limit : UInt32} {bytes : Bytes} {length : Nat}
    (announces : announced? limit bytes = some length) (complete : 16 + length ≤ bytes.length) :
    (frontFrame length bytes).encode = bytes.take (16 + length) := by
  have read := (decode_of_announced announces (by omega)).1
  unfold encode
  rw [header_frontFrame complete, (encode_of_decode read).2, List.take_add]
  rfl

lemma announced?_append {limit : UInt32} {bytes : Bytes} (complete : 16 ≤ bytes.length)
    (more : Bytes) : announced? limit (bytes ++ more) = announced? limit bytes := by
  unfold announced?
  rw [sizeAt_append (by omega)]

lemma frontFrame_append {bytes : Bytes} {length : Nat} (complete : 16 + length ≤ bytes.length)
    (more : Bytes) : frontFrame length (bytes ++ more) = frontFrame length bytes := by
  unfold frontFrame
  rw [take_drop_append (by omega), take_drop_append (by omega), take_drop_append (by omega)]

lemma announced?_encode_append {limit limit' : UInt32} {frame : Frame} (fits : Fits limit' frame)
    (more : Bytes) :
    announced? limit (frame.encode ++ more) =
      if frame.payload.length ≤ limit.toNat then some frame.payload.length else none := by
  have size := (decode_encode_append (payloadLength_le fits) (frame.payload ++ more)).2
  rw [← List.append_assoc] at size
  have announced := fits.announced
  unfold announced? encode
  rw [size]
  by_cases within : frame.payload.length ≤ limit.toNat
  · rw [if_pos within, if_pos (by omega)]
    exact congrArg some (by omega)
  · rw [if_neg within, if_neg (by omega)]

lemma frontFrame_encode_append {limit : UInt32} {frame : Frame} (fits : Fits limit frame)
    (more : Bytes) : frontFrame frame.payload.length (frame.encode ++ more) = frame := by
  have announces : announced? limit (frame.encode ++ more) = some frame.payload.length := by
    rw [announced?_encode_append fits, if_pos fits.within]
  have complete : 16 + frame.payload.length ≤ (frame.encode ++ more).length := by
    rw [List.length_append, length_encode]
    exact Nat.le_add_right _ _
  have read := (decode_of_announced announces (by omega)).1
  have written := (decode_encode_append (payloadLength_le fits) (frame.payload ++ more)).1
  rw [← List.append_assoc] at written
  have header : (frontFrame frame.payload.length (frame.encode ++ more)).header = frame.header := by
    have same := read.symm.trans written
    rw [header_frontFrame complete]
    simpa using same
  have payload : (frontFrame frame.payload.length (frame.encode ++ more)).payload =
      frame.payload := by
    show ((frame.encode ++ more).drop 16).take _ = _
    unfold encode
    rw [List.append_assoc, List.drop_append_of_le_length (by simp [width]),
      List.drop_of_length_le (by simp [width]), List.nil_append,
      List.take_append_of_le_length (Nat.le_refl _), List.take_length]
  calc frontFrame frame.payload.length (frame.encode ++ more)
      = ⟨(frontFrame frame.payload.length (frame.encode ++ more)).header,
          (frontFrame frame.payload.length (frame.encode ++ more)).payload⟩ := rfl
    _ = frame := by rw [header, payload]

/-! ## What stands at the front -/

lemma parse_of_short {limit : UInt32} {bytes : Bytes} (short : bytes.length < 16) :
    parse limit bytes = ⟨[], bytes, false⟩ := by
  rw [parse, dif_pos short]

lemma parse_nil (limit : UInt32) : parse limit [] = ⟨[], [], false⟩ := parse_of_short (by simp)

lemma parse_of_invalid {limit : UInt32} {bytes : Bytes} (complete : 16 ≤ bytes.length)
    (invalid : announced? limit bytes = none) : parse limit bytes = ⟨[], bytes, true⟩ := by
  rw [parse, dif_neg (by omega), invalid]

lemma parse_of_incomplete {limit : UInt32} {bytes : Bytes} {length : Nat}
    (announces : announced? limit bytes = some length) (short : bytes.length < 16 + length) :
    parse limit bytes = ⟨[], bytes, false⟩ := by
  by_cases envelope : bytes.length < 16
  · exact parse_of_short envelope
  · rw [parse, dif_neg envelope, announces]
    simp only [if_pos short]

lemma parse_of_complete {limit : UInt32} {bytes : Bytes} {length : Nat}
    (announces : announced? limit bytes = some length) (complete : 16 + length ≤ bytes.length) :
    parse limit bytes =
      (parse limit (bytes.drop (16 + length))).after (frontFrame length bytes) := by
  rw [parse, dif_neg (by omega), announces]
  simp only [if_neg (Nat.not_lt.mpr complete)]

/-- Every parse ends in one of these ways. -/
lemma parse_cases (limit : UInt32) (bytes : Bytes) :
    bytes.length < 16 ∨ (16 ≤ bytes.length ∧ announced? limit bytes = none) ∨
      ∃ length, announced? limit bytes = some length ∧ 16 ≤ bytes.length ∧
        (bytes.length < 16 + length ∨ 16 + length ≤ bytes.length) := by
  by_cases short : bytes.length < 16
  · exact Or.inl short
  · refine Or.inr ?_
    cases announces : announced? limit bytes with
    | none => exact Or.inl ⟨by omega, rfl⟩
    | some length => exact Or.inr ⟨length, rfl, by omega, Nat.lt_or_ge _ _⟩

lemma parse_encode_append {limit : UInt32} {frame : Frame} (fits : Fits limit frame)
    (more : Bytes) : parse limit (frame.encode ++ more) = (parse limit more).after frame := by
  have announces : announced? limit (frame.encode ++ more) = some frame.payload.length := by
    rw [announced?_encode_append fits, if_pos fits.within]
  have length : frame.encode.length = 16 + frame.payload.length := length_encode frame
  rw [parse_of_complete announces (by rw [List.length_append]; omega),
    frontFrame_encode_append fits, List.drop_append_of_le_length (by omega),
    List.drop_of_length_le (by omega), List.nil_append]

lemma parse_flatMap_append {limit : UInt32} {frames : List Frame}
    (fit : ∀ frame ∈ frames, Fits limit frame) (more : Bytes) :
    parse limit (frames.flatMap encode ++ more) =
      { parse limit more with frames := frames ++ (parse limit more).frames } := by
  induction frames with
  | nil => rfl
  | cons frame rest ih =>
    rw [List.flatMap_cons, List.append_assoc, parse_encode_append (fit frame List.mem_cons_self),
      ih fun frame later => fit frame (List.mem_cons_of_mem _ later)]
    rfl

/-! ## The whole stream -/

/-- Every frame that is read announces its payload and is within the limit. -/
lemma fits_of_mem_parse {limit : UInt32} {bytes : Bytes} {frame : Frame}
    (read : frame ∈ (parse limit bytes).frames) : Fits limit frame := by
  fun_induction parse limit bytes with
  | case1 bytes short => cases read
  | case2 bytes envelope invalid => cases read
  | case3 bytes envelope length announces short => cases read
  | case4 bytes envelope length announces complete ih =>
    rcases List.mem_cons.mp read with rfl | later
    · exact fits_frontFrame announces (by omega)
    · exact ih later

/-- The frames and what is left are the stream. -/
lemma encode_parse (limit : UInt32) (bytes : Bytes) :
    (parse limit bytes).frames.flatMap encode ++ (parse limit bytes).rest = bytes := by
  fun_induction parse limit bytes with
  | case1 bytes short => rfl
  | case2 bytes envelope invalid => rfl
  | case3 bytes envelope length announces short => rfl
  | case4 bytes envelope length announces complete ih =>
    have front := encode_frontFrame announces (by omega)
    show (_ :: _).flatMap encode ++ _ = bytes
    rw [List.flatMap_cons, List.append_assoc]
    calc (frontFrame length bytes).encode ++
          ((parse limit (bytes.drop (16 + length))).frames.flatMap encode ++
            (parse limit (bytes.drop (16 + length))).rest)
        = bytes.take (16 + length) ++ bytes.drop (16 + length) := by rw [front, ih]
      _ = bytes := List.take_append_drop _ _

lemma length_flatMap_encode (frames : List Frame) :
    (frames.flatMap encode).length = (frames.map size).sum := by
  induction frames with
  | nil => rfl
  | cons frame rest ih =>
    rw [List.flatMap_cons, List.length_append, length_encode, ih]
    rfl

/-- No frame is left behind those that were read. -/
lemma parse_rest (limit : UInt32) (bytes : Bytes) :
    parse limit (parse limit bytes).rest =
      ⟨[], (parse limit bytes).rest, (parse limit bytes).invalid⟩ := by
  fun_induction parse limit bytes with
  | case1 bytes short => exact parse_of_short short
  | case2 bytes envelope invalid => exact parse_of_invalid (Nat.not_lt.mp envelope) invalid
  | case3 bytes envelope length announces short => exact parse_of_incomplete announces short
  | case4 bytes envelope length announces complete ih => exact ih

/-- A parse that met no invalid envelope is resumed on what it left. -/
theorem parse_append {limit : UInt32} {bytes : Bytes} (valid : (parse limit bytes).invalid = false)
    (more : Bytes) :
    parse limit (bytes ++ more) =
      { parse limit ((parse limit bytes).rest ++ more) with
        frames := (parse limit bytes).frames ++
          (parse limit ((parse limit bytes).rest ++ more)).frames } := by
  fun_induction parse limit bytes with
  | case1 bytes short => rfl
  | case2 bytes envelope invalid => cases valid
  | case3 bytes envelope length announces short => rfl
  | case4 bytes envelope length announces complete ih =>
    have announces' : announced? limit (bytes ++ more) = some length := by
      rw [announced?_append (by omega), announces]
    rw [parse_of_complete announces' (by rw [List.length_append]; omega),
      frontFrame_append (by omega), List.drop_append_of_le_length (by omega), ih valid]
    rfl

/-- Nothing is read behind an invalid envelope. -/
theorem parse_append_of_invalid {limit : UInt32} {bytes : Bytes}
    (invalid : (parse limit bytes).invalid = true) (more : Bytes) :
    parse limit (bytes ++ more) =
      ⟨(parse limit bytes).frames, (parse limit bytes).rest ++ more, true⟩ := by
  fun_induction parse limit bytes with
  | case1 bytes short => cases invalid
  | case2 bytes envelope broken =>
    have complete : 16 ≤ bytes.length := Nat.not_lt.mp envelope
    refine parse_of_invalid (by rw [List.length_append]; omega) ?_
    rw [announced?_append complete, broken]
  | case3 bytes envelope length announces short => cases invalid
  | case4 bytes envelope length announces complete ih =>
    have announces' : announced? limit (bytes ++ more) = some length := by
      rw [announced?_append (by omega), announces]
    rw [parse_of_complete announces' (by rw [List.length_append]; omega),
      frontFrame_append (by omega), List.drop_append_of_le_length (by omega), ih invalid]
    rfl

lemma Parse.invalidAt_eq_none_iff {parse : Parse} :
    parse.invalidAt = none ↔ parse.invalid = false := by
  unfold Parse.invalidAt
  cases parse.invalid with
  | false => exact iff_of_true rfl rfl
  | true => exact iff_of_false nofun nofun

/-- The first invalid envelope stays where it was found. -/
lemma invalidAt_append_of_invalid {limit : UInt32} {bytes : Bytes}
    (invalid : (parse limit bytes).invalid = true) (more : Bytes) :
    (parse limit (bytes ++ more)).invalidAt = (parse limit bytes).invalidAt := by
  rw [parse_append_of_invalid invalid]
  unfold Parse.invalidAt
  rw [if_pos rfl, if_pos invalid]

/-- Bytes that were waiting for more reach less than an envelope beyond the frames that came out of
them, if more bytes then break the stream. -/
lemma length_lt_of_invalid {limit : UInt32} {left piece : Bytes}
    (stuck : parse limit left = ⟨[], left, false⟩)
    (broken : (parse limit (left ++ piece)).invalid = true) :
    left.length < ((parse limit (left ++ piece)).frames.map size).sum + 16 := by
  rcases parse_cases limit left with
      short | ⟨envelope, invalid⟩ | ⟨length, announces, envelope, short | complete⟩
  · omega
  · rw [parse_of_invalid envelope invalid] at stuck
    cases stuck
  · have announces' : announced? limit (left ++ piece) = some length := by
      rw [announced?_append envelope, announces]
    by_cases complete : 16 + length ≤ (left ++ piece).length
    · rw [parse_of_complete announces' complete]
      show _ < ((_ :: _ : List Frame).map size).sum + 16
      have front : (frontFrame length (left ++ piece)).size = 16 + length := by
        have bytes := encode_frontFrame announces' complete
        have both := congrArg List.length bytes
        rw [length_encode, List.length_take] at both
        omega
      rw [List.map_cons, List.sum_cons, front]
      omega
    · rw [parse_of_incomplete announces' (by omega)] at broken
      cases broken
  · rw [parse_of_complete announces complete] at stuck
    cases stuck

/-- The piece that breaks a stream is the one with the sixteenth byte of an invalid envelope. -/
lemma invalidAt_append {limit : UInt32} {bytes piece : Bytes} {start : Nat}
    (valid : (parse limit bytes).invalid = false)
    (broken : (parse limit (bytes ++ piece)).invalidAt = some start) :
    bytes.length < start + 16 ∧ start + 16 ≤ bytes.length + piece.length := by
  have resumed := parse_append valid piece
  have stuck := parse_rest limit bytes
  rw [valid] at stuck
  generalize left_eq : (parse limit bytes).rest = left at resumed stuck
  unfold Parse.invalidAt at broken
  split at broken
  · rename_i invalid
    simp only [Option.some.injEq] at broken
    rw [resumed] at invalid broken
    have ahead := length_lt_of_invalid stuck invalid
    have total := congrArg List.length (encode_parse limit bytes)
    rw [left_eq, List.length_append, length_flatMap_encode] at total
    have behind := congrArg List.length (encode_parse limit (left ++ piece))
    rw [List.length_append, List.length_append, length_flatMap_encode] at behind
    have envelope : 16 ≤ (parse limit (left ++ piece)).rest.length := by
      have last := parse_rest limit (left ++ piece)
      rw [invalid] at last
      by_cases short : (parse limit (left ++ piece)).rest.length < 16
      · rw [parse_of_short short] at last
        cases last
      · omega
    rw [List.map_append, List.sum_append] at broken
    omega
  · cases broken

/-- A stream that is cut off inside the bytes of some frames is read as the first of them. -/
theorem prefix_frames_parse {limit : UInt32} {bytes : Bytes} {frames : List Frame}
    (fit : ∀ frame ∈ frames, Fits protocolLimit frame)
    (cut : bytes <+: frames.flatMap encode) : (parse limit bytes).frames <+: frames := by
  induction frames generalizing bytes with
  | nil =>
    have empty : bytes = [] := List.prefix_nil.mp cut
    have none : (parse limit bytes).frames = [] := by rw [empty, parse_nil]
    exact none ▸ List.nil_prefix
  | cons frame rest ih =>
    have head : Fits protocolLimit frame := fit frame List.mem_cons_self
    by_cases envelope : bytes.length < 16
    · rw [parse_of_short envelope]
      exact List.nil_prefix
    · obtain ⟨more, whole⟩ := cut
      rw [List.flatMap_cons] at whole
      have announces : announced? limit bytes =
          if frame.payload.length ≤ limit.toNat then some frame.payload.length else none := by
        rw [← announced?_append (by omega) more, whole, announced?_encode_append head]
      by_cases within : frame.payload.length ≤ limit.toNat
      · rw [if_pos within] at announces
        by_cases short : bytes.length < 16 + frame.payload.length
        · rw [parse_of_incomplete announces short]
          exact List.nil_prefix
        · have length : frame.encode.length = 16 + frame.payload.length := length_encode frame
          have front : frame.encode <+: bytes :=
            List.prefix_of_prefix_length_le (List.prefix_append _ _)
              ⟨more, whole⟩ (by omega)
          obtain ⟨behind, rfl⟩ := front
          rw [List.append_assoc, List.append_cancel_left_eq] at whole
          rw [parse_encode_append ⟨head.announced, within, head.onWire⟩]
          exact List.cons_prefix_cons.mpr
            ⟨rfl, ih (fun frame later => fit frame (List.mem_cons_of_mem _ later)) ⟨more, whole⟩⟩
      · rw [if_neg within] at announces
        rw [parse_of_invalid (by omega) announces]
        exact List.nil_prefix

end Frame

end RemoteCall
