import Mathlib.Algebra.Ring.Int.Defs
import Mathlib.Algebra.Ring.Nat
import RemoteCall.Frame.Basic

/-!
# Envelopes and their bytes

The size of a frame is written as an unsigned word and read as a signed one.  So an envelope is read
back from its sixteen bytes as long as its size is positive as a signed word, that is up to
`Header.protocolLimit`, and is refused above it (`decode_encode_append`, `decode_encode_iff`).  The
other way around, sixteen bytes whose size is not too small are the bytes of the envelope that they
are read as (`encode_of_decode`, `decode_exact`).

The size counts the twelve bytes of the envelope behind it and the payload, and the length of the
payload is what is kept of it.  Adding twelve to a length wraps for the last twelve lengths, which
no payload has (`toNat_sizeField`); taking twelve off a size does not wrap, because smaller sizes
are refused (`toNat_size_sub`).

`sizeAt` is the signed size at the front of a byte string, as a number.  Whether sixteen bytes are
an envelope is a comparison of it with twelve (`decode_of_le_length`), and nothing behind them is
looked at (`decode_append`).

## Main statements

* `encode_of_decode`, `decode_exact` — from the bytes to the envelope.
* `decode_encode_append`, `decode_encode_iff` — from the envelope to the bytes.
-/

namespace RemoteCall

namespace Header

open LittleEndian

/-! ## From the bytes to the envelope -/

/-- The signed size at the front of a byte string. -/
def sizeAt (bytes : Bytes) : Int := (readInt32 (bytes.take 4)).toInt

lemma sizeAt_eq (bytes : Bytes) :
    sizeAt bytes = (readUInt32 (bytes.take 4)).toBitVec.toInt := rfl

lemma sizeAt_lt (bytes : Bytes) : sizeAt bytes < 2 ^ 31 := by
  rw [sizeAt_eq]
  have bound := BitVec.toInt_lt (x := (readUInt32 (bytes.take 4)).toBitVec)
  exact bound

lemma sizeAt_append {bytes : Bytes} (h : 4 ≤ bytes.length) (more : Bytes) :
    sizeAt (bytes ++ more) = sizeAt bytes := by
  unfold sizeAt
  rw [List.take_append_of_le_length h]

/-- Bytes that follow do not change a part that is there as a whole. -/
lemma take_drop_append {bytes : Bytes} {start length : Nat}
    (within : start + length ≤ bytes.length) (more : Bytes) :
    ((bytes ++ more).drop start).take length = (bytes.drop start).take length := by
  rw [List.drop_append_of_le_length (by omega),
    List.take_append_of_le_length (by rw [List.length_drop]; omega)]

/-- A complete envelope is refused exactly if its size is below twelve. -/
lemma decode_of_le_length {bytes : Bytes} (complete : width ≤ bytes.length) :
    decode bytes =
      if sizeAt bytes < 12 then .error (.undersized (readInt32 (bytes.take 4)))
      else .ok (some
        { xid := readInt64 ((bytes.drop 4).take 8)
          tag := readInt32 ((bytes.drop 12).take 4)
          payloadLength := (readInt32 (bytes.take 4)).toUInt32 - overhead }) := by
  have length : ¬ (bytes.take width).length < width := by
    rw [List.length_take]
    omega
  have small : readInt32 (bytes.take 4) < 12 ↔ sizeAt bytes < 12 := Int32.lt_iff_toInt_lt
  unfold decode
  rw [if_neg length]
  by_cases h : sizeAt bytes < 12
  · simp only [if_pos h, if_pos (small.mpr h)]
  · simp only [if_neg h, if_neg (fun lt => h (small.mp lt))]

lemma decode_ne_none {bytes : Bytes} (complete : width ≤ bytes.length) :
    decode bytes ≠ .ok none := by
  rw [decode_of_le_length complete]
  split
  · nofun
  · nofun

/-- Only the first sixteen bytes are read. -/
lemma decode_append {bytes : Bytes} (complete : width ≤ bytes.length) (more : Bytes) :
    decode (bytes ++ more) = decode bytes := by
  unfold width at complete
  have longer : width ≤ (bytes ++ more).length := by
    rw [List.length_append]
    exact Nat.le_add_right_of_le complete
  rw [decode_of_le_length longer, decode_of_le_length complete, sizeAt_append (by omega),
    List.take_append_of_le_length (by omega), take_drop_append (by omega),
    take_drop_append (by omega)]

lemma decode_of_length_lt {bytes : Bytes} (short : bytes.length < width) :
    decode bytes = .ok none := by
  unfold decode
  rw [if_pos]
  rw [List.length_take]
  omega

/-- Taking the twelve bytes of the rest of the envelope off a large enough size does not wrap. -/
lemma toNat_size_sub {bytes : Bytes} (large : 12 ≤ sizeAt bytes) :
    (((readInt32 (bytes.take 4)).toUInt32 - overhead).toNat : Int) = sizeAt bytes - 12 := by
  have signed := BitVec.toInt_eq_toNat_cond (x := (readUInt32 (bytes.take 4)).toBitVec)
  have lt := (readUInt32 (bytes.take 4)).toBitVec.isLt
  have word : (readInt32 (bytes.take 4)).toUInt32 = readUInt32 (bytes.take 4) := rfl
  have nat : (readUInt32 (bytes.take 4)).toNat = (readUInt32 (bytes.take 4)).toBitVec.toNat := rfl
  rw [sizeAt_eq] at large ⊢
  have small : overhead ≤ readUInt32 (bytes.take 4) := by
    rw [UInt32.le_iff_toNat_le, nat]
    show 12 ≤ _
    split at signed <;> omega
  rw [word, UInt32.toNat_sub_of_le _ _ small, nat]
  have twelve : overhead.toNat = 12 := rfl
  split at signed <;> omega

/-- Bytes that are read as an envelope are the bytes of that envelope. -/
theorem encode_of_decode {bytes : Bytes} {header : Header}
    (read : decode bytes = .ok (some header)) :
    width ≤ bytes.length ∧ header.encode = bytes.take width := by
  by_cases complete : width ≤ bytes.length
  · refine ⟨complete, ?_⟩
    rw [decode_of_le_length complete] at read
    unfold width at complete
    split at read
    · cases read
    · simp only [Except.ok.injEq, Option.some.injEq] at read
      subst read
      have size : ((readInt32 (bytes.take 4)).toUInt32 - overhead) + overhead =
          readUInt32 (bytes.take 4) := UInt32.sub_add_cancel _ _
      have sizeBytes : writeUInt32 (readUInt32 (bytes.take 4)) = bytes.take 4 := by
        apply writeUInt32_readUInt32
        rw [List.length_take]
        omega
      have xidBytes : writeInt64 (readInt64 ((bytes.drop 4).take 8)) = (bytes.drop 4).take 8 := by
        apply writeInt64_readInt64
        rw [List.length_take, List.length_drop]
        omega
      have tagBytes : writeInt32 (readInt32 ((bytes.drop 12).take 4)) = (bytes.drop 12).take 4 := by
        apply writeInt32_readInt32
        rw [List.length_take, List.length_drop]
        omega
      have parts : bytes.take width = bytes.take 4 ++ (bytes.drop 4).take 8 ++
          (bytes.drop 12).take 4 := by
        rw [← List.take_add, ← List.take_add]
        rfl
      unfold encode sizeField
      rw [size, sizeBytes, xidBytes, tagBytes, parts]
  · rw [decode_of_length_lt (by omega)] at read
    cases read

/-- Sixteen bytes are refused if their size is below twelve; otherwise they are the bytes of the
envelope that is read, and its length is the size less twelve. -/
theorem decode_exact {bytes : Bytes} (complete : width ≤ bytes.length) :
    ((∃ fault, decode bytes = .error fault) ↔ sizeAt bytes < 12) ∧
      (12 ≤ sizeAt bytes → ∃ header, decode bytes = .ok (some header) ∧
        header.encode = bytes.take width ∧
        (header.payloadLength.toNat : Int) = sizeAt bytes - 12) := by
  have read := decode_of_le_length complete
  by_cases small : sizeAt bytes < 12
  · rw [if_pos small] at read
    exact ⟨iff_of_true ⟨_, read⟩ small, fun large => by omega⟩
  · have large : 12 ≤ sizeAt bytes := Int.not_lt.mp small
    rw [if_neg small] at read
    refine ⟨iff_of_false ?_ small, fun _ => ⟨_, read, (encode_of_decode read).2,
      toNat_size_sub large⟩⟩
    rintro ⟨fault, refused⟩
    rw [read] at refused
    cases refused

/-! ## From the envelope to the bytes -/

/-- The overhead can be added to all lengths but the last twelve. -/
lemma toNat_sizeField {header : Header} (room : header.payloadLength.toNat ≤ 2 ^ 32 - 13) :
    header.sizeField.toNat = header.payloadLength.toNat + 12 := by
  have twelve : overhead.toNat = 12 := rfl
  unfold sizeField
  rw [UInt32.toNat_add]
  omega

lemma take_encode_append (header : Header) (more : Bytes) :
    (header.encode ++ more).take 4 = writeUInt32 header.sizeField := by
  unfold encode
  rw [List.append_assoc, List.append_assoc, List.take_append_of_le_length (by simp)]
  exact List.take_of_length_le (by simp)

/-- What is written as an unsigned size is read as a signed one. -/
lemma sizeAt_encode_append (header : Header) (more : Bytes) :
    sizeAt (header.encode ++ more) = header.sizeField.toBitVec.toInt := by
  rw [sizeAt_eq, take_encode_append, readUInt32_writeUInt32]

/-- An envelope of a payload that the protocol can announce is read back in front of anything. -/
theorem decode_encode_append {header : Header} (fits : header.payloadLength ≤ protocolLimit)
    (more : Bytes) :
    decode (header.encode ++ more) = .ok (some header) ∧
      sizeAt (header.encode ++ more) = header.payloadLength.toNat + 12 := by
  have eight : ((header.encode ++ more).drop 4).take 8 = writeInt64 header.xid := by
    unfold encode
    rw [List.append_assoc, List.append_assoc, List.drop_append_of_le_length (by simp),
      List.drop_of_length_le (by simp), List.nil_append, List.take_append_of_le_length (by simp)]
    exact List.take_of_length_le (by simp)
  have last : ((header.encode ++ more).drop 12).take 4 = writeInt32 header.tag := by
    unfold encode
    rw [List.append_assoc, List.drop_append_of_le_length (by simp),
      List.drop_of_length_le (by simp), List.nil_append, List.take_append_of_le_length (by simp)]
    exact List.take_of_length_le (by simp)
  have bound : header.payloadLength.toNat ≤ 2147483635 := UInt32.le_iff_toNat_le.mp fits
  have size : sizeAt (header.encode ++ more) = header.payloadLength.toNat + 12 := by
    have nat : header.sizeField.toBitVec.toNat = header.sizeField.toNat := rfl
    rw [sizeAt_encode_append, BitVec.toInt_eq_toNat_cond, nat, toNat_sizeField (by omega)]
    split <;> omega
  refine ⟨?_, size⟩
  have back : header.sizeField - overhead = header.payloadLength := by
    unfold sizeField
    exact UInt32.add_sub_cancel _ _
  have unsigned : (readInt32 (writeUInt32 header.sizeField)).toUInt32 = header.sizeField := by
    rw [readInt32, readUInt32_writeUInt32]
    rfl
  rw [decode_of_le_length (by simp), size, if_neg (by omega), take_encode_append, eight, last,
    readInt64_writeInt64, readInt32_writeInt32, unsigned, back]

/-- A length above the limit of the protocol makes the size negative. -/
lemma decode_encode_of_lt {header : Header} (room : header.payloadLength.toNat ≤ 2 ^ 32 - 13)
    (large : protocolLimit < header.payloadLength) :
    ∃ size, decode header.encode = .error (.undersized size) := by
  have bound : 2147483635 < header.payloadLength.toNat := UInt32.lt_iff_toNat_lt.mp large
  have nat : header.sizeField.toBitVec.toNat = header.sizeField.toNat := rfl
  have size := sizeAt_encode_append header []
  rw [List.append_nil, BitVec.toInt_eq_toNat_cond, nat, toNat_sizeField room] at size
  have negative : sizeAt header.encode < 12 := by
    rw [size]
    split <;> omega
  rw [decode_of_le_length (Nat.le_of_eq header.length_encode.symm), if_pos negative]
  exact ⟨_, rfl⟩

/-- An envelope is read back exactly if its payload is within the limit of the protocol. -/
theorem decode_encode_iff {header : Header} (room : header.payloadLength.toNat ≤ 2 ^ 32 - 13) :
    decode header.encode = .ok (some header) ↔ header.payloadLength ≤ protocolLimit := by
  constructor
  · intro read
    by_contra large
    obtain ⟨size, refused⟩ := decode_encode_of_lt room (UInt32.not_le.mp large)
    rw [refused] at read
    cases read
  · intro fits
    have read := (decode_encode_append fits []).1
    rw [List.append_nil] at read
    exact read

/-- The longest payload that can be announced, and the next. -/
example : decode (encode ⟨1, 7, 2147483635⟩) = .ok (some ⟨1, 7, 2147483635⟩) ∧
    decode (encode ⟨1, 7, 2147483636⟩) = .error (.undersized (-2147483648)) :=
  ⟨rfl, rfl⟩

end Header

end RemoteCall
