import RemoteCall.Codec.Primitive
import RemoteCall.Proofs.Text.Utf8

/-!
# Primitives are read as they were written

For each primitive one direction says that what was written is read back from the front of a byte
string, and the other that a read takes exactly the bytes that a write would produce.  The first
direction for numbers stands beside the readers; here are the others.

A length prefix is a signed word, so strings have to be shorter than its sign bit
(`length_of_prefix`).  The writer refuses longer ones, and the reader a negative length; between the
two every length is read as it was written, and every word that is not negative is the prefix of the
length that it announces (`prefix_of_length`).

Doubles travel as the bits that represent them, so all of them are kept, those that are no numbers
as well.  What is read of a string are characters, and by `Utf8.decode_eq_ok_iff` there is one byte
string for each text.
-/

namespace RemoteCall

namespace Codec

open LittleEndian

/-! ## Numbers -/

/-- What the readers of numbers have in common: a word is taken from the front and interpreted. -/
lemma exists_word_of_map_takeItem {α : Type} {item : Item} {bytes rest : Bytes} {v : α}
    {interpret : Bytes → α}
    (h : ((takeItem item bytes).map fun (word, rest) => (interpret word, rest)) = .ok (v, rest)) :
    ∃ word, word.length = item.width ∧ interpret word = v ∧ bytes = word ++ rest := by
  cases taken : takeItem item bytes with
  | error fault => simp [taken, Except.map] at h
  | ok pair =>
    obtain ⟨word, tail⟩ := pair
    simp only [taken, Except.map, Except.ok.injEq, Prod.mk.injEq] at h
    obtain ⟨rfl, rfl⟩ := h
    obtain ⟨width, split⟩ := takeItem_eq_ok taken
    exact ⟨word, width, rfl, split⟩

lemma eq_of_readInt32 {bytes rest : Bytes} {v : Int32} (h : readInt32 bytes = .ok (v, rest)) :
    bytes = writeInt32 v ++ rest := by
  obtain ⟨word, width, rfl, rfl⟩ := exists_word_of_map_takeItem h
  rw [writeInt32_readInt32 width]

lemma eq_of_readInt64 {bytes rest : Bytes} {v : Int64} (h : readInt64 bytes = .ok (v, rest)) :
    bytes = writeInt64 v ++ rest := by
  obtain ⟨word, width, rfl, rfl⟩ := exists_word_of_map_takeItem h
  rw [writeInt64_readInt64 width]

lemma eq_of_readDouble {bytes rest : Bytes} {bits : UInt64}
    (h : readDouble bytes = .ok (bits, rest)) : bytes = writeUInt64 bits ++ rest := by
  obtain ⟨word, width, rfl, rfl⟩ := exists_word_of_map_takeItem h
  rw [writeUInt64_readUInt64 width]

/-! ## Length prefixes -/

lemma toInt_readInt32 (word : Bytes) :
    (LittleEndian.readInt32 word).toInt = (readUInt32 word).toBitVec.toInt := rfl

/-- A length that a signed word can hold is read from its prefix. -/
theorem length_of_prefix {n : Nat} (h : n ≤ maxStringSize) :
    ¬ LittleEndian.readInt32 (writeUInt32 (UInt32.ofNat n)) < 0 ∧
      (LittleEndian.readInt32 (writeUInt32 (UInt32.ofNat n))).toNatClampNeg = n := by
  unfold maxStringSize at h
  have bits : (UInt32.ofNat n).toBitVec.toNat = n := by
    simp
    omega
  have word : (LittleEndian.readInt32 (writeUInt32 (UInt32.ofNat n))).toInt = n := by
    rw [toInt_readInt32, readUInt32_writeUInt32, BitVec.toInt_eq_toNat_cond, bits]
    split <;> omega
  rw [Int32.lt_iff_toInt_lt, Int32.toNatClampNeg, word]
  simp

/-- A prefix that is not negative is the one of the length that it announces. -/
lemma prefix_of_length {word : Bytes} (width : word.length = 4)
    (nonneg : ¬ LittleEndian.readInt32 word < 0) :
    (LittleEndian.readInt32 word).toNatClampNeg ≤ maxStringSize ∧
      writeUInt32 (UInt32.ofNat (LittleEndian.readInt32 word).toNatClampNeg) = word := by
  have signed : 0 ≤ (readUInt32 word).toBitVec.toInt := by
    rw [Int32.lt_iff_toInt_lt, toInt_readInt32] at nonneg
    simpa using nonneg
  have cases := BitVec.toInt_eq_toNat_cond (x := (readUInt32 word).toBitVec)
  have lt := (readUInt32 word).toBitVec.isLt
  have bits : (readUInt32 word).toBitVec.toInt = (readUInt32 word).toNat ∧
      (readUInt32 word).toNat ≤ maxStringSize := by
    unfold maxStringSize
    have : (readUInt32 word).toNat = (readUInt32 word).toBitVec.toNat := rfl
    split at cases <;> omega
  have length : (LittleEndian.readInt32 word).toNatClampNeg = (readUInt32 word).toNat := by
    rw [Int32.toNatClampNeg, toInt_readInt32, bits.1]
    rfl
  rw [length, UInt32.ofNat_toNat, writeUInt32_readUInt32 width]
  exact ⟨bits.2, rfl⟩

/-! ## Strings -/

lemma writeString_eq_ok_iff {text : String} {bytes : Bytes} :
    writeString text = .ok bytes ↔
      (Utf8.encode text).length ≤ maxStringSize ∧
        bytes = writeUInt32 (UInt32.ofNat (Utf8.encode text).length) ++ Utf8.encode text := by
  unfold writeString
  by_cases short : (Utf8.encode text).length ≤ maxStringSize
  · simp [short, eq_comm]
  · simp [short]

/-- A string that was written is read back. -/
lemma readString_writeString_append {text : String} {bytes : Bytes}
    (h : writeString text = .ok bytes) (rest : Bytes) :
    readString (bytes ++ rest) = .ok (text, rest) := by
  obtain ⟨short, rfl⟩ := writeString_eq_ok_iff.mp h
  obtain ⟨nonneg, length⟩ := length_of_prefix short
  unfold readString
  rw [List.append_assoc, takeItem_append (by simp [Item.width])]
  simp only [if_neg nonneg, length, List.take_left', List.drop_left', Utf8.decode_encode,
    Nat.lt_irrefl, if_false]

/-- A string that is read was written as the bytes that were taken for it. -/
lemma eq_of_readString {bytes rest : Bytes} {text : String}
    (h : readString bytes = .ok (text, rest)) :
    ∃ taken, writeString text = .ok taken ∧ bytes = taken ++ rest := by
  unfold readString at h
  cases item : takeItem .stringLength bytes with
  | error fault => simp [item] at h
  | ok pair =>
    obtain ⟨word, tail⟩ := pair
    obtain ⟨width, rfl⟩ := takeItem_eq_ok item
    simp only [item] at h
    split at h
    · simp at h
    next nonneg =>
    split at h
    · simp at h
    next enough =>
    split at h
    · simp at h
    next decoded =>
    simp only [Except.ok.injEq, Prod.mk.injEq] at h
    obtain ⟨rfl, rfl⟩ := h
    obtain ⟨short, word_eq⟩ := prefix_of_length width nonneg
    generalize (LittleEndian.readInt32 word).toNatClampNeg = length at *
    have content := Utf8.encode_eq_of_decode_eq_ok decoded
    have size : (tail.take length).length = length := by
      have := List.length_take_le length tail
      omega
    refine ⟨word ++ tail.take length, writeString_eq_ok_iff.mpr ?_, ?_⟩
    · rw [content, size]
      exact ⟨short, by rw [word_eq]⟩
    · rw [List.append_assoc, List.take_append_drop]

end Codec

end RemoteCall
