import RemoteCall.Error

/-!
# Primitive values on the wire

Integers and doubles are little-endian words; a string is its UTF-8 form behind the number of its
bytes, a signed 32-bit word. A read either takes exactly the bytes of one primitive from the front
and returns the rest, or fails and takes nothing.
-/

namespace RemoteCall

namespace Codec

open LittleEndian

/-- The longest string that a length prefix can announce, in bytes. -/
def maxStringSize : Nat := 2147483647

/-! ## Writing -/

/-- The wire form of a string, unless it is too long for its prefix. -/
def writeString (text : String) : Except EncodeFault Bytes :=
  let content := Utf8.encode text
  if content.length ≤ maxStringSize then
    .ok (writeUInt32 (UInt32.ofNat content.length) ++ content)
  else .error (.stringTooLong content.length)

/-! ## Reading -/

/-- Take the bytes of an item from the front. -/
def takeItem (item : Item) (bytes : Bytes) : Except DecodeFault (Bytes × Bytes) :=
  if (bytes.take item.width).length = item.width then
    .ok (bytes.take item.width, bytes.drop item.width)
  else .error (.short item bytes.length)

/-- Read a signed 32-bit integer. -/
def readInt32 (bytes : Bytes) : Except DecodeFault (Int32 × Bytes) :=
  (takeItem .int32 bytes).map fun (word, rest) => (LittleEndian.readInt32 word, rest)

/-- Read a signed 64-bit integer. -/
def readInt64 (bytes : Bytes) : Except DecodeFault (Int64 × Bytes) :=
  (takeItem .int64 bytes).map fun (word, rest) => (LittleEndian.readInt64 word, rest)

/-- Read the bits of a double. -/
def readDouble (bytes : Bytes) : Except DecodeFault (UInt64 × Bytes) :=
  (takeItem .double bytes).map fun (word, rest) => (LittleEndian.readUInt64 word, rest)

/-- Read a string. The length is checked before the content, and the content before anything is
taken. -/
def readString (bytes : Bytes) : Except DecodeFault (String × Bytes) :=
  match takeItem .stringLength bytes with
  | .error fault => .error fault
  | .ok (word, rest) =>
    let length := LittleEndian.readInt32 word
    if length < 0 then .error (.negativeLength length)
    else
      let content := rest.take length.toNatClampNeg
      if content.length < length.toNatClampNeg then
        .error (.truncatedString length.toNatClampNeg rest.length)
      else
        match Utf8.decode content with
        | .error fault => .error (.notText fault)
        | .ok text => .ok (text, rest.drop length.toNatClampNeg)

/-! ## Items -/

theorem takeItem_append {item : Item} {word : Bytes} (h : word.length = item.width)
    (rest : Bytes) : takeItem item (word ++ rest) = .ok (word, rest) := by
  simp [takeItem, ← h]

theorem takeItem_eq_ok {item : Item} {bytes word rest : Bytes}
    (h : takeItem item bytes = .ok (word, rest)) :
    word.length = item.width ∧ bytes = word ++ rest := by
  unfold takeItem at h
  split at h
  · next hl =>
    simp only [Except.ok.injEq, Prod.mk.injEq] at h
    obtain ⟨rfl, rfl⟩ := h
    exact ⟨hl, (List.take_append_drop _ _).symm⟩
  · simp at h

theorem readInt32_writeInt32_append (v : Int32) (rest : Bytes) :
    readInt32 (writeInt32 v ++ rest) = .ok (v, rest) := by
  rw [readInt32, takeItem_append (by simp [Item.width])]
  simp [Except.map]

theorem readInt64_writeInt64_append (v : Int64) (rest : Bytes) :
    readInt64 (writeInt64 v ++ rest) = .ok (v, rest) := by
  rw [readInt64, takeItem_append (by simp [Item.width])]
  simp [Except.map]

theorem readDouble_writeUInt64_append (bits : UInt64) (rest : Bytes) :
    readDouble (writeUInt64 bits ++ rest) = .ok (bits, rest) := by
  rw [readDouble, takeItem_append (by simp [Item.width])]
  simp [Except.map]

end Codec

end RemoteCall
