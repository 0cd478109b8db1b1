/-!
# Little-endian words

Integers travel as a fixed number of bytes, least significant byte first. `LittleEndian.digits`
writes a natural number in a given width and `LittleEndian.value` reads it back; the signed and
unsigned machine words are the two instances that the wire needs.

## Main statements

* `LittleEndian.value_digits`, `LittleEndian.digits_value` — the two directions of the round trip.
* `LittleEndian.readInt32_writeInt32`, `LittleEndian.readInt64_writeInt64`,
  `LittleEndian.readUInt64_writeUInt64` — the same for words.
-/

namespace RemoteCall

/-- A string of bytes, first byte first. -/
abbrev Bytes := List UInt8

namespace LittleEndian

/-! ## Digits in base 256 -/

/-- The `width` lowest base-256 digits of a number, least significant first. -/
def digits : (width : Nat) → Nat → Bytes
  | 0, _ => []
  | width + 1, n => UInt8.ofNat n :: digits width (n / 256)

/-- The number whose base-256 digits, least significant first, are the given bytes. -/
def value : Bytes → Nat
  | [] => 0
  | b :: rest => b.toNat + 256 * value rest

@[simp] theorem length_digits (width n : Nat) : (digits width n).length = width := by
  induction width generalizing n with
  | zero => rfl
  | succ width ih => simp [digits, ih]

theorem shift_succ (width : Nat) : 1 <<< (8 * (width + 1)) = 256 * 1 <<< (8 * width) := by
  rw [Nat.mul_succ, Nat.shiftLeft_add, Nat.shiftLeft_eq _ 8, Nat.mul_comm]

theorem value_lt (bytes : Bytes) : value bytes < 1 <<< (8 * bytes.length) := by
  induction bytes with
  | nil => simp [value]
  | cons b rest ih =>
    have hb : b.toNat < 256 := b.toNat_lt
    rw [value, List.length_cons, shift_succ]
    omega

/-- Writing keeps what fits the width. -/
theorem value_digits (width n : Nat) : value (digits width n) = n % 1 <<< (8 * width) := by
  induction width generalizing n with
  | zero => simp [digits, value, Nat.mod_one]
  | succ width ih =>
    have hb : (UInt8.ofNat n).toNat = n % 256 := by simp
    rw [digits, value, ih, hb, shift_succ, Nat.mod_mul]

/-- Every byte string is the digits of its value. -/
theorem digits_value (bytes : Bytes) : digits bytes.length (value bytes) = bytes := by
  induction bytes with
  | nil => rfl
  | cons b rest ih =>
    have hb : b.toNat < 256 := b.toNat_lt
    have low : UInt8.ofNat (b.toNat + 256 * value rest) = b := by
      apply UInt8.toNat_inj.mp
      rw [UInt8.toNat_ofNat']
      omega
    have high : (b.toNat + 256 * value rest) / 256 = value rest := by omega
    rw [List.length_cons, value, digits, low, high, ih]

/-! ## Machine words -/

/-- A 32-bit unsigned word in four bytes. -/
def writeUInt32 (w : UInt32) : Bytes := digits 4 w.toNat

/-- A 32-bit signed word in four bytes. -/
def writeInt32 (w : Int32) : Bytes := writeUInt32 w.toUInt32

/-- A 64-bit unsigned word in eight bytes. -/
def writeUInt64 (w : UInt64) : Bytes := digits 8 w.toNat

/-- A 64-bit signed word in eight bytes. -/
def writeInt64 (w : Int64) : Bytes := writeUInt64 w.toUInt64

/-- The 32-bit unsigned word that the bytes spell. -/
def readUInt32 (bytes : Bytes) : UInt32 := UInt32.ofNat (value bytes)

/-- The 32-bit signed word that the bytes spell. -/
def readInt32 (bytes : Bytes) : Int32 := (readUInt32 bytes).toInt32

/-- The 64-bit unsigned word that the bytes spell. -/
def readUInt64 (bytes : Bytes) : UInt64 := UInt64.ofNat (value bytes)

/-- The 64-bit signed word that the bytes spell. -/
def readInt64 (bytes : Bytes) : Int64 := (readUInt64 bytes).toInt64

@[simp] theorem length_writeUInt32 (w : UInt32) : (writeUInt32 w).length = 4 := by
  simp [writeUInt32]

@[simp] theorem length_writeInt32 (w : Int32) : (writeInt32 w).length = 4 := by
  simp [writeInt32]

@[simp] theorem length_writeUInt64 (w : UInt64) : (writeUInt64 w).length = 8 := by
  simp [writeUInt64]

@[simp] theorem length_writeInt64 (w : Int64) : (writeInt64 w).length = 8 := by
  simp [writeInt64]

@[simp] theorem readUInt32_writeUInt32 (w : UInt32) : readUInt32 (writeUInt32 w) = w := by
  have h : w.toNat < 1 <<< (8 * 4) := w.toNat_lt
  apply UInt32.toNat_inj.mp
  rw [readUInt32, writeUInt32, value_digits, Nat.mod_eq_of_lt h]
  simp

@[simp] theorem readUInt64_writeUInt64 (w : UInt64) : readUInt64 (writeUInt64 w) = w := by
  have h : w.toNat < 1 <<< (8 * 8) := w.toNat_lt
  apply UInt64.toNat_inj.mp
  rw [readUInt64, writeUInt64, value_digits, Nat.mod_eq_of_lt h]
  simp

@[simp] theorem readInt32_writeInt32 (w : Int32) : readInt32 (writeInt32 w) = w := by
  rw [readInt32, writeInt32, readUInt32_writeUInt32]
  rfl

@[simp] theorem readInt64_writeInt64 (w : Int64) : readInt64 (writeInt64 w) = w := by
  rw [readInt64, writeInt64, readUInt64_writeUInt64]
  rfl

theorem writeUInt32_readUInt32 {bytes : Bytes} (h : bytes.length = 4) :
    writeUInt32 (readUInt32 bytes) = bytes := by
  have lt : value bytes < 2 ^ 32 := by simpa [h] using value_lt bytes
  have word : (readUInt32 bytes).toNat = value bytes := by
    rw [readUInt32, UInt32.toNat_ofNat', Nat.mod_eq_of_lt lt]
  rw [writeUInt32, word, ← h, digits_value]

theorem writeUInt64_readUInt64 {bytes : Bytes} (h : bytes.length = 8) :
    writeUInt64 (readUInt64 bytes) = bytes := by
  have lt : value bytes < 2 ^ 64 := by simpa [h] using value_lt bytes
  have word : (readUInt64 bytes).toNat = value bytes := by
    rw [readUInt64, UInt64.toNat_ofNat', Nat.mod_eq_of_lt lt]
  rw [writeUInt64, word, ← h, digits_value]

theorem writeInt32_readInt32 {bytes : Bytes} (h : bytes.length = 4) :
    writeInt32 (readInt32 bytes) = bytes :=
  writeUInt32_readUInt32 h

theorem writeInt64_readInt64 {bytes : Bytes} (h : bytes.length = 8) :
    writeInt64 (readInt64 bytes) = bytes :=
  writeUInt64_readUInt64 h

end LittleEndian

end RemoteCall
