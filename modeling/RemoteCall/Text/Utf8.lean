import RemoteCall.Bytes.LittleEndian

/-!
# UTF-8 text

Strings travel as UTF-8. `Utf8.encode` writes a string; `Utf8.decode` reads one back and, when the
bytes are not well formed, says where the first ill-formed sequence starts and how long it is.

## Where a fault lies

A sequence is followed as long as some character could still begin with the bytes seen so far.
The fault's length is the number of bytes that could be followed, so it is one, two or three;
when the input ends in the middle of a character that was possible so far, the sequence is
incomplete rather than invalid.
-/

namespace RemoteCall

namespace Utf8

/-- Why a byte string is not UTF-8. Positions count bytes from the start of the text. -/
inductive Fault where
  /-- The `length` bytes from `start` on begin no character. -/
  | invalid (length start : Nat)
  /-- The text ends inside the character that begins at `start`. -/
  | incomplete (start : Nat)
  deriving DecidableEq, Repr

/-- The wording of a fault. -/
def Fault.message : Fault → String
  | .invalid length start => s!"invalid utf-8 sequence of {length} bytes from index {start}"
  | .incomplete start => s!"incomplete utf-8 byte sequence from index {start}"

/-! ## Writing -/

/-- The UTF-8 form of a string. -/
def encode (text : String) : Bytes := text.toList.flatMap String.utf8EncodeChar

@[simp] theorem encode_empty : encode "" = [] := rfl

theorem encode_append (text more : String) :
    encode (text ++ more) = encode text ++ encode more := by
  rw [encode, String.toList_append, List.flatMap_append, encode, encode]

/-! ## Reading one character -/

/-- What the front of a byte string is. -/
inductive Front where
  /-- There are no bytes. -/
  | finished
  /-- A character, and the bytes after it. -/
  | char (c : Char) (rest : Bytes)
  /-- Bytes that begin no character; `length` of them could be followed. -/
  | invalid (length : Nat)
  /-- The bytes end inside a character. -/
  | incomplete

/-- What a first byte announces: how many bytes follow it, the bits it carries, and the range of
the byte after it. -/
structure Lead where
  missing : Nat
  code : Nat
  low : UInt8 := 0x80
  high : UInt8 := 0xBF

/-- The announcement of a first byte. The range of the second byte leaves out overlong forms,
surrogates and codes above the last character. -/
def lead? (b : UInt8) : Option Lead :=
  if b < 0x80 then some ⟨0, b.toNat, 0x80, 0xBF⟩
  else if b < 0xC2 then none
  else if b < 0xE0 then some ⟨1, b.toNat - 0xC0, 0x80, 0xBF⟩
  else if b < 0xF0 then
    some ⟨2, b.toNat - 0xE0, if b = 0xE0 then 0xA0 else 0x80, if b = 0xED then 0x9F else 0xBF⟩
  else if b < 0xF5 then
    some ⟨3, b.toNat - 0xF0, if b = 0xF0 then 0x90 else 0x80, if b = 0xF4 then 0x8F else 0xBF⟩
  else none

/-- Follow the continuation bytes of a character. `code` holds the bits read so far, `followed` the
number of bytes they came from, and `missing` the number of bytes still expected, of which the
first lies between `low` and `high`. -/
def continuation : (missing : Nat) → (code followed : Nat) → (low high : UInt8) → Bytes → Front
  | 0, code, _, _, _, rest => .char (Char.ofNat code) rest
  | _ + 1, _, _, _, _, [] => .incomplete
  | missing + 1, code, followed, low, high, b :: rest =>
    if low ≤ b ∧ b ≤ high then
      continuation missing (code * 64 + (b.toNat - 0x80)) (followed + 1) 0x80 0xBF rest
    else .invalid followed

/-- Read one character. -/
def front : Bytes → Front
  | [] => .finished
  | b :: rest =>
    match lead? b with
    | none => .invalid 1
    | some lead => continuation lead.missing lead.code 1 lead.low lead.high rest

theorem continuation_length {missing code followed : Nat} {low high : UInt8} {bytes rest : Bytes}
    {c : Char} (h : continuation missing code followed low high bytes = .char c rest) :
    rest.length ≤ bytes.length := by
  induction missing generalizing code followed low high bytes with
  | zero =>
    simp only [continuation, Front.char.injEq] at h
    simp [h.2]
  | succ missing ih =>
    cases bytes with
    | nil => simp [continuation] at h
    | cons b tail =>
      rw [continuation] at h
      split at h
      · have := ih h
        simp only [List.length_cons]
        omega
      · simp at h

/-- A character takes at least one byte. -/
theorem front_length {bytes rest : Bytes} {c : Char} (h : front bytes = .char c rest) :
    rest.length < bytes.length := by
  cases bytes with
  | nil => simp [front] at h
  | cons b tail =>
    rw [front] at h
    split at h
    · simp at h
    · exact Nat.lt_succ_of_le (continuation_length h)

/-! ## Reading a text -/

/-- Read characters to the end. `start` is the position reached, `read` what was read before it,
last character first. -/
def decodeFrom (start : Nat) (read : List Char) (bytes : Bytes) : Except Fault (List Char) :=
  match _h : front bytes with
  | .finished => .ok read.reverse
  | .char c rest => decodeFrom (start + c.utf8Size) (c :: read) rest
  | .invalid length => .error (.invalid length start)
  | .incomplete => .error (.incomplete start)
termination_by bytes.length
decreasing_by exact front_length (by assumption)

/-- The string that the bytes spell, or the first fault in them. -/
def decode (bytes : Bytes) : Except Fault String :=
  (decodeFrom 0 [] bytes).map String.ofList

end Utf8

end RemoteCall
