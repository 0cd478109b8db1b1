import RemoteCall.Error
import RemoteCall.Settings.DoubleRange

/-!
# Scanning a settings text

A settings text is JSON. It is read once, from the front, and the first problem met decides how
the reading fails, so the scanners here stop exactly where a problem shows: `truncated` when the
text ends too early, `malformed` when a character cannot stand where it does.

A scanner returns what it read and the text behind it, with the fact that this text is shorter;
loops over a text end for that reason.

Values that nobody asked for are skipped more leniently than values that are read: numbers may have
any size and escapes need not form characters. A number that ends too early is `truncated` when it
is read and `malformed` when it is skipped.
-/

namespace RemoteCall

namespace Settings

/-! ## Scanners -/

/-- What was read from a text, and the shorter text behind it. -/
structure Scanned (text : List Char) (α : Type) where
  value : α
  rest : List Char
  shorter : rest.length < text.length

/-- The result of reading from a text. -/
abbrev Scan (text : List Char) (α : Type) := Except SettingsFault (Scanned text α)

/-- Use a scanner of a later part of a text as one of the text itself. -/
def Scanned.within {text later : List Char} {α : Type} (scanned : Scanned later α)
    (h : later.length ≤ text.length) : Scanned text α :=
  ⟨scanned.value, scanned.rest, Nat.lt_of_lt_of_le scanned.shorter h⟩

/-- What was read, changed. -/
def Scanned.map {text : List Char} {α β : Type} (f : α → β) (scanned : Scanned text α) :
    Scanned text β :=
  ⟨f scanned.value, scanned.rest, scanned.shorter⟩

/-! ## Blanks and words -/

/-- The blanks between tokens. -/
def isBlank (c : Char) : Bool := c == ' ' || c == '\n' || c == '\t' || c == '\r'

/-- The text from its first token on. -/
def skipBlanks (text : List Char) : List Char := text.dropWhile isBlank

theorem length_skipBlanks (text : List Char) : (skipBlanks text).length ≤ text.length :=
  (List.dropWhile_sublist _).length_le

/-- Read the rest of a fixed word. -/
def word : (expected : List Char) → (text : List Char) → Except SettingsFault (List Char)
  | [], text => .ok text
  | _ :: _, [] => .error .truncated
  | e :: expected, c :: text => if c = e then word expected text else .error .malformed

theorem length_word {expected text rest : List Char} (h : word expected text = .ok rest) :
    rest.length ≤ text.length := by
  induction expected generalizing text with
  | nil =>
    simp only [word, Except.ok.injEq] at h
    simp [h]
  | cons e expected ih =>
    cases text with
    | nil => simp [word] at h
    | cons c text =>
      rw [word] at h
      split at h
      · have := ih h
        simp only [List.length_cons]
        omega
      · simp at h

/-! ## Strings -/

/-- The value of a hexadecimal digit. -/
def hexDigit? (c : Char) : Option Nat :=
  if '0' ≤ c ∧ c ≤ '9' then some (c.toNat - '0'.toNat)
  else if 'a' ≤ c ∧ c ≤ 'f' then some (c.toNat - 'a'.toNat + 10)
  else if 'A' ≤ c ∧ c ≤ 'F' then some (c.toNat - 'A'.toNat + 10)
  else none

/-- Whether fewer than four bytes of text are left. -/
def isShort (text : List Char) : Bool := (text.take 4).foldl (fun n c => n + c.utf8Size) 0 < 4

/-- Read the four digits of a unicode escape. -/
def hexWord : List Char → Except SettingsFault (Nat × List Char)
  | a :: b :: c :: d :: rest =>
    match hexDigit? a, hexDigit? b, hexDigit? c, hexDigit? d with
    | some a, some b, some c, some d => .ok (((a * 16 + b) * 16 + c) * 16 + d, rest)
    | _, _, _, _ => .error .malformed
  | text => .error (if isShort text then .truncated else .malformed)

theorem length_hexWord {text rest : List Char} {n : Nat} (h : hexWord text = .ok (n, rest)) :
    rest.length ≤ text.length := by
  unfold hexWord at h
  split at h
  · split at h
    · simp only [Except.ok.injEq, Prod.mk.injEq] at h
      simp only [h.2, List.length_cons]
      omega
    · simp at h
  · simp at h

/-- The characters that stand for themselves or for a control character behind a backslash. -/
def simpleEscape? (c : Char) : Option Char :=
  match c with
  | '"' => some '"'
  | '\\' => some '\\'
  | '/' => some '/'
  | 'b' => some '\x08'
  | 'f' => some '\x0c'
  | 'n' => some '\n'
  | 'r' => some '\r'
  | 't' => some '\t'
  | _ => none

/-- Read the second half of a surrogate pair, whose first half is `high`. -/
def lowSurrogate (high : Nat) (text : List Char) : Except SettingsFault (Char × List Char) :=
  match text with
  | [] => .error .truncated
  | '\\' :: [] => .error .truncated
  | '\\' :: 'u' :: rest =>
    match hexWord rest with
    | .error fault => .error fault
    | .ok (low, rest) =>
      if 0xDC00 ≤ low ∧ low ≤ 0xDFFF then
        .ok (Char.ofNat ((high - 0xD800) * 0x400 + (low - 0xDC00) + 0x10000), rest)
      else .error .malformed
  | _ => .error .malformed

/-- Read an escape behind its backslash. -/
def escape (text : List Char) : Except SettingsFault (Char × List Char) :=
  match text with
  | [] => .error .truncated
  | 'u' :: rest =>
    match hexWord rest with
    | .error fault => .error fault
    | .ok (code, rest) =>
      if 0xDC00 ≤ code ∧ code ≤ 0xDFFF then .error .malformed
      else if 0xD800 ≤ code ∧ code ≤ 0xDBFF then lowSurrogate code rest
      else .ok (Char.ofNat code, rest)
  | c :: rest =>
    match simpleEscape? c with
    | some c => .ok (c, rest)
    | none => .error .malformed

/-- Skip an escape behind its backslash; its code need not form a character. -/
def skipEscape (text : List Char) : Except SettingsFault (List Char) :=
  match text with
  | [] => .error .truncated
  | 'u' :: rest => (hexWord rest).map Prod.snd
  | c :: rest =>
    match simpleEscape? c with
    | some _ => .ok rest
    | none => .error .malformed

theorem length_lowSurrogate {high : Nat} {text rest : List Char} {c : Char}
    (h : lowSurrogate high text = .ok (c, rest)) : rest.length ≤ text.length := by
  unfold lowSurrogate at h
  split at h
  · simp at h
  · simp at h
  · split at h
    · simp at h
    · next hw =>
      have := length_hexWord hw
      split at h
      · simp only [Except.ok.injEq, Prod.mk.injEq] at h
        simp only [← h.2, List.length_cons]
        omega
      · simp at h
  · simp at h

theorem length_escape {text rest : List Char} {c : Char} (h : escape text = .ok (c, rest)) :
    rest.length ≤ text.length := by
  unfold escape at h
  split at h
  · simp at h
  · split at h
    · simp at h
    · next hw =>
      have := length_hexWord hw
      simp only [List.length_cons]
      split at h
      · simp at h
      split at h
      · have := length_lowSurrogate h
        omega
      · simp only [Except.ok.injEq, Prod.mk.injEq] at h
        simp only [← h.2]
        omega
  · split at h
    · simp only [Except.ok.injEq, Prod.mk.injEq] at h
      simp [← h.2]
    · simp at h

theorem length_skipEscape {text rest : List Char} (h : skipEscape text = .ok rest) :
    rest.length ≤ text.length := by
  unfold skipEscape at h
  split at h
  · simp at h
  · next tail =>
    cases hw : hexWord tail with
    | error fault => simp [hw, Except.map] at h
    | ok found =>
      obtain ⟨n, r⟩ := found
      have := length_hexWord hw
      simp only [hw, Except.map, Except.ok.injEq] at h
      simp only [← h, List.length_cons]
      omega
  · split at h
    · simp only [Except.ok.injEq] at h
      simp [← h]
    · simp at h

/-- Read a string behind its opening quote. `read` holds its characters so far, last one first. -/
def string (read : List Char) (text : List Char) : Scan text String :=
  match text with
  | [] => .error .truncated
  | c :: rest =>
    if c = '"' then .ok ⟨String.ofList read.reverse, rest, by simp⟩
    else if c = '\\' then
      match h : escape rest with
      | .error fault => .error fault
      | .ok (c, behind) =>
        have shorter := length_escape h
        match string (c :: read) behind with
        | .error fault => .error fault
        | .ok scanned => .ok (scanned.within (by simp only [List.length_cons]; omega))
    else if c < ' ' then .error .malformed
    else
      match string (c :: read) rest with
      | .error fault => .error fault
      | .ok scanned => .ok (scanned.within (by simp))
termination_by text.length
decreasing_by all_goals simp only [List.length_cons]; omega

/-- Skip a string behind its opening quote. -/
def skipString (text : List Char) : Scan text Unit :=
  match text with
  | [] => .error .truncated
  | c :: rest =>
    if c = '"' then .ok ⟨(), rest, by simp⟩
    else if c = '\\' then
      match h : skipEscape rest with
      | .error fault => .error fault
      | .ok behind =>
        have shorter := length_skipEscape h
        match skipString behind with
        | .error fault => .error fault
        | .ok scanned => .ok (scanned.within (by simp only [List.length_cons]; omega))
    else if c < ' ' then .error .malformed
    else
      match skipString rest with
      | .error fault => .error fault
      | .ok scanned => .ok (scanned.within (by simp))
termination_by text.length
decreasing_by all_goals simp only [List.length_cons]; omega

/-! ## Numbers -/

/-- The value of a decimal digit. -/
def digitValue (c : Char) : Nat := c.toNat - '0'.toNat

/-- The largest 64-bit word. -/
def maxWord : Nat := 18446744073709551615

/-- Append decimal digits to a number as long as it stays a 64-bit word. Returns the number and how
many digits were left over. -/
def absorb (significand : Nat) : List Char → Nat × Nat
  | [] => (significand, 0)
  | c :: rest =>
    let next := significand * 10 + digitValue c
    if next ≤ maxWord then absorb next rest else (significand, rest.length + 1)

/-- The parts of a number as they are written, without its sign. -/
structure Numeral where
  whole : List Char
  /-- The digits behind the point, if there is one. -/
  fraction : Option (List Char)
  /-- The sign and the digits of the exponent, if there is one. -/
  exponent : Option (Bool × List Char)

namespace Numeral

/-- The 64-bit word that a numeral without point and exponent spells. -/
def word? (numeral : Numeral) : Option Nat :=
  match numeral.fraction, numeral.exponent, absorb 0 numeral.whole with
  | none, none, (n, 0) => some n
  | _, _, _ => none

/-- Whether a numeral is beyond the range of doubles. The digits that no 64-bit word could take in
count only by their number. -/
def exceedsDoubles (numeral : Numeral) : Bool :=
  let (whole, dropped) := absorb 0 numeral.whole
  let digits := numeral.fraction.getD []
  let (significand, unread) := absorb whole digits
  let scale : Int := dropped - (digits.length - unread : Nat)
  let exponent : Int :=
    match numeral.exponent with
    | none => 0
    | some (negative, digits) =>
      let size : Int := digits.foldl (fun n c => n * 10 + digitValue c) (0 : Nat)
      if negative then -size else size
  DoubleRange.exceeds significand (scale + exponent)

end Numeral

/-- Read at least one digit. `atEnd` is the fault when the text ends before it. -/
def someDigits (atEnd : SettingsFault) (text : List Char) :
    Except SettingsFault (List Char × List Char) :=
  match text.takeWhile Char.isDigit with
  | [] => .error (if text.isEmpty then atEnd else .malformed)
  | d :: ds => .ok (d :: ds, text.dropWhile Char.isDigit)

/-- Read the point and the digits behind it, if there is a point. -/
def fraction? (atEnd : SettingsFault) (text : List Char) :
    Except SettingsFault (Option (List Char) × List Char) :=
  match text with
  | '.' :: rest => (someDigits atEnd rest).map fun (ds, rest) => (some ds, rest)
  | _ => .ok (none, text)

/-- The sign in front of the digits of an exponent: whether it is negative, and the text behind. -/
def exponentSign : List Char → Bool × List Char
  | '+' :: rest => (false, rest)
  | '-' :: rest => (true, rest)
  | text => (false, text)

/-- Read an exponent, if its letter is there. -/
def exponent? (atEnd : SettingsFault) (text : List Char) :
    Except SettingsFault (Option (Bool × List Char) × List Char) :=
  match text with
  | [] => .ok (none, [])
  | c :: rest =>
    if c = 'e' ∨ c = 'E' then
      (someDigits atEnd (exponentSign rest).2).map fun (ds, behind) =>
        (some ((exponentSign rest).1, ds), behind)
    else .ok (none, c :: rest)

/-- Read a number behind its sign. `atEnd` is the fault when the text ends before a digit that must
come. A leading zero is followed by no digit. -/
def numeral (atEnd : SettingsFault) (text : List Char) :
    Except SettingsFault (Numeral × List Char) :=
  match someDigits atEnd text with
  | .error fault => .error fault
  | .ok ('0' :: _ :: _, _) => .error .malformed
  | .ok (whole, rest) =>
    match fraction? atEnd rest with
    | .error fault => .error fault
    | .ok (fraction, rest) =>
      (exponent? atEnd rest).map fun (exponent, rest) => (⟨whole, fraction, exponent⟩, rest)

theorem length_someDigits {atEnd : SettingsFault} {text ds rest : List Char}
    (h : someDigits atEnd text = .ok (ds, rest)) : rest.length < text.length := by
  have total :=
    congrArg List.length (List.takeWhile_append_dropWhile (p := Char.isDigit) (l := text))
  unfold someDigits at h
  split at h
  · simp at h
  · next hd =>
    simp only [Except.ok.injEq, Prod.mk.injEq] at h
    simp only [hd, List.length_append, List.length_cons] at total
    rw [← h.2]
    omega

theorem length_fraction? {atEnd : SettingsFault} {text rest : List Char}
    {fraction : Option (List Char)} (h : fraction? atEnd text = .ok (fraction, rest)) :
    rest.length ≤ text.length := by
  unfold fraction? at h
  split at h
  · next tail =>
    cases hd : someDigits atEnd tail with
    | error fault => simp [hd, Except.map] at h
    | ok found =>
      have := length_someDigits hd
      simp only [hd, Except.map, Except.ok.injEq, Prod.mk.injEq] at h
      simp only [← h.2, List.length_cons]
      omega
  · simp only [Except.ok.injEq, Prod.mk.injEq] at h
    simp [h.2]

theorem length_exponentSign (text : List Char) : (exponentSign text).2.length ≤ text.length := by
  unfold exponentSign
  split <;> simp

theorem length_exponent? {atEnd : SettingsFault} {text rest : List Char}
    {exponent : Option (Bool × List Char)} (h : exponent? atEnd text = .ok (exponent, rest)) :
    rest.length ≤ text.length := by
  unfold exponent? at h
  split at h
  · simp only [Except.ok.injEq, Prod.mk.injEq] at h
    simp [← h.2]
  · next c tail =>
    split at h
    · have sign := length_exponentSign tail
      cases hd : someDigits atEnd (exponentSign tail).2 with
      | error fault => simp [hd, Except.map] at h
      | ok found =>
        have := length_someDigits hd
        simp only [hd, Except.map, Except.ok.injEq, Prod.mk.injEq] at h
        simp only [← h.2, List.length_cons]
        omega
    · simp only [Except.ok.injEq, Prod.mk.injEq] at h
      simp [← h.2]

theorem length_numeral {atEnd : SettingsFault} {text rest : List Char} {n : Numeral}
    (h : numeral atEnd text = .ok (n, rest)) : rest.length < text.length := by
  unfold numeral at h
  split at h
  · simp at h
  · simp at h
  · next hd =>
    have := length_someDigits hd
    split at h
    · simp at h
    · next behind hf =>
      have := length_fraction? hf
      cases he : exponent? atEnd behind with
      | error fault => simp [he, Except.map] at h
      | ok found =>
        have := length_exponent? he
        simp only [he, Except.map, Except.ok.injEq, Prod.mk.injEq] at h
        rw [← h.2]
        omega

end Settings

end RemoteCall
