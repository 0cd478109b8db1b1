import Mathlib.Tactic.Lemma
import RemoteCall.Text.Utf8

/-!
# Reading and writing UTF-8 are inverse

The reader follows first bytes and continuation bytes through ranges; the writer is arithmetic on
the code of a character.  A character in front of a byte string is exactly its written form
(`front_encodeChar_append`, `eq_of_front_eq_char`), so a text is read back from its bytes, and bytes
that are read as a text are its bytes (`decode_eq_ok_iff`).

## The proof

There are four kinds of characters, by the number of their bytes, and each kind has its section: how
it is written, that it is read back, and that bytes in its ranges write the code that they are
followed to.  The ranges of the second byte are narrower behind some first bytes.  They leave out
what could be written with fewer bytes, the codes that are no characters, and the codes beyond the
last one; in the arithmetic these are the bounds of the section.

The four sections are put together twice, once by the code of a character and once by the range of a
first byte (`range_of_lead?_eq_some`).  A whole text is then an induction on its characters.

That the strict reader accepts exactly what the writer produces is what makes the encoding of
strings unique, and so that of values.

## Main statements

* `front_encodeChar_append` — the written form of a character is read back.
* `eq_of_front_eq_char` — a character that is read was written as the bytes that were taken for it.
* `decode_eq_ok_iff` — reading accepts exactly what writing produces.
-/

namespace RemoteCall

namespace Utf8

/-! ## First bytes -/

section Lead

variable {b : UInt8}

/-- The ranges of first bytes, in numbers. -/
lemma lead?_eq (b : UInt8) :
    lead? b =
      if b.toNat < 0x80 then some ⟨0, b.toNat, 0x80, 0xBF⟩
      else if b.toNat < 0xC2 then none
      else if b.toNat < 0xE0 then some ⟨1, b.toNat - 0xC0, 0x80, 0xBF⟩
      else if b.toNat < 0xF0 then
        some ⟨2, b.toNat - 0xE0, if b = 0xE0 then 0xA0 else 0x80, if b = 0xED then 0x9F else 0xBF⟩
      else if b.toNat < 0xF5 then
        some ⟨3, b.toNat - 0xF0, if b = 0xF0 then 0x90 else 0x80, if b = 0xF4 then 0x8F else 0xBF⟩
      else none := by
  simp only [lead?, UInt8.lt_iff_toNat_lt, UInt8.reduceToNat]

lemma lead?_one (h : b.toNat < 0x80) : lead? b = some ⟨0, b.toNat, 0x80, 0xBF⟩ := by
  rw [lead?_eq, if_pos h]

lemma lead?_two (low : 0xC2 ≤ b.toNat) (high : b.toNat < 0xE0) :
    lead? b = some ⟨1, b.toNat - 0xC0, 0x80, 0xBF⟩ := by
  rw [lead?_eq, if_neg (by omega), if_neg (by omega), if_pos high]

lemma lead?_three (low : 0xE0 ≤ b.toNat) (high : b.toNat < 0xF0) :
    lead? b = some ⟨2, b.toNat - 0xE0, if b = 0xE0 then 0xA0 else 0x80,
      if b = 0xED then 0x9F else 0xBF⟩ := by
  rw [lead?_eq, if_neg (by omega), if_neg (by omega), if_neg (by omega), if_pos high]

lemma lead?_four (low : 0xF0 ≤ b.toNat) (high : b.toNat < 0xF5) :
    lead? b = some ⟨3, b.toNat - 0xF0, if b = 0xF0 then 0x90 else 0x80,
      if b = 0xF4 then 0x8F else 0xBF⟩ := by
  rw [lead?_eq, if_neg (by omega), if_neg (by omega), if_neg (by omega), if_neg (by omega),
    if_pos high]

/-- A byte that begins a character is in one of four ranges. -/
lemma range_of_lead?_eq_some {lead : Lead} (h : lead? b = some lead) :
    b.toNat < 0x80 ∨ (0xC2 ≤ b.toNat ∧ b.toNat < 0xE0) ∨ (0xE0 ≤ b.toNat ∧ b.toNat < 0xF0) ∨
      (0xF0 ≤ b.toNat ∧ b.toNat < 0xF5) := by
  by_cases none : (0x80 ≤ b.toNat ∧ b.toNat < 0xC2) ∨ 0xF5 ≤ b.toNat
  · rw [lead?_eq, if_neg (by omega)] at h
    rcases none with low | high
    · rw [if_pos (by omega)] at h
      exact absurd h (by simp)
    · rw [if_neg (by omega), if_neg (by omega), if_neg (by omega), if_neg (by omega)] at h
      exact absurd h (by simp)
  · omega

end Lead

/-! ## Continuation bytes -/

lemma continuation_succ_cons {missing code followed : Nat} {low high b : UInt8} {rest : Bytes}
    (hlow : low ≤ b) (hhigh : b ≤ high) :
    continuation (missing + 1) code followed low high (b :: rest) =
      continuation missing (code * 64 + (b.toNat - 0x80)) (followed + 1) 0x80 0xBF rest := by
  rw [continuation, if_pos ⟨hlow, hhigh⟩]

/-- A character that needs another byte has one within the range. -/
lemma exists_of_continuation_succ {missing code followed : Nat} {low high : UInt8}
    {bytes rest : Bytes} {c : Char}
    (h : continuation (missing + 1) code followed low high bytes = .char c rest) :
    ∃ b tail, bytes = b :: tail ∧ low ≤ b ∧ b ≤ high ∧
      continuation missing (code * 64 + (b.toNat - 0x80)) (followed + 1) 0x80 0xBF tail =
        .char c rest := by
  cases bytes with
  | nil => simp [continuation] at h
  | cons b tail =>
    rw [continuation] at h
    split at h
    · next range => exact ⟨b, tail, rfl, range.1, range.2, h⟩
    · simp at h

lemma eq_of_continuation_zero {code followed : Nat} {low high : UInt8} {bytes rest : Bytes}
    {c : Char} (h : continuation 0 code followed low high bytes = .char c rest) :
    c = Char.ofNat code ∧ bytes = rest := by
  simp only [continuation, Front.char.injEq] at h
  exact ⟨h.1.symm, h.2⟩

lemma continuation_ne_finished {missing code followed : Nat} {low high : UInt8} {bytes : Bytes} :
    continuation missing code followed low high bytes ≠ .finished := by
  induction missing generalizing code followed low high bytes with
  | zero => simp [continuation]
  | succ missing ih =>
    cases bytes with
    | nil => simp [continuation]
    | cons b tail =>
      rw [continuation]
      split
      · exact ih
      · simp

/-! ## One character, by the number of its bytes

In each section `v` is the code of a character that takes that many bytes.  The first statement
computes the written form, and the other reads it back.
-/

lemma toNat_ofNat_of_lt {n : Nat} (h : n < 256) : (UInt8.ofNat n).toNat = n := by
  rw [UInt8.toNat_ofNat']
  exact Nat.mod_eq_of_lt h

lemma ofNat_eq_of_toNat {b : UInt8} {n : Nat} (h : n = b.toNat) : UInt8.ofNat n = b := by
  rw [h, UInt8.ofNat_toNat]

lemma toNat_charOfNat {v : Nat} (valid : v.isValidChar) : (Char.ofNat v).val.toNat = v := by
  rw [Char.ofNat, dif_pos valid]
  rfl

lemma encodeChar_one {v : Nat} (high : v < 0x80) :
    String.utf8EncodeChar (Char.ofNat v) = [UInt8.ofNat v] := by
  have hv : (Char.ofNat v).val.toNat = v := toNat_charOfNat (Or.inl (by omega))
  simp only [String.utf8EncodeChar, hv]
  rw [if_pos (by omega)]

lemma front_one {v : Nat} (high : v < 0x80) (rest : Bytes) :
    front (UInt8.ofNat v :: rest) = .char (Char.ofNat v) rest := by
  have b0 := toNat_ofNat_of_lt (n := v) (by omega)
  rw [front, lead?_one (by omega)]
  simp only [continuation, b0]

/-- The byte of a character of this section writes its code. -/
lemma encodeChar_of_one {b : UInt8} (high : b.toNat < 0x80) :
    String.utf8EncodeChar (Char.ofNat b.toNat) = [b] := by
  rw [encodeChar_one high, ofNat_eq_of_toNat rfl]

lemma encodeChar_two {v : Nat} (low : 0x80 ≤ v) (high : v < 0x800) :
    String.utf8EncodeChar (Char.ofNat v) =
      [UInt8.ofNat (v / 64 % 32 + 0xC0), UInt8.ofNat (v % 64 + 0x80)] := by
  have hv : (Char.ofNat v).val.toNat = v := toNat_charOfNat (Or.inl (by omega))
  simp only [String.utf8EncodeChar, hv]
  rw [if_neg (by omega), if_pos (by omega)]

lemma front_two {v : Nat} (low : 0x80 ≤ v) (high : v < 0x800) (rest : Bytes) :
    front (UInt8.ofNat (v / 64 % 32 + 0xC0) :: UInt8.ofNat (v % 64 + 0x80) :: rest) =
      .char (Char.ofNat v) rest := by
  have b0 := toNat_ofNat_of_lt (n := v / 64 % 32 + 0xC0) (by omega)
  have b1 := toNat_ofNat_of_lt (n := v % 64 + 0x80) (by omega)
  have code : (v / 64 % 32 + 0xC0 - 0xC0) * 64 + (v % 64 + 0x80 - 0x80) = v := by omega
  rw [front, lead?_two (by omega) (by omega)]
  simp only
  rw [continuation_succ_cons]
  · simp only [continuation, b0, b1, code]
  · rw [UInt8.le_iff_toNat_le, b1]
    simp
  · rw [UInt8.le_iff_toNat_le, b1]
    simp
    omega

/-- Two bytes in their ranges write the code that they are followed to. -/
lemma encodeChar_of_two {b0 b1 : UInt8} (low : 0xC2 ≤ b0.toNat) (high : b0.toNat < 0xE0)
    (low1 : 0x80 ≤ b1) (high1 : b1 ≤ 0xBF) :
    String.utf8EncodeChar (Char.ofNat ((b0.toNat - 0xC0) * 64 + (b1.toNat - 0x80))) = [b0, b1] := by
  simp only [UInt8.le_iff_toNat_le, UInt8.reduceToNat] at low1 high1
  rw [encodeChar_two (by omega) (by omega), ofNat_eq_of_toNat (b := b0) (by omega),
    ofNat_eq_of_toNat (b := b1) (by omega)]

lemma encodeChar_three {v : Nat} (low : 0x800 ≤ v) (high : v < 0x10000)
    (valid : v < 0xD800 ∨ 0xDFFF < v) :
    String.utf8EncodeChar (Char.ofNat v) =
      [UInt8.ofNat (v / 4096 % 16 + 0xE0), UInt8.ofNat (v / 64 % 64 + 0x80),
        UInt8.ofNat (v % 64 + 0x80)] := by
  have hv : (Char.ofNat v).val.toNat = v := toNat_charOfNat (by unfold Nat.isValidChar; omega)
  simp only [String.utf8EncodeChar, hv]
  rw [if_neg (by omega), if_neg (by omega), if_pos (by omega)]

lemma front_three {v : Nat} (low : 0x800 ≤ v) (high : v < 0x10000)
    (valid : v < 0xD800 ∨ 0xDFFF < v) (rest : Bytes) :
    front (UInt8.ofNat (v / 4096 % 16 + 0xE0) :: UInt8.ofNat (v / 64 % 64 + 0x80) ::
      UInt8.ofNat (v % 64 + 0x80) :: rest) = .char (Char.ofNat v) rest := by
  have b0 := toNat_ofNat_of_lt (n := v / 4096 % 16 + 0xE0) (by omega)
  have b1 := toNat_ofNat_of_lt (n := v / 64 % 64 + 0x80) (by omega)
  have b2 := toNat_ofNat_of_lt (n := v % 64 + 0x80) (by omega)
  have code : ((v / 4096 % 16 + 0xE0 - 0xE0) * 64 + (v / 64 % 64 + 0x80 - 0x80)) * 64 +
      (v % 64 + 0x80 - 0x80) = v := by omega
  rw [front, lead?_three (by omega) (by omega)]
  simp only
  rw [continuation_succ_cons, continuation_succ_cons]
  · simp only [continuation, b0, b1, b2, code]
  · rw [UInt8.le_iff_toNat_le, b2]
    simp
  · rw [UInt8.le_iff_toNat_le, b2]
    simp
    omega
  -- the second byte of the first character in this section is above the overlong ones
  · simp only [UInt8.le_iff_toNat_le, b1, ← UInt8.toNat_inj, b0]
    split
    · next first =>
      simp only [UInt8.reduceToNat] at first ⊢
      omega
    · simp
  -- and the one before the surrogates is below them
  · simp only [UInt8.le_iff_toNat_le, b1, ← UInt8.toNat_inj, b0]
    split
    · next first =>
      simp only [UInt8.reduceToNat] at first ⊢
      omega
    · simp only [UInt8.reduceToNat]
      omega

/-- Three bytes in their ranges write the code that they are followed to. -/
lemma encodeChar_of_three {b0 b1 b2 : UInt8} (low : 0xE0 ≤ b0.toNat) (high : b0.toNat < 0xF0)
    (low1 : (if b0 = 0xE0 then 0xA0 else 0x80) ≤ b1)
    (high1 : b1 ≤ if b0 = 0xED then 0x9F else 0xBF) (low2 : 0x80 ≤ b2) (high2 : b2 ≤ 0xBF) :
    String.utf8EncodeChar (Char.ofNat (((b0.toNat - 0xE0) * 64 + (b1.toNat - 0x80)) * 64 +
      (b2.toNat - 0x80))) = [b0, b1, b2] := by
  simp only [UInt8.le_iff_toNat_le, UInt8.reduceToNat, ← UInt8.toNat_inj] at low1 high1 low2 high2
  have above : 0x80 ≤ b1.toNat ∧ (b0.toNat = 0xE0 → 0xA0 ≤ b1.toNat) := by
    split at low1 <;> simp only [UInt8.reduceToNat] at low1 <;> omega
  have below : b1.toNat ≤ 0xBF ∧ (b0.toNat = 0xED → b1.toNat ≤ 0x9F) := by
    split at high1 <;> simp only [UInt8.reduceToNat] at high1 <;> omega
  rw [encodeChar_three (by omega) (by omega) (by omega), ofNat_eq_of_toNat (b := b0) (by omega),
    ofNat_eq_of_toNat (b := b1) (by omega), ofNat_eq_of_toNat (b := b2) (by omega)]

lemma encodeChar_four {v : Nat} (low : 0x10000 ≤ v) (high : v < 0x110000) :
    String.utf8EncodeChar (Char.ofNat v) =
      [UInt8.ofNat (v / 262144 % 8 + 0xF0), UInt8.ofNat (v / 4096 % 64 + 0x80),
        UInt8.ofNat (v / 64 % 64 + 0x80), UInt8.ofNat (v % 64 + 0x80)] := by
  have hv : (Char.ofNat v).val.toNat = v := toNat_charOfNat (by unfold Nat.isValidChar; omega)
  simp only [String.utf8EncodeChar, hv]
  rw [if_neg (by omega), if_neg (by omega), if_neg (by omega)]

lemma front_four {v : Nat} (low : 0x10000 ≤ v) (high : v < 0x110000) (rest : Bytes) :
    front (UInt8.ofNat (v / 262144 % 8 + 0xF0) :: UInt8.ofNat (v / 4096 % 64 + 0x80) ::
      UInt8.ofNat (v / 64 % 64 + 0x80) :: UInt8.ofNat (v % 64 + 0x80) :: rest) =
        .char (Char.ofNat v) rest := by
  have b0 := toNat_ofNat_of_lt (n := v / 262144 % 8 + 0xF0) (by omega)
  have b1 := toNat_ofNat_of_lt (n := v / 4096 % 64 + 0x80) (by omega)
  have b2 := toNat_ofNat_of_lt (n := v / 64 % 64 + 0x80) (by omega)
  have b3 := toNat_ofNat_of_lt (n := v % 64 + 0x80) (by omega)
  have code : (((v / 262144 % 8 + 0xF0 - 0xF0) * 64 + (v / 4096 % 64 + 0x80 - 0x80)) * 64 +
      (v / 64 % 64 + 0x80 - 0x80)) * 64 + (v % 64 + 0x80 - 0x80) = v := by omega
  rw [front, lead?_four (by omega) (by omega)]
  simp only
  rw [continuation_succ_cons, continuation_succ_cons, continuation_succ_cons]
  · simp only [continuation, b0, b1, b2, b3, code]
  · rw [UInt8.le_iff_toNat_le, b3]
    simp
  · rw [UInt8.le_iff_toNat_le, b3]
    simp
    omega
  · rw [UInt8.le_iff_toNat_le, b2]
    simp
  · rw [UInt8.le_iff_toNat_le, b2]
    simp
    omega
  · simp only [UInt8.le_iff_toNat_le, b1, ← UInt8.toNat_inj, b0]
    split
    · next first =>
      simp only [UInt8.reduceToNat] at first ⊢
      omega
    · simp
  · simp only [UInt8.le_iff_toNat_le, b1, ← UInt8.toNat_inj, b0]
    split
    · next first =>
      simp only [UInt8.reduceToNat] at first ⊢
      omega
    · simp only [UInt8.reduceToNat]
      omega

/-- Four bytes in their ranges write the code that they are followed to. -/
lemma encodeChar_of_four {b0 b1 b2 b3 : UInt8} (low : 0xF0 ≤ b0.toNat) (high : b0.toNat < 0xF5)
    (low1 : (if b0 = 0xF0 then 0x90 else 0x80) ≤ b1)
    (high1 : b1 ≤ if b0 = 0xF4 then 0x8F else 0xBF) (low2 : 0x80 ≤ b2) (high2 : b2 ≤ 0xBF)
    (low3 : 0x80 ≤ b3) (high3 : b3 ≤ 0xBF) :
    String.utf8EncodeChar (Char.ofNat ((((b0.toNat - 0xF0) * 64 + (b1.toNat - 0x80)) * 64 +
      (b2.toNat - 0x80)) * 64 + (b3.toNat - 0x80))) = [b0, b1, b2, b3] := by
  simp only [UInt8.le_iff_toNat_le, UInt8.reduceToNat, ← UInt8.toNat_inj]
    at low1 high1 low2 high2 low3 high3
  have above : 0x80 ≤ b1.toNat ∧ (b0.toNat = 0xF0 → 0x90 ≤ b1.toNat) := by
    split at low1 <;> simp only [UInt8.reduceToNat] at low1 <;> omega
  have below : b1.toNat ≤ 0xBF ∧ (b0.toNat = 0xF4 → b1.toNat ≤ 0x8F) := by
    split at high1 <;> simp only [UInt8.reduceToNat] at high1 <;> omega
  rw [encodeChar_four (by omega) (by omega), ofNat_eq_of_toNat (b := b0) (by omega),
    ofNat_eq_of_toNat (b := b1) (by omega), ofNat_eq_of_toNat (b := b2) (by omega),
    ofNat_eq_of_toNat (b := b3) (by omega)]

/-! ## One character -/

/-- The written form of a character is read back. -/
theorem front_encodeChar_append (c : Char) (rest : Bytes) :
    front (String.utf8EncodeChar c ++ rest) = .char c rest := by
  have back : Char.ofNat c.val.toNat = c := Char.ofNat_toNat c
  have valid : c.val.toNat < 0xD800 ∨ (0xDFFF < c.val.toNat ∧ c.val.toNat < 0x110000) := c.valid
  rw [← back]
  generalize c.val.toNat = v at valid
  by_cases one : v < 0x80
  · rw [encodeChar_one one]
    exact front_one one rest
  by_cases two : v < 0x800
  · rw [encodeChar_two (by omega) two]
    exact front_two (by omega) two rest
  by_cases three : v < 0x10000
  · rw [encodeChar_three (by omega) three (by omega)]
    exact front_three (by omega) three (by omega) rest
  · rw [encodeChar_four (by omega) (by omega)]
    exact front_four (by omega) (by omega) rest

/-- A character that is read was written as the bytes that were taken for it. -/
theorem eq_of_front_eq_char {bytes rest : Bytes} {c : Char} (h : front bytes = .char c rest) :
    bytes = String.utf8EncodeChar c ++ rest := by
  cases bytes with
  | nil => simp [front] at h
  | cons b0 tail =>
    rw [front] at h
    split at h
    · simp at h
    next lead first =>
    rcases range_of_lead?_eq_some first with one | ⟨low, high⟩ | ⟨low, high⟩ | ⟨low, high⟩
    · rw [lead?_one one, Option.some.injEq] at first
      subst first
      obtain ⟨code, rest_eq⟩ := eq_of_continuation_zero h
      rw [code, ← rest_eq, encodeChar_of_one one]
      rfl
    · rw [lead?_two low high, Option.some.injEq] at first
      subst first
      obtain ⟨b1, tail, rfl, low1, high1, h⟩ := exists_of_continuation_succ h
      obtain ⟨code, rest_eq⟩ := eq_of_continuation_zero h
      rw [code, ← rest_eq, encodeChar_of_two low high low1 high1]
      rfl
    · rw [lead?_three low high, Option.some.injEq] at first
      subst first
      obtain ⟨b1, tail, rfl, low1, high1, h⟩ := exists_of_continuation_succ h
      obtain ⟨b2, tail, rfl, low2, high2, h⟩ := exists_of_continuation_succ h
      obtain ⟨code, rest_eq⟩ := eq_of_continuation_zero h
      rw [code, ← rest_eq, encodeChar_of_three low high low1 high1 low2 high2]
      rfl
    · rw [lead?_four low high, Option.some.injEq] at first
      subst first
      obtain ⟨b1, tail, rfl, low1, high1, h⟩ := exists_of_continuation_succ h
      obtain ⟨b2, tail, rfl, low2, high2, h⟩ := exists_of_continuation_succ h
      obtain ⟨b3, tail, rfl, low3, high3, h⟩ := exists_of_continuation_succ h
      obtain ⟨code, rest_eq⟩ := eq_of_continuation_zero h
      rw [code, ← rest_eq, encodeChar_of_four low high low1 high1 low2 high2 low3 high3]
      rfl

/-! ## A whole text -/

lemma decodeFrom_encode (chars read : List Char) (start : Nat) :
    decodeFrom start read (chars.flatMap String.utf8EncodeChar) = .ok (read.reverse ++ chars) := by
  induction chars generalizing start read with
  | nil =>
    rw [List.flatMap_nil, decodeFrom]
    simp [front]
  | cons c rest ih =>
    rw [List.flatMap_cons, decodeFrom]
    split
    · next h => simp [front_encodeChar_append] at h
    · next c' rest' h =>
      rw [front_encodeChar_append, Front.char.injEq] at h
      obtain ⟨rfl, rfl⟩ := h
      rw [ih]
      simp
    · next h => simp [front_encodeChar_append] at h
    · next h => simp [front_encodeChar_append] at h

lemma eq_of_front_eq_finished {bytes : Bytes} (h : front bytes = .finished) : bytes = [] := by
  cases bytes with
  | nil => rfl
  | cons b tail =>
    rw [front] at h
    split at h
    · simp at h
    · exact absurd h continuation_ne_finished

lemma eq_of_decodeFrom_eq_ok {start : Nat} {read chars : List Char} {bytes : Bytes}
    (h : decodeFrom start read bytes = .ok chars) :
    ∃ rest, chars = read.reverse ++ rest ∧ bytes = rest.flatMap String.utf8EncodeChar := by
  fun_induction decodeFrom start read bytes with
  | case1 start read bytes finished =>
    rw [Except.ok.injEq] at h
    exact ⟨[], by simp [h], eq_of_front_eq_finished finished⟩
  | case2 start read bytes c rest first ih =>
    obtain ⟨more, rfl, rfl⟩ := ih h
    exact ⟨c :: more, by simp, eq_of_front_eq_char first⟩
  | case3 => simp at h
  | case4 => simp at h

/-- Every text is read back from its bytes. -/
@[simp] lemma decode_encode (text : String) : decode (encode text) = .ok text := by
  rw [decode, encode, decodeFrom_encode]
  simp [Except.map]

/-- Bytes that are read as a text are its bytes. -/
lemma encode_eq_of_decode_eq_ok {bytes : Bytes} {text : String} (h : decode bytes = .ok text) :
    encode text = bytes := by
  rw [decode] at h
  cases read : decodeFrom 0 [] bytes with
  | error fault => simp [read, Except.map] at h
  | ok chars =>
    obtain ⟨rest, rfl, rfl⟩ := eq_of_decodeFrom_eq_ok read
    simp only [read, Except.map, Except.ok.injEq] at h
    subst h
    simp [encode]

/-- Reading accepts exactly what writing produces. -/
theorem decode_eq_ok_iff {bytes : Bytes} {text : String} :
    decode bytes = .ok text ↔ encode text = bytes := by
  constructor
  · exact encode_eq_of_decode_eq_ok
  · rintro rfl
    exact decode_encode text

end Utf8

end RemoteCall
