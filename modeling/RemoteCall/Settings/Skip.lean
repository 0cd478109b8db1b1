import RemoteCall.Settings.Scan

/-!
# Skipping a value

A settings text may hold members that nobody knows. Their values are skipped, to any depth, with
the open brackets kept in a list; what is skipped still has to be well formed.
-/

namespace RemoteCall

namespace Settings

/-- A kind of bracket. -/
inductive Bracket where
  | list
  | object

/-- The character that closes a bracket. -/
def Bracket.close : Bracket → Char
  | list => ']'
  | object => '}'

/-- A part of a text that is shorter than the text. -/
abbrev Behind (text : List Char) := { rest : List Char // rest.length < text.length }

/-- Skip the colon behind a key. -/
def colon (text : List Char) : Except SettingsFault (Behind text) :=
  match h : skipBlanks text with
  | [] => .error .truncated
  | c :: rest =>
    if c = ':' then
      .ok ⟨rest, by
        have := length_skipBlanks text
        rw [h, List.length_cons] at this
        omega⟩
    else .error .malformed

/-- Skip the key of a member and the colon behind it. -/
def skipKey (text : List Char) : Except SettingsFault (Behind text) :=
  match h : skipBlanks text with
  | [] => .error .truncated
  | c :: rest =>
    if c = '"' then
      match skipString rest with
      | .error fault => .error fault
      | .ok key =>
        match colon key.rest with
        | .error fault => .error fault
        | .ok ⟨behind, shorter⟩ =>
          .ok ⟨behind, by
            have := length_skipBlanks text
            have := key.shorter
            rw [h, List.length_cons] at *
            omega⟩
    else .error .malformed

/-- Skip the rest of a word or number whose first character is `c`, or a string; what is left for
the two brackets is `none`. -/
def skipScalar (c : Char) (rest : List Char) :
    Option (Except SettingsFault { behind : List Char // behind.length ≤ rest.length }) :=
  let ofWord (expected : List Char) :
      Except SettingsFault { behind : List Char // behind.length ≤ rest.length } :=
    match h : word expected rest with
    | .error fault => .error fault
    | .ok behind => .ok ⟨behind, length_word h⟩
  if c = 'n' then some (ofWord ['u', 'l', 'l'])
  else if c = 't' then some (ofWord ['r', 'u', 'e'])
  else if c = 'f' then some (ofWord ['a', 'l', 's', 'e'])
  else if c = '"' then
    match skipString rest with
    | .error fault => some (.error fault)
    | .ok scanned => some (.ok ⟨scanned.rest, Nat.le_of_lt scanned.shorter⟩)
  else if c = '-' then
    match h : numeral .malformed rest with
    | .error fault => some (.error fault)
    | .ok (_, behind) => some (.ok ⟨behind, Nat.le_of_lt (length_numeral h)⟩)
  else if c.isDigit then
    match h : numeral .malformed (c :: rest) with
    | .error fault => some (.error fault)
    | .ok (_, behind) => some (.ok ⟨behind, Nat.le_of_lt_succ (length_numeral h)⟩)
  else if c = '[' ∨ c = '{' then none
  else some (.error .malformed)

mutual

/-- Skip a value and everything up to the end of the brackets around it. -/
def skipValue (enclosing : List Bracket) (text : List Char) :
    Except SettingsFault (Behind text) :=
  match h : skipBlanks text with
  | [] => .error .truncated
  | c :: rest =>
    have start : rest.length < text.length := by
      have := length_skipBlanks text
      rw [h, List.length_cons] at this
      omega
    match skipScalar c rest with
    | some (.error fault) => .error fault
    | some (.ok ⟨behind, le⟩) =>
      match skipAfter enclosing behind with
      | .error fault => .error fault
      | .ok ⟨final, le'⟩ => .ok ⟨final, by omega⟩
    | none =>
      let bracket := if c = '[' then Bracket.list else Bracket.object
      match h' : skipBlanks rest with
      | [] => .error .truncated
      | d :: inner =>
        have inside : inner.length < rest.length := by
          have := length_skipBlanks rest
          rw [h', List.length_cons] at this
          omega
        if d = bracket.close then
          match skipAfter enclosing inner with
          | .error fault => .error fault
          | .ok ⟨final, le'⟩ => .ok ⟨final, by omega⟩
        else
          match skipMember bracket enclosing rest with
          | .error fault => .error fault
          | .ok ⟨final, lt⟩ => .ok ⟨final, by omega⟩
termination_by (text.length, 0)

/-- Skip a member of a bracket, with its key if the bracket is an object. -/
def skipMember (bracket : Bracket) (enclosing : List Bracket) (text : List Char) :
    Except SettingsFault (Behind text) :=
  match bracket with
  | .list => skipValue (.list :: enclosing) text
  | .object =>
    match skipKey text with
    | .error fault => .error fault
    | .ok ⟨rest, lt⟩ =>
      match skipValue (.object :: enclosing) rest with
      | .error fault => .error fault
      | .ok ⟨final, lt'⟩ => .ok ⟨final, by omega⟩
termination_by (text.length, 1)

/-- Skip what follows a value, up to the end of the brackets around it. -/
def skipAfter (enclosing : List Bracket) (text : List Char) :
    Except SettingsFault { rest : List Char // rest.length ≤ text.length } :=
  match enclosing with
  | [] => .ok ⟨text, Nat.le_refl _⟩
  | bracket :: outer =>
    match h : skipBlanks text with
    | [] => .error .truncated
    | c :: rest =>
      have start : rest.length < text.length := by
        have := length_skipBlanks text
        rw [h, List.length_cons] at this
        omega
      if c = ',' then
        match skipMember bracket outer rest with
        | .error fault => .error fault
        | .ok ⟨final, lt⟩ => .ok ⟨final, by omega⟩
      else if c = bracket.close then
        match skipAfter outer rest with
        | .error fault => .error fault
        | .ok ⟨final, le⟩ => .ok ⟨final, by omega⟩
      else .error .malformed
termination_by (text.length, 0)

end

end Settings

end RemoteCall
