import RemoteCall.Settings.Basic
import RemoteCall.Settings.Skip

/-!
# Reading settings

Settings are read from JSON by their declaration. A record is written as an object, whose missing
members keep their defaults and whose unknown members are skipped, or as an array of its members in
declaration order, which may be shorter than the declaration. A member given twice is refused.

A value of the wrong kind is `mistyped`, but a problem inside the value itself is met first and
wins. Numbers are 64-bit words; a number with a point, an exponent or a sign is a mistyped one, and
one beyond the range of doubles is not well formed.

## Main definitions

* `Settings.record` reads a record from the list of its members.
* `Settings.ofJson` reads a whole settings text.
-/

namespace RemoteCall

namespace Settings

/-! ## Values of the wrong kind -/

/-- The fault of a number that stands where none is wanted. -/
def numberFault (text : List Char) : SettingsFault :=
  match numeral .truncated text with
  | .error fault => fault
  | .ok (n, _) => if n.exceedsDoubles then .malformed else .mistyped

/-- The fault of a value that begins with `c` and is of the wrong kind. -/
def kindFault (c : Char) (rest : List Char) : SettingsFault :=
  let ofWord (expected : List Char) : SettingsFault :=
    match word expected rest with
    | .error fault => fault
    | .ok _ => .mistyped
  if c = 'n' then ofWord ['u', 'l', 'l']
  else if c = 't' then ofWord ['r', 'u', 'e']
  else if c = 'f' then ofWord ['a', 'l', 's', 'e']
  else if c = '"' then
    match string [] rest with
    | .error fault => fault
    | .ok _ => .mistyped
  else if c = '[' ∨ c = '{' then .mistyped
  else if c = '-' then numberFault rest
  else if c.isDigit then numberFault (c :: rest)
  else .malformed

/-! ## Single values -/

/-- Reads a value from the front of a text. -/
abbrev Reader (α : Type) := (text : List Char) → Scan text α

theorem shorter_of_skipBlanks {text rest : List Char} {c : Char}
    (h : skipBlanks text = c :: rest) : rest.length < text.length := by
  have := length_skipBlanks text
  rw [h, List.length_cons] at this
  omega

theorem shorter_of_numeral {text rest behind : List Char} {c : Char} {n : Numeral}
    (h : skipBlanks text = c :: rest) (hn : numeral .truncated (c :: rest) = .ok (n, behind)) :
    behind.length < text.length := by
  have := shorter_of_skipBlanks h
  have := length_numeral hn
  simp only [List.length_cons] at *
  omega

/-- Read a whole number up to a limit. -/
def natural (limit : Nat) : Reader Nat := fun text =>
  match h : skipBlanks text with
  | [] => .error .truncated
  | c :: rest =>
    if c.isDigit then
      match hn : numeral .truncated (c :: rest) with
      | .error fault => .error fault
      | .ok (n, behind) =>
        if n.exceedsDoubles then .error .malformed
        else
          match n.word? with
          | none => .error .mistyped
          | some value =>
            if value ≤ limit then
              .ok ⟨value, behind, shorter_of_numeral h hn⟩
            else .error .mistyped
    else .error (kindFault c rest)

/-- Read a whole number up to a limit, or the word for none. -/
def optionalNatural (limit : Nat) : Reader (Option Nat) := fun text =>
  match h : skipBlanks text with
  | 'n' :: rest =>
    match hw : word ['u', 'l', 'l'] rest with
    | .error fault => .error fault
    | .ok behind =>
      .ok ⟨none, behind, by
        have := shorter_of_skipBlanks h
        have := length_word hw
        omega⟩
  | _ => (natural limit text).map (Scanned.map some)

/-- Read a string. -/
def text : Reader String := fun text =>
  match h : skipBlanks text with
  | [] => .error .truncated
  | c :: rest =>
    if c = '"' then
      (string [] rest).map (·.within (Nat.le_of_lt (shorter_of_skipBlanks h)))
    else .error (kindFault c rest)

/-! ## Records -/

/-- A member of a record `σ`: its name, and how its value changes the record. -/
structure Member (σ : Type) where
  name : String
  read : Reader (σ → σ)

/-- A member whose value is read by `read` and put in place by `put`. -/
def Member.of {σ α : Type} (name : String) (read : Reader α) (put : α → σ → σ) : Member σ :=
  ⟨name, fun text => (read text).map (Scanned.map put)⟩

/-- Read the elements of an array behind its opening bracket, one per member of the declaration. -/
def elements {σ : Type} (value : σ) (first : Bool) :
    List (Member σ) → (text : List Char) → Scan text σ
  | [], text =>
    match h : skipBlanks text with
    | [] => .error .truncated
    | c :: rest =>
      if c = ']' then .ok ⟨value, rest, shorter_of_skipBlanks h⟩ else .error .malformed
  | member :: members, text =>
    let next (text : List Char) : Scan text σ :=
      match member.read text with
      | .error fault => .error fault
      | .ok scanned =>
        (elements (scanned.value value) false members scanned.rest).map
          (·.within (Nat.le_of_lt scanned.shorter))
    match h : skipBlanks text with
    | [] => .error .truncated
    | c :: rest =>
      if c = ']' then .ok ⟨value, rest, shorter_of_skipBlanks h⟩
      else if first then next text
      else if c = ',' then
        match skipBlanks rest with
        | [] => .error .truncated
        | d :: _ =>
          if d = ']' then .error .malformed
          else (next rest).map (·.within (Nat.le_of_lt (shorter_of_skipBlanks h)))
      else .error .malformed

/-- Find the key of the next member of an object; at the end of the object there is none. Returns
the text behind the opening quote, or behind the closing bracket. -/
def nextKey (first : Bool) (text : List Char) :
    Except SettingsFault (Bool × Behind text) :=
  match h : skipBlanks text with
  | [] => .error .truncated
  | c :: rest =>
    have start := shorter_of_skipBlanks h
    if c = '}' then .ok (false, ⟨rest, start⟩)
    else if first then
      if c = '"' then .ok (true, ⟨rest, start⟩) else .error .malformed
    else if c = ',' then
      match h' : skipBlanks rest with
      | [] => .error .truncated
      | d :: behind =>
        if d = '"' then
          .ok (true, ⟨behind, Nat.lt_trans (shorter_of_skipBlanks h') start⟩)
        else .error .malformed
    else .error .malformed

/-- Read the members of an object behind its opening bracket. `seen` are the names that were read
before. -/
def objectMembers {σ : Type} (members : List (Member σ)) (value : σ) (seen : List String)
    (first : Bool) (text : List Char) : Scan text σ :=
  match nextKey first text with
  | .error fault => .error fault
  | .ok (false, ⟨rest, lt⟩) => .ok ⟨value, rest, lt⟩
  | .ok (true, ⟨rest, lt⟩) =>
    match string [] rest with
    | .error fault => .error fault
    | .ok key =>
      have keyLt := key.shorter
      match members.find? (·.name = key.value) with
      | some member =>
        if key.value ∈ seen then .error .mistyped
        else
          match colon key.rest with
          | .error fault => .error fault
          | .ok ⟨behind, behindLt⟩ =>
            match member.read behind with
            | .error fault => .error fault
            | .ok change =>
              have changeLt := change.shorter
              match objectMembers members (change.value value) (key.value :: seen) false
                  change.rest with
              | .error fault => .error fault
              | .ok scanned => .ok (scanned.within (by omega))
      | none =>
        match colon key.rest with
        | .error fault => .error fault
        | .ok ⟨behind, behindLt⟩ =>
          match skipValue [] behind with
          | .error fault => .error fault
          | .ok ⟨after, afterLt⟩ =>
            match objectMembers members value seen false after with
            | .error fault => .error fault
            | .ok scanned => .ok (scanned.within (by omega))
termination_by text.length

/-- Read a record: `default` with the members that the text gives. -/
def record {σ : Type} (members : List (Member σ)) (default : σ) : Reader σ := fun text =>
  match h : skipBlanks text with
  | [] => .error .truncated
  | c :: rest =>
    have le := Nat.le_of_lt (shorter_of_skipBlanks h)
    if c = '[' then (elements default true members rest).map (·.within le)
    else if c = '{' then (objectMembers members default [] true rest).map (·.within le)
    else .error (kindFault c rest)

/-! ## The settings of a process -/

/-- A 64-bit count or time. -/
def count : Reader Nat := natural maxWord

/-- A 32-bit size. -/
def size : Reader UInt32 := fun text =>
  (natural 4294967295 text).map (Scanned.map UInt32.ofNat)

/-- The members of the poll manager's settings. -/
def pollMembers : List (Member PollSettings) :=
  [ .of "io_threads" count fun n s => { s with ioThreads := n },
    .of "thread_name" text fun name s => { s with threadName := name },
    .of "shutdown_timeout_ms" count fun n s => { s with shutdownTimeout := n } ]

/-- The members of a client's settings. -/
def clientMembers : List (Member ClientSettings) :=
  [ .of "connect_timeout_ms" count fun n s => { s with connectTimeout := n },
    .of "call_timeout_ms" (optionalNatural maxWord) fun n s => { s with callTimeout := n },
    .of "max_payload_size" size fun n s => { s with maxPayload := n },
    .of "channel_capacity" count fun n s => { s with queue.capacity := n },
    .of "max_pending_frames" count fun n s => { s with queue.maxPending := n },
    .of "backpressure_timeout_ms" count fun n s => { s with queue.timeout := n } ]

/-- The members of a server's settings. -/
def serverMembers : List (Member ServerSettings) :=
  [ .of "max_concurrent_handlers" count fun n s => { s with maxHandlers := n },
    .of "max_payload_size" size fun n s => { s with maxPayload := n },
    .of "channel_capacity" count fun n s => { s with queue.capacity := n },
    .of "max_pending_frames" count fun n s => { s with queue.maxPending := n },
    .of "backpressure_timeout_ms" count fun n s => { s with queue.timeout := n } ]

/-- The members of the settings of a process. -/
def processMembers : List (Member Settings) :=
  [ .of "poll" (record pollMembers {}) fun poll s => { s with poll },
    .of "client" (record clientMembers {}) fun client s => { s with client },
    .of "server" (record serverMembers {}) fun server s => { s with server } ]

/-- Read a settings text, behind which only blanks may follow. -/
def ofJson (json : String) : Except Error Settings :=
  match record processMembers {} json.toList with
  | .error fault => .error (.settings fault)
  | .ok scanned =>
    if skipBlanks scanned.rest = [] then .ok scanned.value else .error (.settings .malformed)

/-- Read a settings file from its content, if the file could be read; a content that is not text
counts as one that could not. -/
def ofFile (content : Option Bytes) : Except Error Settings :=
  match content with
  | none => .error (.io "no such file")
  | some bytes =>
    match Utf8.decode bytes with
    | .error fault => .error (.io fault.message)
    | .ok json => ofJson json

end Settings

end RemoteCall
