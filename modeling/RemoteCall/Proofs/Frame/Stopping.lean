import RemoteCall.Proofs.Frame.Reassembly
import RemoteCall.Proofs.Machine

/-!
# Where a reassembly stops

Between two pushes a reassembly waits for the rest of an envelope or of a payload, or it has come
upon an invalid envelope.  `Reassembly.Stops` lists these cases, and every search ends in one of
them (`extract_stops`).  What is kept while it waits is therefore less than what it waits for, and
an envelope that was found invalid is the whole envelope: whatever arrives behind it, it is found
again and nothing is skipped (`extract_of_fault`, `fault?_append`).

So the memory that a peer can take up in a reassembly is bounded by the limit, as long as the reader
stops at the first fault.  A reader that goes on has every piece appended to what is kept, and is
told of the same fault each time.

Pushes can be mixed with clears (`Reassembly.Event`).  Of every state that such a run reaches,
`bounded_or_broken_until_cleared` says how much is kept, that a broken stream stays broken, and that
clearing starts afresh.  A state is `Regular` if it has the limit that it was made with and waits
for nothing that exceeds it; that is all that is needed of the run.

## Main statements

* `extract_stops` — where a search ends.
* `bounded_or_broken_until_cleared` — what is kept, what a fault does, and what clearing does.
-/

namespace RemoteCall

namespace Header

/-- What is wrong with the envelope at the front of a byte string, if anything is. -/
def fault? (limit : UInt32) (bytes : Bytes) : Option FrameFault :=
  match decode bytes with
  | .error fault => some fault
  | .ok none => none
  | .ok (some header) =>
    match header.validate limit with
    | .error fault => some fault
    | .ok () => none

theorem fault?_append {limit : UInt32} {bytes : Bytes} (complete : width ≤ bytes.length)
    (more : Bytes) : fault? limit (bytes ++ more) = fault? limit bytes := by
  unfold fault?
  rw [decode_append complete]

lemma le_of_validate {header : Header} {limit : UInt32} (valid : header.validate limit = .ok ()) :
    header.payloadLength ≤ limit := by
  unfold validate at valid
  split at valid
  · cases valid
  · exact UInt32.not_lt.mp ‹_›

end Header

namespace Reassembly

open Header

/-! ## Where a search ends -/

/-- The ends of a search: the bytes run out in an envelope, or in a payload that is announced
within the limit, or a complete envelope is invalid and stays in front. -/
inductive Stops (limit : UInt32) : Extraction → Prop
  | envelope {frames : List Frame} {bytes : Bytes} (short : bytes.length < width) :
    Stops limit ⟨frames, none, none, bytes⟩
  | payload {frames : List Frame} {header : Header} {bytes : Bytes}
    (announces : header.payloadLength ≠ 0) (within : header.payloadLength ≤ limit)
    (short : bytes.length < header.payloadLength.toNat) :
    Stops limit ⟨frames, none, some header, bytes⟩
  | invalid {frames : List Frame} {fault : FrameFault} {bytes : Bytes}
    (complete : width ≤ bytes.length) (found : Header.fault? limit bytes = some fault) :
    Stops limit ⟨frames, some fault, none, bytes⟩

lemma Stops.after {limit : UInt32} {found : Extraction} (frame : Frame)
    (stops : Stops limit found) : Stops limit (found.after frame) := by
  cases stops with
  | envelope short => exact .envelope short
  | payload announces within short => exact .payload announces within short
  | invalid complete found => exact .invalid complete found

/-- An envelope is only waited on if it announces a payload within the limit. -/
def Expects (limit : UInt32) (awaited : Option Header) : Prop :=
  ∀ header, awaited = some header → header.payloadLength ≠ 0 ∧ header.payloadLength ≤ limit

lemma expects_none (limit : UInt32) : Expects limit none := by
  intro header waits
  cases waits

theorem extract_stops {limit : UInt32} {awaited : Option Header} (expects : Expects limit awaited)
    (bytes : Bytes) : Stops limit (extract limit awaited bytes) := by
  fun_induction extract limit awaited bytes with
  | case1 bytes header short =>
    obtain ⟨announces, within⟩ := expects header rfl
    refine .payload announces within ?_
    rw [List.length_take] at short
    omega
  | case2 bytes header complete ih => exact (ih (expects_none limit)).after _
  | case3 bytes short => exact .envelope short
  | case4 bytes complete fault refused =>
    refine .invalid (Nat.not_lt.mp complete) ?_
    unfold fault?
    rw [refused]
  | case5 bytes complete incomplete =>
    exact absurd incomplete (decode_ne_none (Nat.not_lt.mp complete))
  | case6 bytes complete header read fault refused =>
    refine .invalid (Nat.not_lt.mp complete) ?_
    unfold fault?
    rw [read]
    simp only [refused]
  | case7 bytes complete header read valid empty ih => exact (ih (expects_none limit)).after _
  | case8 bytes complete header read valid announces ih =>
    refine ih fun awaited waits => ?_
    cases waits
    exact ⟨announces, le_of_validate valid⟩

theorem extract_of_fault {limit : UInt32} {bytes : Bytes} {fault : FrameFault}
    (complete : width ≤ bytes.length) (found : Header.fault? limit bytes = some fault) :
    extract limit none bytes = ⟨[], some fault, none, bytes⟩ := by
  have length : ¬ bytes.length < width := Nat.not_lt.mpr complete
  rw [extract.eq_def]
  unfold fault? at found
  cases read : decode bytes with
  | error refused =>
    rw [read] at found
    cases found
    simp only [dif_neg length]
  | ok header =>
    cases header with
    | none => exact absurd read (decode_ne_none complete)
    | some header =>
      rw [read] at found
      cases valid : header.validate limit with
      | error refused =>
        simp only [valid, Option.some.injEq] at found
        simp only [dif_neg length, valid, found]
      | ok =>
        simp only [valid] at found
        cases found

/-! ## What is kept between two pushes -/

/-- What is kept is less than what is waited for. -/
structure Bounded (limit : UInt32) (reassembly : Reassembly) : Prop where
  envelope : reassembly.awaited = none → reassembly.size < width
  payload : ∀ header, reassembly.awaited = some header →
    1 ≤ header.payloadLength.toNat ∧ header.payloadLength.toNat ≤ limit.toNat ∧
      reassembly.size < header.payloadLength.toNat

/-- An invalid envelope is in front of everything that is kept. -/
structure Broken (reassembly : Reassembly) (fault : FrameFault) : Prop where
  nothing_awaited : reassembly.awaited = none
  complete : width ≤ reassembly.size
  found : Header.fault? reassembly.limit reassembly.buffered = some fault

lemma Bounded.expects {limit : UInt32} {reassembly : Reassembly}
    (bounded : Bounded limit reassembly) : Expects limit reassembly.awaited := by
  intro header waits
  obtain ⟨positive, within, -⟩ := bounded.payload header waits
  refine ⟨?_, UInt32.le_iff_toNat_le.mpr within⟩
  intro empty
  rw [empty] at positive
  exact absurd positive (by decide)

/-- A push succeeds and leaves less than what is waited for, or it breaks the stream. -/
lemma push_cases {reassembly : Reassembly}
    (expects : Expects reassembly.limit reassembly.awaited) (piece : Bytes) :
    (∃ frames, (reassembly.push piece).1 = .ok frames ∧
      Bounded reassembly.limit (reassembly.push piece).2) ∨
    (∃ fault, (reassembly.push piece).1 = .error fault ∧
      Broken (reassembly.push piece).2 fault) := by
  have stops := extract_stops expects (reassembly.buffered ++ piece)
  unfold push
  generalize extract reassembly.limit reassembly.awaited (reassembly.buffered ++ piece) = found
    at stops ⊢
  cases stops with
  | envelope short => exact .inl ⟨_, rfl, fun _ => short, nofun⟩
  | payload announces within short =>
    refine .inl ⟨_, rfl, nofun, fun header waits => ?_⟩
    cases waits
    have positive := UInt32.toNat_inj.not.mpr announces
    exact ⟨Nat.pos_of_ne_zero positive, UInt32.le_iff_toNat_le.mp within, short⟩
  | invalid complete found => exact .inr ⟨_, rfl, rfl, complete, found⟩

lemma bounded_of_push {reassembly : Reassembly} {piece : Bytes} {frames : List Frame}
    (expects : Expects reassembly.limit reassembly.awaited)
    (pushed : (reassembly.push piece).1 = .ok frames) :
    Bounded reassembly.limit (reassembly.push piece).2 := by
  rcases push_cases expects piece with ⟨_, _, bounded⟩ | ⟨fault, failed, _⟩
  · exact bounded
  · rw [pushed] at failed
    cases failed

lemma broken_of_push {reassembly : Reassembly} {piece : Bytes} {fault : FrameFault}
    (expects : Expects reassembly.limit reassembly.awaited)
    (failed : (reassembly.push piece).1 = .error fault) :
    Broken (reassembly.push piece).2 fault := by
  rcases push_cases expects piece with ⟨frames, pushed, _⟩ | ⟨_, failed', broken⟩
  · rw [failed] at pushed
    cases pushed
  · rw [failed] at failed'
    cases failed'
    exact broken

/-- A push onto a broken stream fails as before, and leaves the invalid envelope where it is. -/
lemma Broken.push {reassembly : Reassembly} {fault : FrameFault}
    (broken : Broken reassembly fault) (piece : Bytes) :
    (reassembly.push piece).1 = .error fault ∧ Broken (reassembly.push piece).2 fault := by
  have complete : width ≤ (reassembly.buffered ++ piece).length := by
    rw [List.length_append]
    exact Nat.le_add_right_of_le broken.complete
  have found := broken.found
  rw [← fault?_append broken.complete piece] at found
  unfold Reassembly.push
  rw [broken.nothing_awaited, extract_of_fault complete found]
  exact ⟨rfl, rfl, complete, found⟩

/-! ## Runs of pushes and clears -/

/-- What can be done with a reassembly. -/
inductive Event where
  | push (piece : Bytes)
  | clear
  deriving DecidableEq, Repr

/-- Take in a piece, which shows what the push returns, or forget everything. -/
def step (reassembly : Reassembly) :
    Event → Reassembly × List (Except FrameFault (List Frame))
  | .push piece => ((reassembly.push piece).2, [(reassembly.push piece).1])
  | .clear => (reassembly.clear, [])

/-- Pushes and clears one after the other, with what the pushes return. -/
def run (reassembly : Reassembly) (events : List Event) :
    Reassembly × List (Except FrameFault (List Frame)) :=
  Machine.run step reassembly events

/-- A reassembly that was made with a limit waits on no envelope that the limit excludes. -/
structure Regular (limit : UInt32) (reassembly : Reassembly) : Prop where
  limit_eq : reassembly.limit = limit
  expects : Expects reassembly.limit reassembly.awaited

lemma regular_step {limit : UInt32} (reassembly : Reassembly) (event : Event)
    (regular : Regular limit reassembly) : Regular limit (reassembly.step event).1 := by
  cases event with
  | push piece =>
    refine ⟨regular.limit_eq, ?_⟩
    rcases push_cases regular.expects piece with ⟨_, _, bounded⟩ | ⟨_, _, broken⟩
    · exact bounded.expects
    · show Expects _ (reassembly.push piece).2.awaited
      rw [broken.nothing_awaited]
      exact expects_none _
  | clear => exact ⟨regular.limit_eq, expects_none _⟩

lemma regular_run (limit : UInt32) (events : List Event) :
    Regular limit ((fresh limit).run events).1 := by
  have start : Regular limit (fresh limit) := ⟨rfl, expects_none limit⟩
  exact Machine.run_invariant regular_step start events

lemma Broken.run {reassembly : Reassembly} {fault : FrameFault}
    (broken : Broken reassembly fault) (pieces : List Bytes) :
    (reassembly.run (pieces.map .push)).2 = List.replicate pieces.length (.error fault) := by
  induction pieces generalizing reassembly with
  | nil => rfl
  | cons piece rest ih =>
    obtain ⟨failed, broken⟩ := broken.push piece
    calc (reassembly.run ((piece :: rest).map .push)).2
        = (reassembly.push piece).1 :: ((reassembly.push piece).2.run (rest.map .push)).2 := rfl
      _ = List.replicate (piece :: rest).length (.error fault) := by rw [failed, ih broken]; rfl

/-- After any pushes and clears: a push that succeeds leaves less than an envelope, or less than the
announced payload, whose length is within the limit; once a push fails, every push fails in the same
way and hands on nothing until the reassembly is cleared; and when it is cleared, it does from then
on what a new one does. -/
theorem bounded_or_broken_until_cleared (limit : UInt32) (events : List Event) :
    (∀ piece frames, (((fresh limit).run events).1.push piece).1 = .ok frames →
      Bounded limit (((fresh limit).run events).1.push piece).2) ∧
    (∀ piece fault, (((fresh limit).run events).1.push piece).1 = .error fault →
      ∀ pieces : List Bytes,
        ((((fresh limit).run events).1.push piece).2.run (pieces.map .push)).2 =
          List.replicate pieces.length (.error fault)) ∧
    (∀ more, ((fresh limit).run events).1.clear.run more = (fresh limit).run more) := by
  have regular := regular_run limit events
  refine ⟨fun piece frames pushed => ?_, fun piece fault failed pieces => ?_, fun more => ?_⟩
  · have bounded := bounded_of_push regular.expects pushed
    rw [regular.limit_eq] at bounded
    exact bounded
  · exact (broken_of_push regular.expects failed).run pieces
  · unfold clear
    rw [regular.limit_eq]

/-- A size of zero breaks the stream; a whole frame behind it is not handed on before a clear. -/
example : ((fresh 64).run [.push (List.replicate 16 0), .push (Frame.request 1 7 [42]).encode,
    .clear, .push (Frame.request 1 7 [42]).encode]).2 =
      [.error (.undersized 0), .error (.undersized 0), .ok [Frame.request 1 7 [42]]] := by
  cbv

end Reassembly

end RemoteCall
