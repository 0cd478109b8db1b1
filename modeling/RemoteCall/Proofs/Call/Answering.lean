import Mathlib
import RemoteCall.Proofs.Call.Delivery

/-!
# What a request is answered

Three questions decide the answer to a request: whether its payload is the encoding of arguments,
how its handler ends, and whether the results can be sent.  The codec answers the first and the last
of them for good: a payload has at most one canonical list of arguments (`arguments?_eq_some_iff`),
and results are sent if they conform to their types and their whole encoding is within the limit
(`isSome_encodeResults?_iff`).  Nothing has to be assumed of the declared types: under types that
lead to an unregistered struct there are no encodings, so every request is refused.

That a handler is called is an effect, of which the reply shows nothing.  So the answer is stated
once more with a handler that acts (`answerIn`); with a handler that keeps a record of its calls it
is the answer of the server (`answerIn_recorded`).

A handler that panics ends like one that fails.  Results are encoded as a whole before any of them
is sent, so a result that cannot be encoded leaves nothing of the others in the reply, and a reply
that reports a failure has no payload.

## Main statements

* `Registration.answer_exact` — the reply to a request and the calls of the handler, in every case.
* `Registration.answer_exact_mistyped` — a second result that cannot be encoded takes the first with
  it.
-/

namespace RemoteCall

lemma Status.invalidArguments_ne_ok : invalidArguments ≠ ok := by decide

lemma Status.handlerFailed_ne_ok : handlerFailed ≠ ok := by decide

lemma Status.handlerFailed_ne_invalidArguments : handlerFailed ≠ invalidArguments := by decide

namespace Registration

open Codec

variable {η : Type} {registration : Registration η} {registry : Registry} {limit : UInt32}

/-! ## The arguments -/

/-- The arguments are in canonical form, and the payload is their encoding. -/
theorem arguments?_eq_some_iff (built : registry.Built) {payload : Bytes} {args : List Value} :
    registration.arguments? registry payload = some args ↔
      writeValues registry registration.argTypes args = .done payload ∧
        canonicals registry registration.argTypes args = some args :=
  readExactly_eq_some_iff built

/-- There are no arguments in a payload that is not an encoding. -/
lemma arguments?_eq_none_iff (built : registry.Built) {payload : Bytes} :
    registration.arguments? registry payload = none ↔
      ∀ values, writeValues registry registration.argTypes values ≠ .done payload :=
  readExactly_eq_none_iff built

/-! ## The results -/

lemma encodeResults?_eq_some_iff {results : List Value} {bytes : Bytes} :
    registration.encodeResults? registry limit results = some bytes ↔
      writeValues registry registration.resultTypes results = .done bytes ∧
        bytes.length ≤ limit.toNat := by
  constructor
  · intro encoded
    unfold encodeResults? at encoded
    dsimp only at encoded
    split at encoded
    · contradiction
    · rename_i complete
      split at encoded
      · contradiction
      · obtain rfl := Option.some.inj encoded
        exact ⟨Written.eq_done_of_result complete, by omega⟩
  · rintro ⟨written, within⟩
    exact encodeResults?_of_done written within

/-- Results can be sent if they conform to their types and their encoding is within the limit. -/
theorem isSome_encodeResults?_iff (built : registry.Built) (limit : UInt32)
    {results : List Value} :
    (registration.encodeResults? registry limit results).isSome ↔
      (canonicals registry registration.resultTypes results).isSome ∧
        (writeValues registry registration.resultTypes results).bytes.length ≤ limit.toNat := by
  constructor
  · intro encoded
    obtain ⟨bytes, encoded⟩ := Option.isSome_iff_exists.mp encoded
    obtain ⟨written, within⟩ := encodeResults?_eq_some_iff.mp encoded
    obtain ⟨forms, conform, -⟩ := readValues_of_done built written
    rw [conform, written]
    exact ⟨rfl, within⟩
  · rintro ⟨conform, within⟩
    obtain ⟨forms, conform⟩ := Option.isSome_iff_exists.mp conform
    have written := Written.eq_done_of_result (writeValues_of_canonicals built conform)
    rw [encodeResults?_of_done written within]
    rfl

/-! ## The reply -/

/-- The reply to a request whose handler ended: the whole encoding of the results, or no results
and the status of a failed handler. -/
lemma replyTo_cases (registration : Registration η) (registry : Registry) (limit : UInt32)
    (xid : Int64) (outcome : Outcome) :
    (∃ results bytes, outcome = .returned results ∧
        registration.encodeResults? registry limit results = some bytes ∧
        registration.replyTo registry limit xid outcome = .reply xid Status.ok bytes) ∨
      ((∀ results, outcome = .returned results →
          registration.encodeResults? registry limit results = none) ∧
        registration.replyTo registry limit xid outcome =
          .errorReply xid Status.handlerFailed) := by
  cases outcome with
  | failed text | panicked =>
    exact .inr ⟨fun results returned => by contradiction, rfl⟩
  | returned results =>
    cases encoded : registration.encodeResults? registry limit results with
    | none =>
      refine .inr ⟨fun other same => ?_, by rw [replyTo, encoded]⟩
      obtain rfl : results = other := Outcome.returned.inj same
      exact encoded
    | some bytes => exact .inl ⟨results, bytes, rfl, encoded, by rw [replyTo, encoded]⟩

/-! ## The call of the handler -/

/-- Answer a request with a handler that acts. -/
def answerIn {m : Type → Type} [Monad m] (registration : Registration η) (registry : Registry)
    (limit : UInt32) (xid : Int64) (payload : Bytes) (handler : List Value → m Outcome) :
    m Frame :=
  match registration.arguments? registry payload with
  | none => pure (.errorReply xid Status.invalidArguments)
  | some args => do
    let outcome ← handler args
    return registration.replyTo registry limit xid outcome

/-- A handler that notes the arguments of each call. -/
def recorded (handler : List Value → Outcome) (args : List Value) :
    StateM (List (List Value)) Outcome :=
  modifyGet fun calls => (handler args, calls ++ [args])

/-- The answer of the server is the one with a handler that notes its calls, and the arguments that
the server reports are those noted. -/
theorem answerIn_recorded [Handles η] (xid : Int64) (payload : Bytes)
    (calls : List (List Value)) :
    (registration.answerIn registry limit xid payload
        (recorded (Handles.run registration.handler))).run calls =
      ((registration.answer registry limit xid payload).1,
        calls ++ (registration.answer registry limit xid payload).2.toList) := by
  cases decoded : registration.arguments? registry payload with
  | none =>
    simp only [answerIn, answer, decoded, Option.toList_none, List.append_nil]
    rfl
  | some args =>
    simp only [answerIn, answer, decoded, Option.toList_some]
    rfl

/-- What the reply to a request and the calls of its handler have to be. -/
structure Answered (registration : Registration η) (registry : Registry) (limit : UInt32)
    (xid : Int64) (payload : Bytes) (handler : List Value → Outcome) (reply : Frame)
    (calls : List (List Value)) : Prop where
  /-- The reply carries the number of the request. -/
  numbered : reply.xid = xid
  /-- The arguments are refused exactly if the payload is not the encoding of any values. -/
  refused : reply.status = Status.invalidArguments ↔
    ∀ values, writeValues registry registration.argTypes values ≠ .done payload
  /-- If they are refused, the handler is not called. -/
  uncalled : reply.status = Status.invalidArguments → calls = []
  /-- Otherwise it is called once, with the canonical form of all values whose encoding the payload
  is.  This form has the same encoding. -/
  called : reply.status ≠ Status.invalidArguments → ∃ args, calls = [args] ∧
    writeValues registry registration.argTypes args = .done payload ∧
    ∀ values, writeValues registry registration.argTypes values = .done payload →
      canonicals registry registration.argTypes values = some args
  /-- The call succeeds exactly if the handler was called and returned results that conform to
  their types and have an encoding within the limit. -/
  succeeded : reply.status = Status.ok ↔ ∃ args ∈ calls, ∃ results,
    handler args = .returned results ∧
    (canonicals registry registration.resultTypes results).isSome ∧
    (writeValues registry registration.resultTypes results).bytes.length ≤ limit.toNat
  /-- Then the payload is the encoding, and the encoding is complete. -/
  whole : reply.status = Status.ok → ∀ args ∈ calls, ∀ results,
    handler args = .returned results →
      writeValues registry registration.resultTypes results = .done reply.payload
  /-- In all other cases the handler has failed. -/
  failed : reply.status ≠ Status.invalidArguments → reply.status ≠ Status.ok →
    reply.status = Status.handlerFailed
  /-- A reply that reports a failure is empty. -/
  empty : reply.status ≠ Status.ok → reply.payload = []
  /-- The envelope announces the payload that follows it. -/
  announced : reply.header.payloadLength.toNat = reply.payload.length

/-- The answer to a request whose payload is not an encoding. -/
lemma answered_none (built : registry.Built) {payload : Bytes}
    (undecoded : registration.arguments? registry payload = none) (xid : Int64)
    (handler : List Value → Outcome) :
    Answered registration registry limit xid payload handler
      (.errorReply xid Status.invalidArguments) [] where
  numbered := rfl
  refused := ⟨fun _ => (arguments?_eq_none_iff built).mp undecoded, fun _ => rfl⟩
  uncalled _ := rfl
  called accepted := absurd rfl accepted
  succeeded := by
    constructor
    · intro ok
      exact absurd ok Status.invalidArguments_ne_ok
    · rintro ⟨args, called, -⟩
      exact absurd called List.not_mem_nil
  whole _ args called := absurd called List.not_mem_nil
  failed accepted := absurd rfl accepted
  empty _ := rfl
  announced := rfl

section

variable {payload : Bytes} {args : List Value}

/-- A request whose arguments were decoded is not refused, and has them as its only ones. -/
lemma called_of_decoded (built : registry.Built)
    (decoded : registration.arguments? registry payload = some args) :
    (¬ ∀ values, writeValues registry registration.argTypes values ≠ .done payload) ∧
      ∃ args', [args] = [args'] ∧
        writeValues registry registration.argTypes args' = .done payload ∧
        ∀ values, writeValues registry registration.argTypes values = .done payload →
          canonicals registry registration.argTypes values = some args' := by
  obtain ⟨written, -⟩ := (arguments?_eq_some_iff built).mp decoded
  refine ⟨fun unwritten => unwritten args written, args, rfl, written, fun values same => ?_⟩
  rw [← readExactly_of_done built same]
  exact decoded

/-- The answer to a request whose handler returned results that can be sent. -/
lemma answered_ok (built : registry.Built)
    (decoded : registration.arguments? registry payload = some args) (xid : Int64)
    {handler : List Value → Outcome} {results : List Value} {bytes : Bytes}
    (returned : handler args = .returned results)
    (encoded : registration.encodeResults? registry limit results = some bytes) :
    Answered registration registry limit xid payload handler (.reply xid Status.ok bytes)
      [args] := by
  obtain ⟨accepted, called⟩ := called_of_decoded built decoded
  obtain ⟨written, within⟩ := encodeResults?_eq_some_iff.mp encoded
  have sendable := (isSome_encodeResults?_iff built limit).mp (by rw [encoded]; rfl)
  constructor
  case numbered => rfl
  case refused =>
    exact ⟨fun refused => absurd refused Status.invalidArguments_ne_ok.symm,
      fun unwritten => absurd unwritten accepted⟩
  case uncalled => exact fun refused => absurd refused Status.invalidArguments_ne_ok.symm
  case called => exact fun _ => called
  case succeeded =>
    exact ⟨fun _ => ⟨args, List.mem_singleton_self args, results, returned, sendable⟩,
      fun _ => rfl⟩
  case whole =>
    intro _ args' once results' returned'
    rw [List.mem_singleton.mp once, returned] at returned'
    obtain rfl : results = results' := Outcome.returned.inj returned'
    exact written
  case failed => exact fun _ failed => absurd rfl failed
  case empty => exact fun failed => absurd rfl failed
  case announced =>
    have bound := limit.toNat_lt
    exact UInt32.toNat_ofNat_of_lt' (Nat.lt_of_le_of_lt within bound)

/-- The answer to a request whose handler failed or returned results that cannot be sent. -/
lemma answered_failed (built : registry.Built)
    (decoded : registration.arguments? registry payload = some args) (xid : Int64)
    {handler : List Value → Outcome}
    (unsent : ∀ results, handler args = .returned results →
      registration.encodeResults? registry limit results = none) :
    Answered registration registry limit xid payload handler
      (.errorReply xid Status.handlerFailed) [args] := by
  obtain ⟨accepted, called⟩ := called_of_decoded built decoded
  constructor
  case numbered => rfl
  case refused =>
    exact ⟨fun refused => absurd refused Status.handlerFailed_ne_invalidArguments,
      fun unwritten => absurd unwritten accepted⟩
  case uncalled => exact fun refused => absurd refused Status.handlerFailed_ne_invalidArguments
  case called => exact fun _ => called
  case succeeded =>
    constructor
    · intro ok
      exact absurd ok Status.handlerFailed_ne_ok
    · rintro ⟨args', once, results, returned, sendable⟩
      rw [List.mem_singleton.mp once] at returned
      have encoded := (isSome_encodeResults?_iff built limit).mpr sendable
      rw [unsent results returned] at encoded
      contradiction
  case whole => exact fun ok => absurd ok Status.handlerFailed_ne_ok
  case failed => exact fun _ _ => rfl
  case empty => exact fun _ => rfl
  case announced => rfl

end

/-- The reply to a request carries its number.  It refuses the arguments exactly if the payload is
not the encoding of values of the declared types, and then the handler is not called.  Otherwise the
handler is called once, with the canonical values that the payload encodes, and the reply reports
success exactly if it returned results that conform to the declared types and whose encoding is
within the limit; this encoding is then the payload.  In all other cases the reply reports that the
handler failed.  A reply that does not report success is empty. -/
theorem answer_exact [Handles η] (built : registry.Built) (registration : Registration η)
    (limit : UInt32) (xid : Int64) (payload : Bytes) :
    ∃ reply calls,
      (registration.answerIn registry limit xid payload
          (recorded (Handles.run registration.handler))).run [] = (reply, calls) ∧
        registration.answer registry limit xid payload = (reply, calls.head?) ∧
        Answered registration registry limit xid payload (Handles.run registration.handler) reply
          calls := by
  refine ⟨_, _, answerIn_recorded xid payload [], ?_, ?_⟩
  · cases decoded : registration.arguments? registry payload with
    | none => simp only [answer, decoded]; rfl
    | some args => simp only [answer, decoded]; rfl
  · cases decoded : registration.arguments? registry payload with
    | none =>
      simp only [answer, decoded]
      exact answered_none built decoded xid _
    | some args =>
      simp only [answer, decoded]
      rcases replyTo_cases registration registry limit xid
        (Handles.run registration.handler args) with
        ⟨results, bytes, returned, encoded, reply⟩ | ⟨unsent, reply⟩
      · rw [reply]
        exact answered_ok built decoded xid returned encoded
      · rw [reply]
        exact answered_failed built decoded xid unsent

/-- A function of a nested struct whose second result is of the wrong type. -/
def mistyped : Registration Constant :=
  ⟨4, none, [.struct "pin"], [.int32, .int32], ⟨[.int32 1, .string "a"]⟩⟩

/-- The first result has been encoded when the second turns out to be wrong; none of it is sent. -/
theorem answer_exact_mistyped :
    Buffer.nestedRegistry.Built ∧
      (writeValues Buffer.nestedRegistry mistyped.resultTypes mistyped.handler.results).bytes =
        [1, 0, 0, 0] ∧
      Answered mistyped Buffer.nestedRegistry 64 3
        [1, 0, 0, 0, 0, 0, 0, 0, 2, 0, 0, 0, 0, 0, 0, 0, 1, 0, 0, 0, 97]
        (Handles.run mistyped.handler) (.errorReply 3 Status.handlerFailed)
        [[.struct "pin" [("at", .struct "point" [("x", .double 1), ("y", .double 2)]),
          ("label", .string "a")]]] := by
  obtain ⟨reply, calls, ran, -, answered⟩ := answer_exact Buffer.nestedRegistry_built mistyped 64 3
    [1, 0, 0, 0, 0, 0, 0, 0, 2, 0, 0, 0, 0, 0, 0, 0, 1, 0, 0, 0, 97]
  have result : mistyped.answerIn Buffer.nestedRegistry 64 3
      [1, 0, 0, 0, 0, 0, 0, 0, 2, 0, 0, 0, 0, 0, 0, 0, 1, 0, 0, 0, 97]
      (recorded (Handles.run mistyped.handler)) [] = (.errorReply 3 Status.handlerFailed,
        [[.struct "pin" [("at", .struct "point" [("x", .double 1), ("y", .double 2)]),
          ("label", .string "a")]]]) := by
    cbv
  obtain ⟨rfl, rfl⟩ := Prod.mk.inj (ran.symm.trans result)
  exact ⟨Buffer.nestedRegistry_built, rfl, answered⟩

end Registration

end RemoteCall
