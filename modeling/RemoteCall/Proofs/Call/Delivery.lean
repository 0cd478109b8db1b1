import RemoteCall.Call.Future
import RemoteCall.Proofs.Codec.Buffer
import RemoteCall.Proofs.Frame.Reassembly
import RemoteCall.Server.Handling

/-!
# From the handler to the caller

The results of a handler are encoded by the server and decoded by the future of the call.  An empty
payload has a meaning of its own on the way: it stands for no reply, and no reply stands for no
results.

Results that encode to nothing are therefore delivered only if none were declared.  A type list
encodes to nothing exactly if it leads to no primitive, whatever the values (`eq_nil_iff_leaves`),
so what becomes of conforming results depends on their types alone.

Between the two ends is the frame.  The server compares the encoding with its own limit before it
makes one, and the client compares the announced length with its limit when it reads it; both must
be large enough.  The reply then arrives as it was made, whatever pieces it comes in, and its
payload is decoded under the result types of the call.

A struct may have no fields.  It is a legal type for arguments and results, and as an argument it is
read from an empty payload.  As a result it is not, since the caller does not look at an empty
payload at all.

## Main statements

* `Registration.result?_answer` — conforming results within the limits arrive in canonical form,
  unless results are declared and no primitive is among their leaves.
* `Registration.fieldless_undelivered` — a struct without fields does not arrive.
-/

namespace RemoteCall

namespace Codec

/-! ## Encodings without bytes -/

/-- Nothing can be read from nothing. -/
lemma readLeaf_nil (type : Ty) : ∃ e, readLeaf type [] = (.error e, []) := by
  rcases type with _ | _ | _ | _ | name <;> exact ⟨_, rfl⟩

/-- An encoding is empty exactly if its types lead to no primitive. -/
theorem eq_nil_iff_leaves {registry : Registry} (built : registry.Built) {types : List Ty}
    {values : List Value} {bytes : Bytes}
    (written : writeValues registry types values = .done bytes) :
    bytes = [] ↔ leaves registry types = [] := by
  obtain ⟨forms, -, read⟩ := readValues_of_done built written
  have whole : readValues registry types bytes = (.ok forms, []) := by simpa using read []
  have consumed : consume readLeaf (leaves registry types) bytes = (.ok (), []) := by
    rw [← outcome_readValues, whole]
    rfl
  constructor
  · rintro rfl
    rcases made : leaves registry types with _ | ⟨leaf, others⟩
    · rfl
    · obtain ⟨e, refused⟩ := readLeaf_nil leaf
      rw [made, consume, refused] at consumed
      simp [Reading.andThen] at consumed
  · intro no_leaf
    rw [no_leaf, consume] at consumed
    exact congrArg Prod.snd consumed

end Codec

/-! ## The reply -/

/-- A payload is a reply unless it is empty. -/
lemma Future.replyOf_some (payload : Bytes) :
    replyOf (some payload) = if payload = [] then none else some payload := by
  rcases payload with _ | ⟨byte, rest⟩ <;> rfl

/-- A frame that fits the limit is handed on as it is. -/
lemma Reassembly.push_encode {limit : UInt32} {frame : Frame} (fits : Frame.Fits limit frame) :
    ((Reassembly.fresh limit).push frame.encode).1 = .ok [frame] := by
  have alone : Frame.parse limit frame.encode = ⟨[frame], [], false⟩ := by
    have front := Frame.parse_encode_append fits []
    rw [List.append_nil, Frame.parse_nil] at front
    exact front
  rcases push_of_received (received_fresh limit) frame.encode with
      ⟨broken, -⟩ | ⟨frames, pushed, found, -⟩
  · rw [List.nil_append, alone] at broken
    simp at broken
  · rw [List.nil_append, alone, Frame.parse_nil, List.nil_append] at found
    rw [pushed, ← found]

namespace Registration

open Codec

variable {η : Type} {registration : Registration η} {registry : Registry}

/-- Results that were written are encoded if they are within the limit. -/
lemma encodeResults?_of_done {limit : UInt32} {results : List Value} {bytes : Bytes}
    (written : writeValues registry registration.resultTypes results = .done bytes)
    (within : bytes.length ≤ limit.toNat) :
    registration.encodeResults? registry limit results = some bytes := by
  rw [encodeResults?, written]
  simp [Nat.not_lt.mpr within]

/-- What a handler returned comes back under the status of success. -/
lemma answer_of_returned [Handles η] {payload bytes : Bytes} {args results : List Value}
    {limit : UInt32} (decoded : registration.arguments? registry payload = some args)
    (returned : Handles.run registration.handler args = .returned results)
    (encoded : registration.encodeResults? registry limit results = some bytes) (xid : Int64) :
    (registration.answer registry limit xid payload).1 = .reply xid Status.ok bytes := by
  simp only [answer, decoded, returned, replyTo, encoded]

/-- The outcome that a future finds in the encoding of some results. -/
lemma ofReply_of_done (built : registry.Built) {types : List Ty} {results forms : List Value}
    {bytes : Bytes} (written : writeValues registry types results = .done bytes)
    (conform : canonicals registry types results = some forms) :
    CallResult.ofReply registry types Status.ok (Future.replyOf (some bytes)) =
      if types ≠ [] ∧ leaves registry types = [] then .failed Status.malformedReply
      else .ok forms := by
  have read := readExactly_of_done built written
  rw [conform] at read
  by_cases empty : bytes = []
  · have no_leaf := (eq_nil_iff_leaves built written).mp empty
    subst empty
    by_cases none_declared : types = []
    · subst none_declared
      obtain rfl : forms = [] := by simpa [readExactly, readValues, readEach] using read.symm
      simp [CallResult.ofReply, Future.replyOf_some]
    · simp [CallResult.ofReply, Future.replyOf_some, none_declared, no_leaf]
  · have some_leaf : leaves registry types ≠ [] :=
      fun none => empty ((eq_nil_iff_leaves built written).mpr none)
    simp [CallResult.ofReply, Future.replyOf_some, empty, some_leaf, read]

/-- Results that conform to their types and are within the limits of both ends arrive in canonical
form, unless results are declared and nothing of them travels.  Then the call fails although the
reply reports success. -/
theorem result?_answer [Handles η] (built : registry.Built) {payload : Bytes}
    {args results forms : List Value}
    (decoded : registration.arguments? registry payload = some args)
    (returned : Handles.run registration.handler args = .returned results)
    (conform : canonicals registry registration.resultTypes results = some forms)
    {limit accepted : UInt32} (carried : accepted ≤ Header.protocolLimit)
    (within : (writeValues registry registration.resultTypes results).bytes.length ≤ limit.toNat)
    (fits : (writeValues registry registration.resultTypes results).bytes.length ≤ accepted.toNat)
    (xid : Int64) :
    let reply := (registration.answer registry limit xid payload).1
    reply.xid = xid ∧ reply.status = Status.ok ∧
      ((Reassembly.fresh accepted).push reply.encode).1 = .ok [reply] ∧
      ((Future.unresolved registration.resultTypes).resolve reply.status
          (some reply.payload)).2.result? registry =
        some (if registration.resultTypes ≠ [] ∧ leaves registry registration.resultTypes = [] then
          .failed Status.malformedReply else .ok forms) := by
  have written := Written.eq_done_of_result (writeValues_of_canonicals built conform)
  have bound := UInt32.le_iff_toNat_le.mp carried
  have answered := answer_of_returned decoded returned (encodeResults?_of_done written within) xid
  dsimp only
  rw [answered]
  refine ⟨rfl, rfl, Reassembly.push_encode (Frame.fits_ofPayload _ _ fits (by omega)), ?_⟩
  rw [← ofReply_of_done built written conform]
  rfl

/-- A handler that returns the same results for all arguments. -/
structure Constant where
  results : List Value

instance : Handles Constant := ⟨fun constant _ => .returned constant.results⟩

/-- A function of a nested struct without arguments. -/
def pinned : Registration Constant :=
  ⟨7, none, [], [.struct "pin"], ⟨[.struct "pin" [("note", .int32 1), ("label", .string "a"),
    ("at", .struct "point" [("y", .double 2), ("x", .double 1), ("x", .double 5)])]]⟩⟩

theorem result?_answer_pinned :
    Buffer.nestedRegistry.Built ∧
      pinned.arguments? Buffer.nestedRegistry [] = some [] ∧
      Handles.run pinned.handler [] = .returned pinned.handler.results ∧
      canonicals Buffer.nestedRegistry pinned.resultTypes pinned.handler.results =
        some [.struct "pin" [("at", .struct "point" [("x", .double 1), ("y", .double 2)]),
          ("label", .string "a")]] ∧
      ((Future.unresolved pinned.resultTypes).resolve
          (pinned.answer Buffer.nestedRegistry 21 3 []).1.status
          (some (pinned.answer Buffer.nestedRegistry 21 3 []).1.payload)).2.result?
            Buffer.nestedRegistry =
        some (.ok [.struct "pin" [("at", .struct "point" [("x", .double 1), ("y", .double 2)]),
          ("label", .string "a")]]) := by
  have conform : canonicals Buffer.nestedRegistry pinned.resultTypes pinned.handler.results =
      some [.struct "pin" [("at", .struct "point" [("x", .double 1), ("y", .double 2)]),
        ("label", .string "a")]] := by
    cbv
  have decoded : pinned.arguments? Buffer.nestedRegistry [] = some [] := rfl
  have within : (writeValues Buffer.nestedRegistry pinned.resultTypes
      pinned.handler.results).bytes.length ≤ (21 : UInt32).toNat := by decide
  have carried : (21 : UInt32) ≤ Header.protocolLimit := by decide
  have delivered := result?_answer Buffer.nestedRegistry_built decoded rfl conform carried within
    within 3
  exact ⟨Buffer.nestedRegistry_built, rfl, rfl, conform, delivered.2.2.2⟩

/-- A registry with a struct that has no fields. -/
def fieldlessRegistry : Registry := ⟨[⟨"unit", []⟩]⟩

/-- A function that takes the struct and returns it. -/
def fieldless : Registration Constant :=
  ⟨1, none, [.struct "unit"], [.struct "unit"], ⟨[.struct "unit" []]⟩⟩

/-- A struct without fields is a legal result, and no bytes are all there is to send of it.  The
server reads it from such a payload as an argument; the caller does not as a result. -/
theorem fieldless_undelivered :
    fieldlessRegistry.Built ∧ fieldlessRegistry.checkAll [.struct "unit"] = .ok () ∧
      fieldless.arguments? fieldlessRegistry [] = some [.struct "unit" []] ∧
      Handles.run fieldless.handler [.struct "unit" []] = .returned [.struct "unit" []] ∧
      canonicals fieldlessRegistry fieldless.resultTypes [.struct "unit" []] =
        some [.struct "unit" []] ∧
      writeValues fieldlessRegistry fieldless.resultTypes [.struct "unit" []] = .done [] ∧
      (fieldless.answer fieldlessRegistry Header.defaultLimit 1 []).1 = .reply 1 Status.ok [] ∧
      ((Future.unresolved fieldless.resultTypes).resolve
          (fieldless.answer fieldlessRegistry Header.defaultLimit 1 []).1.status
          (some (fieldless.answer fieldlessRegistry Header.defaultLimit 1 []).1.payload)).2.result?
            fieldlessRegistry = some (.failed Status.malformedReply) := by
  have registered : Registry.empty.register "unit" [] = .ok fieldlessRegistry := rfl
  refine ⟨.register .empty registered, rfl, rfl, rfl, ?_, rfl, rfl, rfl⟩
  cbv

end Registration

end RemoteCall
