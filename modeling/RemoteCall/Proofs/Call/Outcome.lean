import RemoteCall.Proofs.Call.Delivery

/-!
# Results are decoded strictly

Whatever bytes a peer has sent as the payload of a reply, the caller is given results only if these
are what the payload encodes: one value for each declared type, and no byte before, between or
behind them (`Future.result_strict`).  In all other cases there are no results at all, and a status
that says so: the one of the reply, or that of a malformed reply if the former claims success.

A payload can be an encoding and yet be malformed.  An empty one counts as none, and is accepted
only where no results are declared, although structs without fields encode to nothing as well.

Nothing is assumed of the peer.  The statement is about the bytes and the declared types, and that
an encoding is the only one of its values is known from the codec; so the results are determined by
the payload, and no other values could have been meant.  A reply that reports a failure may carry a
payload; it is not decoded.

## Main statements

* `CallResult.ofReply_replyOf_eq_ok_iff` — when there are results.
* `Future.result_strict` — a call that is resolved has a result, and it is decoded strictly.
-/

namespace RemoteCall

namespace CallResult

variable {registry : Registry} {types : List Ty} {status : Status} {reply : Option Bytes}
  {results : List Value}

/-- An outcome is a success, or a failure under one status. -/
lemma ofReply_cases (registry : Registry) (types : List Ty) (status : Status)
    (reply : Option Bytes) :
    (∃ results, ofReply registry types status reply = ok results) ∨
      ofReply registry types status reply =
        failed (if status = Status.ok then Status.malformedReply else status) := by
  unfold ofReply
  by_cases success : status = Status.ok
  · rw [if_neg (not_not.mpr success), if_pos success]
    split
    · split
      · exact .inl ⟨_, rfl⟩
      · exact .inr rfl
    · split
      · exact .inl ⟨_, rfl⟩
      · exact .inr rfl
  · rw [if_pos success, if_neg success]
    exact .inr rfl

/-- The status of a failure is not that of success. -/
lemma failure_ne_ok (status : Status) :
    (if status = Status.ok then Status.malformedReply else status) ≠ Status.ok := by
  split
  · decide
  · next failure => exact failure

/-- A successful outcome has the status of success and the results that the reply holds. -/
lemma ofReply_eq_ok_iff :
    ofReply registry types status reply = ok results ↔
      status = Status.ok ∧ ((reply = none ∧ types = [] ∧ results = []) ∨
        ∃ bytes, reply = some bytes ∧ Codec.readExactly registry types bytes = some results) := by
  have unlike : ∀ status, status ≠ Status.ok → failed status ≠ ok results :=
    fun status failure same => failure (CallResult.mk.inj same).1
  by_cases success : status = Status.ok
  · unfold ofReply
    rw [if_neg (not_not.mpr success)]
    cases reply with
    | none =>
      by_cases none_declared : types = []
      · simp [success, none_declared, ok, eq_comm]
      · simp [none_declared, unlike Status.malformedReply (by decide)]
    | some bytes =>
      cases read : Codec.readExactly registry types bytes with
      | none => simp [read, unlike Status.malformedReply (by decide)]
      | some values => simp [success, read, ok]
  · rw [ofReply_of_ne success]
    exact iff_of_false (unlike status success) fun right => success right.1

end CallResult

/-- An empty payload counts as none. -/
lemma Future.replyOf_eq (payload : Option Bytes) :
    replyOf payload = if payload.getD [] = [] then none else some (payload.getD []) := by
  rcases payload with _ | _ | ⟨byte, rest⟩ <;> rfl

/-- Results are those that the payload encodes.  Without a payload there are none, and none may be
declared. -/
theorem CallResult.ofReply_replyOf_eq_ok_iff {registry : Registry} (built : registry.Built)
    {types : List Ty} {status : Status} {payload : Option Bytes} {results : List Value} :
    ofReply registry types status (Future.replyOf payload) = ok results ↔
      status = Status.ok ∧ (payload.getD [] = [] → types = []) ∧
        Codec.writeValues registry types results = .done (payload.getD []) ∧
        Codec.canonicals registry types results = some results := by
  rw [ofReply_eq_ok_iff, Future.replyOf_eq]
  refine and_congr_right fun _ => ?_
  by_cases empty : payload.getD [] = []
  · rw [if_pos empty, empty]
    constructor
    · rintro (⟨-, rfl, rfl⟩ | ⟨bytes, absent, -⟩)
      · exact ⟨fun _ => rfl, rfl, rfl⟩
      · cases absent
    · rintro ⟨none_declared, written, -⟩
      obtain rfl := none_declared rfl
      cases results with
      | nil => exact .inl ⟨rfl, rfl, rfl⟩
      | cons => cases written
  · rw [if_neg empty]
    constructor
    · rintro (⟨absent, -⟩ | ⟨bytes, present, read⟩)
      · cases absent
      · obtain rfl := Option.some.inj present
        exact ⟨fun none => absurd none empty, (Codec.readExactly_eq_some_iff built).mp read⟩
    · rintro ⟨-, encodes⟩
      exact .inr ⟨_, rfl, (Codec.readExactly_eq_some_iff built).mpr encodes⟩

/-- The results of a reply that encodes values are the canonical form of these. -/
lemma CallResult.canonicals_of_ofReply {registry : Registry} (built : registry.Built)
    {types : List Ty} {values results : List Value} {payload : Bytes}
    (written : Codec.writeValues registry types values = .done payload) {status : Status}
    (resolved : ofReply registry types status (Future.replyOf (some payload)) = ok results) :
    Codec.canonicals registry types values = some results := by
  obtain ⟨-, -, encodes⟩ := (ofReply_replyOf_eq_ok_iff built).mp resolved
  rw [← Codec.readExactly_of_done built written]
  exact (Codec.readExactly_eq_some_iff built).mpr encodes

/-! ## What a future says -/

/-- What comes of a status and a payload under some result types. -/
structure Strict (registry : Registry) (types : List Ty) (status : Status)
    (payload : Option Bytes) (result : CallResult) : Prop where
  /-- A call succeeds if its reply says so and has encoded results as its payload.  An empty payload
  is enough only if no results are declared. -/
  succeeds : result.status = Status.ok ↔ status = Status.ok ∧
    (payload.getD [] = [] → types = []) ∧
    ∃ values, Codec.writeValues registry types values = .done (payload.getD [])
  /-- The results of a call that succeeded are encoded by the payload, and by nothing else. -/
  encoded : result.status = Status.ok → result.results.length = types.length ∧
    Buffer.writeValues Buffer.empty registry types result.results =
      (.ok (), ⟨payload.getD []⟩) ∧
    Codec.canonicals registry types result.results = some result.results
  /-- A call that did not succeed has no results, and the status of its reply unless that claims
  success. -/
  failed : result.status ≠ Status.ok → result.results = [] ∧
    result.status = if status = Status.ok then Status.malformedReply else status

lemma CallResult.strict_ofReply {registry : Registry} (built : registry.Built) (types : List Ty)
    (status : Status) (payload : Option Bytes) :
    Strict registry types status payload
      (ofReply registry types status (Future.replyOf payload)) := by
  rcases ofReply_cases registry types status (Future.replyOf payload) with
    ⟨results, outcome⟩ | outcome
  · obtain ⟨success, declared, written, canonical⟩ :=
      (ofReply_replyOf_eq_ok_iff built).mp outcome
    rw [outcome]
    have count : results.length = types.length := by
      by_contra other
      rw [Codec.writeValues, if_neg other] at written
      cases congrArg Codec.Written.result written
    exact ⟨iff_of_true rfl ⟨success, declared, results, written⟩,
      fun _ => ⟨count, Buffer.writeValues_empty_eq_ok_iff.mpr written, canonical⟩,
      fun failure => absurd rfl failure⟩
  · have failure := failure_ne_ok status
    have unencoded : ¬ (status = Status.ok ∧ (payload.getD [] = [] → types = []) ∧
        ∃ values, Codec.writeValues registry types values = .done (payload.getD [])) := by
      rintro ⟨success, declared, values, written⟩
      obtain ⟨forms, conform, -⟩ := Codec.readValues_of_done built written
      have read := (Codec.readExactly_of_done built written).trans conform
      have encodes := (Codec.readExactly_eq_some_iff built).mp read
      rw [(ofReply_replyOf_eq_ok_iff built).mpr ⟨success, declared, encodes⟩] at outcome
      exact failure (CallResult.mk.inj outcome).1.symm
    rw [outcome]
    exact ⟨iff_of_false failure unencoded, fun success => absurd success failure,
      fun _ => ⟨rfl, rfl⟩⟩

/-- A call that is resolved has a result, and it is decoded strictly. -/
theorem Future.result_strict {registry : Registry} (built : registry.Built) {future : Future}
    (waiting : future.ready = false) (status : Status) (payload : Option Bytes) :
    ∃ result, (future.resolve status payload).2.result? registry = some result ∧
      Strict registry future.resultTypes status payload result := by
  refine ⟨_, ?_, CallResult.strict_ofReply built future.resultTypes status payload⟩
  have unresolved : future.resolution = none := by
    rwa [ready, Option.isSome_eq_false_iff, Option.isNone_iff_eq_none] at waiting
  rw [resolve, unresolved]
  rfl

/-- A reply that ends inside the label of a pin. -/
theorem Future.result_strict_truncated :
    (Future.unresolved [.struct "pin"]).ready = false ∧
      ∃ result, ((Future.unresolved [.struct "pin"]).resolve Status.ok
          (some [2, 0, 0, 0, 0, 0, 0, 0, 3, 0, 0, 0, 0, 0, 0, 0, 5, 0, 0, 0, 97])).2.result?
            Buffer.nestedRegistry = some result ∧
        result = .failed Status.malformedReply ∧
        Strict Buffer.nestedRegistry [.struct "pin"] Status.ok
          (some [2, 0, 0, 0, 0, 0, 0, 0, 3, 0, 0, 0, 0, 0, 0, 0, 5, 0, 0, 0, 97]) result := by
  obtain ⟨result, resolved, strict⟩ := Future.result_strict Buffer.nestedRegistry_built
    (Future.ready_unresolved [.struct "pin"]) Status.ok
    (some [2, 0, 0, 0, 0, 0, 0, 0, 3, 0, 0, 0, 0, 0, 0, 0, 5, 0, 0, 0, 97])
  exact ⟨rfl, result, resolved, (Option.some.inj resolved).symm, strict⟩

end RemoteCall
