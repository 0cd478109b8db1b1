import RemoteCall.Client.Basic
import RemoteCall.Proofs.Codec.Conforming
import RemoteCall.Proofs.Schema.Attempts

/-!
# Which requests may be issued

A client encodes the arguments of a call before it does anything else for it.  `Request.Unfit` lists
the reasons for which it goes no further, in terms of the request alone: a type that is not known,
arguments that do not conform to their types, or an encoding that exceeds the limit.  There are no
others (`exists_error_iff`).

The types of the results are looked at as well, although nothing of them is encoded: a call whose
results could not be decoded is refused before it is sent, and not when its reply has come.

Since refusal comes first, a request that is refused has no transaction ID, no slot and no callback,
and the peer learns nothing of it.  What a client does with the others begins with an encoding that
is whole and within the limit (`encode_eq_ok_iff`), and this is all that later modules use of it.

## Main statements

* `exists_error_iff` — a request is refused exactly if it is unfit.
-/

namespace RemoteCall

namespace Request

open Codec

variable {registry : Registry} {limit : UInt32} {request : Request} {bytes : Bytes}

/-- A request may not be issued. -/
inductive Unfit (registry : Registry) (limit : UInt32) (request : Request) : Prop where
  /-- A type of an argument or of a result does not resolve. -/
  | unresolved {type : Ty} (declared : type ∈ request.argTypes ++ request.resultTypes)
      (unknown : registry.check type ≠ .ok ())
  /-- The arguments are not as many as their types, or one of them does not conform. -/
  | mistyped (other : ¬ List.Forall₂ (Conforms registry) request.argTypes request.args)
  /-- The arguments take more bytes than a payload may have. -/
  | tooLarge {bytes : Bytes}
      (written : writeValues registry request.argTypes request.args = .done bytes)
      (excess : limit.toNat < bytes.length)

/-- A request that may be issued is of known types, was written as a whole, and is within the
limit. -/
lemma encode_eq_ok_iff : request.encode registry limit = .ok bytes ↔
    registry.checkAll request.argTypes = .ok () ∧ registry.checkAll request.resultTypes = .ok () ∧
      writeValues registry request.argTypes request.args = .done bytes ∧
      bytes.length ≤ limit.toNat := by
  unfold encode
  cases registry.checkAll request.argTypes with
  | error e => simp
  | ok =>
    cases registry.checkAll request.resultTypes with
    | error e => simp
    | ok =>
      obtain ⟨written, result⟩ := writeValues registry request.argTypes request.args
      cases result with
      | error e => simp [Written.done]
      | ok =>
        have whole : (⟨written, .ok ()⟩ : Written) = .done bytes ↔ written = bytes := by
          simp [Written.done]
        dsimp only
        rw [whole]
        by_cases excess : limit.toNat < written.length
        · rw [if_pos excess]
          constructor
          · intro issued
            cases issued
          · rintro ⟨-, -, rfl, within⟩
            omega
        · rw [if_neg excess, Except.ok.injEq]
          exact ⟨fun same => ⟨rfl, rfl, same, same ▸ Nat.not_lt.mp excess⟩,
            fun right => right.2.2.1⟩

/-- A request that may be issued was written as a whole, and is within the limit. -/
lemma written_of_encode (encoded : request.encode registry limit = .ok bytes) :
    writeValues registry request.argTypes request.args = .done bytes ∧
      bytes.length ≤ limit.toNat :=
  (encode_eq_ok_iff.mp encoded).2.2

/-- A request is refused exactly if it is unfit. -/
theorem exists_error_iff (built : registry.Built) :
    (∃ e, request.encode registry limit = .error e) ↔ request.Unfit registry limit := by
  constructor
  · rintro ⟨e, refused⟩
    by_contra fit
    have known : ∀ type ∈ request.argTypes ++ request.resultTypes,
        registry.check type = .ok () := by
      intro type declared
      by_contra unknown
      exact fit (.unresolved declared unknown)
    have conforms : List.Forall₂ (Conforms registry) request.argTypes request.args := by
      by_contra other
      exact fit (.mistyped other)
    have written := Written.eq_done_of_result ((writeValues_ok_iff built).mpr conforms)
    have within : (writeValues registry request.argTypes request.args).bytes.length ≤
        limit.toNat := by
      by_contra excess
      exact fit (.tooLarge written (Nat.not_le.mp excess))
    have args := Registry.checkAll_eq_ok_iff.mpr fun type declared =>
      known type (List.mem_append_left _ declared)
    have results := Registry.checkAll_eq_ok_iff.mpr fun type declared =>
      known type (List.mem_append_right _ declared)
    rw [encode_eq_ok_iff.mpr ⟨args, results, written, within⟩] at refused
    cases refused
  · intro unfit
    cases encoded : request.encode registry limit with
    | error e => exact ⟨e, rfl⟩
    | ok bytes =>
      obtain ⟨args, results, written, within⟩ := encode_eq_ok_iff.mp encoded
      cases unfit with
      | unresolved declared unknown =>
        rcases List.mem_append.mp declared with arg | result
        · exact absurd (Registry.checkAll_eq_ok_iff.mp args _ arg) unknown
        · exact absurd (Registry.checkAll_eq_ok_iff.mp results _ result) unknown
      | mistyped other =>
        exact absurd ((writeValues_ok_iff built).mp (by rw [written]; rfl)) other
      | tooLarge written' excess =>
        obtain rfl : bytes = _ := congrArg Written.bytes (written.symm.trans written')
        omega

lemma exists_ok_of_fit (built : registry.Built) (fit : ¬ request.Unfit registry limit) :
    ∃ arguments, request.encode registry limit = .ok arguments := by
  cases encoded : request.encode registry limit with
  | error e => exact absurd ((exists_error_iff built).mp ⟨e, encoded⟩) fit
  | ok arguments => exact ⟨arguments, rfl⟩

lemma fit_of_encode (built : registry.Built) (encoded : request.encode registry limit = .ok bytes) :
    ¬ request.Unfit registry limit := by
  intro unfit
  obtain ⟨e, refused⟩ := (exists_error_iff built).mpr unfit
  cases encoded.symm.trans refused

end Request

end RemoteCall
