import Mathlib
import RemoteCall.Proofs.Call.Outcome
import RemoteCall.Proofs.Client.Callbacks
import RemoteCall.Proofs.Client.Correlation
import RemoteCall.Proofs.Client.Issuing

/-!
# The views of a call that is resolved

A call that is resolved can be looked at in four ways: its status, its raw reply, the outcome that
ends its future, and the outcome that its callback was run with.  All of them come from one
resolution, which in turn comes from the one frame that has answered the call, or from the client
when no frame has (`answered_or_lost`).

The status and the raw reply are what the frame carried, and the outcomes are what they decode to.
So a call that has failed has a reply to take all the same (`failed_takeReply`), if the peer has put
a payload behind the status of a failure; and the outcomes have the status of the call unless the
frame claims success and its payload is not the encoding of results
(`views_agree_unless_malformed`).  A client that fails a call by itself does so without a reply, and
then all views agree.

## The proof

The status and the raw reply are read off the slot.  The outcome of a future and that of a callback
are both computed from the slot by the same function, at different times; a resolution stays, so
they are equal (`Informed`).  What is left is to compare the status of an outcome with that of its
frame.  Decoding fails for a payload that is not the encoding of results under the types of the
call, and an empty payload of a success counts as such if there are result types.

## Main statements

* `answered_or_lost` — where a resolution comes from.
* `failed_takeReply` — when a call that has failed has a reply to take.
* `views_agree_unless_malformed` — the outcomes of a call and its status.
-/

namespace RemoteCall

/-- A payload can be the results of a call.  An empty one stands for no results, and not for results
that encode to nothing. -/
def Encodes (registry : Registry) (types : List Ty) (payload : Bytes) : Prop :=
  (payload = [] → types = []) ∧
    ∃ values, Codec.writeValues registry types values = .done payload

/-- An outcome has the status that the reply claims, unless it claims success without results. -/
lemma CallResult.status_ofReply {registry : Registry} (built : registry.Built) (types : List Ty)
    (status : Status) (payload : Bytes) :
    ((ofReply registry types status (Future.replyOf (some payload))).status = status ↔
      (status = Status.ok → Encodes registry types payload)) ∧
    ((ofReply registry types status (Future.replyOf (some payload))).status ≠ status →
      status = Status.ok ∧ ofReply registry types status (Future.replyOf (some payload)) =
        failed Status.malformedReply) := by
  by_cases success : status = Status.ok
  · subst success
    refine ⟨?_, fun other => ⟨rfl, ?_⟩⟩
    · rw [(strict_ofReply built types Status.ok (some payload)).succeeds]
      exact ⟨fun right _ => right.2, fun encodes => ⟨rfl, encodes rfl⟩⟩
    · rcases ofReply_cases registry types Status.ok (Future.replyOf (some payload)) with
        ⟨results, outcome⟩ | outcome
      · rw [outcome] at other
        exact absurd rfl other
      · exact outcome
  · rw [ofReply_of_ne success]
    exact ⟨iff_of_true rfl fun claimed => absurd claimed success, fun other => absurd rfl other⟩

namespace Threaded

variable {κ : Type}

/-! ## Where a resolution comes from -/

section

variable {registry : Registry} {maxPayload : UInt32} {events : List (Event κ)}

/-- One frame has answered the call, and the resolution is its content; or no frame has, and there
is no reply. -/
theorem answered_or_lost
    (few : (issued ((connected registry maxPayload).run events).2).length ≤ 2 ^ 64) {xid : Int64}
    {resolution : Resolution}
    (resolved : ((connected registry maxPayload).run events).1.client.resolution? xid =
      some resolution) :
    (∃ before frame, AnsweredAfter (connected registry maxPayload) events before frame ∧
      frame.xid = xid ∧ resolution = .ofFrame frame ∧
      ∀ before' frame', AnsweredAfter (connected registry maxPayload) events before' frame' →
        frame'.xid = xid → frame' = frame) ∨
    ((∀ before frame, AnsweredAfter (connected registry maxPayload) events before frame →
      frame.xid ≠ xid) ∧ Lost resolution) := by
  obtain ⟨placed, correlated⟩ := correlated_run few
  have distinct := correlated.nodup placed (nodup_issued _ _ _ few)
  have outcome := (placed.outcomes xid resolution).mp resolved
  rcases correlated.resolved _ outcome with ⟨frame, among, same, content⟩ | ⟨unanswered, lost⟩
  · obtain ⟨before, answered⟩ := mem_answers_run.mp among
    refine .inl ⟨before, frame, answered, same, content, fun before' frame' answered' same' => ?_⟩
    have among' := mem_answers_run.mpr ⟨before', answered'⟩
    exact List.inj_on_of_nodup_map distinct among' among (same'.trans same.symm)
  · refine .inr ⟨fun before frame answered same => unanswered ?_, lost⟩
    exact List.mem_map.mpr ⟨frame, mem_answers_run.mpr ⟨before, answered⟩, same⟩

lemma Lost.failed {resolution : Resolution} (lost : Lost resolution) :
    resolution.status ≠ Status.ok := by
  have known := lost.2
  intro success
  rw [success] at known
  exact absurd known (by decide)

/-- The resolution of a call is that of its future. -/
lemma resolution?_of_future {client : Client κ} {xid : Int64} {future : Future}
    (found : client.future? xid = some future) :
    client.resolution? xid = future.resolution := by
  unfold Client.resolution?
  rw [found]
  rfl

/-! ## The raw reply -/

/-- A call that has failed has a reply to take if the frame that has answered it carries a payload,
and none otherwise. -/
theorem failed_takeReply
    (few : (issued ((connected registry maxPayload).run events).2).length ≤ 2 ^ 64) {xid : Int64}
    {future : Future}
    (found : ((connected registry maxPayload).run events).1.client.future? xid = some future)
    (untaken : future.taken = false) {status : Status} (asked : future.status? = some status)
    (failed : status ≠ Status.ok) :
    ∃ reply, future.takeReply? = some (.ok reply, { future with taken := true }) ∧
      (∀ payload, reply = some payload ↔ payload ≠ [] ∧
        ∃ before frame, AnsweredAfter (connected registry maxPayload) events before frame ∧
          frame.xid = xid ∧ frame.status = status ∧ frame.payload = payload) ∧
      (reply = none ↔ ∀ before frame,
        AnsweredAfter (connected registry maxPayload) events before frame → frame.xid = xid →
          frame.payload = []) := by
  obtain ⟨resolution, resolved, rfl⟩ := Option.map_eq_some_iff.mp asked
  refine ⟨resolution.reply, ?_, ?_⟩
  · unfold Future.takeReply?
    rw [resolved, Option.map_some, untaken]
    rfl
  · rcases answered_or_lost few ((resolution?_of_future found).trans resolved) with
      ⟨before, frame, answered, same, rfl, only⟩ | ⟨unanswered, lost⟩
    -- an empty payload is stored as no reply at all, whatever the status says
    · have reply_eq : (Resolution.ofFrame frame).reply =
          if frame.payload = [] then none else some frame.payload :=
        Future.replyOf_some frame.payload
      rw [reply_eq]
      by_cases empty : frame.payload = []
      · rw [if_pos empty]
        refine ⟨fun payload => iff_of_false nofun ?_, iff_of_true rfl ?_⟩
        · rintro ⟨nonempty, before', frame', answered', same', -, rfl⟩
          exact nonempty (only before' frame' answered' same' ▸ empty)
        · intro before' frame' answered' same'
          exact only before' frame' answered' same' ▸ empty
      · rw [if_neg empty]
        refine ⟨fun payload => ?_, iff_of_false nofun fun all => empty ?_⟩
        · rw [Option.some.injEq]
          constructor
          · rintro rfl
            exact ⟨empty, before, frame, answered, same, rfl, rfl⟩
          · rintro ⟨-, before', frame', answered', same', -, rfl⟩
            rw [only before' frame' answered' same']
        · exact all before frame answered same
    -- no frame has answered, so there is none to have carried a payload
    · rw [lost.1]
      refine ⟨fun payload => iff_of_false nofun ?_, iff_of_true rfl ?_⟩
      · rintro ⟨-, before, frame, answered, same, -⟩
        exact unanswered before frame answered same
      · intro before frame answered same
        exact absurd same (unanswered before frame answered)

/-- Two calls are answered with a failure and a payload, the first of them too late. -/
def failures : List (Event Unit) :=
  [.issue ⟨7, [], [], [.int32]⟩ none, .enter 0, .issue ⟨7, [], [], [.int32]⟩ none, .enter 0,
    .abandon 1, .conclude 0, .receive (.reply 1 Status.handlerFailed [41, 0, 0, 0]),
    .receive (.reply 2 Status.handlerFailed [42, 0, 0, 0]), .conclude 0]

theorem failed_takeReply_late :
    (issued ((connected .empty 64).run failures).2).length ≤ 2 ^ 64 ∧
      ∃ future, ((connected .empty 64).run failures).1.client.future? 2 = some future ∧
        future.taken = false ∧ future.status? = some Status.handlerFailed ∧
        Status.handlerFailed ≠ Status.ok ∧
        future.takeReply? = some (.ok (some [42, 0, 0, 0]), { future with taken := true }) ∧
        ∃ before frame, AnsweredAfter (connected .empty 64) failures before frame ∧
          frame.xid = 2 ∧ frame.status = Status.handlerFailed ∧
          frame.payload = [42, 0, 0, 0] := by
  have two : issued ((connected .empty 64).run failures).2 = [1, 2] := by cbv
  have few : (issued ((connected .empty 64).run failures).2).length ≤ 2 ^ 64 := by
    rw [two]
    decide
  have found : ((connected .empty 64).run failures).1.client.future? 2 =
      some ⟨[.int32], some ⟨Status.handlerFailed, some [42, 0, 0, 0]⟩, false⟩ := by cbv
  have failed : Status.handlerFailed ≠ Status.ok := by decide
  obtain ⟨reply, taken, content, -⟩ := failed_takeReply few found rfl rfl failed
  have reply_eq : some [42, 0, 0, 0] = reply :=
    Except.ok.inj (Prod.mk.inj (Option.some.inj taken)).1
  rw [← reply_eq] at taken
  exact ⟨few, _, found, rfl, rfl, failed, taken, ((content _).mp reply_eq.symm).2⟩

/-- The peer answers a call with the status 5 and four bytes.  They can be taken, although the call
has failed. -/
theorem failed_reply_taken :
    (((Link.connected .empty {} : Link Unit).run
      [.startReader, .issue ⟨7, [], [], [.int32]⟩ none,
        .read (Frame.reply 1 5 [42, 0, 0, 0]).encode]).1.client.future? 1).map
          (fun future => (future.status?, future.takeReply?.map Prod.fst)) =
      some (some 5, some (.ok (some [42, 0, 0, 0]))) := by
  cbv

end

/-! ## The outcomes -/

/-- A callback was run with the outcome that its call has. -/
def Informed (state : Threaded κ) (history : List (Effect κ)) : Prop :=
  ∀ run ∈ invocations history, state.client.result? run.1.2 = some run.2.result

section

variable {state next : Threaded κ} {history seen : List (Effect κ)}

lemma result?_of_ran {client : Client κ} {id : UInt64} {xid : Int64} {runner : Runner}
    {run : (UInt64 × Int64) × Invocation κ}
    (ran : run ∈ invocations (ran id xid (client.runCallback id xid runner).2)) :
    client.result? run.1.2 = some run.2.result := by
  have seen := mem_invocations.mp ran
  unfold Client.runCallback at seen
  split at seen
  · rename_i outcome
    obtain ⟨rfl, rfl, invocation⟩ := Effect.invoked.inj (List.mem_singleton.mp seen)
    rw [invocation]
    exact outcome
  · cases seen

lemma result?_of_ranFor {client : Client κ} {call : PendingCall} {ending : Ending}
    {run : (UInt64 × Int64) × Invocation κ}
    (ran : run ∈ invocations (ranFor call (client.conclude call ending).2)) :
    (client.conclude call ending).1.result? run.1.2 = some run.2.result := by
  rw [Client.result?_conclude]
  unfold ranFor at ran
  rcases client.conclude_cases call ending with ⟨bare, -⟩ | ⟨id, own, same⟩ | ⟨id, own, -, same⟩
  · rw [bare] at ran
    cases ran
  · rw [own, same] at ran
    exact result?_of_ran ran
  · rw [own, same] at ran
    cases ran

/-- A call keeps its outcome, so it is enough to look at the callbacks that are run now. -/
lemma Informed.acts (informed : Informed state history) (placed : Placed state history)
    (placed' : Placed next (history ++ seen)) (distinct : (issued history).Nodup)
    (acts : Acts state next seen) : Informed next (history ++ seen) := by
  intro run among
  rw [invocations_append] at among
  rcases List.mem_append.mp among with before | now
  · exact acts.result? placed placed' distinct (informed run before)
  · cases acts with
    | nothing | refuses | issues | registers | admits | turnsAway | answers | givesUp | drains
      | takes | stops | clears => cases now
    | concludes here => exact result?_of_ranFor now
    | delivers queue =>
      have outcome := result?_of_ran now
      rw [Client.runCallback_eq]
      exact outcome

end

section

variable {registry : Registry} {maxPayload : UInt32} {events : List (Event κ)}

lemma informed_run
    (few : (issued ((connected registry maxPayload).run events).2).length ≤ 2 ^ 64) :
    Informed ((connected registry maxPayload).run events).1
      ((connected registry maxPayload).run events).2 := by
  have keeps : ∀ {state next : Threaded κ} {history seen : List (Effect κ)},
      Placed state history → Placed next (history ++ seen) → (issued history).Nodup →
        Acts state next seen → Informed state history → Informed next (history ++ seen) :=
    fun placed placed' distinct acts informed => informed.acts placed placed' distinct acts
  have nobody : Informed (connected registry maxPayload : Threaded κ) [] := nofun
  exact ((placed_connected registry maxPayload).run_keeps keeps nobody events
    (nodup_issued _ _ _ few)).2

/-- The outcome that ends the future of a call is the one that its callback was run with, if it has
one and it was run.  Its status is the status of the call, unless the call was answered with the
status of success and with something else than results.  Then it is the failure of a malformed
reply. -/
theorem views_agree_unless_malformed (built : registry.Built)
    (few : (issued ((connected registry maxPayload).run events).2).length ≤ 2 ^ 64) {xid : Int64}
    {future : Future}
    (found : ((connected registry maxPayload).run events).1.client.future? xid = some future)
    {status : Status} (asked : future.status? = some status) :
    ∃ result,
      future.finish? registry = some (if future.taken then .error .replyTaken else .ok result) ∧
      (∀ run ∈ invocations ((connected registry maxPayload).run events).2, run.1.2 = xid →
        run.2.result = result) ∧
      (result.status = status ↔ ∀ before frame,
        AnsweredAfter (connected registry maxPayload) events before frame → frame.xid = xid →
          frame.status = Status.ok → Encodes registry future.resultTypes frame.payload) ∧
      (result.status ≠ status → status = Status.ok ∧ result = .failed Status.malformedReply) := by
  obtain ⟨resolution, resolved, rfl⟩ := Option.map_eq_some_iff.mp asked
  have same_registry := (settings_run (connected registry maxPayload) events).1
  have outcome : future.result? registry =
      some (.ofReply registry future.resultTypes resolution.status resolution.reply) := by
    unfold Future.result?
    rw [resolved]
    rfl
  refine ⟨_, Future.finish?_of_result outcome, ?_, ?_⟩
  · rintro run ran rfl
    have given := informed_run few run ran
    unfold Client.result? at given
    rw [found, same_registry, Option.bind_some] at given
    exact Option.some.inj (given.symm.trans outcome)
  · rcases answered_or_lost few ((resolution?_of_future found).trans resolved) with
      ⟨before, frame, answered, same, rfl, only⟩ | ⟨unanswered, lost⟩
    · obtain ⟨agrees, malformed⟩ :=
        CallResult.status_ofReply built future.resultTypes frame.status frame.payload
      refine ⟨agrees.trans ⟨fun encodes before' frame' answered' same' => ?_, fun all => ?_⟩,
        malformed⟩
      · rw [only before' frame' answered' same']
        exact encodes
      · exact all before frame answered same
    · rw [CallResult.ofReply_of_ne lost.failed]
      exact ⟨iff_of_true rfl fun before frame answered same =>
        absurd same (unanswered before frame answered), fun other => absurd rfl other⟩

/-- A call with a callback is answered with success and a single byte. -/
def shortened : List (Event Unit) :=
  [.issue ⟨7, [], [], [.int32]⟩ (some ()), .register 0, .enter 0,
    .receive (.reply 1 Status.ok [42]), .conclude 0, .deliver]

theorem views_agree_unless_malformed_shortened :
    (issued ((connected .empty 64).run shortened).2).length ≤ 2 ^ 64 ∧
      ∃ future, ((connected .empty 64).run shortened).1.client.future? 1 = some future ∧
        future.status? = some Status.ok ∧
        future.finish? .empty = some (.ok (.failed Status.malformedReply)) ∧
        ∀ run ∈ invocations ((connected .empty 64).run shortened).2, run.1.2 = 1 →
          run.2.result = .failed Status.malformedReply := by
  have one : issued ((connected .empty 64).run shortened).2 = [1] := by cbv
  have few : (issued ((connected .empty 64).run shortened).2).length ≤ 2 ^ 64 := by
    rw [one]
    decide
  have found : ((connected .empty 64).run shortened).1.client.future? 1 =
      some ⟨[.int32], some ⟨Status.ok, some [42]⟩, false⟩ := by cbv
  have asked : (⟨[.int32], some ⟨Status.ok, some [42]⟩, false⟩ : Future).status? =
      some Status.ok := rfl
  obtain ⟨result, finished, informed, -, -⟩ :=
    views_agree_unless_malformed .empty few found asked
  have result_eq : CallResult.failed Status.malformedReply = result :=
    Except.ok.inj (Option.some.inj finished)
  rw [← result_eq] at finished informed
  exact ⟨few, _, found, asked, finished, informed⟩

/-- The status of this call is that of success, and both its future and its callback say that the
reply is malformed. -/
theorem views_differ :
    let link := (Link.connected .empty {} : Link Unit).run
      [.startReader, .issue ⟨7, [], [], [.int32]⟩ (some ()),
        .read (Frame.reply 1 Status.ok [42]).encode, .deliver]
    (link.1.client.future? 1).map (fun future => (future.status?, future.finish? .empty)) =
        some (some Status.ok, some (.ok (.failed Status.malformedReply))) ∧
      link.2 = [.issued 1, .invoked ⟨(), .failed Status.malformedReply, .delivery⟩] := by
  constructor <;> cbv

end

end Threaded

end RemoteCall
