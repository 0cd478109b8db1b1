import Mathlib
import RemoteCall.Proofs.Client.Accounts

/-!
# Replies and calls

A client that talks to an arbitrary peer may be sent any frames in any order.  A frame that finds a
call of its transaction ID in the table answers this call, and another frame does nothing.  Whatever
else the threads of the client do, a call is answered by one frame at most, and a call that was
answered is resolved with what this frame carries (`replies_matched`).

`Correlated` is what makes that work: a call that was answered is out of the table for good, in the
hands of a thread that is going to resolve it with the content of the frame, or resolved with it.

## The proof

A frame takes its call out of the table in one action, and the call is resolved in another.  In
between the frame is remembered by the ending that the thread has in its hands, so `Correlated`
speaks of endings and outcomes alike (`Explained`).  The converse is needed too: an outcome that
looks like a reply comes from a frame, since the client has none of its own to give (`Lost`).

That a call is answered once is a matter of places.  It was in the table when it was answered and is
not there any more; no call of the same transaction ID can come to the table, because no such ID is
given, up to `2 ^ 64` calls (`Correlated.unanswered`).

## Main statements

* `mem_answers_run` — a call is answered by the frames that find it in the table.
* `replies_matched` — in every run calls and frames are matched.
-/

namespace RemoteCall

/-- What a call is resolved with when a frame answers it. -/
def Resolution.ofFrame (frame : Frame) : Resolution :=
  ⟨frame.status, Future.replyOf (some frame.payload)⟩

namespace Threaded

variable {κ : Type}

/-! ## Answers -/

/-- The frames that found their calls in the table. -/
def answers (history : List (Effect κ)) : List Frame :=
  history.filterMap fun
    | .answered frame => some frame
    | _ => none

lemma answers_append (first second : List (Effect κ)) :
    answers (first ++ second) = answers first ++ answers second := List.filterMap_append

lemma mem_answers {history : List (Effect κ)} {frame : Frame} :
    frame ∈ answers history ↔ Effect.answered frame ∈ history := by
  unfold answers
  rw [List.mem_filterMap]
  constructor
  · rintro ⟨effect, seen, shown⟩
    cases effect with
    | answered other =>
      cases shown
      exact seen
    | issued | refused | registered | entered | transmit | resolved | invoked => cases shown
  · intro seen
    exact ⟨_, seen, rfl⟩

/-- After some of the actions of a run, a frame arrives and finds its call in the table. -/
def AnsweredAfter (start : Threaded κ) (events before : List (Event κ)) (frame : Frame) : Prop :=
  (∃ after, events = before ++ .receive frame :: after) ∧
    ((start.run before).1.client.pendingCall? frame.xid).isSome

/-- A call was answered by the frame that its outcome comes from, or no frame has answered it. -/
def Explained (history : List (Effect κ)) (xid : Int64) (resolution : Resolution) : Prop :=
  (∃ frame ∈ answers history, frame.xid = xid ∧ resolution = .ofFrame frame) ∨
    (xid ∉ (answers history).map Frame.xid ∧ Lost resolution)

/-- A frame that has answered a call has taken it out of the table, and only the outcomes of such
calls come from frames. -/
structure Correlated (state : Threaded κ) (history : List (Effect κ)) : Prop where
  once : ∀ xid, ((answers history).map Frame.xid).count xid ≤
    (state.taken.map (·.1.xid)).count xid + ((resolutions history).map Prod.fst).count xid
  taken : ∀ entry ∈ state.taken, Explained history entry.1.xid entry.2.resolution
  resolved : ∀ entry ∈ resolutions history, Explained history entry.1 entry.2

lemma correlated_connected (registry : Registry) (maxPayload : UInt32) :
    Correlated (connected registry maxPayload : Threaded κ) [] := by
  refine ⟨fun _ => Nat.zero_le _, ?_, ?_⟩
  · intro entry absent
    cases absent
  · intro entry absent
    cases absent

section

variable {state next : Threaded κ} {history seen : List (Effect κ)}

/-- A call that is not yet out of the table was not answered. -/
lemma Correlated.unanswered (correlated : Correlated state history)
    (placed : Placed state history) (distinct : (issued history).Nodup) {xid : Int64}
    (inside : 0 < (state.drafts.map Draft.xid).count xid +
      (state.client.pending.map PendingCall.xid).count xid) :
    xid ∉ (answers history).map Frame.xid := by
  have one := placed.once distinct xid
  have once := correlated.once xid
  rw [← List.count_eq_zero]
  omega

/-- A call is answered once. -/
lemma Correlated.nodup (correlated : Correlated state history) (placed : Placed state history)
    (distinct : (issued history).Nodup) : ((answers history).map Frame.xid).Nodup := by
  rw [List.nodup_iff_count_le_one]
  intro xid
  have one := placed.once distinct xid
  have once := correlated.once xid
  omega

/-- Calls are taken out of the table without a reply. -/
lemma Correlated.quiet (correlated : Correlated state history) (unanswered : answers seen = [])
    {out : List (PendingCall × Ending)} (taken : next.taken = state.taken ++ out)
    (stays : resolutions seen = [])
    (lost : ∀ entry ∈ out, entry.1.xid ∉ (answers history).map Frame.xid ∧
      Lost entry.2.resolution) : Correlated next (history ++ seen) := by
  have same : answers (history ++ seen) = answers history := by
    rw [answers_append, unanswered, List.append_nil]
  have same' : resolutions (history ++ seen) = resolutions history := by
    rw [resolutions_append, stays, List.append_nil]
  refine ⟨?_, ?_, ?_⟩
  · intro xid
    have once := correlated.once xid
    rw [same, same', taken, List.map_append, List.count_append]
    omega
  · intro entry present
    unfold Explained
    rw [same]
    rw [taken, List.mem_append] at present
    rcases present with before | now
    · exact correlated.taken entry before
    · exact Or.inr (lost entry now)
  · intro entry present
    unfold Explained
    rw [same]
    rw [same'] at present
    exact correlated.resolved entry present

lemma Correlated.still (correlated : Correlated state history) (unanswered : answers seen = [])
    (stays : resolutions seen = []) (taken : next.taken = state.taken) :
    Correlated next (history ++ seen) := by
  refine correlated.quiet unanswered (taken.trans (List.append_nil _).symm) stays ?_
  intro entry absent
  cases absent

/-- A call that is answered was not answered before. -/
lemma Correlated.receives (correlated : Correlated state history)
    (placed : Placed state history) (distinct : (issued history).Nodup) {frame : Frame}
    {call : PendingCall} (found : state.client.pendingCall? frame.xid = some call)
    (runner : Runner) :
    Correlated
      ⟨state.client.removePending frame.xid, state.drafts,
        state.taken ++ [(call, .settled frame.status (some frame.payload) runner)]⟩
      (history ++ [.answered frame]) := by
  have hit : call.xid = frame.xid := by simpa using List.find?_some found
  have inside := List.mem_map_of_mem (f := PendingCall.xid) (List.mem_of_find?_eq_some found)
  have positive := List.count_pos_iff.mpr inside
  have one := placed.once distinct call.xid
  have longer : answers (history ++ [.answered frame]) = answers history ++ [frame] :=
    answers_append _ _
  have same : resolutions (history ++ [.answered frame]) = resolutions history := by
    rw [resolutions_append]
    exact List.append_nil _
  -- whatever is out of the table already has another transaction ID
  have apart : ∀ {xid resolution}, xid ≠ call.xid → Explained history xid resolution →
      Explained (history ++ [.answered frame]) xid resolution := by
    intro xid resolution other explained
    unfold Explained
    rw [longer, List.map_append, List.mem_append]
    refine explained.imp ?_ ?_
    · rintro ⟨frame', answered, rest⟩
      exact ⟨frame', List.mem_append_left _ answered, rest⟩
    · rintro ⟨unanswered, lost⟩
      refine ⟨?_, lost⟩
      rintro (before | now)
      · exact unanswered before
      · exact other ((List.mem_singleton.mp now).trans hit.symm)
  refine ⟨?_, ?_, ?_⟩
  · intro xid
    have once := correlated.once xid
    have more := count_map_concat state.taken
      (call, .settled frame.status (some frame.payload) runner) (·.1.xid) xid
    have more' := count_map_concat (answers history) frame Frame.xid xid
    rw [longer, same]
    dsimp only at more more' ⊢
    rw [hit] at more
    omega
  · intro entry present
    rcases List.mem_append.mp present with before | now
    · refine apart ?_ (correlated.taken entry before)
      intro shared
      have among := List.mem_map_of_mem (f := (·.1.xid)) before
      have positive' := List.count_pos_iff.mpr among
      rw [shared] at positive'
      omega
    · rw [List.mem_singleton.mp now]
      refine Or.inl ⟨frame, ?_, hit.symm, rfl⟩
      rw [longer]
      exact List.mem_append_right _ (List.mem_singleton_self _)
  · intro entry present
    rw [same] at present
    refine apart ?_ (correlated.resolved entry present)
    intro shared
    have among := List.mem_map_of_mem (f := Prod.fst) present
    have positive' := List.count_pos_iff.mpr among
    rw [shared] at positive'
    omega

/-- A thread resolves a call with what it has meant to. -/
lemma Correlated.concludes (correlated : Correlated state history) {n : Nat}
    {call : PendingCall} {ending : Ending} (here : state.taken[n]? = some (call, ending))
    {client : Client κ} (unanswered : answers seen = [])
    (resolved : resolutions seen = [(call.xid, ending.resolution)]) :
    Correlated ⟨client, state.drafts, state.taken.eraseIdx n⟩ (history ++ seen) := by
  have same : answers (history ++ seen) = answers history := by
    rw [answers_append, unanswered, List.append_nil]
  have longer : resolutions (history ++ seen) =
      resolutions history ++ [(call.xid, ending.resolution)] := by
    rw [resolutions_append, resolved]
  refine ⟨?_, ?_, ?_⟩
  · intro xid
    have once := correlated.once xid
    have gone := count_map_eraseIdx here (·.1.xid) xid
    have more := count_map_concat (resolutions history) (call.xid, ending.resolution) Prod.fst xid
    rw [same, longer]
    dsimp only at gone more ⊢
    omega
  · intro entry present
    unfold Explained
    rw [same]
    exact correlated.taken entry (List.mem_of_mem_eraseIdx present)
  · intro entry present
    unfold Explained
    rw [same]
    rw [longer, List.mem_append, List.mem_singleton] at present
    rcases present with before | now
    · exact correlated.resolved entry before
    · rw [now]
      exact correlated.taken (call, ending) (List.mem_of_getElem? here)

lemma Correlated.acts (correlated : Correlated state history) (placed : Placed state history)
    (distinct : (issued history).Nodup) (acts : Acts state next seen) :
    Correlated next (history ++ seen) := by
  have pending : ∀ call ∈ state.client.pending, call.xid ∉ (answers history).map Frame.xid := by
    intro call inside
    have among := List.mem_map_of_mem (f := PendingCall.xid) inside
    have positive := List.count_pos_iff.mpr among
    exact correlated.unanswered placed distinct (by omega)
  cases acts with
  | nothing | refuses | issues | registers | admits | takes | stops | clears =>
    exact correlated.still rfl rfl rfl
  | @turnsAway n draft here shut =>
    refine correlated.quiet rfl rfl rfl ?_
    intro entry present
    have among := List.mem_map_of_mem (f := Draft.xid) (List.mem_of_getElem? here)
    have positive := List.count_pos_iff.mpr among
    rw [List.mem_singleton.mp present]
    refine ⟨correlated.unanswered placed distinct ?_, lost_unsent .notConnected⟩
    dsimp only
    omega
  | answers found => exact correlated.receives placed distinct found _
  | @givesUp xid call ending lost found =>
    refine correlated.quiet rfl rfl rfl ?_
    intro entry present
    rw [List.mem_singleton.mp present]
    exact ⟨pending call (List.mem_of_find?_eq_some found), lost⟩
  | @drains closing ending calls lost all closes =>
    refine correlated.quiet rfl rfl rfl ?_
    intro entry present
    obtain ⟨call, inside, rfl⟩ := List.mem_map.mp present
    exact ⟨pending call (all.mem_iff.mp inside), lost⟩
  | concludes here =>
    refine correlated.concludes here (filterMap_ranFor (fun _ _ _ => rfl) _ _) ?_
    exact congrArg _ (filterMap_ranFor (fun _ _ _ => rfl) _ _)
  | delivers queue =>
    exact correlated.still (filterMap_ran (fun _ _ _ => rfl) _ _ _)
      (filterMap_ran (fun _ _ _ => rfl) _ _ _) rfl

end

/-! ## Frames that find their calls -/

section

variable (state : Threaded κ)

lemma answers_receive (frame : Frame) : answers (state.receive frame).2 =
    if (state.client.pendingCall? frame.xid).isSome then [frame] else [] := by
  unfold receive
  split
  · rfl
  · rfl

lemma answers_issue (request : Request) (callback : Option κ) :
    answers (state.issue request callback).2 = [] := by
  unfold issue
  split <;> rfl

lemma answers_register (n : Nat) : answers (state.register n).2 = [] := by
  unfold register
  split <;> rfl

lemma answers_enter (n : Nat) : answers (state.enter n).2 = [] := by
  unfold enter
  split
  · split <;> rfl
  · rfl

lemma answers_conclude (n : Nat) : answers (state.conclude n).2 = [] := by
  unfold conclude
  split
  · rfl
  · exact filterMap_ranFor (fun _ _ _ => rfl) _ _

lemma answers_deliver : answers state.deliver.2 = [] := by
  unfold deliver
  split
  · rfl
  · exact filterMap_ran (fun _ _ _ => rfl) _ _ _

end

/-- Calls are answered when frames arrive, and at no other time. -/
lemma mem_answers_step {state : Threaded κ} {event : Event κ} {frame : Frame} :
    frame ∈ answers (state.step event).2 ↔
      event = .receive frame ∧ (state.client.pendingCall? frame.xid).isSome := by
  have silent : ∀ {event : Event κ}, answers (state.step event).2 = [] →
      event ≠ .receive frame → (frame ∈ answers (state.step event).2 ↔
        event = .receive frame ∧ (state.client.pendingCall? frame.xid).isSome) := by
    intro event none other
    rw [none]
    exact iff_of_false List.not_mem_nil fun same => other same.1
  cases event with
  | receive other =>
    have answered := state.answers_receive other
    unfold step
    dsimp only
    rw [answered, Event.receive.injEq]
    split
    · rename_i found
      rw [List.mem_singleton]
      constructor
      · rintro rfl
        exact ⟨rfl, found⟩
      · rintro ⟨rfl, -⟩
        rfl
    · rename_i unknown
      refine iff_of_false List.not_mem_nil ?_
      rintro ⟨rfl, found⟩
      exact unknown found
  | issue request callback => exact silent (answers_issue state request callback) nofun
  | register n => exact silent (answers_register state n) nofun
  | enter n => exact silent (answers_enter state n) nofun
  | conclude n => exact silent (answers_conclude state n) nofun
  | deliver => exact silent (answers_deliver state) nofun
  | sendFailed | abandon | connectionLost | takeReply | closeNext => exact silent rfl nofun

theorem mem_answers_run {start : Threaded κ} {events : List (Event κ)} {frame : Frame} :
    frame ∈ answers (start.run events).2 ↔ ∃ before, AnsweredAfter start events before frame := by
  constructor
  · intro answered
    obtain ⟨before, event, after, rfl, shown⟩ :=
      Machine.exists_step_of_mem (mem_answers.mp answered)
    obtain ⟨rfl, found⟩ := mem_answers_step.mp (mem_answers.mpr shown)
    exact ⟨before, ⟨after, rfl⟩, found⟩
  · rintro ⟨before, ⟨after, rfl⟩, found⟩
    rw [run_append]
    unfold run
    rw [Machine.run_cons, answers_append, answers_append]
    refine List.mem_append_right _ (List.mem_append_left _ ?_)
    exact mem_answers_step.mpr ⟨rfl, found⟩

/-! ## The calls of a run and the frames of its peer -/

/-- In a run of a client, calls and frames are matched. -/
structure Matched (start : Threaded κ) (events : List (Event κ)) : Prop where
  /-- No transaction ID is given twice. -/
  xids : (issued (start.run events).2).Nodup
  /-- No call is resolved a second time. -/
  once : ((resolutions (start.run events).2).map Prod.fst).Nodup
  /-- The status and the payload of a call that is resolved stay. -/
  stays : ∀ before after xid resolution, events = before ++ after →
    (start.run before).1.client.resolution? xid = some resolution →
      (start.run events).1.client.resolution? xid = some resolution
  /-- Once a frame has found its call in the table, no frame of this transaction ID will. -/
  first : ∀ before before' frame frame', AnsweredAfter start events before frame →
    AnsweredAfter start events before' frame' → frame.xid = frame'.xid → before = before'
  /-- A call whose frame has found it is resolved with what this frame carries. -/
  answered : ∀ before frame resolution, AnsweredAfter start events before frame →
    (start.run events).1.client.resolution? frame.xid = some resolution →
      resolution = .ofFrame frame
  /-- A call that no frame has found is resolved without a reply. -/
  unanswered : ∀ xid resolution,
    (∀ before frame, AnsweredAfter start events before frame → frame.xid ≠ xid) →
      (start.run events).1.client.resolution? xid = some resolution → Lost resolution
  /-- A frame that does not find a call changes nothing. -/
  stray : ∀ before frame after, events = before ++ .receive frame :: after →
    (start.run before).1.client.pendingCall? frame.xid = none →
      (start.run before).1.step (.receive frame) = ((start.run before).1, [])

section

variable {registry : Registry} {maxPayload : UInt32} {events : List (Event κ)}

lemma correlated_run
    (few : (issued ((connected registry maxPayload).run events).2).length ≤ 2 ^ 64) :
    Placed ((connected registry maxPayload).run events).1
        ((connected registry maxPayload).run events).2 ∧
      Correlated ((connected registry maxPayload).run events).1
        ((connected registry maxPayload).run events).2 := by
  have keeps : ∀ {state next : Threaded κ} {history seen : List (Effect κ)},
      Placed state history → Placed next (history ++ seen) → (issued history).Nodup →
        Acts state next seen → Correlated state history → Correlated next (history ++ seen) :=
    fun placed _ distinct acts correlated => correlated.acts placed distinct acts
  exact (placed_connected registry maxPayload).run_keeps keeps
    (correlated_connected registry maxPayload) events (nodup_issued _ _ _ few)

/-- After a frame has found its call, the table holds no call of this transaction ID. -/
lemma pendingCall?_of_answered {before after : List (Event κ)} {frame : Frame}
    (few : (issued ((connected registry maxPayload).run
      (before ++ .receive frame :: after)).2).length ≤ 2 ^ 64)
    (found : (((connected registry maxPayload).run before).1.client.pendingCall?
      frame.xid).isSome) :
    ((connected registry maxPayload).run
      (before ++ .receive frame :: after)).1.client.pendingCall? frame.xid = none := by
  obtain ⟨placed, correlated⟩ := correlated_run few
  have answered := mem_answers_run.mpr ⟨before, ⟨after, rfl⟩, found⟩
  rw [Option.eq_none_iff_forall_ne_some]
  intro call again
  have hit : call.xid = frame.xid := by simpa using List.find?_some again
  have inside := List.mem_map_of_mem (f := PendingCall.xid) (List.mem_of_find?_eq_some again)
  have positive := List.count_pos_iff.mpr inside
  rw [hit] at positive
  exact correlated.unanswered placed (nodup_issued _ _ _ few) (by omega)
    (List.mem_map_of_mem answered)

lemma not_answered_before {before middle after : List (Event κ)} {frame frame' : Frame}
    (few : (issued ((connected registry maxPayload).run events).2).length ≤ 2 ^ 64)
    (all : events = before ++ .receive frame :: middle ++ .receive frame' :: after)
    (found : (((connected registry maxPayload).run before).1.client.pendingCall?
      frame.xid).isSome) (same : frame.xid = frame'.xid) :
    (((connected registry maxPayload).run
      (before ++ .receive frame :: middle)).1.client.pendingCall? frame'.xid).isSome = false := by
  rw [all] at few
  rw [← same, pendingCall?_of_answered (few_before few) found]
  rfl

/-- Whatever frames the peer of a client sends, a frame resolves the call of its transaction ID, if
it finds this call in the table, and does nothing otherwise.  That holds until the counter of
transaction IDs, which is 64 bits wide, has come round. -/
theorem replies_matched
    (few : (issued ((connected registry maxPayload).run events).2).length ≤ 2 ^ 64) :
    Matched (connected registry maxPayload) events := by
  obtain ⟨placed, correlated⟩ := correlated_run few
  have distinct := nodup_issued registry maxPayload events few
  constructor
  case xids => exact distinct
  case once =>
    rw [List.nodup_iff_count_le_one]
    intro xid
    have one := placed.once distinct xid
    omega
  case stays =>
    rintro before after xid resolution rfl resolved
    obtain ⟨placed', -⟩ := correlated_run (few_before few)
    rw [run_append] at placed ⊢
    exact placed'.stays placed resolved
  -- Of two answers to one call the later one would find it in the table, but the earlier one has
  -- taken it out.
  case first =>
    rintro before before' frame frame' ⟨⟨after, all⟩, found⟩ ⟨⟨after', all'⟩, found'⟩ same
    rcases List.append_eq_append_iff.mp (all.symm.trans all') with
      ⟨middle, later, rest⟩ | ⟨middle, later, rest⟩
    · cases middle with
      | nil => exact (later.trans (List.append_nil _)).symm
      | cons event middle =>
        obtain ⟨rfl, rfl⟩ := List.cons.inj rest
        have gone := not_answered_before few (later ▸ all') found same
        rw [← later, found'] at gone
        cases gone
    · cases middle with
      | nil => exact later.trans (List.append_nil _)
      | cons event middle =>
        obtain ⟨rfl, rfl⟩ := List.cons.inj rest
        have gone := not_answered_before few (later ▸ all) found' same.symm
        rw [← later, found] at gone
        cases gone
  case answered =>
    intro before frame resolution answered resolved
    have among := mem_answers_run.mpr ⟨before, answered⟩
    have outcome := (placed.outcomes frame.xid resolution).mp resolved
    rcases correlated.resolved _ outcome with ⟨frame', among', same, from_⟩ | ⟨unanswered, -⟩
    · have equal := List.inj_on_of_nodup_map (correlated.nodup placed distinct) among' among same
      exact equal ▸ from_
    · exact (unanswered (List.mem_map_of_mem among)).elim
  case unanswered =>
    intro xid resolution unanswered resolved
    have outcome := (placed.outcomes xid resolution).mp resolved
    rcases correlated.resolved _ outcome with ⟨frame, among, same, -⟩ | ⟨-, lost⟩
    · obtain ⟨before, answered⟩ := mem_answers_run.mp among
      exact (unanswered before frame answered same).elim
    · exact lost
  case stray =>
    intro before frame after _ unknown
    unfold step receive takeOut
    dsimp only
    rw [unknown]
    rfl

end

/-- A call is answered after a stray reply and before a second one, while its caller gives it up. -/
def contested : List (Event Unit) :=
  [.issue ⟨7, [], [], []⟩ none, .enter 0, .receive (.errorReply 2 Status.notConnected),
    .receive (.reply 1 Status.ok [5]), .abandon 1, .conclude 0,
    .receive (.errorReply 1 Status.notConnected)]

theorem replies_matched_contested :
    (issued ((connected .empty 64).run contested).2).length ≤ 2 ^ 64 ∧
      ((connected .empty 64).run contested).1.client.resolution? 1 =
        some (.ofFrame (.reply 1 Status.ok [5])) ∧
      Matched (connected .empty 64) contested := by
  have one : issued ((connected .empty 64).run contested).2 = [1] := by cbv
  have few : (issued ((connected .empty 64).run contested).2).length ≤ 2 ^ 64 := by
    rw [one]
    decide
  have resolved : ((connected .empty 64).run contested).1.client.resolution? 1 =
      some (.ofFrame (.reply 1 Status.ok [5])) := by cbv
  exact ⟨few, resolved, replies_matched few⟩

end Threaded

end RemoteCall
