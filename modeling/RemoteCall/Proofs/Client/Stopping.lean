import Mathlib.Tactic.Lemma
import RemoteCall.Proofs.Client.Callbacks
import RemoteCall.Proofs.Client.Runners

/-!
# Clients whose delivery has stopped

With the first action of closing the delivery thread takes no more callbacks, and what is queued for
it is forgotten.  A while may pass until the next action, in which the other threads go on: calls
are issued and answered, and their callbacks are run by whoever resolves them.  How long that is, is
up to the callback that the delivery thread is in, since the closing thread joins it first.

The callbacks that were queued stay in the table until the last action of closing, so in this while
the table has more callbacks than there are tickets under way, and `Owned` does not hold.  But
nobody looks at the queue any more.  It may as well be left as it was when delivery stopped
(`step_withQueue`), and in that client every callback of the table has its ticket.  This is how the
accounts are kept in the while (`Stopped`).

So an invariant that is proved of clients with a queue need not be stated a second time for clients
without: a run from the stop on is compared with the same run from the client that kept its queue.
The two agree in everything but the queue, at every step (`run_withQueue`).  Only an action of the
delivery thread could tell them apart, and it finds nothing to run.

## Main statements

* `Owned.stopped` — the accounts from the stop of delivery until the pending calls are failed.
-/

namespace RemoteCall

variable {κ : Type}

namespace Client

/-- The client with another queue for its delivery thread. -/
def withQueue (client : Client κ) (queue : List (UInt64 × Int64)) : Client κ :=
  { client with deliveries := queue }

lemma runCallback_withQueue (client : Client κ) (queue : List (UInt64 × Int64)) (id : UInt64)
    (xid : Int64) (runner : Runner) :
    (client.withQueue queue).runCallback id xid runner =
      ((client.runCallback id xid runner).1.withQueue queue,
        (client.runCallback id xid runner).2) := by
  have outcome : (client.withQueue queue).result? xid = client.result? xid := rfl
  unfold runCallback
  rw [outcome]
  dsimp only [withQueue]
  split <;> rfl

/-- Whoever resolves a call after delivery has stopped does not look at the queue. -/
lemma conclude_withQueue {client : Client κ} (stopped : client.closing ≠ .notClosed)
    (queue : List (UInt64 × Int64)) (call : PendingCall) (ending : Ending) :
    (client.withQueue queue).conclude call ending =
      ((client.conclude call ending).1.withQueue queue, (client.conclude call ending).2) := by
  cases ending with
  | unsent status =>
    unfold conclude failLocally
    cases call.callback with
    | none => rfl
    | some id => exact runCallback_withQueue (client.resolve call.xid status none) queue id _ _
  | settled status payload runner =>
    unfold conclude complete
    cases call.callback with
    | none => rfl
    | some id =>
      have late : (client.resolve call.xid status payload).deliveryStopped = true :=
        decide_eq_true stopped
      have late' : ((client.withQueue queue).resolve call.xid status payload).deliveryStopped =
          true := decide_eq_true stopped
      simp only [if_pos late, if_pos late']
      exact runCallback_withQueue (client.resolve call.xid status payload) queue id _ _

end Client

namespace Threaded

/-- The threads of a client with another queue. -/
def withQueue (state : Threaded κ) (queue : List (UInt64 × Int64)) : Threaded κ :=
  { state with client := state.client.withQueue queue }

section

variable {state : Threaded κ}

lemma takeOut_withQueue (state : Threaded κ) (queue : List (UInt64 × Int64)) (xid : Int64)
    (ending : Ending) : (state.withQueue queue).takeOut xid ending =
      (state.takeOut xid ending).withQueue queue := by
  have same : (state.withQueue queue).client.pendingCall? xid = state.client.pendingCall? xid := rfl
  unfold takeOut
  rw [same]
  split <;> rfl

/-- After delivery has stopped, only the delivery thread would look at the queue. -/
lemma step_withQueue (stopped : state.client.closing ≠ .notClosed) {event : Event κ}
    (other : event ≠ .deliver) (queue : List (UInt64 × Int64)) :
    (state.withQueue queue).step event =
      ((state.step event).1.withQueue queue, (state.step event).2) := by
  -- Each action reads tables that the queue is no part of, and keeps the queue as it is.
  cases event with
  | deliver => exact (other rfl).elim
  | issue request callback =>
    have encoded : request.encode (state.withQueue queue).client.registry
        (state.withQueue queue).client.maxPayload =
          request.encode state.client.registry state.client.maxPayload := rfl
    show (state.withQueue queue).issue request callback =
      ((state.issue request callback).1.withQueue queue, (state.issue request callback).2)
    unfold issue
    rw [encoded]
    split <;> rfl
  | register n =>
    have drafts : (state.withQueue queue).drafts = state.drafts := rfl
    show (state.withQueue queue).register n =
      ((state.register n).1.withQueue queue, (state.register n).2)
    unfold register
    rw [drafts]
    split <;> rfl
  | enter n =>
    have drafts : (state.withQueue queue).drafts = state.drafts := rfl
    have isOpen : (state.withQueue queue).client.isOpen = state.client.isOpen := rfl
    show (state.withQueue queue).enter n = ((state.enter n).1.withQueue queue, (state.enter n).2)
    unfold enter
    rw [drafts, isOpen]
    split
    · split <;> rfl
    · rfl
  | sendFailed | abandon => exact congrArg (·, []) (takeOut_withQueue state queue _ _)
  | receive frame =>
    show (state.withQueue queue).receive frame =
      ((state.receive frame).1.withQueue queue, (state.receive frame).2)
    unfold receive
    rw [takeOut_withQueue]
    rfl
  | connectionLost => rfl
  -- The one that would append to the queue runs the callback itself, as delivery has stopped.
  | conclude n =>
    have taken : (state.withQueue queue).taken = state.taken := rfl
    show (state.withQueue queue).conclude n =
      ((state.conclude n).1.withQueue queue, (state.conclude n).2)
    unfold conclude
    rw [taken]
    split
    · rfl
    · rename_i call ending here
      have concluded := Client.conclude_withQueue stopped queue call ending
      unfold withQueue
      dsimp only
      rw [concluded]
  | takeReply xid =>
    have same : (state.withQueue queue).client.future? xid = state.client.future? xid := rfl
    show ((state.withQueue queue).takeReply xid, []) =
      ((state.takeReply xid).withQueue queue, [])
    unfold takeReply
    rw [same]
    split <;> rfl
  | closeNext =>
    have stage : (state.withQueue queue).client.closing = state.client.closing := rfl
    show ((state.withQueue queue).closeNext, []) = (state.closeNext.withQueue queue, [])
    unfold closeNext
    rw [stage]
    cases closing : state.client.closing with
    | notClosed => exact (stopped closing).elim
    | deliveryStopped | callsFailed | closed => rfl

/-- Nobody puts anything into the queue. -/
lemma deliveries_step (stopped : state.client.closing ≠ .notClosed) {event : Event κ}
    (other : event ≠ .deliver) :
    (state.step event).1.client.deliveries = state.client.deliveries := by
  have same := congrArg (·.1.client.deliveries)
    (step_withQueue stopped other state.client.deliveries)
  exact same

/-- Nobody opens a client again. -/
lemma closing_step_ne (stopped : state.client.closing ≠ .notClosed) (event : Event κ) :
    (state.step event).1.client.closing ≠ .notClosed :=
  fun going => stopped ((acts_step state event).notClosed going)

lemma closing_run_ne (stopped : state.client.closing ≠ .notClosed) (events : List (Event κ)) :
    (state.run events).1.client.closing ≠ .notClosed := by
  have keeps : ∀ (state : Threaded κ) (event : Event κ), state.client.closing ≠ .notClosed →
      (state.step event).1.client.closing ≠ .notClosed :=
    fun _ event stopped => closing_step_ne stopped event
  exact Machine.run_invariant keeps stopped events

lemma step_deliver_of_nil (empty : state.client.deliveries = []) :
    state.step .deliver = (state, []) := by
  show state.deliver = (state, [])
  unfold deliver
  rw [empty]

/-- After delivery has stopped, the other threads go on as if the queue were left as it was. -/
lemma run_withQueue (stopped : state.client.closing ≠ .notClosed)
    (empty : state.client.deliveries = []) (queue : List (UInt64 × Int64))
    (events : List (Event κ)) :
    (state.run events).1.client.deliveries = [] ∧
      ∃ others, (∀ event ∈ others, event ≠ .deliver) ∧ (state.withQueue queue).run others =
        ((state.run events).1.withQueue queue, (state.run events).2) := by
  induction events generalizing state with
  | nil => exact ⟨empty, [], nofun, rfl⟩
  | cons event rest ih =>
    by_cases delivers : event = .deliver
    · -- the delivery thread finds its queue empty, so there is nothing to match
      subst delivers
      have idle : state.run (.deliver :: rest) = state.run rest := by
        unfold run
        rw [Machine.run_cons, step_deliver_of_nil empty]
        rfl
      rw [idle]
      exact ih stopped empty
    · obtain ⟨empty', others, aside, ran⟩ := ih (closing_step_ne stopped event)
        ((deliveries_step stopped delivers).trans empty)
      refine ⟨empty', event :: others, ?_, ?_⟩
      · rintro other (_ | ⟨_, later⟩)
        · exact delivers
        · exact aside other later
      · unfold run at ran ⊢
        rw [Machine.run_cons, Machine.run_cons, step_withQueue stopped delivers]
        dsimp only
        rw [ran]

end

/-! ## The accounts until the calls are failed -/

section

variable {state next : Threaded κ} {history seen : List (Effect κ)}

/-- Who fails the pending calls has stopped delivery before. -/
lemma Acts.deliveryStopped (acts : Acts state next seen)
    (begun : state.client.closing ≠ .notClosed)
    (stopped : next.client.closing = .deliveryStopped) :
    state.client.closing = .deliveryStopped := by
  cases acts with
  | nothing | refuses | issues | registers | admits | turnsAway | answers | givesUp | takes =>
    exact stopped
  | drains lost all closes =>
    rcases closes with same | ⟨before, -⟩
    · exact same.symm.trans stopped
    · exact before
  | @concludes n call ending here =>
    exact (state.client.conclude_tables call ending).closing.symm.trans stopped
  | delivers queue =>
    dsimp only at stopped
    rw [Client.runCallback_eq] at stopped
    exact stopped
  | stops going => exact (begun going).elim
  | clears => cases stopped

/-- From the stop of delivery until the calls are failed no ticket is lost. -/
lemma Owned.run_stopped (owned : Owned [] state history) (placed : Placed state history)
    (begun : state.client.closing ≠ .notClosed) {events : List (Event κ)}
    (xids : (issued (history ++ (state.run events).2)).Nodup)
    (ids : (registered (history ++ (state.run events).2)).Nodup)
    (stopped : (state.run events).1.client.closing = .deliveryStopped) :
    Owned [] (state.run events).1 (history ++ (state.run events).2) := by
  have keeps : ∀ {state next : Threaded κ} {history seen : List (Effect κ)},
      Placed state history → Placed next (history ++ seen) → (issued history).Nodup →
        Acts state next seen →
          (state.client.closing ≠ .notClosed ∧ (state.client.closing = .deliveryStopped →
            (registered history).Nodup → Owned [] state history)) →
          next.client.closing ≠ .notClosed ∧ (next.client.closing = .deliveryStopped →
            (registered (history ++ seen)).Nodup → Owned [] next (history ++ seen)) := by
    rintro state next history seen placed placed' distinct acts ⟨begun, owned⟩
    refine ⟨fun going => begun (acts.notClosed going), fun stopped ids => ?_⟩
    have before := acts.deliveryStopped begun stopped
    have ids' := nodup_registered_before ids
    exact (owned before ids').acts placed placed' distinct ids' (fun _ _ => List.not_mem_nil) acts
      (stopped.trans before.symm)
  exact (placed.run_keeps keeps ⟨begun, fun _ _ => owned⟩ events xids).2.2 stopped ids

/-- Delivery was stopped in one state, and this is a state before the pending calls are failed,
with what was seen in between. -/
structure Stopped (start state : Threaded κ) (history seen : List (Effect κ)) : Prop where
  stage : state.client.closing = .deliveryStopped
  deliveries : state.client.deliveries = []
  /-- The accounts are right if the queue is left as it was. -/
  owned : Owned [] (state.withQueue start.client.deliveries) (history ++ seen)
  /-- The delivery thread has run nothing. -/
  idle : ∀ run ∈ invocations seen, run.2.runner ≠ .delivery

/-- The client as the closing thread finds it when it is about to forget the queue. -/
def flagged (state : Threaded κ) : Threaded κ :=
  { state with client := { state.client with closing := .deliveryStopped } }

lemma step_closeNext_of_notClosed (going : state.client.closing = .notClosed) :
    state.step .closeNext = (state.flagged.withQueue [], []) := by
  show (state.closeNext, []) = (state.flagged.withQueue [], [])
  unfold closeNext
  rw [going]
  rfl

lemma Placed.flagged (placed : Placed state history) : Placed state.flagged history :=
  ⟨placed.drafts, placed.places, placed.slots, placed.outcomes⟩

lemma Owned.flagged (owned : Owned [] state history) : Owned [] state.flagged history :=
  ⟨owned.tickets, owned.table, owned.entries, owned.results, owned.queued⟩

/-- What threads do between the first and the second action of closing. -/
theorem Owned.stopped (owned : Owned [] state history) (placed : Placed state history)
    (meant : state.AllMeant) (going : state.client.closing = .notClosed) (events : List (Event κ))
    (xids : (issued (history ++ (state.run (.closeNext :: events)).2)).Nodup)
    (ids : (registered (history ++ (state.run (.closeNext :: events)).2)).Nodup)
    (stage : (state.run (.closeNext :: events)).1.client.closing = .deliveryStopped) :
    Stopped state (state.run (.closeNext :: events)).1 history
      (state.run (.closeNext :: events)).2 := by
  have begun : state.run (.closeNext :: events) = (state.flagged.withQueue []).run events := by
    unfold run
    rw [Machine.run_cons, step_closeNext_of_notClosed going]
    rfl
  have late : (state.flagged.withQueue []).client.closing ≠ .notClosed := nofun
  obtain ⟨empty, others, aside, ran⟩ :=
    run_withQueue late rfl state.client.deliveries events
  rw [begun] at xids ids stage ⊢
  -- with the queue left as it was, this is the state in which delivery stops
  have same : (state.flagged.withQueue []).withQueue state.client.deliveries = state.flagged := rfl
  rw [same] at ran
  have final := congrArg Prod.fst ran
  have effects := congrArg Prod.snd ran
  dsimp only at final effects
  rw [← effects] at xids ids ⊢
  refine ⟨stage, empty, ?_, ?_⟩
  · rw [← final]
    refine owned.flagged.run_stopped placed.flagged nofun xids ids ?_
    rw [final]
    exact stage
  · rintro ⟨⟨id, xid⟩, invocation⟩ among delivery
    have meant' : state.flagged.AllMeant := meant
    obtain ⟨before, event, after, rfl, runBy⟩ := runBy_run meant' (mem_invocations.mp among)
    rw [delivery] at runBy
    cases runBy with
    | delivery => exact aside _ (List.mem_append_right _ List.mem_cons_self) rfl

end

end Threaded

end RemoteCall
