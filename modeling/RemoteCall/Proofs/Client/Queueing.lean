import RemoteCall.Proofs.Client.Runners
import RemoteCall.Proofs.Client.Tickets

/-!
# The queue of the delivery thread

A thread that resolves a call leaves its callback to the delivery thread, unless the call fails
before it was sent.  The delivery thread takes callbacks from the front of its queue, and others put
them at its end; so as long as nobody closes the client, what the delivery thread has run and what
is still queued are together what was queued before and the callbacks of the calls that were
resolved meanwhile, in the order in which they were (`served_run`).  That holds however the threads
interleave, and whatever they do.

The list of calls that are resolved in a run is computed from its actions (`concluded`), not from
what it shows.  A call is resolved by whoever has it in its hands, and how it is ended was decided
when it was taken out of the table; whether its callback goes to the queue is a matter of that
ending (`PendingCall.queued`).

That a queued callback is there to be run when its turn comes is not obvious, since an entry of the
queue is only an ID. It follows from the accounts of tickets: the callback of a ticket that is under
way is in the table (`Owned`).

## Main statements

* `served_run` — the delivery thread runs callbacks in the order in which their calls were resolved.
-/

namespace RemoteCall

/-- What is queued when a call is resolved in this way. -/
def PendingCall.queued (call : PendingCall) : Ending → Option (UInt64 × Int64)
  | .unsent _ => none
  | .settled .. => call.ticket

namespace Threaded

open Client

variable {κ : Type}

/-! ## The calls that are resolved -/

/-- The call that an action resolves, if it does, and how. -/
def concludes (state : Threaded κ) : Event κ → List (PendingCall × Ending)
  | .conclude n => state.taken[n]?.toList
  | _ => []

/-- The calls that are resolved in a run, in order. -/
def concluded (state : Threaded κ) : List (Event κ) → List (PendingCall × Ending)
  | [] => []
  | event :: rest => state.concludes event ++ (state.step event).1.concluded rest

lemma concluded_append (state : Threaded κ) (before after : List (Event κ)) :
    state.concluded (before ++ after) =
      state.concluded before ++ (state.run before).1.concluded after := by
  induction before generalizing state with
  | nil => rfl
  | cons event rest ih =>
    rw [List.cons_append, concluded, concluded, ih, List.append_assoc]
    rfl

section

variable {state : Threaded κ}

lemma resolutions_step (event : Event κ) : resolutions (state.step event).2 =
    (state.concludes event).map fun entry => (entry.1.xid, entry.2.resolution) := by
  cases event with
  | conclude n =>
    show resolutions (state.conclude n).2 = (state.taken[n]?.toList).map _
    unfold conclude
    cases state.taken[n]? with
    | none => rfl
    | some entry =>
      obtain ⟨call, ending⟩ := entry
      exact congrArg (List.cons _) (filterMap_ranFor (fun _ _ _ => rfl) _ _)
  | issue request callback =>
    show resolutions (state.issue request callback).2 = []
    unfold issue
    split <;> rfl
  | register n =>
    show resolutions (state.register n).2 = []
    unfold register
    split <;> rfl
  | enter n =>
    show resolutions (state.enter n).2 = []
    unfold enter
    split
    · split <;> rfl
    · rfl
  | receive frame =>
    show resolutions (state.receive frame).2 = []
    unfold receive
    dsimp only
    split <;> rfl
  | deliver =>
    show resolutions state.deliver.2 = []
    unfold deliver
    split
    · rfl
    · exact filterMap_ran (fun _ _ _ => rfl) _ _ _
  | sendFailed | abandon | connectionLost | takeReply | closeNext => rfl

/-- Whatever is resolved in a run is resolved by one of these actions. -/
lemma resolutions_run (events : List (Event κ)) : resolutions (state.run events).2 =
    (state.concluded events).map fun entry => (entry.1.xid, entry.2.resolution) := by
  induction events generalizing state with
  | nil => rfl
  | cons event rest ih =>
    unfold run at ih ⊢
    rw [Machine.run_cons, resolutions_append, concluded, List.map_append, resolutions_step, ih]

/-! ## The queue -/

/-- What the delivery thread has run. -/
def served (history : List (Effect κ)) : List ((UInt64 × Int64) × Invocation κ) :=
  (invocations history).filter (·.2.runner = .delivery)

lemma served_append (first second : List (Effect κ)) :
    served (first ++ second) = served first ++ served second := by
  unfold served
  rw [invocations_append, List.filter_append]

/-- A call that was sent leaves its callback to the delivery thread. -/
lemma deliveries_conclude {client : Client κ} (going : client.closing = .notClosed)
    (call : PendingCall) (ending : Ending) : (client.conclude call ending).1.deliveries =
      client.deliveries ++ (call.queued ending).toList := by
  cases ending with
  | unsent status =>
    rw [PendingCall.queued, Option.toList_none, List.append_nil]
    unfold Client.conclude failLocally
    cases call.callback with
    | none => rfl
    | some id =>
      dsimp only
      rw [runCallback_eq]
      rfl
  | settled status payload runner =>
    have going' : (client.resolve call.xid status payload).deliveryStopped = false := by
      simpa [deliveryStopped, resolve, updateFuture] using going
    unfold Client.conclude complete PendingCall.queued PendingCall.ticket
    dsimp only
    rw [going']
    cases call.callback with
    | none => exact (List.append_nil _).symm
    | some id => rfl

/-- The delivery thread runs no callback when another thread resolves a call. -/
lemma served_conclude (going : state.client.closing = .notClosed) (n : Nat) :
    served (state.conclude n).2 = [] := by
  unfold served
  rw [List.filter_eq_nil_iff]
  rintro ⟨⟨id, xid⟩, invocation⟩ among delivery
  have seen : .invoked id xid invocation ∈ (state.conclude n).2 := mem_invocations.mp among
  unfold conclude at seen
  split at seen
  · cases seen
  · rename_i call ending here
    have ran := (List.mem_cons.mp seen).resolve_left nofun
    obtain ⟨-, runner, ⟨status, rfl⟩ | stopped⟩ := mem_ranFor_conclude ran
    · cases runner.symm.trans (of_decide_eq_true delivery)
    · exact of_decide_eq_true stopped going

variable {history : List (Effect κ)}

/-- The delivery thread runs the callback at the front of its queue. -/
lemma served_deliver (owned : Owned [] state history) :
    (served state.deliver.2).map Prod.fst ++ state.deliver.1.client.deliveries =
      state.client.deliveries := by
  unfold deliver
  cases queue : state.client.deliveries with
  | nil => exact queue
  | cons ticket rest =>
    obtain ⟨id, xid⟩ := ticket
    have among : (id, xid) ∈ state.client.deliveries := queue ▸ List.mem_cons_self
    have live : (id, xid) ∈ state.live [] := by
      rw [live_nil]
      exact List.mem_append_right _ among
    obtain ⟨callback, found, -⟩ := owned.lookup live
    obtain ⟨result, outcome⟩ := Option.isSome_iff_exists.mp (owned.queued _ among)
    generalize popped : ({ state.client with deliveries := rest } : Client κ) = client
    have found' : client.callbacks.lookup id = some callback := popped ▸ found
    have outcome' : client.result? xid = some result := popped ▸ outcome
    unfold Client.deliver
    rw [queue]
    dsimp only
    rw [popped, runCallback_of_lookup found' outcome', ← popped]
    rfl

/-- An action takes from the front of the queue, or puts something at its end. -/
lemma served_step (owned : Owned [] state history)
    (going : state.client.closing = .notClosed) {event : Event κ} (other : event ≠ .closeNext) :
    (served (state.step event).2).map Prod.fst ++ (state.step event).1.client.deliveries =
      state.client.deliveries ++
        (state.concludes event).filterMap fun entry => entry.1.queued entry.2 := by
  -- Only a thread that resolves a call puts something into the queue, and only the delivery thread
  -- takes something out. In all other cases both sides are the queue as it was.
  cases event with
  | closeNext => exact (other rfl).elim
  | conclude n =>
    show (served (state.conclude n).2).map Prod.fst ++ (state.conclude n).1.client.deliveries =
      state.client.deliveries ++ (state.taken[n]?.toList).filterMap _
    rw [served_conclude going]
    unfold conclude
    cases state.taken[n]? with
    | none => exact (List.append_nil _).symm
    | some entry =>
      obtain ⟨call, ending⟩ := entry
      refine (deliveries_conclude going call ending).trans ?_
      rw [Option.toList_some, List.filterMap_cons]
      cases call.queued ending <;> rfl
  | deliver =>
    show _ = state.client.deliveries ++ []
    rw [List.append_nil]
    exact served_deliver owned
  | issue request callback =>
    show (served (state.issue request callback).2).map Prod.fst ++
      (state.issue request callback).1.client.deliveries = state.client.deliveries ++ []
    rw [List.append_nil]
    unfold issue
    split <;> rfl
  | register n =>
    show (served (state.register n).2).map Prod.fst ++
      (state.register n).1.client.deliveries = state.client.deliveries ++ []
    rw [List.append_nil]
    unfold register
    split <;> rfl
  | enter n =>
    show (served (state.enter n).2).map Prod.fst ++
      (state.enter n).1.client.deliveries = state.client.deliveries ++ []
    rw [List.append_nil]
    unfold enter
    split
    · split <;> rfl
    · rfl
  | sendFailed | abandon =>
    show (state.takeOut _ _).client.deliveries = state.client.deliveries ++ []
    rw [List.append_nil]
    unfold takeOut
    split <;> rfl
  | receive frame =>
    show (served (state.receive frame).2).map Prod.fst ++
      (state.receive frame).1.client.deliveries = state.client.deliveries ++ []
    rw [List.append_nil]
    unfold receive takeOut
    dsimp only
    split <;> split <;> rfl
  | connectionLost => exact (List.append_nil _).symm
  | takeReply xid =>
    show (state.takeReply xid).client.deliveries = state.client.deliveries ++ []
    rw [List.append_nil]
    unfold takeReply
    split <;> rfl

/-- As long as nobody closes the client, the delivery thread runs callbacks in the order in which
their calls were resolved. -/
theorem served_run (placed : Placed state history) (owned : Owned [] state history)
    (going : state.client.closing = .notClosed) {events : List (Event κ)}
    (others : .closeNext ∉ events) (xids : (issued (history ++ (state.run events).2)).Nodup)
    (ids : (registered (history ++ (state.run events).2)).Nodup) :
    (served (state.run events).2).map Prod.fst ++ (state.run events).1.client.deliveries =
        state.client.deliveries ++
          (state.concluded events).filterMap (fun entry => entry.1.queued entry.2) ∧
      Owned [] (state.run events).1 (history ++ (state.run events).2) := by
  induction events generalizing state history with
  | nil =>
    refine ⟨(List.append_nil _).symm, ?_⟩
    unfold run
    rw [Machine.run_nil, List.append_nil]
    exact owned
  | cons event rest ih =>
    obtain ⟨other, others⟩ := not_or.mp (mt List.mem_cons.mpr others)
    unfold run at xids ids ih ⊢
    rw [Machine.run_cons, ← List.append_assoc] at xids ids ⊢
    have acts := acts_step state event
    have distinct := nodup_issued_before xids
    have placed' := placed.acts acts distinct
    have same : (state.step event).1.client.closing = state.client.closing :=
      closing_step (Ne.symm other)
    have owned' := owned.acts placed placed' (nodup_issued_before distinct)
      (nodup_registered_before (nodup_registered_before ids)) (fun _ _ => List.not_mem_nil) acts
      same
    have first := served_step owned going (Ne.symm other)
    obtain ⟨later, owned''⟩ := ih placed' owned' (same.trans going) others xids ids
    refine ⟨?_, owned''⟩
    rw [served_append, List.map_append, List.append_assoc, later, ← List.append_assoc, first,
      concluded, List.filterMap_append, List.append_assoc]

end

end Threaded

end RemoteCall
