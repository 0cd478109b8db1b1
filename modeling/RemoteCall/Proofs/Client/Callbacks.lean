import Mathlib
import RemoteCall.Proofs.Client.Naturality
import RemoteCall.Proofs.Client.Tickets

/-!
# Callbacks are run once

A callback that is not in its table any more has spent its ticket, so it was run, and it was run
once, with the outcome that its call has; and its call is resolved when it is run.  The calls whose
callbacks are still to be run are pending, or in the hands of threads, or queued.

What a callback does when it is run, and be it that it panics, the client does not see; so nothing
depends on it.

## Threads and clients

In a run of threads a call may be in the hands of one of them, and its callback is then neither that
of a pending call nor in the queue.  `RunOnce` names these calls beside the others.  In a client by
itself every operation is over before the next one begins, so there are none, and the statement gets
the form that a user of the client expects: the table has the callbacks of the pending calls and
those in the queue (`Client.callbacks_perm`).  It is obtained from the one about threads, by the run
of threads that a run of the client is.

Counters come round after `2 ^ 64` calls.  An ID of zero stands for no callback, so the statement
about callbacks holds for one registration fewer.

## Main statements

* `callbacks_run_once` — in every run of the threads of a client that nobody closes, each callback
  is run once, and until then it is in the table.
* `runOnce_of_client` — if every thread finishes what it has begun before another one acts, no call
  is in the hands of a thread; so the table has the callbacks of the calls that are pending, and
  those in the queue, and no others (`Client.callbacks_perm`).
-/

namespace RemoteCall

/-- The outcome of a call is what ends its future, unless the reply was taken. -/
lemma Future.finish?_of_result {registry : Registry} {future : Future} {result : CallResult}
    (outcome : future.result? registry = some result) :
    future.finish? registry = some (if future.taken then .error .replyTaken else .ok result) := by
  unfold finish?
  rw [outcome]
  rfl

namespace Threaded

variable {κ : Type}

/-- What becomes of the callbacks of a client in a run. -/
structure RunOnce (start : Threaded κ) (events : List (Event κ)) : Prop where
  /-- The table holds the callbacks of the calls that are not resolved, and those in the queue. -/
  table : ((start.run events).1.client.callbacks.map Prod.fst).Perm
    ((start.run events).1.drafts.filterMap Draft.id ++
      (start.run events).1.client.pending.filterMap PendingCall.callback ++
        (start.run events).1.taken.filterMap (·.1.callback) ++
          (start.run events).1.client.deliveries.map Prod.fst)
  /-- No ID is in the table twice, so the IDs above are of different callbacks. -/
  distinct : ((start.run events).1.client.callbacks.map Prod.fst).Nodup
  /-- No ID was given twice, and zero was not given. -/
  ids : (registered (start.run events).2).Nodup ∧ 0 ∉ registered (start.run events).2
  /-- A callback in the table was not run. -/
  waiting : ∀ id ∈ (start.run events).1.client.callbacks.map Prod.fst,
    (invocations (start.run events).2).filter (·.1.1 = id) = []
  /-- Every other one was run once, with what ends the future of its call. -/
  once : ∀ id xid callback, ((id, xid), callback) ∈ registrations (start.run events).2 →
    id ∉ (start.run events).1.client.callbacks.map Prod.fst →
      ∃ result runner future,
        (invocations (start.run events).2).filter (·.1.1 = id) =
          [((id, xid), ⟨callback, result, runner⟩)] ∧
        (start.run events).1.client.future? xid = some future ∧
        future.finish? (start.run events).1.client.registry =
          some (if future.taken then .error .replyTaken else .ok result)
  /-- When the queue is empty, the callbacks of resolved calls were run. -/
  resolved : (start.run events).1.client.deliveries = [] →
    ∀ id xid callback, ((id, xid), callback) ∈ registrations (start.run events).2 →
      ((start.run events).1.client.resolution? xid).isSome →
        ∃ result runner, (invocations (start.run events).2).filter (·.1.1 = id) =
          [((id, xid), ⟨callback, result, runner⟩)]
  /-- When the queue is empty and no thread is at work, the table has a callback for each pending
  call with one. -/
  count : (start.run events).1.client.deliveries = [] → (start.run events).1.drafts = [] →
    (start.run events).1.taken = [] →
      (start.run events).1.client.callbacks.length =
        ((start.run events).1.client.pending.filter (·.callback.isSome)).length
  /-- Whatever callbacks do, and be it that they panic, only they themselves are different. -/
  blind : ∀ (κ' : Type) (change : κ → κ'),
    (start.map change).run (events.map (Event.map change)) =
      ((start.run events).1.map change, (start.run events).2.map (Effect.map change))

lemma filter_eq_singleton {α β : Type} [DecidableEq β] {f : α → β} {list : List α} {a : α}
    (distinct : (list.map f).Nodup) (among : a ∈ list) : list.filter (f · = f a) = [a] := by
  induction list with
  | nil => cases among
  | cons head rest ih =>
    obtain ⟨first, others⟩ := List.nodup_cons.mp distinct
    rcases List.mem_cons.mp among with rfl | later
    · have none : rest.filter (f · = f a) = [] := by
        rw [List.filter_eq_nil_iff]
        intro other present
        simpa using ne_of_mem_of_not_mem (List.mem_map_of_mem (f := f) present) first
      rw [List.filter_cons_of_pos (by simp), none]
    · have apart := ne_of_mem_of_not_mem (List.mem_map_of_mem (f := f) later) first
      rw [List.filter_cons_of_neg (by simpa using apart.symm)]
      exact ih others later

section

variable {state : Threaded κ} {history : List (Effect κ)} {lost : List UInt64}

lemma map_filterMap_ticket (calls : List PendingCall) :
    (calls.filterMap PendingCall.ticket).map Prod.fst =
      calls.filterMap PendingCall.callback := by
  rw [List.map_filterMap]
  congr 1
  funext call
  unfold PendingCall.ticket
  cases call.callback <;> rfl

lemma map_tickets (state : Threaded κ) : state.tickets.map Prod.fst =
    state.drafts.filterMap Draft.id ++ state.client.pending.filterMap PendingCall.callback ++
      state.taken.filterMap (·.1.callback) ++ state.client.deliveries.map Prod.fst := by
  unfold tickets held
  rw [List.map_append, map_filterMap_ticket, List.filterMap_append, List.filterMap_append,
    List.filterMap_map, List.filterMap_map]
  rfl

lemma Owned.nodup_callbacks (owned : Owned lost state history)
    (ids : (registered history).Nodup) : (state.client.callbacks.map Prod.fst).Nodup :=
  owned.table.nodup_iff.mpr (List.nodup_append.mp (owned.nodup_ids ids)).1

/-- A callback that is in the table was not run. -/
lemma Owned.waiting (owned : Owned lost state history) (ids : (registered history).Nodup)
    {id : UInt64} (waits : id ∈ state.client.callbacks.map Prod.fst) :
    (invocations history).filter (·.1.1 = id) = [] := by
  rw [List.filter_eq_nil_iff]
  intro run among same
  have ticket := owned.table.mem_iff.mp waits
  have spent := List.mem_map_of_mem (f := (·.1.1)) among
  exact (List.nodup_append.mp (owned.nodup_ids ids)).2.2 _ ticket _ spent
    (of_decide_eq_true same).symm

/-- A callback whose ticket is not under way was run once. -/
lemma Owned.once (owned : Owned lost state history) (ids : (registered history).Nodup)
    {id : UInt64} {xid : Int64} {callback : κ}
    (made : ((id, xid), callback) ∈ registrations history) (spent : (id, xid) ∉ state.live lost) :
    ∃ result runner, (invocations history).filter (·.1.1 = id) =
        [((id, xid), ⟨callback, result, runner⟩)] ∧
      state.client.result? xid = some result := by
  have ticket := owned.tickets.mem_iff.mp (List.mem_map_of_mem (f := Prod.fst) made)
  have run := (List.mem_append.mp ticket).resolve_left spent
  obtain ⟨⟨_, callback', result, runner⟩, run, rfl⟩ := List.mem_map.mp run
  obtain ⟨made', outcome⟩ := owned.results _ run
  have same := List.inj_on_of_nodup_map ids made made' rfl
  obtain rfl : callback = callback' := congrArg Prod.snd same
  refine ⟨result, runner, ?_, outcome⟩
  exact filter_eq_singleton (f := (·.1.1)) (List.nodup_append.mp (owned.nodup_ids ids)).2.1 run

/-- A call that is resolved has no ticket but in the queue. -/
lemma Placed.spent (placed : Placed state history) (distinct : (issued history).Nodup)
    {id : UInt64} {xid : Int64} (resolved : (state.client.resolution? xid).isSome)
    (queue : state.client.deliveries = []) : (id, xid) ∉ state.tickets := by
  intro ticket
  unfold tickets at ticket
  rw [queue, List.append_nil, List.mem_filterMap] at ticket
  obtain ⟨call, among, own⟩ := ticket
  have xids : call.xid = xid := by
    unfold PendingCall.ticket at own
    obtain ⟨_, -, same⟩ := Option.map_eq_some_iff.mp own
    exact congrArg Prod.snd same
  have inside : 0 < (state.held.map PendingCall.xid).count xid := by
    rw [List.count_pos_iff, ← xids]
    exact List.mem_map_of_mem among
  have unresolved : state.client.resolution? xid = none := by
    refine placed.unresolved distinct ?_
    unfold held at inside
    rw [List.map_append, List.map_append, List.map_map, List.map_map, List.count_append,
      List.count_append] at inside
    exact inside
  rw [unresolved] at resolved
  cases resolved

end

section

variable {registry : Registry} {maxPayload : UInt32} {events : List (Event κ)}

lemma owned_run
    (few : (issued ((connected registry maxPayload).run events).2).length ≤ 2 ^ 64)
    (ids : (registered ((connected registry maxPayload).run events).2).Nodup)
    (going : ((connected registry maxPayload).run events).1.client.closing = .notClosed) :
    Owned [] ((connected registry maxPayload).run events).1
      ((connected registry maxPayload).run events).2 := by
  have keeps : ∀ {state next : Threaded κ} {history seen : List (Effect κ)},
      Placed state history → Placed next (history ++ seen) → (issued history).Nodup →
        Acts state next seen →
          (state.client.closing = .notClosed → (registered history).Nodup →
            Owned [] state history) →
            next.client.closing = .notClosed → (registered (history ++ seen)).Nodup →
              Owned [] next (history ++ seen) := by
    intro state next history seen placed placed' distinct acts owned going ids
    have ids' := nodup_registered_before ids
    have before := acts.notClosed going
    exact (owned before ids').acts placed placed' distinct ids' (fun _ _ => List.not_mem_nil) acts
      (going.trans before.symm)
  exact ((placed_connected registry maxPayload).run_keeps keeps
    (fun _ _ => owned_connected registry maxPayload) events (nodup_issued _ _ _ few)).2 going ids

/-- What the invariants of a run say of its callbacks. -/
lemma Owned.runOnce {start : Threaded κ}
    (placed : Placed (start.run events).1 (start.run events).2)
    (distinct : (issued (start.run events).2).Nodup)
    (numbered : Numbered (start.run events).1 (start.run events).2)
    (few : (registered (start.run events).2).length < 2 ^ 64)
    (owned : Owned [] (start.run events).1 (start.run events).2) : RunOnce start events := by
  have ids := numbered.nodup_registered (Nat.le_of_lt few)
  -- Nobody has closed the client, so no ticket is lost, and the table is that of all tickets.
  have table := owned.table
  rw [live_nil, map_tickets] at table
  constructor
  case table => exact table
  case distinct => exact owned.nodup_callbacks ids
  case ids => exact ⟨ids, numbered.zero_notMem few⟩
  case waiting => exact fun id => owned.waiting ids
  case once =>
    intro id xid callback made absent
    have spent : (id, xid) ∉ (start.run events).1.live [] := by
      intro ticket
      exact absent (owned.table.mem_iff.mpr (List.mem_map_of_mem ticket))
    obtain ⟨result, runner, only, outcome⟩ := owned.once ids made spent
    obtain ⟨future, found, outcome⟩ := Option.bind_eq_some_iff.mp outcome
    exact ⟨result, runner, future, only, found, Future.finish?_of_result outcome⟩
  case resolved =>
    -- A call that is resolved is in nobody's hands; if the queue is empty, its ticket is spent.
    intro queue id xid callback made resolved
    have spent : (id, xid) ∉ (start.run events).1.live [] := by
      rw [live_nil]
      exact placed.spent distinct resolved queue
    obtain ⟨result, runner, only, -⟩ := owned.once ids made spent
    exact ⟨result, runner, only⟩
  case count =>
    intro queue drafts taken
    rw [queue, drafts, taken] at table
    have length := table.length_eq
    rw [List.filterMap_nil, List.filterMap_nil, List.map_nil, List.nil_append, List.append_nil,
      List.append_nil, List.length_map, List.length_filterMap_eq_countP,
      List.countP_eq_length_filter] at length
    exact length
  case blind => exact fun κ' change => run_map change _ events

/-- If nobody closes a client, each callback is in its table until it is run, and is run once, with
the outcome of its call.  That holds until the counters of transaction IDs and of callbacks have
come round. -/
theorem callbacks_run_once
    (few : (issued ((connected registry maxPayload).run events).2).length ≤ 2 ^ 64)
    (few' : (registered ((connected registry maxPayload).run events).2).length < 2 ^ 64)
    (going : ((connected registry maxPayload).run events).1.client.closing = .notClosed) :
    RunOnce (connected registry maxPayload) events := by
  have numbered := (numbered_connected registry maxPayload).run events
  have ids := numbered.nodup_registered (Nat.le_of_lt few')
  have distinct := nodup_issued registry maxPayload events few
  have placed := placed_run registry maxPayload events few
  exact (owned_run few ids going).runOnce placed distinct numbered few'

end

/-- A call is answered, one cannot be sent, and one is pending; all have callbacks. -/
def delivered : List (Event Nat) :=
  [.issue ⟨7, [], [], []⟩ (some 10), .register 0, .enter 0,
    .issue ⟨7, [], [], []⟩ (some 20), .register 0, .enter 0,
    .issue ⟨7, [], [], []⟩ (some 30), .register 0, .enter 0,
    .receive (.reply 1 Status.ok []), .sendFailed 2 .backpressureTimeout, .conclude 1, .conclude 0,
    .deliver]

/-- The callback of the call that cannot be sent is run by its own caller, and that of the answered
one by the delivery thread.  That of the pending call stays in the table. -/
theorem callbacks_run_once_delivered :
    (issued ((connected .empty 64).run delivered).2).length ≤ 2 ^ 64 ∧
      (registered ((connected .empty 64).run delivered).2).length < 2 ^ 64 ∧
      ((connected .empty 64).run delivered).1.client.closing = .notClosed ∧
      invocations ((connected .empty 64).run delivered).2 =
        [((2, 2), ⟨20, ⟨Status.timedOut, []⟩, .caller⟩),
          ((1, 1), ⟨10, ⟨Status.ok, []⟩, .delivery⟩)] ∧
      ((connected .empty 64).run delivered).1.client.callbacks = [(3, 30)] ∧
      ((connected .empty 64).run delivered).1.client.pending = [⟨3, some 3⟩] ∧
      RunOnce (connected .empty 64) delivered := by
  have calls : issued ((connected .empty 64).run delivered).2 = [1, 2, 3] := by cbv
  have given : registered ((connected .empty 64).run delivered).2 = [1, 2, 3] := by cbv
  have few : (issued ((connected .empty 64).run delivered).2).length ≤ 2 ^ 64 := by
    rw [calls]
    decide
  have few' : (registered ((connected .empty 64).run delivered).2).length < 2 ^ 64 := by
    rw [given]
    decide
  have going : ((connected .empty 64).run delivered).1.client.closing = .notClosed := by cbv
  exact ⟨few, few', going, by cbv, by cbv, by cbv, callbacks_run_once few few' going⟩

end Threaded

/-! ## A client by itself -/

section

variable {κ : Type} {registry : Registry} {maxPayload : UInt32}

/-- The transaction IDs that a client has given. -/
def Client.issued (history : List (Client.Effect κ)) : List Int64 :=
  history.filterMap fun
    | .issued xid => some xid
    | _ => none

lemma Client.issued_shown (history : List (Threaded.Effect κ)) :
    Client.issued (history.filterMap Threaded.Effect.shown?) = Threaded.issued history := by
  unfold Client.issued Threaded.issued
  rw [List.filterMap_filterMap]
  congr 1
  funext effect
  cases effect <;> rfl

/-- A run of a client that nobody closes is a run of its threads in which no call is left in the
hands of a thread, and each callback is run once. -/
theorem Threaded.runOnce_of_client (events : List (Client.Event κ))
    (few : (Client.issued ((Client.connected registry maxPayload).run events).2).length < 2 ^ 64)
    (going : ((Client.connected registry maxPayload).run events).1.closing = .notClosed) :
    ∃ actions seen,
      (connected registry maxPayload).run actions =
        (⟨((Client.connected registry maxPayload).run events).1, [], []⟩, seen) ∧
      seen.filterMap Effect.shown? = ((Client.connected registry maxPayload).run events).2 ∧
      RunOnce (connected registry maxPayload) actions := by
  obtain ⟨actions, seen, ran, shown⟩ :=
    exists_run_of_client (Client.connected registry maxPayload) events
  have effects : ((connected registry maxPayload).run actions).2 = seen := congrArg Prod.snd ran
  have state := congrArg Prod.fst ran
  have calls : (issued ((connected registry maxPayload).run actions).2).length < 2 ^ 64 := by
    rw [effects, ← Client.issued_shown, shown]
    exact few
  -- A callback is registered for a call that was issued, so there are no more of them.
  have fewer := registered_length_run (connected registry maxPayload) actions
  have few' : (registered ((connected registry maxPayload).run actions).2).length < 2 ^ 64 :=
    Nat.lt_of_le_of_lt (Nat.le_trans (Nat.le_add_right _ _) fewer) calls
  have numbered := (numbered_connected registry maxPayload).run actions
  have distinct := nodup_issued registry maxPayload actions (Nat.le_of_lt calls)
  have placed := placed_run registry maxPayload actions (Nat.le_of_lt calls)
  have owned := owned_run (Nat.le_of_lt calls) (numbered.nodup_registered (Nat.le_of_lt few'))
    ((congrArg (·.client.closing) state).trans going)
  exact ⟨actions, seen, ran, shown, owned.runOnce placed distinct numbered few'⟩

/-- Between two actions of a client, its table has the callbacks of the pending calls, and those in
the queue of the delivery thread. -/
theorem Client.callbacks_perm {events : List (Client.Event κ)}
    (few : (Client.issued ((Client.connected registry maxPayload).run events).2).length < 2 ^ 64)
    (going : ((Client.connected registry maxPayload).run events).1.closing = .notClosed) :
    (((connected registry maxPayload).run events).1.callbacks.map Prod.fst).Perm
      (((connected registry maxPayload).run events).1.pending.filterMap PendingCall.callback ++
        ((connected registry maxPayload).run events).1.deliveries.map Prod.fst) := by
  obtain ⟨actions, seen, ran, -, once⟩ := Threaded.runOnce_of_client events few going
  have table := once.table
  rw [ran, List.filterMap_nil, List.filterMap_nil, List.nil_append, List.append_nil] at table
  exact table

/-- When the queue is empty, there are as many callbacks as pending calls with one. -/
theorem Client.callbacks_length {events : List (Client.Event κ)}
    (few : (Client.issued ((Client.connected registry maxPayload).run events).2).length < 2 ^ 64)
    (going : ((Client.connected registry maxPayload).run events).1.closing = .notClosed)
    (queue : ((Client.connected registry maxPayload).run events).1.deliveries = []) :
    ((connected registry maxPayload).run events).1.callbacks.length =
      (((connected registry maxPayload).run events).1.pending.filter
        (·.callback.isSome)).length := by
  obtain ⟨actions, seen, ran, -, once⟩ := Threaded.runOnce_of_client events few going
  have count := once.count
  rw [ran] at count
  exact count queue rfl rfl

end

end RemoteCall
