import Mathlib
import RemoteCall.Proofs.Client.Closing
import RemoteCall.Proofs.Client.Runners

/-!
# What closing a client settles

Every callback of a client goes one of two ways when the client is closed.  Those of the pending
calls are run by the closing thread, and all others are dropped: the ones that are queued for the
delivery thread, and those of calls that other threads have in their hands.  A call that comes later
is turned away, and its callback is run by the thread that issues it.

What is dropped is never run, because from then on only the callbacks that are registered later are
in the table (`Afterwards`).  `Settled` says what becomes of each call, and `settled_of_stopped`
that it does, from the moment on when the closing thread has joined the delivery thread.

## The proof

Four moments matter: the one at which delivery stops, the one at which the closing thread goes on,
the one at which it is done, and any later one.  Other threads act between the first two and after
the third.  For the first stretch the accounts of tickets go on with a queue that nobody looks at
(`Stopped`); during closing the callbacks of the pending calls are run in order, and what they do is
known (`Runs`); afterwards the accounts begin anew, with all earlier tickets lost (`Afterwards`).

The clauses of `Settled` are obtained from these three one by one, each by its own lemma.
`settled_of_owned` puts them together for a client whose queue is as it was, and
`settled_of_stopped` carries the result over to the client as it is.

## Main statements

* `settled_of_stopped` — once delivery has stopped, the closing thread settles every call when it
  goes on.
-/

namespace RemoteCall

namespace Threaded

open Client

variable {κ : Type}

/-! ## After the client is closed -/

/-- The client is closed, and the tickets that were made before are lost.  The callbacks that are
registered later are run by the threads that issue their calls. -/
structure Afterwards (lost : List UInt64) (state : Threaded κ) (since : List (Effect κ)) :
    Prop where
  shut : state.client.Shut .closed
  turned : ∀ entry ∈ state.taken, ∀ id, entry.1.callback = some id → id ∉ lost →
    entry.2 = .unsent Status.notConnected
  owned : Owned lost state since
  runs : ∀ run ∈ invocations since,
    ∃ made ∈ registrations since, run = runAs Status.notConnected .caller made

section

variable {state next : Threaded κ} {whole since seen : List (Effect κ)} {lost : List UInt64}

lemma Acts.stays_shut (acts : Acts state next seen) (shut : state.client.Shut .closed) :
    next.client.Shut .closed := by
  cases acts with
  | nothing | refuses | turnsAway => exact shut
  | issues | registers | takes =>
    exact ⟨shut.isOpen, shut.stage_eq, shut.pending, shut.deliveries⟩
  | admits here isOpen => cases shut.isOpen.symm.trans isOpen
  | answers found | givesUp lost found => cases (shut.pendingCall? _).symm.trans found
  | drains lost all closes =>
    rcases closes with same | ⟨stopped, -⟩
    · exact ⟨rfl, same.trans shut.stage_eq, rfl, shut.deliveries⟩
    · cases shut.stage_eq.symm.trans stopped
  | concludes here => exact shut.conclude (by decide) _ _
  | delivers queue => cases shut.deliveries.symm.trans queue
  | stops going => cases shut.stage_eq.symm.trans going
  | clears failed => cases shut.stage_eq.symm.trans failed

/-- No call is taken out of the table any more, and those that come to it are turned away. -/
lemma Acts.stays_turned (acts : Acts state next seen) (shut : state.client.Shut .closed)
    (turned : ∀ entry ∈ state.taken, ∀ id, entry.1.callback = some id → id ∉ lost →
      entry.2 = .unsent Status.notConnected) :
    ∀ entry ∈ next.taken, ∀ id, entry.1.callback = some id → id ∉ lost →
      entry.2 = .unsent Status.notConnected := by
  cases acts with
  | nothing | refuses | issues | registers | admits | delivers | takes | stops | clears =>
    exact turned
  | turnsAway here closed =>
    intro entry among
    rcases List.mem_append.mp among with before | now
    · exact turned entry before
    · rw [List.mem_singleton.mp now]
      exact fun _ _ _ => rfl
  | answers found | givesUp lost found => cases (shut.pendingCall? _).symm.trans found
  | @drains closing ending calls lost all closes =>
    rw [shut.pending] at all
    rw [all.eq_nil, List.map_nil, List.append_nil]
    exact turned
  | concludes here => exact fun entry among => turned entry (List.mem_of_mem_eraseIdx among)

lemma Afterwards.acts (after : Afterwards lost state since) (placed : Placed state whole)
    (placed' : Placed next (whole ++ seen)) (distinct : (issued whole).Nodup)
    (ids : (registered since).Nodup) (fresh : ∀ id ∈ registered (since ++ seen), id ∉ lost)
    (acts : Acts state next seen) : Afterwards lost next (since ++ seen) := by
  have shut := acts.stays_shut after.shut
  have fresh' : ∀ id ∈ registered seen, id ∉ lost := by
    intro id now
    refine fresh id ?_
    rw [registered_append]
    exact List.mem_append_right _ now
  have owned := after.owned.acts placed placed' distinct ids fresh' acts
    (shut.stage_eq.trans after.shut.stage_eq.symm)
  refine ⟨shut, acts.stays_turned after.shut after.turned, owned, ?_⟩
  rintro ⟨⟨id, xid⟩, callback, result, runner⟩ among
  obtain ⟨made, outcome⟩ := owned.results _ among
  have kept : id ∉ lost := fresh _ (List.mem_map_of_mem (f := (·.1.1)) made)
  refine ⟨_, made, ?_⟩
  rw [invocations_append, List.mem_append] at among
  rcases among with before | now
  · obtain ⟨made', -, same⟩ := after.runs _ before
    rw [same]
    rfl
  · cases acts with
    | nothing | answers | givesUp | drains | takes | stops | clears | refuses | issues | registers
      | turnsAway | admits => exact (List.not_mem_nil now).elim
    | delivers queue => cases after.shut.deliveries.symm.trans queue
    | @concludes n call ending here =>
      have ran := (List.mem_cons.mp (mem_invocations.mp now)).resolve_left nofun
      obtain ⟨rfl, same, -⟩ := mem_ranFor_conclude ran
      cases after.turned _ (List.mem_of_getElem? here) _ rfl kept
      have resolved := placed.resolution?_conclude distinct here xid
      rw [if_pos rfl] at resolved
      have failed := result?_of_resolution? (by decide) resolved
      cases outcome.symm.trans failed
      cases same
      rfl

lemma Afterwards.run (after : Afterwards (registered whole) state since)
    (placed : Placed state (whole ++ since)) {events : List (Event κ)}
    (xids : (issued (whole ++ since ++ (state.run events).2)).Nodup)
    (ids : (registered (whole ++ since ++ (state.run events).2)).Nodup) :
    Afterwards (registered whole) (state.run events).1 (since ++ (state.run events).2) := by
  induction events generalizing state since with
  | nil =>
    unfold Threaded.run
    rw [Machine.run_nil, List.append_nil]
    exact after
  | cons event rest ih =>
    unfold Threaded.run at xids ids ⊢
    rw [Machine.run_cons, ← List.append_assoc] at xids ids ⊢
    have acts := acts_step state event
    have distinct := nodup_issued_before xids
    have placed' := placed.acts acts distinct
    have apart := nodup_registered_before ids
    rw [List.append_assoc] at apart
    rw [registered_append] at apart
    obtain ⟨-, made, fresh⟩ := List.nodup_append.mp apart
    have after' := after.acts placed placed' (nodup_issued_before distinct)
      (nodup_registered_before made) (fun id now lost => fresh id lost id now rfl) acts
    rw [List.append_assoc whole] at placed' xids ids
    exact ih after' placed' xids ids

end

/-! ## Callbacks at the close -/

section

variable {state : Threaded κ} {history seen : List (Effect κ)}

lemma Owned.registered_ticket (owned : Owned [] state history) {ticket : UInt64 × Int64}
    (present : ticket ∈ state.tickets) : ticket.1 ∈ registered history := by
  rw [← live_nil] at present
  have made := owned.tickets.mem_iff.mpr (List.mem_append_left _ present)
  obtain ⟨made, among, rfl⟩ := List.mem_map.mp made
  exact List.mem_map_of_mem (f := (·.1.1)) among

/-- A callback whose ticket is under way was not run. -/
lemma Owned.unspent (owned : Owned [] state history) (ids : (registered history).Nodup)
    {ticket : UInt64 × Int64} (present : ticket ∈ state.tickets) :
    (invocations history).filter (·.1.1 = ticket.1) = [] := by
  rw [← live_nil] at present
  exact owned.waiting ids (owned.table.mem_iff.mpr (List.mem_map_of_mem present))

/-- When the callbacks are dropped, all tickets are lost. -/
lemma Owned.afterwards (owned : Owned [] state history) {client : Client κ}
    (shut : client.Shut .closed) (dropped : client.callbacks = []) :
    Afterwards (registered (history ++ seen)) ⟨client, state.drafts, state.taken⟩ [] := by
  have lost : ∀ ticket ∈ state.tickets, ticket.1 ∈ registered (history ++ seen) := by
    intro ticket present
    rw [registered_append]
    exact List.mem_append_left _ (owned.registered_ticket present)
  have live : live ⟨client, state.drafts, state.taken⟩ (registered (history ++ seen)) = [] := by
    unfold Threaded.live
    rw [List.filter_eq_nil_iff]
    intro ticket present
    have before : ticket ∈ state.tickets := by
      unfold Threaded.tickets held at present ⊢
      rw [shut.pending, shut.deliveries] at present
      simp only [List.append_nil, List.filterMap_append, List.mem_append] at present ⊢
      exact Or.inl (present.imp_left Or.inl)
    simpa using lost ticket before
  refine ⟨shut, ?_, ⟨?_, ?_, ?_, ?_, ?_⟩, ?_⟩
  · intro entry among id own kept
    have present : (id, entry.1.xid) ∈ state.tickets := by
      refine List.mem_append_left _ (List.mem_filterMap.mpr ⟨entry.1, ?_, ?_⟩)
      · exact List.mem_append_right _ (List.mem_map_of_mem among)
      · unfold PendingCall.ticket
        rw [own]
        rfl
    exact (kept (lost _ present)).elim
  · rw [live]
    exact .nil
  · rw [live, dropped]
    exact .nil
  · rw [dropped]
    exact nofun
  · exact nofun
  · rw [shut.deliveries]
    exact nofun
  · exact nofun

/-- Every pending call with a callback has it in the table. -/
lemma Owned.map_owed (owned : Owned [] state history) :
    state.owed.map Prod.fst = state.client.byXid.filterMap PendingCall.ticket := by
  unfold owed
  rw [List.map_filterMap]
  refine List.filterMap_congr fun call among => ?_
  have pending := List.mem_mergeSort.mp among
  unfold PendingCall.owed PendingCall.ticket
  cases own : call.callback with
  | none => rfl
  | some id =>
    obtain ⟨callback, found, -⟩ := owned.present call pending id own
    rw [Option.bind_some, found]
    rfl

lemma Owned.mem_owed (owned : Owned [] state history) (ids : (registered history).Nodup)
    {made : (UInt64 × Int64) × κ} (among : made ∈ state.owed) :
    made.1 ∈ state.client.pending.filterMap PendingCall.ticket ∧
      made ∈ registrations history := by
  obtain ⟨call, sorted, runs⟩ := List.mem_filterMap.mp among
  have pending := List.mem_mergeSort.mp sorted
  obtain ⟨id, own, listed⟩ := Option.bind_eq_some_iff.mp runs
  obtain ⟨callback, found, rfl⟩ := Option.map_eq_some_iff.mp listed
  have ticket := live_nil state ▸ mem_tickets pending own
  obtain ⟨before, after, all, -⟩ := List.lookup_eq_some_iff.mp found
  have entry : (id, callback) ∈ state.client.callbacks := by
    rw [all]
    exact List.mem_append_right _ List.mem_cons_self
  refine ⟨List.mem_filterMap.mpr ⟨call, pending, ?_⟩,
    owned.registered_of_ticket ids ticket entry⟩
  unfold PendingCall.ticket
  rw [own]
  rfl

lemma Owned.nodup_owed (owned : Owned [] state history) (ids : (registered history).Nodup) :
    (state.owed.map (·.1.1)).Nodup := by
  have firsts : state.owed.map (·.1.1) = (state.owed.map Prod.fst).map Prod.fst :=
    List.map_map.symm
  have perm := (List.mergeSort_perm state.client.pending fun a b => a.xid ≤ b.xid).filterMap
    PendingCall.callback
  rw [firsts, owned.map_owed, map_filterMap_ticket]
  exact perm.nodup_iff.mpr (owned.nodup_pending ids)

/-- A callback that was registered before the close was run by the closing thread, if it was run in
it at all. -/
lemma Runs.filter {owed : List ((UInt64 × Int64) × κ)} (runs : Runs owed seen) {id : UInt64}
    (before : id ∉ registered seen) :
    (invocations seen).filter (·.1.1 = id) =
      (owed.filter (·.1.1 = id)).map (runAs Status.clientClosed .closer) := by
  have closer : ∀ run ∈ invocations seen, run.1.1 = id → run.2.runner = .closer := by
    intro run among own
    by_contra other
    have within : run ∈ (invocations seen).filter (·.2.runner ≠ .closer) :=
      List.mem_filter.mpr ⟨among, decide_eq_true other⟩
    rw [runs.others] at within
    obtain ⟨made, registered, rfl⟩ := List.mem_map.mp within
    exact before (own ▸ List.mem_map_of_mem (f := (·.1.1)) registered)
  have split : (invocations seen).filter (·.1.1 = id) =
      ((invocations seen).filter (·.2.runner = .closer)).filter (·.1.1 = id) := by
    rw [List.filter_filter]
    refine List.filter_congr fun run among => ?_
    by_cases own : run.1.1 = id
    · simp [own, closer run among own]
    · simp [own]
  rw [split, runs.closer, List.filter_map]
  rfl

lemma Runs.runner {owed : List ((UInt64 × Int64) × κ)} (runs : Runs owed seen) :
    ∀ run ∈ invocations seen, run.2.runner ≠ .delivery := by
  intro run among delivery
  have other : run ∈ (invocations seen).filter (·.2.runner ≠ .closer) :=
    List.mem_filter.mpr ⟨among, by simp [delivery]⟩
  rw [runs.others] at other
  obtain ⟨made, -, rfl⟩ := List.mem_map.mp other
  cases delivery

/-- What is run after the client is closed are callbacks that are registered after it. -/
lemma Afterwards.unrun {lost : List UInt64} {since : List (Effect κ)}
    (after : Afterwards lost state since) {id : UInt64} (before : id ∉ registered since) :
    (invocations since).filter (·.1.1 = id) = [] := by
  rw [List.filter_eq_nil_iff]
  intro run among own
  obtain ⟨made, registered, rfl⟩ := after.runs run among
  exact before (of_decide_eq_true own ▸ List.mem_map_of_mem (f := (·.1.1)) registered)

/-- A callback that waits when the client is closed is run by the closing thread, or never. -/
lemma Owned.settled (owned : Owned [] state history) {next : Threaded κ} {lost : List UInt64}
    {since : List (Effect κ)} (ids : (registered (history ++ seen ++ since)).Nodup)
    (runs : Runs state.owed seen) (after : Afterwards lost next since) {ticket : UInt64 × Int64}
    (present : ticket ∈ state.tickets) :
    (invocations (history ++ seen ++ since)).filter (·.1.1 = ticket.1) =
      (state.owed.filter (·.1.1 = ticket.1)).map (runAs Status.clientClosed .closer) := by
  have sooner := nodup_registered_before ids
  have given := owned.registered_ticket present
  rw [registered_append] at ids
  have later : ticket.1 ∉ registered since := by
    refine fun now => (List.nodup_append.mp ids).2.2 _ ?_ _ now rfl
    rw [registered_append]
    exact List.mem_append_left _ given
  have within : ticket.1 ∉ registered seen := by
    intro now
    rw [registered_append] at sooner
    exact (List.nodup_append.mp sooner).2.2 _ given _ now rfl
  rw [invocations_append, invocations_append, List.filter_append, List.filter_append,
    owned.unspent (nodup_registered_before sooner) present, runs.filter within,
    after.unrun later, List.nil_append, List.append_nil]

/-- A callback in the queue belongs to no pending call. -/
lemma Owned.apart (owned : Owned [] state history) (ids : (registered history).Nodup)
    {ticket : UInt64 × Int64} (queued : ticket ∈ state.client.deliveries) :
    state.owed.filter (·.1.1 = ticket.1) = [] := by
  rw [List.filter_eq_nil_iff]
  intro made among own
  have pending := List.mem_map_of_mem (f := Prod.fst) (owned.mem_owed ids among).1
  rw [map_filterMap_ticket, of_decide_eq_true own] at pending
  have all := owned.nodup_tickets ids
  rw [map_tickets] at all
  exact (List.nodup_append.mp all).2.2 _
    (List.mem_append_left _ (List.mem_append_right _ pending)) _
    (List.mem_map_of_mem (f := Prod.fst) queued) rfl

/-- The ticket of a pending call's callback is under way. -/
lemma Owned.ticket_of_owed (owned : Owned [] state history) (ids : (registered history).Nodup)
    {made : (UInt64 × Int64) × κ} (among : made ∈ state.owed) : made.1 ∈ state.tickets := by
  refine List.mem_append_left _ (List.Sublist.subset ?_ (owned.mem_owed ids among).1)
  refine List.Sublist.filterMap _ ?_
  exact (List.sublist_append_right _ _).trans (List.sublist_append_left _ _)

/-- Every pending call is failed. -/
lemma Placed.failed_finishing (placed : Placed state history)
    (stopped : state.client.closing = .deliveryStopped) {reactions : Int64 → Reaction κ}
    (distinct : (issued (history ++ (state.emptied.run (state.finishing reactions)).2)).Nodup)
    (kept : (state.emptied.run (state.finishing reactions)).1.taken = state.taken)
    {call : PendingCall} (pending : call ∈ state.client.pending) :
    (state.emptied.run (state.finishing reactions)).1.client.resolution? call.xid =
      some ⟨Status.clientClosed, none⟩ := by
  have placed' := placed.emptied stopped (nodup_issued_before distinct)
  have taken : (call, failed) ∈ state.emptied.taken :=
    List.mem_append_right _ (List.mem_map_of_mem (List.mem_mergeSort.mpr pending))
  -- the call was in the table, so no other thread has it
  have released : call.xid ∉ state.taken.map (·.1.xid) := by
    have once := placed.once (nodup_issued_before distinct) call.xid
    have here := List.count_pos_iff.mpr (List.mem_map_of_mem (f := PendingCall.xid) pending)
    rw [← List.count_pos_iff]
    omega
  rw [← kept] at released
  exact placed'.decided_run taken distinct released

/-- Every call that is issued while the pending ones are failed, or later, is turned away. -/
lemma Placed.refused_finishing (placed : Placed state history)
    (stopped : state.client.closing = .deliveryStopped) (reactions : Int64 → Reaction κ)
    (after : List (Event κ))
    (distinct : (issued (history ++
      (state.emptied.run (state.finishing reactions ++ after)).2)).Nodup) {xid : Int64}
    (given : xid ∈ issued (state.emptied.run (state.finishing reactions ++ after)).2) :
    Refused (state.emptied.run (state.finishing reactions ++ after)).1 xid :=
  (placed.emptied stopped (nodup_issued_before distinct)).refused_of_issued rfl distinct given

/-- A callback that is registered after the client is closed is run once its call is resolved. -/
lemma Afterwards.once {lost : List UInt64} {since : List (Effect κ)}
    (after : Afterwards lost state since) (ids : (registered since).Nodup)
    {made : (UInt64 × Int64) × κ} (among : made ∈ registrations since)
    (draft : made.1.2 ∉ state.drafts.map Draft.xid)
    (free : made.1.2 ∉ state.taken.map (·.1.xid)) :
    (invocations since).filter (·.1.1 = made.1.1) = [runAs Status.notConnected .caller made] := by
  obtain ⟨⟨id, xid⟩, callback⟩ := made
  have spent : (id, xid) ∉ state.live lost := by
    intro live
    have ticket := List.mem_of_mem_filter live
    unfold tickets held at ticket
    rw [after.shut.pending, after.shut.deliveries, List.append_nil, List.append_nil,
      List.mem_filterMap] at ticket
    obtain ⟨call, held, own⟩ := ticket
    obtain ⟨_, -, same⟩ := Option.map_eq_some_iff.mp own
    obtain rfl : call.xid = xid := congrArg Prod.snd same
    rcases List.mem_append.mp held with drafts | taken
    · obtain ⟨other, listed, rfl⟩ := List.mem_map.mp drafts
      exact draft (List.mem_map_of_mem (f := Draft.xid) listed)
    · obtain ⟨entry, listed, rfl⟩ := List.mem_map.mp taken
      exact free (List.mem_map_of_mem (f := (·.1.xid)) listed)
  obtain ⟨result, runner, only, -⟩ := after.owned.once ids among spent
  have ran : ((id, xid), (⟨callback, result, runner⟩ : Invocation κ)) ∈ invocations since := by
    have listed := List.mem_singleton_self ((id, xid), (⟨callback, result, runner⟩ : Invocation κ))
    rw [← only] at listed
    exact List.mem_of_mem_filter listed
  obtain ⟨made', among', same⟩ := after.runs _ ran
  obtain rfl : ((id, xid), callback) = made' :=
    List.inj_on_of_nodup_map ids among among' (congrArg (·.1.1) same)
  rw [only, same]

/-- No callback is left when no call is being issued or resolved. -/
lemma Afterwards.callbacks {lost : List UInt64} {since : List (Effect κ)}
    (after : Afterwards lost state since) (drafts : state.drafts = []) (taken : state.taken = []) :
    state.client.callbacks = [] := by
  have table := after.owned.table
  unfold live tickets held at table
  rw [after.shut.pending, after.shut.deliveries, drafts, taken] at table
  exact List.map_eq_nil_iff.mp table.eq_nil

end

/-! ## What is settled -/

/-- Closing begins in one state, where delivery stops.  The closing thread goes on in another one,
some time later, and has closed the client in a third one, which some later actions lead on from.
With each state comes what was seen since the one before it. -/
structure Settled (reactions : Int64 → Reaction κ)
    (before stopped closed final : Threaded κ × List (Effect κ)) : Prop where
  /-- If callbacks leave the client alone, the rest of closing is one action of the client. -/
  alone : (∀ xid, (reactions xid).done = []) →
    closed.1 = ⟨stopped.1.client.failPending.1.clearCallbacks, stopped.1.drafts,
        stopped.1.taken⟩ ∧
      closed.2.filterMap Effect.shown? = stopped.1.client.failPending.2
  /-- Every call that is pending when the closing thread goes on is failed. -/
  failed : ∀ call ∈ stopped.1.client.pending,
    final.1.client.resolution? call.xid = some ⟨Status.clientClosed, none⟩
  /-- A call that is resolved stays as it is. -/
  kept : ∀ xid resolution, before.1.client.resolution? xid = some resolution →
    final.1.client.resolution? xid = some resolution
  /-- A call whose callback is queued when delivery stops is resolved, and the callback is never
  run. -/
  discarded : ∀ ticket ∈ before.1.client.deliveries,
    (before.1.client.resolution? ticket.2).isSome ∧
      (invocations (before.2 ++ stopped.2 ++ closed.2 ++ final.2)).filter
        (·.1.1 = ticket.1) = []
  /-- The callbacks of the pending calls are those that were registered for them. -/
  owed : stopped.1.owed.map Prod.fst = stopped.1.client.byXid.filterMap PendingCall.ticket ∧
    ∀ made ∈ stopped.1.owed, made ∈ registrations (before.2 ++ stopped.2)
  /-- They are taken in ascending order. -/
  ascending : stopped.1.client.byXid.Perm stopped.1.client.pending ∧
    (stopped.1.client.byXid.map PendingCall.xid).Pairwise (· < ·)
  /-- The closing thread runs them in this order.  Whatever else is run then belongs to calls that
  were issued in these, and that have failed. -/
  runs : Runs stopped.1.owed closed.2
  /-- None of them is run a second time. -/
  once : ∀ made ∈ stopped.1.owed,
    (invocations (before.2 ++ stopped.2 ++ closed.2 ++ final.2)).filter (·.1.1 = made.1.1) =
      [runAs Status.clientClosed .closer made]
  /-- Every call that is issued while calls are failed, or later, is turned away. -/
  refused : ∀ xid ∈ issued (closed.2 ++ final.2), xid ∉ final.1.drafts.map Draft.xid →
    xid ∉ final.1.taken.map (·.1.xid) → final.1.client.resolution? xid = some .refusal
  /-- Only callbacks that are registered later are run later, each by the thread that issues its
  call. -/
  later : ∀ run ∈ invocations final.2,
    ∃ made ∈ registrations final.2, run = runAs Status.notConnected .caller made
  /-- Such a callback is run once, before its thread is done with the call. -/
  laterOnce : ∀ made ∈ registrations final.2, made.1.2 ∉ final.1.drafts.map Draft.xid →
    made.1.2 ∉ final.1.taken.map (·.1.xid) →
      (invocations final.2).filter (·.1.1 = made.1.1) = [runAs Status.notConnected .caller made]
  /-- The delivery thread starts no callback from the moment on when delivery stops. -/
  delivery : ∀ run ∈ invocations (stopped.2 ++ closed.2 ++ final.2), run.2.runner ≠ .delivery
  /-- A thread that issues a call by itself resolves it and runs its callback. -/
  inline : ∀ request arguments, Request.encode final.1.client.registry
      final.1.client.maxPayload request = .ok arguments →
    (∀ callback, (final.1.client.issue request callback).1.resolution?
      final.1.client.nextXid = some .refusal) ∧
    ∀ callback, (final.1.client.issue request (some callback)).2 =
      [.issued final.1.client.nextXid,
        .invoked ⟨callback, ⟨Status.notConnected, []⟩, .caller⟩]
  /-- No call is pending, and none can be made. -/
  pending : final.1.client.pending = [] ∧ final.1.client.isConnected = false
  /-- No callback is left, and later none but those of threads at work. -/
  callbacks : closed.1.client.callbacks = [] ∧
    (final.1.drafts = [] → final.1.taken = [] → final.1.client.callbacks = [])
  /-- The client stays closed, and to close it again does nothing. -/
  again : final.1.client.closing = .closed ∧ final.1.client.close = (final.1.client, [])

/-- The closing thread settles every call when it goes on.  Here the queue is as it was when
delivery stopped, so that every callback of the table has its ticket. -/
lemma settled_of_owned {start state : Threaded κ} {history window : List (Effect κ)}
    (begun : Placed start history) (queued : Owned [] start history)
    (placed : Placed state (history ++ window)) (owned : Owned [] state (history ++ window))
    (stopped : state.client.closing = .deliveryStopped)
    (queue : state.client.deliveries = start.client.deliveries)
    (idle : ∀ run ∈ invocations window, run.2.runner ≠ .delivery)
    (reactions : Int64 → Reaction κ) (after : List (Event κ))
    (xids : (issued (history ++ window ++ (state.emptied.run (state.finishing reactions)).2 ++
      ((state.emptied.run (state.finishing reactions)).1.run after).2)).Nodup)
    (ids : (registered (history ++ window ++ (state.emptied.run (state.finishing reactions)).2 ++
      ((state.emptied.run (state.finishing reactions)).1.run after).2)).Nodup) :
    Settled reactions (start, history) (state.withQueue [], window)
      (state.emptied.run (state.finishing reactions))
      ((state.emptied.run (state.finishing reactions)).1.run after) := by
  have xids' := nodup_issued_before xids
  have ids' := nodup_registered_before ids
  have ids'' := nodup_registered_before ids'
  obtain ⟨client, seen, ran, shut, dropped, runs⟩ :=
    run_finishing placed owned stopped reactions xids' ids'
  have placed' := (placed.emptied stopped (nodup_issued_before xids')).run xids'
  have placed'' := placed'.run xids
  -- What the closing thread does by itself, and what it does to the calls, depends on its actions,
  -- and is read off them first.
  have alone : (∀ xid, (reactions xid).done = []) →
      (state.emptied.run (state.finishing reactions)).1 =
          ⟨(state.client.withQueue []).failPending.1.clearCallbacks, state.drafts, state.taken⟩ ∧
        (state.emptied.run (state.finishing reactions)).2.filterMap Effect.shown? =
          (state.client.withQueue []).failPending.2 := by
    intro idle
    obtain ⟨_, ran', shown⟩ := run_finishing_alone state idle
    exact ⟨congrArg Prod.fst ran', (congrArg (·.2.filterMap Effect.shown?) ran').trans shown⟩
  have failed : ∀ call ∈ state.client.pending,
      (state.emptied.run (state.finishing reactions)).1.client.resolution? call.xid =
        some ⟨Status.clientClosed, none⟩ :=
    fun call pending => placed.failed_finishing stopped xids' (congrArg (·.1.taken) ran) pending
  have refused : ∀ xid ∈ issued ((state.emptied.run (state.finishing reactions)).2 ++
      ((state.emptied.run (state.finishing reactions)).1.run after).2),
      Refused ((state.emptied.run (state.finishing reactions)).1.run after).1 xid := by
    have refused := placed.refused_finishing stopped reactions after
    rw [run_append, ← List.append_assoc] at refused
    exact fun xid given => refused xids given
  -- from here on only what is known of the run counts, and not which actions it has
  generalize state.emptied.run (state.finishing reactions) = closed at *
  subst ran
  dsimp only at *
  -- The runs that follow find a table that is shut and has no callback, so only their own threads
  -- run callbacks.
  have after' : Afterwards (registered (history ++ window ++ seen))
      (run ⟨client, state.drafts, state.taken⟩ after).1
      (run ⟨client, state.drafts, state.taken⟩ after).2 := by
    refine (owned.afterwards shut dropped).run ?_ ?_ ?_
    · rw [List.append_nil]
      exact placed'
    · rw [List.append_nil]
      exact xids
    · rw [List.append_nil]
      exact ids
  generalize run ⟨client, state.drafts, state.taken⟩ after = final at *
  constructor
  case alone => exact alone
  case failed => exact fun call pending => placed'.stays placed'' (failed call pending)
  case kept =>
    intro xid resolution resolved
    rw [List.append_assoc, List.append_assoc] at placed''
    exact begun.stays placed'' resolved
  case discarded =>
    intro ticket waits
    refine ⟨?_, ?_⟩
    · rw [← Client.isSome_result?]
      exact queued.queued ticket waits
    · -- it is no ticket of a pending call, so the closing thread does not run its callback
      rw [← queue] at waits
      rw [owned.settled ids runs after' (List.mem_append_right _ waits), owned.apart ids'' waits]
      rfl
  case owed => exact ⟨owned.map_owed, fun made among => (owned.mem_owed ids'' among).2⟩
  case ascending =>
    have distinct := placed.nodup_pending (nodup_issued_before xids')
    exact ⟨List.mergeSort_perm _ _, pairwise_sorted distinct⟩
  case runs => exact runs
  -- The ticket of a pending call is among those of the table, so it is the closing thread that runs
  -- its callback, and nobody runs it later.
  case once =>
    intro made among
    have among' : made ∈ state.owed := among
    rw [owned.settled ids runs after' (owned.ticket_of_owed ids'' among'),
      filter_eq_singleton (f := (·.1.1)) (owned.nodup_owed ids'') among']
    rfl
  case refused => exact fun xid given draft free => (refused xid given).resolved draft free
  case later => exact after'.runs
  case laterOnce =>
    have later : (registered final.2).Nodup := by
      rw [registered_append] at ids
      exact (List.nodup_append.mp ids).2.1
    exact fun made among draft free => after'.once later among draft free
  -- Before, within and after the actions of the closing thread.
  case delivery =>
    intro run among
    rw [invocations_append, invocations_append, List.mem_append, List.mem_append] at among
    rcases among with (early | within) | since
    · exact idle run early
    · exact runs.runner run within
    · obtain ⟨made, -, rfl⟩ := after'.runs run since
      exact Runner.noConfusion
  case inline =>
    intro request arguments encoded
    refine ⟨fun callback => ?_, fun callback => ?_⟩
    · exact Client.resolution?_issue_of_shut after'.shut.isOpen encoded callback
    · rw [Client.issue_of_shut_some after'.shut.isOpen encoded]
  case pending =>
    refine ⟨after'.shut.pending, ?_⟩
    unfold Client.isConnected
    rw [after'.shut.isOpen]
    rfl
  case callbacks => exact ⟨dropped, after'.callbacks⟩
  case again =>
    have closed : final.1.client.closing = .closed := after'.shut.stage_eq
    refine ⟨closed, Client.close_of_stopped ?_⟩
    rw [closed]
    decide

lemma withQueue_eq {state : Threaded κ} {queue : List (UInt64 × Int64)}
    (same : state.client.deliveries = queue) : state.withQueue queue = state := by
  subst same
  rfl

/-- Once delivery has stopped, the closing thread settles every call when it goes on. -/
theorem settled_of_stopped {start state : Threaded κ} {history window : List (Effect κ)}
    (begun : Placed start history) (queued : Owned [] start history)
    (placed : Placed state (history ++ window)) (stopped : Stopped start state history window)
    (reactions : Int64 → Reaction κ) (after : List (Event κ))
    (xids : (issued (history ++ window ++ (state.run (state.resuming reactions)).2 ++
      ((state.run (state.resuming reactions)).1.run after).2)).Nodup)
    (ids : (registered (history ++ window ++ (state.run (state.resuming reactions)).2 ++
      ((state.run (state.resuming reactions)).1.run after).2)).Nodup) :
    Settled reactions (start, history) (state, window) (state.run (state.resuming reactions))
      ((state.run (state.resuming reactions)).1.run after) := by
  have stage : (state.withQueue start.client.deliveries).client.closing = .deliveryStopped :=
    stopped.stage
  have same : (state.withQueue start.client.deliveries).withQueue [] = state :=
    withQueue_eq stopped.deliveries
  have ran := run_resuming_eq stage reactions
  rw [same] at ran
  rw [ran] at xids ids ⊢
  have settled := settled_of_owned begun queued (placed.withQueue _) stopped.owned stage rfl
    stopped.idle reactions after xids ids
  rw [same] at settled
  exact settled

end Threaded

end RemoteCall
