import RemoteCall.Proofs.Client.Accounts

/-!
# The tickets of callbacks

A callback that is registered is given an ID, and this ID goes where the call goes: with the thread
that issues the call, into the table of pending calls, with the thread that takes the call out, and
then into the queue of the delivery thread, unless the callback is run at once.  A ticket is such an
ID together with its call.

As long as nobody closes the client, no ticket is lost and none is made twice (`Owned`): those that
are registered are those under way and those whose callbacks were run, and the table of callbacks
holds the IDs of those under way.

A client that is closed drops its callbacks, and the tickets of some of them may be under way then.
They are lost.  From then on the same holds of the tickets that are made later, so `Owned` has the
lost ones as a parameter.

## The invariant

Tickets are compared up to order, as lists: what counts is how often each is there.  The tickets
that were registered are, up to order, those that are live and those that were spent; the table has
the IDs of those that are live, each with the callback that was registered for it.  A callback was
run with the outcome that its call has, and the calls of the queue have outcomes.  The last two
clauses are why the outcomes of calls must stay (`Acts.result?`).

## The steps

A step makes a ticket (`Owned.registers`), moves tickets (`Owned.quiet`), or spends one
(`Owned.spends`).  Which of these an action does is a matter of where the calls are, and is computed
first, for the lists of tickets alone (`tickets_issue`, `tickets_register`, `held_takesOut`,
`held_conclude`).  `Owned.acts` puts the two together, with one case for each action that does not
take closing on.
-/

namespace RemoteCall

/-- The ID of the callback of a call, with the call. -/
def PendingCall.ticket (call : PendingCall) : Option (UInt64 × Int64) :=
  call.callback.map fun id => (id, call.xid)

/-- The call that is being issued. -/
def Draft.call {κ : Type} (draft : Draft κ) : PendingCall := ⟨draft.xid, draft.id⟩

lemma Future.isSome_result? (registry : Registry) (future : Future) :
    (future.result? registry).isSome = future.resolution.isSome :=
  Option.isSome_map

namespace Client

variable {κ : Type}

lemma isSome_result? (client : Client κ) (xid : Int64) :
    (client.result? xid).isSome = (client.resolution? xid).isSome := by
  unfold result? resolution?
  cases client.future? xid with
  | none => rfl
  | some future => exact future.isSome_result? client.registry

lemma result?_congr {client client' : Client κ} (registry : client'.registry = client.registry)
    (futures : client'.futures = client.futures) (xid : Int64) :
    client'.result? xid = client.result? xid := by
  unfold result? future?
  rw [registry, futures]

lemma result?_conclude (client : Client κ) (call : PendingCall) (ending : Ending)
    (xid : Int64) : (client.conclude call ending).1.result? xid =
      (client.resolve call.xid ending.status ending.payload).result? xid := by
  have registry : (client.conclude call ending).1.registry =
      (client.resolve call.xid ending.status ending.payload).registry :=
    (client.conclude_tables call ending).registry
  exact result?_congr registry (client.conclude_futures call ending) xid

/-- A callback that is in the table is run with the outcome of its call. -/
lemma runCallback_of_lookup {client : Client κ} {id : UInt64} {xid : Int64} {callback : κ}
    {result : CallResult} (found : client.callbacks.lookup id = some callback)
    (outcome : client.result? xid = some result) (runner : Runner) :
    client.runCallback id xid runner =
      (client.dropCallback id, [.invoked ⟨callback, result, runner⟩]) := by
  unfold runCallback
  rw [found, outcome]

/-- A callback that was dropped is not run. -/
lemma runCallback_of_none {client : Client κ} {id : UInt64}
    (dropped : client.callbacks.lookup id = none) (xid : Int64) (runner : Runner) :
    client.runCallback id xid runner = (client, []) := by
  have absent : client.callbacks.filter (·.1 ≠ id) = client.callbacks := by
    rw [List.filter_eq_self]
    intro entry among
    have other := List.lookup_eq_none_iff.mp dropped entry among
    exact decide_eq_true fun same => by simp [same] at other
  unfold runCallback dropCallback
  rw [dropped, absent]

end Client

namespace Threaded

variable {κ : Type}

/-- The callbacks that were run, each with its ticket. -/
def invocations (history : List (Effect κ)) : List ((UInt64 × Int64) × Invocation κ) :=
  history.filterMap fun
    | .invoked id xid invocation => some ((id, xid), invocation)
    | _ => none

lemma invocations_append (first second : List (Effect κ)) :
    invocations (first ++ second) = invocations first ++ invocations second :=
  List.filterMap_append

lemma mem_invocations {history : List (Effect κ)} {run : (UInt64 × Int64) × Invocation κ} :
    run ∈ invocations history ↔ .invoked run.1.1 run.1.2 run.2 ∈ history := by
  unfold invocations
  rw [List.mem_filterMap]
  constructor
  · rintro ⟨effect, among, shown⟩
    cases effect with
    | invoked id xid invocation =>
      cases shown
      exact among
    | issued | refused | registered | entered | transmit | answered | resolved => cases shown
  · intro among
    exact ⟨_, among, rfl⟩

/-- The calls that are not resolved. -/
def held (state : Threaded κ) : List PendingCall :=
  state.drafts.map Draft.call ++ state.client.pending ++ state.taken.map Prod.fst

/-- The tickets that are under way. -/
def tickets (state : Threaded κ) : List (UInt64 × Int64) :=
  state.held.filterMap PendingCall.ticket ++ state.client.deliveries

/-- The tickets under way whose callbacks were not dropped. -/
def live (state : Threaded κ) (lost : List UInt64) : List (UInt64 × Int64) :=
  state.tickets.filter (·.1 ∉ lost)

lemma live_nil (state : Threaded κ) : state.live [] = state.tickets :=
  List.filter_eq_self.mpr fun _ _ => decide_eq_true List.not_mem_nil

/-! ## Outcomes stay -/

section

variable {state next : Threaded κ} {history seen : List (Effect κ)}

/-- A call keeps the outcome that it has. -/
lemma Acts.result? (acts : Acts state next seen) (placed : Placed state history)
    (placed' : Placed next (history ++ seen)) (distinct : (issued history).Nodup) {xid : Int64}
    {result : CallResult} (known : state.client.result? xid = some result) :
    next.client.result? xid = some result := by
  have resolved : (state.client.resolution? xid).isSome := by
    rw [← Client.isSome_result?, known]
    rfl
  obtain ⟨resolution, resolved⟩ := Option.isSome_iff_exists.mp resolved
  cases acts with
  | nothing | refuses | registers | admits | turnsAway | answers | givesUp | drains | stops
    | clears => exact known
  | issues types same id =>
    have later := placed.stays placed' resolved
    have slot := state.client.future?_openSlot types xid
    by_cases hit : xid = state.client.nextXid
    · rw [if_pos hit] at slot
      unfold Client.resolution? at later
      rw [slot] at later
      cases later
    · rw [if_neg hit] at slot
      unfold Client.result? at known ⊢
      rw [slot]
      exact known
  | @concludes n call ending here =>
    have other : xid ≠ call.xid := by
      rintro rfl
      rw [placed.unresolved_of_taken distinct here] at resolved
      cases resolved
    dsimp only
    rw [Client.result?_conclude]
    unfold Client.result? Client.resolve at *
    rw [Client.future?_updateFuture, if_neg other]
    exact known
  | delivers queue =>
    dsimp only
    rw [Client.runCallback_eq]
    exact known
  | @takes other future reply here =>
    refine (Client.bind_future?_updateFuture ?_ xid).trans known
    intro before found
    rw [found] at here
    have kept := Future.resolution_takeReply here
    unfold Future.result?
    rw [kept.1, kept.2]

end

/-! ## Tickets -/

/-- Apart from the lost ones, no ticket goes astray, none is made twice, and the table holds the
callbacks of those under way. -/
structure Owned (lost : List UInt64) (state : Threaded κ) (history : List (Effect κ)) : Prop where
  tickets : ((registrations history).map Prod.fst).Perm
    (state.live lost ++ (invocations history).map Prod.fst)
  table : (state.client.callbacks.map Prod.fst).Perm ((state.live lost).map Prod.fst)
  entries : ∀ entry ∈ state.client.callbacks,
    ∃ xid, ((entry.1, xid), entry.2) ∈ registrations history
  results : ∀ run ∈ invocations history, (run.1, run.2.callback) ∈ registrations history ∧
    state.client.result? run.1.2 = some run.2.result
  queued : ∀ ticket ∈ state.client.deliveries, (state.client.result? ticket.2).isSome

lemma owned_connected (registry : Registry) (maxPayload : UInt32) :
    Owned [] (connected registry maxPayload : Threaded κ) [] := by
  refine ⟨.nil, .nil, ?_, ?_, ?_⟩
  · intro entry absent
    cases absent
  · intro run absent
    cases absent
  · intro ticket absent
    cases absent

section

variable {state next : Threaded κ} {history seen : List (Effect κ)} {lost : List UInt64}

lemma perm_tickets (held : next.held.Perm state.held)
    (deliveries : next.client.deliveries = state.client.deliveries) :
    next.tickets.Perm state.tickets := by
  unfold tickets
  rw [deliveries]
  exact (held.filterMap _).append_right _

lemma perm_live (tickets : next.tickets.Perm state.tickets) :
    (next.live lost).Perm (state.live lost) := tickets.filter _

lemma live_of_cons {id : UInt64} {xid : Int64}
    (tickets : state.tickets.Perm ((id, xid) :: next.tickets)) (kept : id ∉ lost) :
    (state.live lost).Perm ((id, xid) :: next.live lost) := by
  have gone := tickets.filter (·.1 ∉ lost)
  rw [List.filter_cons_of_pos (by simpa using kept)] at gone
  exact gone

lemma live_of_lost {id : UInt64} {xid : Int64}
    (tickets : state.tickets.Perm ((id, xid) :: next.tickets)) (dropped : id ∈ lost) :
    (state.live lost).Perm (next.live lost) := by
  have gone := tickets.filter (·.1 ∉ lost)
  rw [List.filter_cons_of_neg (by simpa using dropped)] at gone
  exact gone

/-- Tickets move, and no callback is registered or run. -/
lemma Owned.quiet (owned : Owned lost state history)
    (tickets : (next.live lost).Perm (state.live lost))
    (callbacks : next.client.callbacks = state.client.callbacks)
    (unregistered : registrations seen = []) (silent : invocations seen = [])
    (kept : ∀ xid result, state.client.result? xid = some result →
      next.client.result? xid = some result)
    (queued : ∀ ticket ∈ next.client.deliveries, (next.client.result? ticket.2).isSome) :
    Owned lost next (history ++ seen) := by
  have same : registrations (history ++ seen) = registrations history := by
    rw [registrations_append, unregistered, List.append_nil]
  have same' : invocations (history ++ seen) = invocations history := by
    rw [invocations_append, silent, List.append_nil]
  refine ⟨?_, ?_, ?_, ?_, queued⟩
  · rw [same, same']
    exact owned.tickets.trans (tickets.symm.append_right _)
  · rw [callbacks]
    exact owned.table.trans (tickets.symm.map _)
  · rw [same, callbacks]
    exact owned.entries
  · rw [same, same']
    intro run ran
    obtain ⟨registered, outcome⟩ := owned.results run ran
    exact ⟨registered, kept _ _ outcome⟩

/-- A callback is registered, and its ticket is made. -/
lemma Owned.registers (owned : Owned lost state history) {id : UInt64} {xid : Int64}
    {callback : κ} (tickets : (next.live lost).Perm ((id, xid) :: state.live lost))
    (callbacks : next.client.callbacks = (id, callback) :: state.client.callbacks)
    (kept : ∀ xid, next.client.result? xid = state.client.result? xid)
    (deliveries : next.client.deliveries = state.client.deliveries) :
    Owned lost next (history ++ [.registered id xid callback]) := by
  have longer : registrations (history ++ [.registered id xid callback]) =
      registrations history ++ [((id, xid), callback)] := registrations_append _ _
  have same : invocations (history ++ [.registered id xid callback]) = invocations history := by
    rw [invocations_append]
    exact List.append_nil _
  refine ⟨?_, ?_, ?_, ?_, ?_⟩
  · rw [longer, same, List.map_append, List.map_singleton]
    refine List.perm_append_comm.trans ?_
    exact (owned.tickets.cons _).trans (tickets.symm.append_right _)
  · rw [callbacks]
    exact (owned.table.cons id).trans (tickets.symm.map Prod.fst)
  · rw [longer, callbacks]
    intro entry among
    rcases List.mem_cons.mp among with rfl | before
    · exact ⟨xid, List.mem_append_right _ (List.mem_singleton_self _)⟩
    · obtain ⟨other, registered⟩ := owned.entries entry before
      exact ⟨other, List.mem_append_left _ registered⟩
  · rw [longer, same]
    intro run ran
    obtain ⟨registered, outcome⟩ := owned.results run ran
    exact ⟨List.mem_append_left _ registered, (kept _).trans outcome⟩
  · rw [deliveries]
    intro ticket queued
    rw [kept]
    exact owned.queued ticket queued

/-- No ID is on two tickets that are under way or spent. -/
lemma Owned.nodup_ids (owned : Owned lost state history)
    (distinct : (registered history).Nodup) :
    ((state.live lost).map Prod.fst ++ (invocations history).map (·.1.1)).Nodup := by
  have all := owned.tickets.map Prod.fst
  rw [List.map_map, List.map_append, List.map_map] at all
  exact all.nodup_iff.mp distinct

/-- A callback in the table was registered for the call of its ticket. -/
lemma Owned.registered_of_ticket (owned : Owned lost state history)
    (distinct : (registered history).Nodup) {id : UInt64} {xid : Int64} {callback : κ}
    (ticket : (id, xid) ∈ state.live lost) (entry : (id, callback) ∈ state.client.callbacks) :
    ((id, xid), callback) ∈ registrations history := by
  have made := owned.tickets.mem_iff.mpr (List.mem_append_left _ ticket)
  obtain ⟨⟨_, other⟩, made, rfl⟩ := List.mem_map.mp made
  obtain ⟨xid', registered⟩ := owned.entries (id, callback) entry
  have same := List.inj_on_of_nodup_map distinct made registered rfl
  cases same
  exact made

/-- A callback is run, and its ticket is spent. -/
lemma Owned.runs (owned : Owned lost state history) (distinct : (registered history).Nodup)
    {id : UInt64} {xid : Int64} (tickets : (state.live lost).Perm ((id, xid) :: next.live lost))
    {invocation : Invocation κ} (entry : (id, invocation.callback) ∈ state.client.callbacks)
    (callbacks : next.client.callbacks = state.client.callbacks.filter (·.1 ≠ id))
    (unregistered : registrations seen = [])
    (ran : invocations seen = [((id, xid), invocation)])
    (outcome : next.client.result? xid = some invocation.result)
    (kept : ∀ xid result, state.client.result? xid = some result →
      next.client.result? xid = some result)
    (queued : ∀ ticket ∈ next.client.deliveries, (next.client.result? ticket.2).isSome) :
    Owned lost next (history ++ seen) := by
  have same : registrations (history ++ seen) = registrations history := by
    rw [registrations_append, unregistered, List.append_nil]
  have longer : invocations (history ++ seen) =
      invocations history ++ [((id, xid), invocation)] := by
    rw [invocations_append, ran]
  refine ⟨?_, ?_, ?_, ?_, queued⟩
  · rw [same, longer, List.map_append, List.map_singleton]
    refine owned.tickets.trans ((tickets.append_right _).trans ?_)
    rw [List.cons_append, ← List.append_assoc]
    exact (List.perm_append_singleton _ _).symm
  -- an ID has one ticket, so filtering the table takes away the entry that was run and no other
  · have others : id ∉ (next.live lost).map Prod.fst := by
      have once := (tickets.map Prod.fst).nodup_iff.mp
        (List.nodup_append.mp (owned.nodup_ids distinct)).1
      exact (List.nodup_cons.mp once).1
    have spent := (owned.table.trans (tickets.map Prod.fst)).filter (· ≠ id)
    have rest : ((next.live lost).map Prod.fst).filter (· ≠ id) =
        (next.live lost).map Prod.fst := by
      rw [List.filter_eq_self]
      intro other among
      exact decide_eq_true (ne_of_mem_of_not_mem among others)
    rw [List.map_cons, List.filter_cons_of_neg (by simp), rest, List.filter_map] at spent
    rw [callbacks]
    exact spent
  · rw [same, callbacks]
    intro entry among
    exact owned.entries entry (List.mem_of_mem_filter among)
  · rw [same, longer]
    intro run among
    rcases List.mem_append.mp among with before | now
    · obtain ⟨registered, outcome⟩ := owned.results run before
      exact ⟨registered, kept _ _ outcome⟩
    · rw [List.mem_singleton.mp now]
      have ticket := tickets.mem_iff.mpr List.mem_cons_self
      exact ⟨owned.registered_of_ticket distinct ticket entry, outcome⟩

/-- The callback of a ticket that is under way is in the table. -/
lemma Owned.lookup (owned : Owned lost state history) {id : UInt64} {xid : Int64}
    (ticket : (id, xid) ∈ state.live lost) :
    ∃ callback, state.client.callbacks.lookup id = some callback ∧
      (id, callback) ∈ state.client.callbacks := by
  have among := owned.table.mem_iff.mpr (List.mem_map_of_mem (f := Prod.fst) ticket)
  obtain ⟨entry, among, same⟩ := List.mem_map.mp among
  cases found : state.client.callbacks.lookup id with
  | none =>
    have absent := List.lookup_eq_none_iff.mp found entry among
    rw [same] at absent
    simp at absent
  | some callback =>
    obtain ⟨before, after, all, -⟩ := List.lookup_eq_some_iff.mp found
    refine ⟨callback, rfl, ?_⟩
    rw [all]
    exact List.mem_append_right _ List.mem_cons_self

lemma Owned.lookup_of_lost (owned : Owned lost state history) {id : UInt64}
    (dropped : id ∈ lost) : state.client.callbacks.lookup id = none := by
  rw [List.lookup_eq_none_iff]
  intro entry among
  have live := owned.table.mem_iff.mp (List.mem_map_of_mem (f := Prod.fst) among)
  obtain ⟨ticket, live, same⟩ := List.mem_map.mp live
  have kept : ticket.1 ∉ lost := of_decide_eq_true (List.mem_filter.mp live).2
  rw [bne_iff_ne, ← same]
  exact ne_of_mem_of_not_mem dropped kept

/-! ## Moves -/

lemma perm_held (same : ∀ call, (next.drafts.map Draft.call).count call +
      next.client.pending.count call + (next.taken.map Prod.fst).count call =
    (state.drafts.map Draft.call).count call + state.client.pending.count call +
      (state.taken.map Prod.fst).count call) : next.held.Perm state.held := by
  rw [List.perm_iff_count]
  intro call
  unfold held
  rw [List.count_append, List.count_append, List.count_append, List.count_append]
  exact same call

lemma tickets_of_none {call : PendingCall} {rest : List PendingCall}
    (held : state.held.Perm (call :: rest)) (bare : call.callback = none) :
    state.tickets.Perm (rest.filterMap PendingCall.ticket ++ state.client.deliveries) := by
  have gone := held.filterMap PendingCall.ticket
  rw [List.filterMap_cons_none (by unfold PendingCall.ticket; rw [bare]; rfl)] at gone
  exact gone.append_right _

lemma tickets_of_some {call : PendingCall} {rest : List PendingCall} {id : UInt64}
    (held : state.held.Perm (call :: rest)) (some : call.callback = some id) :
    state.tickets.Perm ((id, call.xid) ::
      (rest.filterMap PendingCall.ticket ++ state.client.deliveries)) := by
  have gone := held.filterMap PendingCall.ticket
  rw [List.filterMap_cons_some (by unfold PendingCall.ticket; rw [some]; rfl)] at gone
  exact gone.append_right _

/-- A call that is issued has no ticket yet. -/
lemma tickets_issue (types : List Ty) {draft : Draft κ} (bare : draft.id = none) :
    (tickets ⟨state.client.openSlot types, state.drafts ++ [draft], state.taken⟩).Perm
      state.tickets := by
  have added : (held ⟨state.client.openSlot types, state.drafts ++ [draft], state.taken⟩).Perm
      (draft.call :: state.held) := by
    simp only [held, List.map_append, List.map_singleton, List.append_assoc,
      List.singleton_append]
    exact List.perm_middle
  exact tickets_of_none added bare

/-- A callback that is registered gives its call a ticket. -/
lemma tickets_register {n : Nat} {xid : Int64} {frame : Frame} {callback : κ} {id : UInt64}
    (here : state.drafts[n]? = some ⟨xid, frame, some callback, none⟩) :
    (tickets ⟨state.client.addCallback callback,
      state.drafts.set n ⟨xid, frame, none, some id⟩, state.taken⟩).Perm
        ((id, xid) :: state.tickets) := by
  obtain ⟨within, there⟩ := List.getElem?_eq_some_iff.mp here
  have before : state.held.Perm (⟨xid, none⟩ :: held
      ⟨state.client, state.drafts.eraseIdx n, state.taken⟩) := by
    have erased := (List.getElem_cons_eraseIdx_perm within).symm.map Draft.call
    rw [there] at erased
    exact (erased.append_right _).append_right _
  have after : (held ⟨state.client.addCallback callback,
      state.drafts.set n ⟨xid, frame, none, some id⟩, state.taken⟩).Perm
        (⟨xid, some id⟩ :: held ⟨state.client, state.drafts.eraseIdx n, state.taken⟩) := by
    have replaced := (List.set_perm_cons_eraseIdx within
      ⟨xid, frame, none, some id⟩).map Draft.call
    exact (replaced.append_right _).append_right _
  exact (tickets_of_some after rfl).trans ((tickets_of_none before rfl).symm.cons _)

/-- A call that is taken out of the table is still held. -/
lemma held_takesOut (placed : Placed state history) (distinct : (issued history).Nodup)
    {xid : Int64} {call : PendingCall} (found : state.client.pendingCall? xid = some call)
    {ending : Ending} :
    (held ⟨state.client.removePending xid, state.drafts, state.taken ++ [(call, ending)]⟩).Perm
      state.held := by
  have one := placed.once distinct xid
  refine perm_held ?_
  intro other
  have gone := (perm_removePending found (by omega)).count_eq other
  have more := count_map_concat state.taken (call, ending) Prod.fst other
  rw [← List.singleton_append, List.count_append] at gone
  dsimp only at more ⊢
  omega

/-- A call that is concluded is no longer held. -/
lemma held_conclude {n : Nat} {call : PendingCall} {ending : Ending}
    (here : state.taken[n]? = some (call, ending)) :
    state.held.Perm (call :: held
      ⟨(state.client.conclude call ending).1, state.drafts, state.taken.eraseIdx n⟩) := by
  rw [List.perm_iff_count]
  intro other
  have gone := count_map_eraseIdx here Prod.fst other
  unfold held
  rw [← List.singleton_append, List.count_append, List.count_append, List.count_append,
    List.count_append, List.count_append, (state.client.conclude_tables call ending).pending]
  dsimp only at gone ⊢
  omega

/-! ## Actions -/

/-- A callback is run, unless it was dropped, and its ticket is spent. -/
lemma Owned.spends (owned : Owned lost state history) (ids : (registered history).Nodup)
    (client : Client κ) {id : UInt64} {xid : Int64} {runner : Runner}
    (tickets : state.tickets.Perm ((id, xid) :: next.tickets))
    (same : client.callbacks = state.client.callbacks) (known : (client.result? xid).isSome)
    (after : next.client = (client.runCallback id xid runner).1)
    (unregistered : registrations seen = [])
    (ran : invocations seen = invocations (ran id xid (client.runCallback id xid runner).2))
    (kept : ∀ xid result, state.client.result? xid = some result →
      next.client.result? xid = some result)
    (queued : ∀ ticket ∈ next.client.deliveries, (next.client.result? ticket.2).isSome) :
    Owned lost next (history ++ seen) := by
  by_cases dropped : id ∈ lost
  · have absent : client.callbacks.lookup id = none := same.symm ▸ owned.lookup_of_lost dropped
    rw [Client.runCallback_of_none absent] at after ran
    have callbacks : next.client.callbacks = state.client.callbacks := by rw [after, same]
    exact owned.quiet (live_of_lost tickets dropped).symm callbacks unregistered ran kept queued
  · have live := live_of_cons tickets dropped
    obtain ⟨callback, found, entry⟩ := owned.lookup (live.mem_iff.mpr List.mem_cons_self)
    obtain ⟨result, outcome⟩ := Option.isSome_iff_exists.mp known
    rw [← same] at found
    rw [Client.runCallback_of_lookup found outcome] at after ran
    have invoked : invocations seen = [((id, xid), ⟨callback, result, runner⟩)] := ran
    have callbacks : next.client.callbacks = state.client.callbacks.filter (·.1 ≠ id) := by
      rw [after, ← same]
      rfl
    have outcome' : next.client.result? xid = some result := by
      rw [after]
      exact outcome
    exact owned.runs ids live entry callbacks unregistered invoked outcome' kept queued

lemma Owned.concludes {whole : List (Effect κ)} (owned : Owned lost state history)
    (placed : Placed state whole) (distinct : (issued whole).Nodup)
    (ids : (registered history).Nodup) {n : Nat} {call : PendingCall} {ending : Ending}
    (here : state.taken[n]? = some (call, ending))
    (kept : ∀ xid result, state.client.result? xid = some result →
      (state.client.conclude call ending).1.result? xid = some result) :
    Owned lost ⟨(state.client.conclude call ending).1, state.drafts, state.taken.eraseIdx n⟩
      (history ++ .resolved call.xid ending.resolution ::
        ranFor call (state.client.conclude call ending).2) := by
  have held := held_conclude here
  have known : ((state.client.conclude call ending).1.result? call.xid).isSome := by
    rw [Client.isSome_result?, placed.resolution?_conclude distinct here, if_pos rfl]
    rfl
  have queued : ∀ ticket ∈ state.client.deliveries,
      ((state.client.conclude call ending).1.result? ticket.2).isSome := by
    intro ticket waits
    obtain ⟨result, outcome⟩ := Option.isSome_iff_exists.mp (owned.queued ticket waits)
    rw [kept _ _ outcome]
    rfl
  have unregistered : registrations (.resolved call.xid ending.resolution ::
      ranFor call (state.client.conclude call ending).2) = [] :=
    filterMap_ranFor (fun _ _ _ => rfl) _ _
  rcases state.client.conclude_cases call ending with
      ⟨bare, same⟩ | ⟨id, own, same⟩ | ⟨id, own, -, same⟩
  · -- there is no callback
    have deliveries : (state.client.conclude call ending).1.deliveries =
        state.client.deliveries := by rw [same]; rfl
    have moved := tickets_of_none held bare
    rw [← deliveries] at moved queued
    refine owned.quiet (perm_live moved.symm) (by rw [same]; rfl) unregistered ?_ kept queued
    unfold ranFor
    rw [bare]
    rfl
  · -- the thread runs the callback itself
    have moved := tickets_of_some held own
    have deliveries : (state.client.conclude call ending).1.deliveries =
        state.client.deliveries := by rw [same, Client.runCallback_eq]; rfl
    rw [← deliveries] at moved queued
    have known' : ((state.client.resolve call.xid ending.status ending.payload).result?
        call.xid).isSome := by
      rw [← Client.result?_conclude]
      exact known
    have ran : invocations (.resolved call.xid ending.resolution ::
        ranFor call (state.client.conclude call ending).2) =
          invocations (ran id call.xid ((state.client.resolve call.xid ending.status
            ending.payload).runCallback id call.xid ending.runner).2) := by
      unfold ranFor
      rw [own, same]
      rfl
    exact owned.spends ids (state.client.resolve call.xid ending.status ending.payload) moved rfl
      known' (congrArg Prod.fst same) unregistered ran kept queued
  · -- the callback is left to the delivery thread
    have moved := tickets_of_some held own
    have deliveries : (state.client.conclude call ending).1.deliveries =
        state.client.deliveries ++ [(id, call.xid)] := by rw [same]; rfl
    refine owned.quiet (perm_live ?_) (by rw [same]; rfl) unregistered ?_ kept ?_
    · refine List.Perm.trans ?_ moved.symm
      unfold Threaded.tickets
      dsimp only
      rw [deliveries, ← List.append_assoc]
      exact List.perm_append_singleton _ _
    · unfold ranFor
      rw [own, same]
      rfl
    · dsimp only
      rw [deliveries]
      intro ticket waits
      rcases List.mem_append.mp waits with before | now
      · exact queued ticket before
      · rw [List.mem_singleton.mp now]
        exact known

lemma Owned.delivers (owned : Owned lost state history) (ids : (registered history).Nodup)
    {id : UInt64} {xid : Int64} {rest : List (UInt64 × Int64)}
    (queue : state.client.deliveries = (id, xid) :: rest) :
    Owned lost
      ⟨({ state.client with deliveries := rest }.runCallback id xid .delivery).1, state.drafts,
        state.taken⟩
      (history ++
        ran id xid ({ state.client with deliveries := rest }.runCallback id xid .delivery).2) := by
  have moved : state.tickets.Perm ((id, xid) ::
      (state.held.filterMap PendingCall.ticket ++ rest)) := by
    unfold Threaded.tickets
    rw [queue]
    exact List.perm_middle
  have known := owned.queued (id, xid) (queue ▸ List.mem_cons_self)
  have after := Client.runCallback_eq { state.client with deliveries := rest } id xid .delivery
  have unregistered : registrations (ran id xid
      ({ state.client with deliveries := rest }.runCallback id xid .delivery).2) = [] :=
    filterMap_ran (fun _ _ _ => rfl) _ _ _
  refine owned.spends ids { state.client with deliveries := rest } ?_ rfl known rfl unregistered rfl
    ?_ ?_
  · rw [after]
    exact moved
  · intro other result outcome
    rw [after]
    exact outcome
  · rw [after]
    intro ticket waits
    exact owned.queued ticket (queue ▸ List.mem_cons_of_mem _ waits)

/-- Nobody opens a client again. -/
lemma Acts.notClosed (acts : Acts state next seen) (going : next.client.closing = .notClosed) :
    state.client.closing = .notClosed := by
  cases acts with
  | nothing | refuses | issues | registers | admits | turnsAway | answers | givesUp | takes =>
    exact going
  | drains lost all closes =>
    rcases closes with same | ⟨-, failed⟩
    · exact same.symm.trans going
    · cases failed.symm.trans going
  | @concludes n call ending here =>
    exact (state.client.conclude_tables call ending).closing.symm.trans going
  | delivers queue =>
    dsimp only at going
    rw [Client.runCallback_eq] at going
    exact going
  | stops | clears => cases going

/-- An action that does not take closing on keeps account of the tickets. -/
lemma Owned.acts {whole : List (Effect κ)} (owned : Owned lost state history)
    (placed : Placed state whole) (placed' : Placed next (whole ++ seen))
    (distinct : (issued whole).Nodup) (ids : (registered history).Nodup)
    (fresh : ∀ id ∈ registered seen, id ∉ lost) (acts : Acts state next seen)
    (stays : next.client.closing = state.client.closing) : Owned lost next (history ++ seen) := by
  have kept : ∀ xid result, state.client.result? xid = some result →
      next.client.result? xid = some result :=
    fun xid result => acts.result? placed placed' distinct
  have queued : ∀ ticket ∈ state.client.deliveries, (next.client.result? ticket.2).isSome := by
    intro ticket waits
    obtain ⟨result, outcome⟩ := Option.isSome_iff_exists.mp (owned.queued ticket waits)
    rw [kept _ _ outcome]
    rfl
  -- A ticket is made when a callback is registered, spent when it is run, and moved by all other
  -- actions; what has to be seen of those is that the tickets are the same up to their order.
  cases acts with
  | nothing | refuses | takes => exact owned.quiet (.refl _) rfl rfl rfl kept queued
  | issues types xid id =>
    exact owned.quiet (perm_live (tickets_issue types id)) rfl rfl rfl kept queued
  | registers here =>
    have kept := fresh _ (List.mem_singleton_self _)
    exact owned.registers (live_of_cons (tickets_register here) kept) rfl (fun _ => rfl) rfl
  | @admits n draft here isOpen =>
    refine owned.quiet (perm_live (perm_tickets (perm_held ?_) rfl)) rfl rfl rfl kept queued
    intro call
    have gone := count_map_eraseIdx here Draft.call call
    dsimp only [Client.addPending, Draft.call] at gone ⊢
    rw [List.count_append]
    omega
  | @turnsAway n draft here shut =>
    refine owned.quiet (perm_live (perm_tickets (perm_held ?_) rfl)) rfl rfl rfl kept queued
    intro call
    have gone := count_map_eraseIdx here Draft.call call
    have more := count_map_concat state.taken
      (⟨draft.xid, draft.id⟩, .unsent Status.notConnected) Prod.fst call
    dsimp only [Draft.call] at gone more ⊢
    omega
  | answers found | givesUp lost found =>
    refine owned.quiet (perm_live (perm_tickets ?_ rfl)) rfl rfl rfl kept queued
    exact held_takesOut placed distinct found
  | @drains closing ending calls lost all closes =>
    refine owned.quiet (perm_live (perm_tickets (perm_held ?_) rfl)) rfl rfl rfl kept queued
    intro call
    have same := all.count_eq call
    have firsts : (calls.map (·, ending)).map Prod.fst = calls := by
      rw [List.map_map]
      exact List.map_id calls
    dsimp only
    rw [List.map_append, List.count_append, firsts, List.count_nil]
    omega
  | concludes here => exact owned.concludes placed distinct ids here kept
  | delivers queue => exact owned.delivers ids queue
  | stops going => cases stays.trans going
  | clears failed => cases stays.trans failed

end

end Threaded

end RemoteCall
