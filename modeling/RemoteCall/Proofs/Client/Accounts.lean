import Mathlib.Algebra.Ring.Nat
import Mathlib.Data.List.Nodup
import Mathlib.Data.List.Permutation
import RemoteCall.Proofs.Client.Actions
import RemoteCall.Proofs.Machine

/-!
# Where the calls of a client are

A call that was given a transaction ID is in exactly one place: some thread is issuing it, it is in
the table, some thread has taken it out, or it is resolved.  `Placed` says so by counting, so that
an action that moves a call from one place to another is an equation between numbers.

## Counters

Transaction IDs are counted up from one, so none is given twice before all have been given
(`Numbered.nodup_issued`), and so are the IDs of callbacks.  The places are told apart by
transaction IDs, so `Placed` holds as long as none has been given twice (`placed_run`), and until
then other invariants may rest on it (`Placed.run_keeps`).  No more callbacks are registered than
calls are issued, so a bound on the calls is a bound on the callbacks, too.

## Places

`Placed` is kept by all actions for one of three reasons.  Some change nothing that tells where a
call is (`Placed.still`); some move a call without resolving it (`Placed.move`); and one resolves a
call (`Placed.concludes`), which then has to be unresolved, and is because it was in the hands of a
thread.  `Placed.once` turns the equations into what other modules use: what is in one place is in
no other.

Whether a slot is resolved is compared with the outcomes in the history, so that a call is never
resolved twice.  The bookkeeping of the reply that a future hands out is of no concern
(`SameOutcomes`).

## Main statements

* `Numbered.nodup_issued` — no transaction ID is given twice before all have been given.
* `Placed.run_keeps` — what every action keeps while calls are placed, every run keeps.
* `placed_run` — every call of a run is in one place.
-/

namespace RemoteCall

/-- The first `n` numbers of a counter that starts at one. -/
def counted {α : Type} (ofNat : Nat → α) (n : Nat) : List α :=
  (List.range n).map fun i => ofNat (i + 1)

lemma counted_succ {α : Type} (ofNat : Nat → α) (n : Nat) :
    counted ofNat (n + 1) = counted ofNat n ++ [ofNat (n + 1)] := by
  unfold counted
  rw [List.range_succ, List.map_append, List.map_singleton]

/-- A counter does not come back to a number before it has gone through all of them. -/
lemma nodup_counted {α : Type} {ofNat : Nat → α} {n : Nat}
    (apart : ∀ i < n, ∀ j < n, ofNat (i + 1) = ofNat (j + 1) → i = j) :
    (counted ofNat n).Nodup := by
  refine List.Nodup.map_on ?_ List.nodup_range
  intro i first j second
  exact apart i (List.mem_range.mp first) j (List.mem_range.mp second)

lemma nodup_counted_int64 {n : Nat} (few : n ≤ 2 ^ 64) : (counted Int64.ofNat n).Nodup := by
  refine nodup_counted ?_
  intro i first j second same
  have words : (Int64.ofNat (i + 1)).toBitVec.toNat = (Int64.ofNat (j + 1)).toBitVec.toNat := by
    rw [same]
  have value : ∀ k, (Int64.ofNat k).toBitVec.toNat = k % 2 ^ 64 := fun _ => rfl
  rw [value, value] at words
  omega

lemma nodup_counted_uint64 {n : Nat} (few : n ≤ 2 ^ 64) : (counted UInt64.ofNat n).Nodup := by
  refine nodup_counted ?_
  intro i first j second same
  have words : (UInt64.ofNat (i + 1)).toNat = (UInt64.ofNat (j + 1)).toNat := by rw [same]
  rw [UInt64.toNat_ofNat', UInt64.toNat_ofNat'] at words
  omega

/-- A counter of words comes to zero after all other numbers. -/
lemma zero_notMem_counted {n : Nat} (few : n < 2 ^ 64) : 0 ∉ counted UInt64.ofNat n := by
  intro among
  obtain ⟨i, within, zero⟩ := List.mem_map.mp among
  have word : (UInt64.ofNat (i + 1)).toNat = 0 := by rw [zero]; rfl
  have below := List.mem_range.mp within
  rw [UInt64.toNat_ofNat'] at word
  omega

/-- The numbers of a counter that were given, and the one that it gives next. -/
structure CountsUp {α : Type} (ofNat : Nat → α) (given : List α) (next : α) : Prop where
  inOrder : given = counted ofNat given.length
  next : next = ofNat (given.length + 1)

lemma CountsUp.concat {α : Type} {ofNat : Nat → α} {given : List α} {next : α}
    (counts : CountsUp ofNat given next) {next' : α} (after : next' = ofNat (given.length + 2)) :
    CountsUp ofNat (given ++ [next]) next' := by
  have length : (given ++ [next]).length = given.length + 1 := by
    rw [List.length_append, List.length_singleton]
  refine ⟨?_, ?_⟩
  · rw [length, counted_succ, ← counts.inOrder, counts.next]
  · rw [length]
    exact after

lemma count_map_eraseIdx {α β : Type} [BEq β] [LawfulBEq β] {list : List α} {n : Nat} {a : α}
    (here : list[n]? = some a) (f : α → β) (b : β) :
    (list.map f).count b = ((list.eraseIdx n).map f).count b + [f a].count b := by
  obtain ⟨within, rfl⟩ := List.getElem?_eq_some_iff.mp here
  have moved := ((List.getElem_cons_eraseIdx_perm within).map f).count_eq b
  rw [← moved, Nat.add_comm, ← List.count_append, List.map_cons, List.singleton_append]

lemma map_set_same {α β : Type} {list : List α} {n : Nat} {a a' : α} {f : α → β}
    (here : list[n]? = some a) (same : f a' = f a) : (list.set n a').map f = list.map f := by
  obtain ⟨within, rfl⟩ := List.getElem?_eq_some_iff.mp here
  have within' : n < (list.map f).length := by simpa using within
  have there : (list.map f)[n] = f list[n] := List.getElem_map f
  rw [List.map_set, same, ← there, List.set_getElem_self]

lemma count_map_concat {α β : Type} [BEq β] (list : List α) (a : α) (f : α → β) (b : β) :
    ((list ++ [a]).map f).count b = (list.map f).count b + [f a].count b := by
  rw [List.map_append, List.count_append, List.map_singleton]

/-- A future whose reply is taken keeps its outcome. -/
lemma Future.resolution_takeReply {future after : Future} {reply : Except Error (Option Bytes)}
    (taken : future.takeReply? = some (reply, after)) :
    after.resolution = future.resolution ∧ after.resultTypes = future.resultTypes := by
  unfold takeReply? at taken
  obtain ⟨resolution, resolved, outcome⟩ := Option.map_eq_some_iff.mp taken
  split at outcome
  · cases outcome
    exact ⟨rfl, rfl⟩
  · cases outcome
    exact ⟨rfl, rfl⟩

namespace Threaded

variable {κ : Type}

/-! ## Numbers -/

/-- Transaction IDs and the IDs of callbacks are given in order. -/
structure Numbered (state : Threaded κ) (history : List (Effect κ)) : Prop where
  xids : CountsUp Int64.ofNat (issued history) state.client.nextXid
  ids : CountsUp UInt64.ofNat (registered history) state.client.nextCallback

lemma numbered_connected (registry : Registry) (maxPayload : UInt32) :
    Numbered (connected registry maxPayload : Threaded κ) [] := ⟨⟨rfl, rfl⟩, ⟨rfl, rfl⟩⟩

section

variable {state next : Threaded κ} {history seen : List (Effect κ)}

lemma Numbered.still (numbered : Numbered state history) (unissued : issued seen = [])
    (unregistered : registrations seen = []) (xids : next.client.nextXid = state.client.nextXid)
    (ids : next.client.nextCallback = state.client.nextCallback) :
    Numbered next (history ++ seen) := by
  have given : issued (history ++ seen) = issued history := by
    rw [issued_append, unissued, List.append_nil]
  have given' : registered (history ++ seen) = registered history := by
    unfold registered
    rw [registrations_append, unregistered, List.append_nil]
  refine ⟨?_, ?_⟩
  · rw [given, xids]
    exact numbered.xids
  · rw [given', ids]
    exact numbered.ids

lemma Numbered.acts (numbered : Numbered state history) (acts : Acts state next seen) :
    Numbered next (history ++ seen) := by
  have xid := numbered.xids.next
  have id := numbered.ids.next
  cases acts with
  | issues types same unregistered =>
    refine ⟨?_, ?_⟩
    · rw [issued_append]
      refine numbered.xids.concat ?_
      show state.client.nextXid + 1 = _
      rw [xid]
      exact (Int64.ofNat_add _ 1).symm
    · rw [registered_append]
      exact (List.append_nil (registered history)).symm ▸ numbered.ids
  | registers here =>
    refine ⟨?_, ?_⟩
    · rw [issued_append]
      exact (List.append_nil (issued history)).symm ▸ numbered.xids
    · rw [registered_append]
      refine numbered.ids.concat ?_
      show state.client.nextCallback + 1 = _
      rw [id]
      exact (UInt64.ofNat_add _ 1).symm
  | @concludes n call ending here =>
    have same := state.client.conclude_tables call ending
    refine numbered.still ?_ ?_ same.nextXid same.nextCallback
    · exact filterMap_ranFor (fun _ _ _ => rfl) _ _
    · exact filterMap_ranFor (fun _ _ _ => rfl) _ _
  | delivers queue =>
    refine numbered.still ?_ ?_ ?_ ?_
    · exact filterMap_ran (fun _ _ _ => rfl) _ _ _
    · exact filterMap_ran (fun _ _ _ => rfl) _ _ _
    · rw [Client.runCallback_eq]
      rfl
    · rw [Client.runCallback_eq]
      rfl
  | nothing | refuses | admits | turnsAway | answers | givesUp | drains | takes | stops
    | clears => exact numbered.still rfl rfl rfl rfl

lemma Numbered.run (numbered : Numbered state history) (events : List (Event κ)) :
    Numbered (state.run events).1 (history ++ (state.run events).2) := by
  have allowed : ∀ event ∈ events, True := fun _ _ => trivial
  refine Machine.run_history ?_ allowed numbered
  intro state history event _ numbered
  exact numbered.acts (acts_step state event)

/-- No transaction ID is given twice before all have been given. -/
theorem Numbered.nodup_issued (numbered : Numbered state history)
    (few : (issued history).length ≤ 2 ^ 64) : (issued history).Nodup := by
  rw [numbered.xids.inOrder]
  exact nodup_counted_int64 few

lemma Numbered.nodup_registered (numbered : Numbered state history)
    (few : (registered history).length ≤ 2 ^ 64) : (registered history).Nodup := by
  rw [numbered.ids.inOrder]
  exact nodup_counted_uint64 few

/-- Zero stands for no callback, and no callback has this ID before all others were given. -/
lemma Numbered.zero_notMem (numbered : Numbered state history)
    (few : (registered history).length < 2 ^ 64) : 0 ∉ registered history := by
  rw [numbered.ids.inOrder]
  exact zero_notMem_counted few

/-- A callback is registered for a call that was given its transaction ID, and only once. -/
lemma Acts.registered_length (acts : Acts state next seen) :
    (registered seen).length + next.drafts.countP (·.callback.isSome) ≤
      (issued seen).length + state.drafts.countP (·.callback.isSome) := by
  have erased : ∀ n, (state.drafts.eraseIdx n).countP (·.callback.isSome) ≤
      state.drafts.countP (·.callback.isSome) :=
    fun n => (List.eraseIdx_sublist state.drafts n).countP_le
  cases acts with
  | nothing | refuses | answers | givesUp | drains | takes | stops | clears => exact Nat.le_refl _
  | @issues types draft xid id =>
    have one : [draft].countP (·.callback.isSome) ≤ 1 := List.countP_le_length
    rw [List.countP_append]
    show 0 + _ ≤ 1 + _
    omega
  | @registers n xid frame callback here =>
    obtain ⟨within, there⟩ := List.getElem?_eq_some_iff.mp here
    have before := (List.getElem_cons_eraseIdx_perm within).countP_eq (·.callback.isSome)
    have after := (List.set_perm_cons_eraseIdx within
      ⟨xid, frame, none, some state.client.nextCallback⟩).countP_eq (·.callback.isSome)
    rw [there, List.countP_cons_of_pos rfl] at before
    rw [List.countP_cons_of_neg (by simp)] at after
    rw [after, ← before, Nat.add_comm]
    exact Nat.le_of_eq (Nat.zero_add _).symm
  | @admits n draft here isOpen =>
    show 0 + _ ≤ 0 + _
    exact Nat.add_le_add_left (erased n) 0
  | @turnsAway n draft here shut =>
    show 0 + _ ≤ 0 + _
    exact Nat.add_le_add_left (erased n) 0
  | @concludes n call ending here =>
    have silent : registrations (.resolved call.xid ending.resolution ::
        ranFor call (state.client.conclude call ending).2) = [] :=
      filterMap_ranFor (fun _ _ _ => rfl) _ _
    unfold registered
    rw [silent]
    exact Nat.add_le_add_right (Nat.zero_le _) _
  | @delivers id xid rest queue =>
    have silent : registrations (ran id xid
        ({ state.client with deliveries := rest }.runCallback id xid .delivery).2) = [] :=
      filterMap_ran (fun _ _ _ => rfl) _ _ _
    unfold registered
    rw [silent]
    exact Nat.add_le_add_right (Nat.zero_le _) _

lemma registered_length_run (state : Threaded κ) (events : List (Event κ)) :
    (registered (state.run events).2).length +
        (state.run events).1.drafts.countP (·.callback.isSome) ≤
      (issued (state.run events).2).length + state.drafts.countP (·.callback.isSome) := by
  induction events generalizing state with
  | nil => exact Nat.le_refl _
  | cons event rest ih =>
    have now := (acts_step state event).registered_length
    have later := ih (state.step event).1
    unfold run at later ⊢
    rw [Machine.run_cons, registered_append, issued_append, List.length_append, List.length_append]
    dsimp only
    omega

end

/-! ## Places -/

/-- Two clients have slots for the same calls, and the same of them are resolved, in the same
way. -/
structure SameOutcomes (client client' : Client κ) : Prop where
  slots : ∀ xid, (client'.future? xid).isSome = (client.future? xid).isSome
  outcomes : ∀ xid, client'.resolution? xid = client.resolution? xid

lemma SameOutcomes.of_futures {client client' : Client κ}
    (futures : client'.futures = client.futures) : SameOutcomes client client' := by
  have slot : ∀ xid, client'.future? xid = client.future? xid := by
    intro xid
    unfold Client.future?
    rw [futures]
  refine ⟨?_, ?_⟩
  · intro xid
    rw [slot]
  · intro xid
    unfold Client.resolution?
    rw [slot]

/-- The reply of a call is taken, and its outcome stays. -/
lemma sameOutcomes_takeReply {client : Client κ} {xid : Int64} {future : Future}
    {reply : Except Error (Option Bytes)}
    (here : (client.future? xid).bind Future.takeReply? = some (reply, future)) :
    SameOutcomes client (client.updateFuture xid fun _ => future) := by
  refine ⟨client.isSome_future?_updateFuture xid _, ?_⟩
  · refine Client.bind_future?_updateFuture ?_
    intro before found
    rw [found] at here
    exact (Future.resolution_takeReply here).1

/-- Every call is in one place, and its slot is resolved exactly if it is in none of the others. -/
structure Placed (state : Threaded κ) (history : List (Effect κ)) : Prop where
  drafts : ∀ xid, (issued history).count xid =
    (state.drafts.map Draft.xid).count xid + (entered history).count xid
  places : ∀ xid, (entered history).count xid =
    (state.client.pending.map PendingCall.xid).count xid +
      (state.taken.map (·.1.xid)).count xid + ((resolutions history).map Prod.fst).count xid
  slots : ∀ xid ∈ issued history, (state.client.future? xid).isSome
  outcomes : ∀ xid resolution, state.client.resolution? xid = some resolution ↔
    (xid, resolution) ∈ resolutions history

lemma placed_connected (registry : Registry) (maxPayload : UInt32) :
    Placed (connected registry maxPayload : Threaded κ) [] := by
  refine ⟨fun _ => rfl, fun _ => rfl, ?_, ?_⟩
  · intro xid absent
    cases absent
  · intro xid resolution
    constructor
    · intro resolved
      cases resolved
    · intro absent
      cases absent

section

variable {state next : Threaded κ} {history seen : List (Effect κ)}

lemma nodup_issued_before (distinct : (issued (history ++ seen)).Nodup) :
    (issued history).Nodup := by
  rw [issued_append] at distinct
  exact (List.nodup_append.mp distinct).1

lemma nodup_registered_before (distinct : (registered (history ++ seen)).Nodup) :
    (registered history).Nodup := by
  rw [registered_append] at distinct
  exact (List.nodup_append.mp distinct).1

lemma Placed.count_eq_zero_iff (placed : Placed state history) (xid : Int64) :
    ((resolutions history).map Prod.fst).count xid = 0 ↔
      state.client.resolution? xid = none := by
  rw [List.count_eq_zero, Option.eq_none_iff_forall_ne_some]
  constructor
  · intro absent resolution resolved
    exact absent (List.mem_map_of_mem ((placed.outcomes xid resolution).mp resolved))
  · intro unresolved among
    obtain ⟨entry, recorded, rfl⟩ := List.mem_map.mp among
    exact unresolved entry.2 ((placed.outcomes entry.1 entry.2).mpr recorded)

/-- What is in one place is in no other. -/
lemma Placed.once (placed : Placed state history) (distinct : (issued history).Nodup)
    (xid : Int64) :
    (state.drafts.map Draft.xid).count xid + (state.client.pending.map PendingCall.xid).count xid +
      (state.taken.map (·.1.xid)).count xid +
        ((resolutions history).map Prod.fst).count xid ≤ 1 := by
  have one := List.nodup_iff_count_le_one.mp distinct xid
  have drafts := placed.drafts xid
  have places := placed.places xid
  omega

lemma Placed.nodup_pending (placed : Placed state history)
    (distinct : (issued history).Nodup) :
    (state.client.pending.map PendingCall.xid).Nodup := by
  refine List.nodup_iff_count_le_one.mpr fun xid => ?_
  have once := placed.once distinct xid
  omega

lemma Placed.unresolved (placed : Placed state history)
    (distinct : (issued history).Nodup) {xid : Int64}
    (elsewhere : 0 < (state.drafts.map Draft.xid).count xid +
      (state.client.pending.map PendingCall.xid).count xid +
      (state.taken.map (·.1.xid)).count xid) :
    state.client.resolution? xid = none := by
  have once := placed.once distinct xid
  rw [← placed.count_eq_zero_iff]
  omega

lemma count_taken_pos {n : Nat} {call : PendingCall} {ending : Ending}
    (here : state.taken[n]? = some (call, ending)) :
    0 < (state.taken.map (·.1.xid)).count call.xid :=
  List.count_pos_iff.mpr (List.mem_map_of_mem (f := (·.1.xid)) (List.mem_of_getElem? here))

/-- A call that is taken out of the table was there, and nothing else goes. -/
lemma perm_filter_xid {pending : List PendingCall} {xid : Int64} {call : PendingCall}
    (found : pending.find? (·.xid = xid) = some call)
    (once : (pending.map PendingCall.xid).count xid ≤ 1) :
    pending.Perm (call :: pending.filter (·.xid ≠ xid)) := by
  obtain ⟨hit, before, after, all, sooner⟩ := List.find?_eq_some_iff_append.mp found
  have same : call.xid = xid := by simpa using hit
  have later : ∀ other ∈ after, other.xid ≠ xid := by
    intro other among again
    have positive := List.count_pos_iff.mpr (List.mem_map_of_mem (f := PendingCall.xid) among)
    rw [all, List.map_append, List.map_cons, List.count_append, same, List.count_cons_self] at once
    rw [again] at positive
    omega
  have kept : pending.filter (·.xid ≠ xid) = before ++ after := by
    rw [all, List.filter_append, List.filter_cons_of_neg (by simpa using same),
      List.filter_eq_self.mpr (by simpa using sooner),
      List.filter_eq_self.mpr (by simpa using later)]
  rw [kept, all]
  exact List.perm_middle

lemma perm_removePending {client : Client κ} {xid : Int64} {call : PendingCall}
    (found : client.pendingCall? xid = some call)
    (once : (client.pending.map PendingCall.xid).count xid ≤ 1) :
    client.pending.Perm (call :: (client.removePending xid).pending) :=
  perm_filter_xid found once

/-- A call goes from one place to another, and none is resolved. -/
lemma Placed.move (placed : Placed state history) {moved : List Int64}
    (silent : issued seen = [] ∧ resolutions seen = []) (moves : entered seen = moved)
    (same : SameOutcomes state.client next.client)
    (drafts : ∀ xid, (state.drafts.map Draft.xid).count xid =
      (next.drafts.map Draft.xid).count xid + moved.count xid)
    (places : ∀ xid, (state.client.pending.map PendingCall.xid).count xid +
          (state.taken.map (·.1.xid)).count xid + moved.count xid =
      (next.client.pending.map PendingCall.xid).count xid +
        (next.taken.map (·.1.xid)).count xid) : Placed next (history ++ seen) := by
  refine ⟨?_, ?_, ?_, ?_⟩
  · intro xid
    rw [issued_append, entered_append, silent.1, moves, List.append_nil, List.count_append,
      placed.drafts, drafts]
    omega
  · intro xid
    rw [entered_append, resolutions_append, silent.2, moves, List.append_nil, List.count_append,
      placed.places, ← places]
    omega
  · intro xid given
    rw [issued_append, silent.1, List.append_nil] at given
    rw [same.slots]
    exact placed.slots xid given
  · intro xid resolution
    rw [resolutions_append, silent.2, List.append_nil, ← placed.outcomes, same.outcomes]

/-- The tables have changed in nothing that tells where a call is. -/
lemma Placed.still (placed : Placed state history)
    (silent : issued seen = [] ∧ resolutions seen = []) (stays : entered seen = [])
    (same : SameOutcomes state.client next.client)
    (drafts : next.drafts.map Draft.xid = state.drafts.map Draft.xid)
    (pending : next.client.pending = state.client.pending) (taken : next.taken = state.taken) :
    Placed next (history ++ seen) := by
  refine placed.move silent stays same ?_ ?_
  · intro xid
    rw [drafts, List.count_nil, Nat.add_zero]
  · intro xid
    rw [pending, taken, List.count_nil, Nat.add_zero]

lemma Placed.issues (placed : Placed state history) (types : List Ty) {draft : Draft κ}
    (xid : draft.xid = state.client.nextXid)
    (distinct : (issued (history ++ [.issued state.client.nextXid])).Nodup) :
    Placed ⟨state.client.openSlot types, state.drafts ++ [draft], state.taken⟩
      (history ++ [.issued state.client.nextXid]) := by
  have longer : issued (history ++ [.issued state.client.nextXid]) =
      issued history ++ [state.client.nextXid] := issued_append _ _
  have same : entered (history ++ [.issued state.client.nextXid]) = entered history := by
    rw [entered_append]
    exact List.append_nil _
  have same' : resolutions (history ++ [.issued state.client.nextXid]) = resolutions history := by
    rw [resolutions_append]
    exact List.append_nil _
  rw [longer] at distinct
  have fresh : state.client.nextXid ∉ issued history := by
    intro given
    exact (List.nodup_append.mp distinct).2.2 _ given _ (List.mem_singleton_self _) rfl
  refine ⟨?_, ?_, ?_, ?_⟩
  · intro other
    have before := placed.drafts other
    rw [longer, same, List.map_append, List.map_singleton, xid, List.count_append,
      List.count_append]
    omega
  · intro other
    rw [same, same']
    exact placed.places other
  · intro other given
    rw [longer, List.mem_append, List.mem_singleton] at given
    rw [Client.future?_openSlot]
    by_cases hit : other = state.client.nextXid
    · rw [if_pos hit]
      rfl
    · rw [if_neg hit]
      exact placed.slots other (given.resolve_right hit)
  · intro other resolution
    rw [same', ← placed.outcomes]
    unfold Client.resolution?
    rw [Client.future?_openSlot]
    by_cases hit : other = state.client.nextXid
    · -- a call that was resolved had been issued
      have absent := List.count_eq_zero.mpr (hit ▸ fresh)
      have drafts := placed.drafts other
      have places := placed.places other
      have before := (placed.count_eq_zero_iff other).mp (by omega)
      unfold Client.resolution? at before
      rw [if_pos hit, before]
      rfl
    · rw [if_neg hit]

lemma Placed.unresolved_of_taken (placed : Placed state history)
    (distinct : (issued history).Nodup) {n : Nat} {call : PendingCall} {ending : Ending}
    (here : state.taken[n]? = some (call, ending)) :
    state.client.resolution? call.xid = none := by
  have positive := count_taken_pos here
  exact placed.unresolved distinct (by omega)

/-- A call in the hands of a thread is resolved by it, and no other one is. -/
lemma Placed.resolution?_conclude (placed : Placed state history)
    (distinct : (issued history).Nodup) {n : Nat} {call : PendingCall} {ending : Ending}
    (here : state.taken[n]? = some (call, ending)) (xid : Int64) :
    (state.client.conclude call ending).1.resolution? xid =
      if xid = call.xid then some ending.resolution else state.client.resolution? xid := by
  have before := placed.unresolved_of_taken distinct here
  have slot : (state.client.future? call.xid).isSome := by
    refine placed.slots _ (List.count_pos_iff.mp ?_)
    have positive := count_taken_pos here
    have drafts := placed.drafts call.xid
    have places := placed.places call.xid
    omega
  have outcome := state.client.resolution?_resolve call.xid ending.status ending.payload xid
  simp only [slot, before, and_self, and_true] at outcome
  rw [(SameOutcomes.of_futures (state.client.conclude_futures call ending)).outcomes, outcome]
  rfl

lemma Placed.concludes (placed : Placed state history) (distinct : (issued history).Nodup)
    {n : Nat} {call : PendingCall} {ending : Ending}
    (here : state.taken[n]? = some (call, ending)) :
    Placed ⟨(state.client.conclude call ending).1, state.drafts, state.taken.eraseIdx n⟩
      (history ++ .resolved call.xid ending.resolution ::
        ranFor call (state.client.conclude call ending).2) := by
  have none_issued : issued (.resolved call.xid ending.resolution ::
      ranFor call (state.client.conclude call ending).2) = [] :=
    filterMap_ranFor (fun _ _ _ => rfl) _ _
  have none_entered : entered (.resolved call.xid ending.resolution ::
      ranFor call (state.client.conclude call ending).2) = [] :=
    filterMap_ranFor (fun _ _ _ => rfl) _ _
  have one_resolved : resolutions (.resolved call.xid ending.resolution ::
      ranFor call (state.client.conclude call ending).2) = [(call.xid, ending.resolution)] :=
    congrArg _ (filterMap_ranFor (fun _ _ _ => rfl) _ _)
  refine ⟨?_, ?_, ?_, ?_⟩
  · intro xid
    rw [issued_append, entered_append, none_issued, none_entered, List.append_nil, List.append_nil]
    exact placed.drafts xid
  · intro xid
    -- the call leaves the hands of its thread and joins the resolved ones, in the same step
    have before := placed.places xid
    have gone := count_map_eraseIdx here (fun entry => entry.1.xid) xid
    have same := (state.client.conclude_tables call ending).pending
    rw [entered_append, resolutions_append, none_entered, one_resolved, List.append_nil,
      List.map_append, List.count_append, List.map_singleton]
    dsimp only at gone ⊢
    rw [same]
    omega
  · intro xid given
    rw [issued_append, none_issued, List.append_nil] at given
    have slot := placed.slots xid given
    have same := SameOutcomes.of_futures (state.client.conclude_futures call ending)
    rw [same.slots]
    exact (state.client.isSome_future?_updateFuture call.xid _ xid).trans slot
  · intro xid resolution
    rw [placed.resolution?_conclude distinct here, resolutions_append, one_resolved,
      List.mem_append, List.mem_singleton, Prod.mk.injEq, ← placed.outcomes]
    split
    · rename_i hit
      rw [hit, placed.unresolved_of_taken distinct here, Option.some.injEq]
      simp [eq_comm]
    · rename_i apart
      simp [apart]

/-- A thread takes a call out of the table. -/
lemma Placed.takesOut (placed : Placed state history) (distinct : (issued history).Nodup)
    {xid : Int64} {call : PendingCall} (found : state.client.pendingCall? xid = some call)
    (ending : Ending) (silent : issued seen = [] ∧ resolutions seen = [])
    (stays : entered seen = []) :
    Placed
      ⟨state.client.removePending xid, state.drafts, state.taken ++ [(call, ending)]⟩
      (history ++ seen) := by
  have one := placed.once distinct xid
  have once : (state.client.pending.map PendingCall.xid).count xid ≤ 1 := by omega
  refine placed.move silent stays (.of_futures rfl) (fun _ => rfl) ?_
  intro other
  have gone := ((perm_removePending found once).map PendingCall.xid).count_eq other
  rw [List.map_cons, ← List.singleton_append, List.count_append] at gone
  have more := count_map_concat state.taken (call, ending) (·.1.xid) other
  dsimp only [List.count_nil] at more ⊢
  omega

lemma Placed.acts (placed : Placed state history) (acts : Acts state next seen)
    (distinct : (issued (history ++ seen)).Nodup) : Placed next (history ++ seen) := by
  have distinct' := nodup_issued_before distinct
  cases acts with
  -- nothing moves: no call changes its place
  | nothing | refuses | stops | clears =>
    exact placed.still ⟨rfl, rfl⟩ rfl (.of_futures rfl) rfl rfl rfl
  | takes here => exact placed.still ⟨rfl, rfl⟩ rfl (sameOutcomes_takeReply here) rfl rfl rfl
  | issues types xid id => exact placed.issues types xid distinct
  | registers here =>
    exact placed.still ⟨rfl, rfl⟩ rfl (.of_futures rfl) (map_set_same here rfl) rfl rfl
  | @admits n draft here isOpen =>
    have moves : entered [(.entered draft.xid : Effect κ), .transmit draft.frame] =
        [draft.xid] := rfl
    refine placed.move ⟨rfl, rfl⟩ moves (.of_futures rfl) (count_map_eraseIdx here Draft.xid) ?_
    intro xid
    have more := count_map_concat state.client.pending ⟨draft.xid, draft.id⟩ PendingCall.xid xid
    dsimp only [Client.addPending] at more ⊢
    omega
  | @turnsAway n draft here shut =>
    have moves : entered [(.entered draft.xid : Effect κ)] = [draft.xid] := rfl
    refine placed.move ⟨rfl, rfl⟩ moves (.of_futures rfl) (count_map_eraseIdx here Draft.xid) ?_
    intro xid
    have more := count_map_concat state.taken
      (⟨draft.xid, draft.id⟩, .unsent Status.notConnected) (·.1.xid) xid
    dsimp only at more ⊢
    omega
  | answers found | givesUp lost found => exact placed.takesOut distinct' found _ ⟨rfl, rfl⟩ rfl
  -- what is drained goes from the table into the hands of the closing thread, all at once
  | @drains closing ending calls lost all closes =>
    have stays : entered ([] : List (Effect κ)) = [] := rfl
    refine placed.move ⟨rfl, rfl⟩ stays (.of_futures rfl) (fun _ => rfl) ?_
    intro xid
    have same := (all.map PendingCall.xid).count_eq xid
    have xids : (calls.map (·, ending)).map (·.1.xid) = calls.map PendingCall.xid := List.map_map
    rw [List.map_append, List.count_append, xids, List.map_nil, List.count_nil, same]
    omega
  | concludes here => exact placed.concludes distinct' here
  | delivers queue =>
    refine placed.still ⟨?_, ?_⟩ ?_ (.of_futures ?_) rfl ?_ rfl
    · exact filterMap_ran (fun _ _ _ => rfl) _ _ _
    · exact filterMap_ran (fun _ _ _ => rfl) _ _ _
    · exact filterMap_ran (fun _ _ _ => rfl) _ _ _
    · rw [Client.runCallback_eq]
      rfl
    · rw [Client.runCallback_eq]
      rfl

/-- A call that is resolved stays so. -/
lemma Placed.stays (placed : Placed state history) (placed' : Placed next (history ++ seen))
    {xid : Int64} {resolution : Resolution}
    (resolved : state.client.resolution? xid = some resolution) :
    next.client.resolution? xid = some resolution := by
  rw [placed'.outcomes, resolutions_append]
  exact List.mem_append_left _ ((placed.outcomes xid resolution).mp resolved)

/-- What every action keeps, while every call is in one place, every run keeps, until a transaction
ID is given a second time. -/
theorem Placed.run_keeps {Inv : Threaded κ → List (Effect κ) → Prop}
    (keeps : ∀ {state next : Threaded κ} {history seen : List (Effect κ)},
      Placed state history → Placed next (history ++ seen) → (issued history).Nodup →
        Acts state next seen → Inv state history → Inv next (history ++ seen))
    (placed : Placed state history) (holds : Inv state history) (events : List (Event κ))
    (distinct : (issued (history ++ (state.run events).2)).Nodup) :
    Placed (state.run events).1 (history ++ (state.run events).2) ∧
      Inv (state.run events).1 (history ++ (state.run events).2) := by
  induction events generalizing state history with
  | nil =>
    unfold Threaded.run
    rw [Machine.run_nil, List.append_nil]
    exact ⟨placed, holds⟩
  | cons event rest ih =>
    unfold Threaded.run at distinct ⊢
    rw [Machine.run_cons, ← List.append_assoc] at distinct ⊢
    have acts := acts_step state event
    have sooner := nodup_issued_before distinct
    have placed' := placed.acts acts sooner
    exact ih placed' (keeps placed placed' (nodup_issued_before sooner) acts holds) distinct

end

/-! ## Runs of a client on a new connection -/

lemma few_before {start : Threaded κ} {before after : List (Event κ)} {n : Nat}
    (few : (issued (start.run (before ++ after)).2).length ≤ n) :
    (issued (start.run before).2).length ≤ n := by
  rw [run_append, issued_append, List.length_append] at few
  omega

section

variable (registry : Registry) (maxPayload : UInt32) (events : List (Event κ))

theorem nodup_issued
    (few : (issued ((connected registry maxPayload).run events).2).length ≤ 2 ^ 64) :
    (issued ((connected registry maxPayload).run events).2).Nodup :=
  ((numbered_connected registry maxPayload).run events).nodup_issued few

/-- No more callbacks are registered than calls are issued, so no ID is given twice before all
transaction IDs have been given. -/
lemma nodup_registered
    (few : (issued ((connected registry maxPayload).run events).2).length ≤ 2 ^ 64) :
    (registered ((connected registry maxPayload).run events).2).Nodup := by
  have most := registered_length_run (connected registry maxPayload) events
  have none : (connected registry maxPayload : Threaded κ).drafts.countP (·.callback.isSome) = 0 :=
    rfl
  have few' : (registered ((connected registry maxPayload).run events).2).length ≤ 2 ^ 64 := by
    omega
  exact ((numbered_connected registry maxPayload).run events).nodup_registered few'

theorem placed_run
    (few : (issued ((connected registry maxPayload).run events).2).length ≤ 2 ^ 64) :
    Placed ((connected registry maxPayload).run events).1
      ((connected registry maxPayload).run events).2 := by
  have keeps : ∀ {state next : Threaded κ} {history seen : List (Effect κ)},
      Placed state history → Placed next (history ++ seen) → (issued history).Nodup →
        Acts state next seen → True → True := fun _ _ _ _ _ => trivial
  have distinct := nodup_issued registry maxPayload events few
  exact ((placed_connected registry maxPayload).run_keeps keeps trivial events distinct).1

end

end Threaded

end RemoteCall
