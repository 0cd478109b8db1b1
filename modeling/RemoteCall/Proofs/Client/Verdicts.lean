import RemoteCall.Proofs.Client.Outstanding

/-!
# How calls end that lose their connection

A connection goes down at some moment, and the calls of its client are anywhere then.  Each of them
has a `verdict`: the outcome that it has, or that the thread is going to give it that has it in its
hands; a call of the table is lost with the connection, and one that does not yet belong to the
table comes too late.  Whatever the threads do afterwards, this is how the calls end, and no call
comes to the table any more (`reset_run`).

A verdict is a function of the state at that moment, so it can be compared with what becomes of a
call later.  There are four places where a call can be, and the proof follows each.  An outcome
stays.  A thread that has a call in its hands resolves it as it has meant to, unless the run ends
before (`Decided`).  The calls of the table are taken out by the loss of the connection itself, and
become calls in the hands of a thread.  A call that is being issued is refused (`Refused.resolved`),
and so is every later one.

A connection goes down once.  A client that is closed has no connection (`failed_step`), and to
disconnect it again changes nothing (`drain_of_shut`).

## Main statements

* `reset_run` — a connection that goes down resets the calls of its table.
* `drain_of_shut` — to disconnect a client again changes nothing.
-/

namespace RemoteCall

namespace Threaded

variable {κ : Type}

/-! ## Outcomes -/

/-- How a call ends whose connection goes down in this state: as it has ended, or as the thread
means to end it that has taken it out of the table.  A call in the table is lost with the
connection, and one that is not there yet comes too late. -/
def verdict (state : Threaded κ) (xid : Int64) : Resolution :=
  match state.client.resolution? xid, state.taken.find? (·.1.xid = xid) with
  | some resolution, _ => resolution
  | none, some (_, ending) => ending.resolution
  | none, none =>
    if xid ∈ state.client.pending.map PendingCall.xid then ⟨Status.connectionReset, none⟩
    else .refusal

/-- The connection has gone down in one state, and this is a later one. -/
structure Reset (state final : Threaded κ) (history : List (Effect κ)) : Prop where
  /-- No call is in the table, and none can be made. -/
  pending : final.client.pending = []
  disconnected : final.client.isConnected = false
  /-- Every call that no thread is at work on is resolved. -/
  outcomes : ∀ xid ∈ issued history, xid ∉ final.drafts.map Draft.xid →
    xid ∉ final.taken.map (·.1.xid) →
      final.client.resolution? xid = some (state.verdict xid)
  /-- The calls in the hands of threads are resolved when the threads go on. -/
  finishes : (final.run (List.replicate final.taken.length (.conclude 0))).1.taken = []

lemma concluded_run (state : Threaded κ) :
    (state.run (List.replicate state.taken.length (.conclude 0))).1.taken = [] := by
  generalize count : state.taken.length = n
  induction n generalizing state with
  | zero => exact List.eq_nil_of_length_eq_zero count
  | succ n ih =>
    obtain ⟨⟨call, ending⟩, rest, taken⟩ := List.exists_cons_of_length_eq_add_one count
    have next : (state.step (.conclude 0)).1.taken = rest := by
      unfold step conclude
      rw [taken]
      rfl
    have fewer : (state.step (.conclude 0)).1.taken.length = n := by
      rw [next]
      rw [taken] at count
      exact Nat.succ.inj count
    exact ih _ fewer

section

variable {state : Threaded κ} {history : List (Effect κ)}

lemma Placed.run (placed : Placed state history) {events : List (Event κ)}
    (distinct : (issued (history ++ (state.run events).2)).Nodup) :
    Placed (state.run events).1 (history ++ (state.run events).2) := by
  have keeps : ∀ {state next : Threaded κ} {history seen : List (Effect κ)},
      Placed state history → Placed next (history ++ seen) → (issued history).Nodup →
        Acts state next seen → True → True := fun _ _ _ _ _ => trivial
  exact (placed.run_keeps keeps trivial events distinct).1

/-- A thread has a call in its hands, or the call was resolved as the thread has meant to. -/
def Decided (state : Threaded κ) (entry : PendingCall × Ending) : Prop :=
  entry ∈ state.taken ∨ state.client.resolution? entry.1.xid = some entry.2.resolution

lemma Placed.decided_run (placed : Placed state history) {entry : PendingCall × Ending}
    (taken : entry ∈ state.taken) {events : List (Event κ)}
    (distinct : (issued (history ++ (state.run events).2)).Nodup)
    (released : entry.1.xid ∉ (state.run events).1.taken.map (·.1.xid)) :
    (state.run events).1.client.resolution? entry.1.xid = some entry.2.resolution := by
  have keeps : ∀ {state next : Threaded κ} {history seen : List (Effect κ)},
      Placed state history → Placed next (history ++ seen) → (issued history).Nodup →
        Acts state next seen → Decided state entry → Decided next entry := by
    intro state next history seen placed placed' distinct acts decided
    rcases decided with taken | resolved
    · exact acts.decided placed distinct taken
    · exact Or.inr (placed.stays placed' resolved)
  have decided := (placed.run_keeps keeps (Or.inl taken) events distinct).2
  exact decided.resolve_left fun held => released (List.mem_map_of_mem held)

/-- A call that is not in the table, in nobody's hands and not resolved is being issued. -/
lemma Placed.draft_of_issued (placed : Placed state history) {xid : Int64}
    (given : xid ∈ issued history) (absent : xid ∉ state.client.pending.map PendingCall.xid)
    (free : xid ∉ state.taken.map (·.1.xid)) (unresolved : state.client.resolution? xid = none) :
    xid ∈ state.drafts.map Draft.xid := by
  have drafts := placed.drafts xid
  have places := placed.places xid
  rw [List.count_eq_zero.mpr absent, List.count_eq_zero.mpr free,
    (placed.count_eq_zero_iff xid).mpr unresolved] at places
  have once := List.count_pos_iff.mpr given
  rw [← List.count_pos_iff]
  omega

lemma Refused.resolved {xid : Int64} (refused : Refused state xid)
    (draft : xid ∉ state.drafts.map Draft.xid) (free : xid ∉ state.taken.map (·.1.xid)) :
    state.client.resolution? xid = some .refusal := by
  rcases refused with issuing | ⟨entry, taken, rfl, -⟩ | resolved
  · exact (draft issuing).elim
  · exact (free (List.mem_map_of_mem taken)).elim
  · exact resolved

/-- When the connection goes down, every call ends as its verdict says. -/
lemma Placed.lost (placed : Placed state history) {after : List (Event κ)}
    (distinct : (issued (history ++ (state.run (.connectionLost :: after)).2)).Nodup) {xid : Int64}
    (given : xid ∈ issued (history ++ (state.run (.connectionLost :: after)).2))
    (draft : xid ∉ (state.run (.connectionLost :: after)).1.drafts.map Draft.xid)
    (taken : xid ∉ (state.run (.connectionLost :: after)).1.taken.map (·.1.xid)) :
    (state.run (.connectionLost :: after)).1.client.resolution? xid = some (state.verdict xid) := by
  -- the calls of the table are in the hands of the reader now
  have placed' : Placed (state.drain Status.connectionReset .reader) history := by
    have acts := acts_step state .connectionLost
    have before : issued (history ++ (state.step .connectionLost).2) = issued history :=
      congrArg issued (List.append_nil history)
    exact List.append_nil history ▸ placed.acts acts (before ▸ nodup_issued_before distinct)
  unfold verdict
  cases resolved : state.client.resolution? xid with
  | some resolution => exact placed.stays (placed.run distinct) resolved
  | none =>
    cases found : state.taken.find? (·.1.xid = xid) with
    | some entry =>
      have hit : entry.1.xid = xid := by simpa using List.find?_some found
      subst hit
      exact placed.decided_run (List.mem_of_find?_eq_some found) distinct taken
    | none =>
      have free : xid ∉ state.taken.map (·.1.xid) := by
        intro held
        obtain ⟨entry, among, same⟩ := List.mem_map.mp held
        exact List.find?_eq_none.mp found entry among (decide_eq_true same)
      dsimp only
      by_cases present : xid ∈ state.client.pending.map PendingCall.xid
      · rw [if_pos present]
        obtain ⟨call, among, rfl⟩ := List.mem_map.mp present
        have held : (call, Ending.settled Status.connectionReset none .reader) ∈
            (state.drain Status.connectionReset .reader).taken :=
          List.mem_append_right _ (List.mem_map_of_mem (List.mem_mergeSort.mpr among))
        exact placed'.decided_run held distinct taken
      · rw [if_neg present]
        have shut : (state.drain Status.connectionReset .reader).client.isOpen = false := rfl
        have refused : Refused (state.run (.connectionLost :: after)).1 xid := by
          rw [issued_append, List.mem_append] at given
          rcases given with before | later
          · have draft := placed.draft_of_issued before present free resolved
            exact placed'.refused_run shut (Or.inl draft) after distinct
          · exact placed'.refused_of_issued shut distinct later
        exact refused.resolved draft taken

end

/-- A connection that goes down resets the calls of its table. -/
theorem reset_run {registry : Registry} {maxPayload : UInt32} {before after : List (Event κ)}
    (few : (issued ((connected registry maxPayload).run
      (before ++ .connectionLost :: after)).2).length ≤ 2 ^ 64) :
    Reset ((connected registry maxPayload).run before).1
      ((connected registry maxPayload).run (before ++ .connectionLost :: after)).1
      ((connected registry maxPayload).run (before ++ .connectionLost :: after)).2 := by
  have isOpen : ((connected registry maxPayload).run
      (before ++ .connectionLost :: after)).1.client.isOpen = false := by
    rw [run_append]
    have shut : (((connected registry maxPayload).run before).1.step
        .connectionLost).1.client.isOpen = false := rfl
    exact shut_run shut after
  have pending := drained_run (fun _ => rfl) (before ++ .connectionLost :: after) isOpen
  have placed := placed_run registry maxPayload before (few_before few)
  have distinct := nodup_issued registry maxPayload _ few
  refine ⟨pending, ?_, ?_, concluded_run _⟩
  · unfold Client.isConnected
    rw [isOpen]
    rfl
  · rw [run_append] at distinct ⊢
    exact fun xid given draft taken => placed.lost distinct given draft taken

section

variable {state : Threaded κ}

/-! ## Clients without a connection -/

/-- To disconnect a client that was disconnected before changes nothing. -/
theorem drain_of_shut (shut : state.client.isOpen = false) (empty : state.client.pending = [])
    (status : Status) (runner : Runner) : state.drain status runner = state := by
  obtain ⟨client, drafts, taken⟩ := state
  cases client
  cases shut
  cases empty
  unfold drain
  simp

/-- Only the thread that closes the client takes closing on. -/
lemma closing_step {event : Event κ} (other : event ≠ .closeNext) :
    (state.step event).1.client.closing = state.client.closing := by
  cases event with
  | closeNext => exact (other rfl).elim
  | issue | register | deliver | takeReply => exact (state.sameCalls_step rfl).closing
  | enter n =>
    show (state.enter n).1.client.closing = _
    unfold enter
    split
    · split <;> rfl
    · rfl
  | sendFailed | abandon | receive =>
    show (state.takeOut _ _).client.closing = _
    unfold takeOut
    split <;> rfl
  | connectionLost => rfl
  | conclude n =>
    show (state.conclude n).1.client.closing = _
    unfold conclude
    split
    · rfl
    · exact (state.client.conclude_tables _ _).closing

/-- The table is closed once the calls were failed in closing. -/
def Failed (state : Threaded κ) : Prop :=
  state.client.closing = .callsFailed ∨ state.client.closing = .closed →
    state.client.isOpen = false

theorem failed_step (failed : state.Failed) (event : Event κ) : (state.step event).1.Failed := by
  have shuts : state.client.isOpen = false → (state.step event).1.client.isOpen = false :=
    (acts_step state event).shut
  by_cases closes : event = .closeNext
  · subst closes
    show state.closeNext.Failed
    unfold closeNext
    split
    · exact fun later => by rcases later with later | later <;> cases later
    · exact fun _ => rfl
    · rename_i before
      exact fun _ => failed (Or.inl before)
    · exact failed
  · rw [Failed, closing_step closes]
    exact fun later => shuts (failed later)

end

end Threaded

end RemoteCall
