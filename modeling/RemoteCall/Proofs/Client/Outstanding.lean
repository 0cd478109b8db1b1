import Mathlib
import RemoteCall.Proofs.Client.Accounts

/-!
# No call is lost

The calls in the table are those that are not resolved and in nobody's hands.  So a call can only be
lost if it stays in the table for ever; but once the table is closed it is empty, and no call comes
in any more (`Acts.shut`, `Acts.drained`).  A call that comes too late is resolved by the thread
that issues it, before this thread is done (`Refused`).  `calls_accounted` says all this of every
run.

## The proof

Where a call is, is known from `Placed`, by counting.  That the table is closed for good, and empty
when it is closed, is seen on each action by itself.  What remains are the calls that overlap with
the closing of the table.  Such a call has its transaction ID and perhaps its callback, but has not
come to the table.  It is followed through the run as `Refused`: it is being issued, or its thread
was turned away and has it in its hands, or it is resolved without a connection.  Each action takes
it one place on or leaves it (`Acts.refused`), and it cannot get back to the table.

Everything is stated up to the order of calls.  The table keeps no order that a caller could rely
on.

## Main statements

* `Acts.shut`, `Acts.drained` — a table that is closed stays closed, and is empty.
* `calls_accounted` — what becomes of the calls of a client in every run.
-/

namespace RemoteCall

/-- The resolution of a call that is issued without a connection. -/
def Resolution.refusal : Resolution := ⟨Status.notConnected, none⟩

namespace Client

variable {κ : Type}

/-- A call that fails before it is sent is resolved at once. -/
lemma resolution?_failLocally {client : Client κ} {xid : Int64} {types : List Ty}
    (slot : client.future? xid = some (.unresolved types)) (id : Option UInt64)
    (status : Status) :
    (client.failLocally ⟨xid, id⟩ status).1.resolution? xid = some ⟨status, none⟩ := by
  have same := Threaded.SameOutcomes.of_futures (client.conclude_futures ⟨xid, id⟩ (.unsent status))
  have before : client.resolution? xid = none := by
    unfold resolution?
    rw [slot]
    rfl
  have outcome := client.resolution?_resolve xid status none xid
  rw [slot, before, if_pos ⟨rfl, rfl, rfl⟩] at outcome
  exact (same.outcomes xid).trans outcome

/-- Without a connection, a call is resolved before the operation that issues it is over. -/
lemma resolution?_issue_of_shut {client : Client κ} (shut : client.isOpen = false)
    {request : Request} {arguments : Bytes}
    (encoded : request.encode client.registry client.maxPayload = .ok arguments)
    (callback : Option κ) :
    (client.issue request callback).1.resolution? client.nextXid = some .refusal := by
  have shut' : ¬ client.isOpen = true := by simp [shut]
  have slot := client.future?_openSlot request.resultTypes client.nextXid
  rw [if_pos rfl] at slot
  rw [Threaded.issue_eq encoded]
  cases callback with
  | none =>
    show (if client.isOpen then _ else _ : Client κ × List (Effect κ)).1.resolution? _ = _
    rw [if_neg shut']
    exact resolution?_failLocally slot _ _
  | some callback =>
    have slot' : ((client.openSlot request.resultTypes).addCallback callback).future?
        client.nextXid = some (.unresolved request.resultTypes) := slot
    show (if client.isOpen then _ else _ : Client κ × List (Effect κ)).1.resolution? _ = _
    rw [if_neg shut']
    exact resolution?_failLocally slot' _ _

end Client

namespace Threaded

variable {κ : Type}

section

variable {state next : Threaded κ} {history seen : List (Effect κ)}

/-! ## The table -/

/-- Once the table is closed, it stays closed. -/
theorem Acts.shut (acts : Acts state next seen) (shut : state.client.isOpen = false) :
    next.client.isOpen = false := by
  cases acts with
  | nothing | refuses | issues | registers | turnsAway | answers | givesUp | takes | stops
    | clears => exact shut
  | admits here isOpen =>
    rw [shut] at isOpen
    cases isOpen
  | drains => rfl
  | @concludes n call ending here =>
    exact (state.client.conclude_tables call ending).isOpen.trans shut
  | delivers queue =>
    dsimp only
    rw [Client.runCallback_eq]
    exact shut

/-- A table that is closed is empty. -/
theorem Acts.drained (acts : Acts state next seen)
    (drained : state.client.isOpen = false → state.client.pending = [])
    (shut : next.client.isOpen = false) : next.client.pending = [] := by
  cases acts with
  | nothing | refuses | issues | registers | turnsAway | takes | stops | clears =>
    exact drained shut
  | admits here isOpen =>
    rw [show state.client.isOpen = false from shut] at isOpen
    cases isOpen
  | answers found | givesUp lost found =>
    dsimp only [Client.removePending]
    rw [drained shut]
    rfl
  | drains => rfl
  | @concludes n call ending here =>
    have same := state.client.conclude_tables call ending
    dsimp only at shut ⊢
    rw [same.pending]
    rw [same.isOpen] at shut
    exact drained shut
  | delivers queue =>
    dsimp only at shut ⊢
    rw [Client.runCallback_eq] at shut ⊢
    exact drained shut

lemma shut_run (shut : state.client.isOpen = false) (events : List (Event κ)) :
    (state.run events).1.client.isOpen = false := by
  have keeps : ∀ (state : Threaded κ) (event : Event κ), state.client.isOpen = false →
      (state.step event).1.client.isOpen = false :=
    fun state event => (acts_step state event).shut
  exact Machine.run_invariant keeps shut events

lemma drained_run (drained : state.client.isOpen = false → state.client.pending = [])
    (events : List (Event κ)) (shut : (state.run events).1.client.isOpen = false) :
    (state.run events).1.client.pending = [] := by
  have keeps : ∀ (state : Threaded κ) (event : Event κ),
      (state.client.isOpen = false → state.client.pending = []) →
        (state.step event).1.client.isOpen = false → (state.step event).1.client.pending = [] :=
    fun state event => (acts_step state event).drained
  exact Machine.run_invariant keeps drained events shut

/-- The calls in the table and in the hands of threads are those that are not resolved. -/
lemma Placed.perm_unresolved (placed : Placed state history) (distinct : (issued history).Nodup) :
    (state.client.pending.map PendingCall.xid ++ state.taken.map (·.1.xid)).Perm
      ((entered history).filter fun xid => (state.client.resolution? xid).isNone) := by
  rw [List.perm_iff_count]
  intro xid
  have once := placed.once distinct xid
  have places := placed.places xid
  have resolutions := placed.count_eq_zero_iff xid
  rw [List.count_append]
  cases outcome : state.client.resolution? xid with
  | none =>
    have kept : ((entered history).filter fun xid =>
        (state.client.resolution? xid).isNone).count xid = (entered history).count xid :=
      List.count_filter (by rw [outcome]; rfl)
    have never := resolutions.mpr outcome
    omega
  | some resolution =>
    have dropped : ((entered history).filter fun xid =>
        (state.client.resolution? xid).isNone).count xid = 0 := by
      rw [List.count_eq_zero, List.mem_filter, outcome]
      exact fun kept => Bool.noConfusion kept.2
    have already : ¬ ((Threaded.resolutions history).map Prod.fst).count xid = 0 := by
      rw [resolutions, outcome]
      exact Option.some_ne_none resolution
    omega

/-! ## Calls in the hands of threads -/

/-- A thread that has a call in its hands resolves it as it has meant to. -/
lemma Acts.decided (acts : Acts state next seen) (placed : Placed state history)
    (distinct : (issued history).Nodup) {entry : PendingCall × Ending}
    (taken : entry ∈ state.taken) :
    entry ∈ next.taken ∨ next.client.resolution? entry.1.xid = some entry.2.resolution := by
  cases acts with
  | nothing | refuses | issues | registers | admits | delivers | takes | stops | clears =>
    exact Or.inl taken
  | turnsAway | answers | givesUp | drains => exact Or.inl (List.mem_append_left _ taken)
  | @concludes n call ending here =>
    obtain ⟨m, there⟩ := List.getElem?_of_mem taken
    by_cases same : m = n
    · rw [same, here] at there
      cases there
      refine Or.inr ?_
      rw [placed.resolution?_conclude distinct here, if_pos rfl]
    · exact Or.inl (List.mem_eraseIdx_iff_getElem?.mpr ⟨m, same, there⟩)

/-- A call is being issued, or was turned away, or is resolved as such a call. -/
def Refused (state : Threaded κ) (xid : Int64) : Prop :=
  xid ∈ state.drafts.map Draft.xid ∨
    (∃ entry ∈ state.taken, entry.1.xid = xid ∧ entry.2.resolution = .refusal) ∨
    state.client.resolution? xid = some .refusal

/-- Without a connection, a call that is being issued is turned away. -/
lemma Acts.refused_of_draft (acts : Acts state next seen)
    (shut : state.client.isOpen = false) {xid : Int64}
    (draft : xid ∈ state.drafts.map Draft.xid) : Refused next xid := by
  cases acts with
  | nothing | refuses | answers | givesUp | drains | concludes | delivers | takes | stops
    | clears => exact Or.inl draft
  | issues =>
    refine Or.inl ?_
    rw [List.map_append]
    exact List.mem_append_left _ draft
  | registers here =>
    refine Or.inl ?_
    dsimp only
    rw [map_set_same here]
    · exact draft
    · rfl
  | admits here isOpen =>
    rw [shut] at isOpen
    cases isOpen
  | @turnsAway n left here closed =>
    obtain ⟨other, among, rfl⟩ := List.mem_map.mp draft
    obtain ⟨m, there⟩ := List.getElem?_of_mem among
    by_cases same : m = n
    · rw [same, here] at there
      cases there
      exact Or.inr (Or.inl ⟨_, List.mem_append_right _ (List.mem_singleton_self _), rfl, rfl⟩)
    · exact Or.inl (List.mem_map_of_mem (List.mem_eraseIdx_iff_getElem?.mpr ⟨m, same, there⟩))

lemma Acts.refused (acts : Acts state next seen) (placed : Placed state history)
    (placed' : Placed next (history ++ seen)) (distinct : (issued history).Nodup)
    (shut : state.client.isOpen = false) {xid : Int64} (refused : Refused state xid) :
    Refused next xid := by
  rcases refused with draft | ⟨entry, taken, rfl, outcome⟩ | resolved
  · exact acts.refused_of_draft shut draft
  · rcases acts.decided placed distinct taken with stays | resolved
    · exact Or.inr (Or.inl ⟨entry, stays, rfl, outcome⟩)
    · exact Or.inr (Or.inr (outcome ▸ resolved))
  · exact Or.inr (Or.inr (placed.stays placed' resolved))

/-- A call that is given its transaction ID is being issued. -/
lemma Acts.draft_of_issued (acts : Acts state next seen) {xid : Int64}
    (given : xid ∈ issued seen) : xid ∈ next.drafts.map Draft.xid := by
  cases acts with
  | nothing | refuses | registers | admits | turnsAway | answers | givesUp | drains | takes
    | stops | clears => cases given
  | issues types same id =>
    rw [List.mem_singleton.mp given, ← same, List.map_append]
    exact List.mem_append_right _ (List.mem_singleton_self _)
  | @concludes n call ending here =>
    have silent : issued (.resolved call.xid ending.resolution ::
        ranFor call (state.client.conclude call ending).2) = [] :=
      filterMap_ranFor (fun _ _ _ => rfl) _ _
    rw [silent] at given
    cases given
  | @delivers id other rest queue =>
    have silent : issued (ran id other
        ({ state.client with deliveries := rest }.runCallback id other .delivery).2) = [] :=
      filterMap_ran (fun _ _ _ => rfl) _ _ _
    rw [silent] at given
    cases given

end

/-! ## Runs -/

/-- What becomes of the calls of a client in a run. -/
structure Accounted (start : Threaded κ) (events : List (Event κ)) : Prop where
  /-- A call that has its transaction ID is being issued, or has gone to the table. -/
  issuing : (issued (start.run events).2).Perm
    ((start.run events).1.drafts.map Draft.xid ++ entered (start.run events).2)
  /-- The calls in the table and in the hands of threads are those that are not resolved. -/
  held : ((start.run events).1.client.pending.map PendingCall.xid ++
      (start.run events).1.taken.map (·.1.xid)).Perm
        ((entered (start.run events).2).filter fun xid =>
          ((start.run events).1.client.resolution? xid).isNone)
  /-- When no thread has calls in its hands, those in the table are those that are not resolved. -/
  table : (start.run events).1.taken = [] →
    ((start.run events).1.client.pending.map PendingCall.xid).Perm
        ((entered (start.run events).2).filter fun xid =>
          ((start.run events).1.client.resolution? xid).isNone) ∧
      (start.run events).1.client.pending.length =
        ((entered (start.run events).2).filter fun xid =>
          ((start.run events).1.client.resolution? xid).isNone).length
  /-- A table that was closed is closed and empty. -/
  shut : ∀ before after, events = before ++ after →
    (start.run before).1.client.isOpen = false →
      (start.run events).1.client.isOpen = false ∧ (start.run events).1.client.pending = []
  /-- Once the table is closed, every call that no thread is at work on is resolved. -/
  ready : (start.run events).1.client.isOpen = false →
    ∀ xid ∈ issued (start.run events).2, xid ∉ (start.run events).1.drafts.map Draft.xid →
      xid ∉ (start.run events).1.taken.map (·.1.xid) →
        ∃ future, (start.run events).1.client.future? xid = some future ∧ future.ready = true
  /-- A call that was being issued when the table was closed, or was issued later, is resolved as
  one without a connection by the thread that issues it. -/
  late : ∀ before after, events = before ++ after →
    (start.run before).1.client.isOpen = false →
      ∀ xid, xid ∈ (start.run before).1.drafts.map Draft.xid ∨
          xid ∈ issued ((start.run before).1.run after).2 →
        xid ∉ (start.run events).1.drafts.map Draft.xid →
          xid ∉ (start.run events).1.taken.map (·.1.xid) →
            (start.run events).1.client.resolution? xid = some .refusal
  /-- A thread that issues a call by itself once the table is closed resolves it. -/
  alone : (start.run events).1.client.isOpen = false →
    ∀ request arguments callback, Request.encode (start.run events).1.client.registry
        (start.run events).1.client.maxPayload request = .ok arguments →
      ((start.run events).1.client.issue request callback).1.resolution?
        (start.run events).1.client.nextXid = some .refusal

section

variable {state : Threaded κ} {history : List (Effect κ)}

lemma Placed.refused_run (placed : Placed state history) (shut : state.client.isOpen = false)
    {xid : Int64} (refused : Refused state xid) (events : List (Event κ))
    (distinct : (issued (history ++ (state.run events).2)).Nodup) :
    Refused (state.run events).1 xid := by
  have keeps : ∀ {state next : Threaded κ} {history seen : List (Effect κ)},
      Placed state history → Placed next (history ++ seen) → (issued history).Nodup →
        Acts state next seen → state.client.isOpen = false ∧ Refused state xid →
          next.client.isOpen = false ∧ Refused next xid := by
    rintro state next history seen placed placed' distinct acts ⟨shut, refused⟩
    exact ⟨acts.shut shut, acts.refused placed placed' distinct shut refused⟩
  exact (placed.run_keeps keeps ⟨shut, refused⟩ events distinct).2.2

/-- A call that was given its transaction ID without a connection is turned away. -/
lemma Placed.refused_of_issued (placed : Placed state history)
    (shut : state.client.isOpen = false) {xid : Int64} {events : List (Event κ)}
    (distinct : (issued (history ++ (state.run events).2)).Nodup)
    (given : xid ∈ issued (state.run events).2) : Refused (state.run events).1 xid := by
  induction events generalizing state history with
  | nil => cases given
  | cons event rest ih =>
    unfold run at distinct given ⊢
    rw [Machine.run_cons] at given ⊢
    rw [Machine.run_cons, ← List.append_assoc] at distinct
    have acts := acts_step state event
    have placed' := placed.acts acts (nodup_issued_before distinct)
    rw [issued_append, List.mem_append] at given
    rcases given with now | later
    · exact placed'.refused_run (acts.shut shut) (Or.inl (acts.draft_of_issued now)) rest distinct
    · exact ih placed' (acts.shut shut) distinct later

end

section

variable {registry : Registry} {maxPayload : UInt32} {events : List (Event κ)}

/-- In every run of a client, each call is in the table or resolved when no thread is at work on it,
and no call is left in the table once it is closed.  That holds until the counter of transaction IDs
has come round: a call that is given the ID of a pending one would take its place. -/
theorem calls_accounted
    (few : (issued ((connected registry maxPayload).run events).2).length ≤ 2 ^ 64) :
    Accounted (connected registry maxPayload) events := by
  have distinct := nodup_issued registry maxPayload events few
  have placed := placed_run registry maxPayload events few
  have drained : (connected registry maxPayload : Threaded κ).client.isOpen = false →
      (connected registry maxPayload : Threaded κ).client.pending = [] := fun _ => rfl
  constructor
  case issuing =>
    rw [List.perm_iff_count]
    intro xid
    rw [List.count_append]
    exact placed.drafts xid
  case held => exact placed.perm_unresolved distinct
  case table =>
    intro idle
    have perm := placed.perm_unresolved distinct
    rw [idle, List.map_nil, List.append_nil] at perm
    refine ⟨perm, ?_⟩
    rw [← perm.length_eq, List.length_map]
  case shut =>
    rintro before after rfl shut
    have later := shut_run shut after
    have all := run_append (connected registry maxPayload) before after
    rw [← congrArg Prod.fst all] at later
    exact ⟨later, drained_run drained _ later⟩
  -- A call that is in no thread's hands is in the table or resolved, and the table is empty.
  case ready =>
    intro shut xid given draft taken
    have empty := drained_run drained events shut
    have given' := List.count_pos_iff.mpr given
    have drafts := placed.drafts xid
    have places := placed.places xid
    rw [List.count_eq_zero.mpr draft] at drafts
    rw [empty, List.map_nil, List.count_nil, List.count_eq_zero.mpr taken] at places
    have resolved : ¬ ((connected registry maxPayload).run events).1.client.resolution? xid =
        none := by
      rw [← placed.count_eq_zero_iff]
      omega
    obtain ⟨resolution, outcome⟩ := Option.ne_none_iff_exists'.mp resolved
    obtain ⟨future, found, outcome⟩ := Option.bind_eq_some_iff.mp outcome
    refine ⟨future, found, ?_⟩
    unfold Future.ready
    rw [outcome]
    rfl
  -- A call that comes to the table after it was shut is refused; the history before the run says
  -- which calls these are.
  case late =>
    rintro before after rfl shut xid given draft taken
    have placed' := placed_run registry maxPayload before (few_before few)
    rw [run_append] at distinct draft taken ⊢
    have refused : Refused
        (((connected registry maxPayload).run before).1.run after).1 xid := by
      rcases given with draft | given
      · exact placed'.refused_run shut (Or.inl draft) after distinct
      · exact placed'.refused_of_issued shut distinct given
    rcases refused with draft' | ⟨entry, taken', rfl, -⟩ | resolved
    · exact (draft draft').elim
    · exact (taken (List.mem_map_of_mem taken')).elim
    · exact resolved
  case alone =>
    intro shut request arguments callback encoded
    exact Client.resolution?_issue_of_shut shut encoded callback

end

/-- A call that is being issued when the connection goes down. -/
def overtaken : List (Event Unit) :=
  [.issue ⟨7, [], [], []⟩ (some ()), .issue ⟨7, [], [], []⟩ none, .enter 1, .connectionLost,
    .register 0, .enter 0, .conclude 1, .conclude 0]

theorem calls_accounted_overtaken :
    (issued ((connected .empty 64).run overtaken).2).length ≤ 2 ^ 64 ∧
      ((connected .empty 64).run overtaken).1.client.resolution? 1 = some .refusal ∧
      Accounted (connected .empty 64) overtaken := by
  have both : issued ((connected .empty 64).run overtaken).2 = [1, 2] := by cbv
  have few : (issued ((connected .empty 64).run overtaken).2).length ≤ 2 ^ 64 := by
    rw [both]
    decide
  have refused : ((connected .empty 64).run overtaken).1.client.resolution? 1 =
      some .refusal := by cbv
  exact ⟨few, refused, calls_accounted few⟩

end Threaded

end RemoteCall
