import RemoteCall.Proofs.Client.Closed

/-!
# Who waits for whom when a client is closed

To stop delivery, the closing thread raises a flag, and then it joins the delivery thread: it waits
until that thread has ended, which it does not do before the callback is over that it is in.  A
callback that closes its client on the delivery thread would wait for itself; there, the join is
left out.  Only after that the pending calls are failed.

A callback may wait for a call, too: it issues one, and blocks until that is resolved.  If it runs
on the delivery thread and another thread closes the client meanwhile, each of the two waits for the
other.  The closing thread would fail the call, but joins the delivery thread first, and the
callback goes on only when the call is resolved.

`Threaded` has the actions of closing, and no join: its closing thread may go on at once.  So it has
more runs than there are, and what holds of all of them holds here (`exists_run`).  `Joining` has
the runs that there are.  It adds where the delivery thread and the closing thread are, in no
callback, in one, or in one that waits, and by that an action is possible or not.

## Main statements

* `close_settles` — once the closing thread has joined the delivery thread, everything is settled.
  At a moment when the delivery thread is in no callback, or closes the client itself, it need not
  wait for that.
* `unsettled_of_hangs` — as long as the callback of the delivery thread waits for a pending call
  that is not answered, given up or cut off, the close does not get on, whatever is done by anyone.
* `unsettled_of_starves` — a callback that the closing thread runs, and that waits for a call which
  the same thread is still to fail, waits for good.
-/

namespace RemoteCall

variable {κ : Type}

/-- Where a thread is that runs callbacks. -/
inductive Position where
  /-- In no callback. -/
  | outside
  /-- In a callback that goes on. -/
  | inside
  /-- In a callback that waits until a call is resolved. -/
  | waiting (xid : Int64)
  deriving DecidableEq, Repr

/-- A thread that others wait for. -/
inductive Role where
  /-- The thread that runs the callbacks of the queue. -/
  | delivery
  /-- The thread that closes the client. -/
  | closer
  deriving DecidableEq, Repr

/-- The thread of a role whose action this is, if it is one of these. -/
def Threaded.role? (state : Threaded κ) : Threaded.Event κ → Option Role
  | .deliver => some .delivery
  | .closeNext => some .closer
  | .conclude n => if state.taken[n]?.any (·.2.runner = .closer) then some .closer else none
  | _ => none

/-- A client, its threads, and where those threads are that others wait for. -/
structure Joining (κ : Type) where
  threads : Threaded κ
  delivery : Position
  /-- In callbacks of calls that it fails. -/
  closer : Position
  /-- The client is closed by a callback on the delivery thread. -/
  within : Bool

namespace Joining

/-- A client on a new connection. -/
def connected (registry : Registry) (maxPayload : UInt32) : Joining κ :=
  ⟨.connected registry maxPayload, .outside, .outside, false⟩

/-- Where a thread is. -/
def position (state : Joining κ) : Role → Position
  | .delivery => state.delivery
  | .closer => state.closer

/-- A thread goes to another place. -/
def move (state : Joining κ) (role : Role) (position : Position) : Joining κ :=
  match role with
  | .delivery => { state with delivery := position }
  | .closer => { state with closer := position }

/-- The closing thread need not wait for the delivery thread: that is in no callback, so it ends as
delivery has stopped, or the two are the same thread. -/
def joined (state : Joining κ) : Bool := state.within || decide (state.delivery = .outside)

/-- The closing thread has done what comes before its next action. -/
def proceeds (state : Joining κ) : Bool :=
  match state.threads.client.closing with
  | .deliveryStopped => state.joined
  | .callsFailed => state.threads.taken.all (·.2.runner ≠ .closer)
  | .notClosed | .closed => false

/-- The callback that a thread is in is at work closing the client. -/
def busy (state : Joining κ) : Role → Bool
  | .delivery => state.within && decide (state.threads.client.closing ≠ .closed)
  | .closer => false

/-- An action of a thread, or a step of a callback that it is in. -/
inductive Event (κ : Type) where
  | act (event : Threaded.Event κ)
  /-- A thread begins to close the client: a callback on the delivery thread, or any other. -/
  | close (within : Bool)
  /-- A callback begins to wait for a call. -/
  | wait (role : Role) (xid : Int64)
  /-- A callback goes on after it has waited. -/
  | wake (role : Role)
  /-- A callback ends: it returns, or it panics. -/
  | finish (role : Role)

/-- Whether an action can be done. -/
def possible (state : Joining κ) : Event κ → Bool
  | .act .closeNext => decide (state.closer = .outside) && state.proceeds
  | .act event => (state.threads.role? event).all fun role => state.position role = .outside
  | .close within =>
    decide (state.threads.client.closing = .notClosed) &&
      (!within || decide (state.delivery = .inside))
  | .wait role _ | .finish role => decide (state.position role = .inside) && !state.busy role
  | .wake role =>
    match state.position role with
    | .waiting xid => (state.threads.client.resolution? xid).isSome
    | .outside | .inside => false

/-- Do an action that is possible.  A thread that runs a callback is in it from then on. -/
def perform (state : Joining κ) : Event κ → Joining κ × List (Threaded.Effect κ)
  | .act event =>
    let (threads, effects) := state.threads.step event
    match state.threads.role? event, Threaded.invocations effects with
    | some role, _ :: _ => ({ state with threads }.move role .inside, effects)
    | _, _ => ({ state with threads }, effects)
  | .close within =>
    let (threads, effects) := state.threads.step .closeNext
    ({ state with threads, within }, effects)
  | .wait role xid => (state.move role (.waiting xid), [])
  | .wake role => (state.move role .inside, [])
  | .finish role => (state.move role .outside, [])

/-- Run one action.  An action that is not possible changes nothing. -/
def step (state : Joining κ) (event : Event κ) : Joining κ × List (Threaded.Effect κ) :=
  if state.possible event then state.perform event else (state, [])

/-- Run actions one after the other. -/
def run (state : Joining κ) (events : List (Event κ)) : Joining κ × List (Threaded.Effect κ) :=
  Machine.run step state events

lemma run_append (state : Joining κ) (before after : List (Event κ)) :
    state.run (before ++ after) = (((state.run before).1.run after).1,
      (state.run before).2 ++ ((state.run before).1.run after).2) :=
  Machine.run_append step state before after

lemma step_of_possible {state : Joining κ} {event : Event κ}
    (possible : state.possible event = true) : state.step event = state.perform event :=
  if_pos possible

lemma possible_act (state : Joining κ) {event : Threaded.Event κ} (other : event ≠ .closeNext) :
    state.possible (.act event) =
      (state.threads.role? event).all fun role => state.position role = .outside := by
  cases event with
  | closeNext => exact (other rfl).elim
  | issue | register | enter | sendFailed | abandon | receive | connectionLost | conclude | deliver
    | takeReply => rfl

@[simp] lemma threads_move (state : Joining κ) (role : Role) (position : Position) :
    (state.move role position).threads = state.threads := by
  cases role <;> rfl

@[simp] lemma within_move (state : Joining κ) (role : Role) (position : Position) :
    (state.move role position).within = state.within := by
  cases role <;> rfl

@[simp] lemma position_move (state : Joining κ) (role other : Role) (position : Position) :
    (state.move role position).position other =
      if other = role then position else state.position other := by
  cases role <;> cases other <;> rfl

@[simp] lemma position_threads (state : Joining κ) (threads : Threaded κ) (role : Role) :
    ({ state with threads } : Joining κ).position role = state.position role := by
  cases role <;> rfl

lemma move_threads (state : Joining κ) (threads : Threaded κ) (role : Role) (position : Position) :
    ({ state with threads } : Joining κ).move role position =
      { state.move role position with threads } := by
  cases role <;> rfl

/-! ## What the threads do -/

section

variable (state : Joining κ)

/-- A thread that acts is in a callback afterwards, or where it was before. -/
lemma perform_act (event : Threaded.Event κ) :
    (state.perform (.act event)).2 = (state.threads.step event).2 ∧
      ((state.perform (.act event)).1 = { state with threads := (state.threads.step event).1 } ∨
        ∃ role, state.threads.role? event = some role ∧ (state.perform (.act event)).1 =
          { state with threads := (state.threads.step event).1 }.move role .inside) := by
  unfold perform
  dsimp only
  split
  · rename_i role _ _ own _
    exact ⟨rfl, Or.inr ⟨role, own, rfl⟩⟩
  · exact ⟨rfl, Or.inl rfl⟩

/-- What an action does to the threads, one of their own actions does, or it does nothing. -/
lemma step_threads (event : Event κ) :
    (∃ act, state.threads.step act = ((state.step event).1.threads, (state.step event).2)) ∨
      (state.step event).1.threads = state.threads ∧ (state.step event).2 = [] := by
  unfold step
  split
  · cases event with
    | act event =>
      obtain ⟨effects, next | ⟨role, -, next⟩⟩ := state.perform_act event
      · exact Or.inl ⟨event, by rw [next, effects]⟩
      · exact Or.inl ⟨event, by rw [next, effects, threads_move]⟩
    | close within => exact Or.inl ⟨.closeNext, rfl⟩
    | wait role xid => exact Or.inr ⟨threads_move _ _ _, rfl⟩
    | wake role => exact Or.inr ⟨threads_move _ _ _, rfl⟩
    | finish role => exact Or.inr ⟨threads_move _ _ _, rfl⟩
  · exact Or.inr ⟨rfl, rfl⟩

/-- What happens here, may happen if the closing thread waits for nobody. -/
theorem exists_run (events : List (Event κ)) :
    ∃ acts, state.threads.run acts = ((state.run events).1.threads, (state.run events).2) := by
  induction events generalizing state with
  | nil => exact ⟨[], rfl⟩
  | cons event rest ih =>
    obtain ⟨acts, ran⟩ := ih (state.step event).1
    unfold run
    rw [Machine.run_cons]
    rcases state.step_threads event with ⟨act, stepped⟩ | ⟨same, silent⟩
    · refine ⟨act :: acts, ?_⟩
      unfold Threaded.run at ran ⊢
      rw [Machine.run_cons, stepped]
      dsimp only
      rw [ran]
      rfl
    · refine ⟨acts, ?_⟩
      rw [same] at ran
      rw [ran, silent]
      rfl

end

/-- What is known of a state that a new connection has led to. -/
structure Reached (state : Joining κ) (history : List (Threaded.Effect κ)) : Prop where
  placed : Threaded.Placed state.threads history
  xids : (Threaded.issued history).Nodup
  ids : (Threaded.registered history).Nodup
  meant : state.threads.AllMeant
  owned : state.threads.client.closing = .notClosed → Threaded.Owned [] state.threads history

lemma reached_run (registry : Registry) (maxPayload : UInt32) {events : List (Event κ)}
    (few : (Threaded.issued ((connected registry maxPayload).run events).2).length ≤ 2 ^ 64) :
    Reached ((connected registry maxPayload).run events).1
      ((connected registry maxPayload).run events).2 := by
  obtain ⟨acts, ran⟩ := (connected registry maxPayload).exists_run events
  have ran' : (Threaded.connected registry maxPayload).run acts = _ := ran
  have threads := congrArg Prod.fst ran'
  have effects := congrArg Prod.snd ran'
  dsimp only at threads effects
  rw [← effects] at few
  have placed := Threaded.placed_run registry maxPayload acts few
  have xids := Threaded.nodup_issued registry maxPayload acts few
  have ids := Threaded.nodup_registered registry maxPayload acts few
  have meant : (Threaded.connected registry maxPayload : Threaded κ).AllMeant := nofun
  have keeps : ∀ (state : Threaded κ) (event : Threaded.Event κ), state.AllMeant →
      (state.step event).1.AllMeant := fun _ event meant => meant.step event
  have meant' : ((Threaded.connected registry maxPayload).run acts).1.AllMeant :=
    Machine.run_invariant keeps meant acts
  have owned := Threaded.owned_run few ids
  rw [threads, effects] at *
  exact ⟨placed, xids, ids, meant', owned⟩

lemma few_before {start : Joining κ} {before after : List (Event κ)} {n : Nat}
    (few : (Threaded.issued (start.run (before ++ after)).2).length ≤ n) :
    (Threaded.issued (start.run before).2).length ≤ n := by
  rw [run_append, Threaded.issued_append, List.length_append] at few
  omega

/-- The closing thread is in no callback, and has no call to fail. -/
structure Idle (state : Joining κ) : Prop where
  closer : state.closer = .outside
  taken : ∀ entry ∈ state.threads.taken, entry.2.runner ≠ .closer

/-- Until the pending calls are failed, the closing thread is idle. -/
def Early (state : Joining κ) : Prop :=
  state.threads.client.closing = .notClosed ∨ state.threads.client.closing = .deliveryStopped →
    state.Idle

lemma role?_of_idle {state : Joining κ} (idle : state.Idle) {event : Threaded.Event κ}
    (other : event ≠ .closeNext) : state.threads.role? event ≠ some .closer := by
  unfold Threaded.role?
  split
  · nofun
  · exact (other rfl).elim
  · rename_i n
    rw [if_neg]
    · nofun
    · rw [Option.any_eq_true]
      rintro ⟨entry, here, own⟩
      exact idle.taken entry (List.mem_of_getElem? here) (of_decide_eq_true own)
  · nofun

lemma Idle.act {state : Joining κ} (idle : state.Idle) {event : Threaded.Event κ}
    (other : event ≠ .closeNext) : (state.perform (.act event)).1.Idle := by
  have taken : ∀ entry ∈ (state.threads.step event).1.taken, entry.2.runner ≠ .closer := by
    intro entry present
    rcases Threaded.mem_step present with before | takes
    · exact idle.taken entry before
    · cases takes with
      | enter | sendFailed | abandon | receive | connectionLost => exact Runner.noConfusion
      | closeNext => exact (other rfl).elim
  obtain ⟨-, next | ⟨role, own, next⟩⟩ := state.perform_act event <;> rw [next]
  · exact ⟨idle.closer, taken⟩
  · cases role with
    | delivery => exact ⟨idle.closer, taken⟩
    | closer => exact (role?_of_idle idle other own).elim

lemma early_step {state : Joining κ} (early : state.Early) (event : Event κ) :
    (state.step event).1.Early := by
  by_cases possible : state.possible event = true
  swap
  · unfold step
    rw [if_neg possible]
    exact early
  rw [step_of_possible possible]
  -- Before delivery is stopped the closing thread is in no callback, and it takes no call out; so
  -- of its own actions only the first one is possible.
  cases event with
  | act event =>
    have stage : (state.perform (.act event)).1.threads = (state.threads.step event).1 := by
      obtain ⟨-, next | ⟨role, -, next⟩⟩ := state.perform_act event <;> rw [next]
      exact threads_move _ _ _
    intro before
    rw [stage] at before
    by_cases closes : event = .closeNext
    · -- it is the second action of closing, or the third one
      subst closes
      unfold Joining.possible proceeds at possible
      unfold Threaded.step Threaded.closeNext at before
      cases closing : state.threads.client.closing <;> simp only [closing] at possible before
      · simp at possible
      · rcases before with before | before <;> cases before
      · rcases before with before | before <;> cases before
      · simp at possible
    · rw [Threaded.closing_step closes] at before
      exact (early before).act closes
  | close within =>
    have going : state.threads.client.closing = .notClosed :=
      of_decide_eq_true (Bool.and_eq_true_iff.mp possible).1
    have idle := early (Or.inl going)
    intro _
    unfold perform
    rw [Threaded.step_closeNext_of_notClosed going]
    exact ⟨idle.closer, idle.taken⟩
  | wait role xid =>
    intro before
    cases role with
    | delivery => exact ⟨(early before).closer, (early before).taken⟩
    | closer =>
      have outside := (early before).closer
      simp [Joining.possible, position, outside] at possible
  | wake role =>
    intro before
    cases role with
    | delivery => exact ⟨(early before).closer, (early before).taken⟩
    | closer =>
      have outside := (early before).closer
      simp [Joining.possible, position, outside] at possible
  | finish role =>
    intro before
    cases role with
    | delivery => exact ⟨(early before).closer, (early before).taken⟩
    | closer =>
      have outside := (early before).closer
      simp [Joining.possible, position, outside] at possible

lemma early_run (registry : Registry) (maxPayload : UInt32) (events : List (Event κ)) :
    ((connected registry maxPayload).run events).1.Early := by
  have keeps : ∀ (state : Joining κ) (event : Event κ), state.Early → (state.step event).1.Early :=
    fun _ event early => early_step early event
  have start : (connected registry maxPayload : Joining κ).Early := fun _ => ⟨rfl, nofun⟩
  exact Machine.run_invariant keeps start events

/-- The delivery thread, in a callback or not, is in none after the callback has ended. -/
lemma step_finish_delivery (state : Joining κ) (elsewhere : state.within = false)
    (place : state.delivery = .outside ∨ state.delivery = .inside) :
    state.step (.finish .delivery) = ({ state with delivery := .outside }, []) := by
  rcases place with outside | inside
  · have impossible : ¬ state.possible (.finish .delivery) = true := by
      simp [Joining.possible, position, outside]
    unfold step
    rw [if_neg impossible, ← outside]
  · have possible : state.possible (.finish .delivery) = true := by
      simp [Joining.possible, position, busy, inside, elsewhere]
    rw [step_of_possible possible]
    rfl

/-- As long as nobody closes the client, nobody waits: whatever the threads may do, they do here,
with callbacks that end at once. -/
theorem exists_run_of_going {state : Joining κ} (idle : state.Idle) (elsewhere : state.within = false)
    (outside : state.delivery = .outside) {acts : List (Threaded.Event κ)}
    (going : (state.threads.run acts).1.client.closing = .notClosed) :
    ∃ events, ((state.run events).1.threads, (state.run events).2) = state.threads.run acts := by
  induction acts generalizing state with
  | nil => exact ⟨[], rfl⟩
  | cons act rest ih =>
    have later : (state.threads.step act).1.client.closing = .notClosed := by
      by_contra stopped
      exact Threaded.closing_run_ne stopped rest going
    have other : act ≠ .closeNext := by
      rintro rfl
      have now := (Threaded.acts_step state.threads .closeNext).notClosed later
      rw [Threaded.step_closeNext_of_notClosed now] at later
      cases later
    have possible : state.possible (.act act) = true := by
      rw [possible_act state other, Option.all_eq_true]
      rintro (_ | _) own
      · exact decide_eq_true outside
      · exact (role?_of_idle idle other own).elim
    have idle' := idle.act other
    -- after the action the delivery thread is in its callback, or in none
    obtain ⟨place, known, did⟩ : ∃ place, (place = .outside ∨ place = .inside) ∧
        state.perform (.act act) =
          ({ state with threads := (state.threads.step act).1, delivery := place },
            (state.threads.step act).2) := by
      obtain ⟨effects, next | ⟨role, own, next⟩⟩ := state.perform_act act
      · refine ⟨.outside, Or.inl rfl, Prod.ext (next.trans ?_) effects⟩
        rw [← outside]
      · cases role with
        | delivery => exact ⟨.inside, Or.inr rfl, Prod.ext next effects⟩
        | closer => exact (role?_of_idle idle other own).elim
    rw [did] at idle'
    have ended := step_finish_delivery { state with
      threads := (state.threads.step act).1, delivery := place } elsewhere known
    have idle'' : ({ state with
        threads := (state.threads.step act).1, delivery := .outside } : Joining κ).Idle :=
      ⟨idle'.closer, idle'.taken⟩
    obtain ⟨events, ran⟩ := ih idle'' elsewhere rfl going
    refine ⟨.act act :: .finish .delivery :: events, ?_⟩
    unfold run Threaded.run at ran ⊢
    rw [Machine.run_cons, Machine.run_cons, Machine.run_cons, step_of_possible possible, did]
    dsimp only
    rw [ended, ← ran]
    rfl

/-! ## What the closing thread does -/

/-- None of these actions is one that others wait for. -/
def Foreign (state : Threaded κ) : List (Threaded.Event κ) → Prop
  | [] => True
  | event :: rest => state.role? event = none ∧ Foreign (state.step event).1 rest

lemma foreign_append {state : Threaded κ} {before after : List (Threaded.Event κ)}
    (first : Foreign state before) (second : Foreign (state.run before).1 after) :
    Foreign state (before ++ after) := by
  induction before generalizing state with
  | nil => exact second
  | cons event rest ih => exact ⟨first.1, ih first.2 second⟩

/-- Actions that nobody waits for are done as if there were nothing to wait for. -/
lemma run_foreign (state : Joining κ) {events : List (Threaded.Event κ)}
    (foreign : Foreign state.threads events) : state.run (events.map .act) =
      ({ state with threads := (state.threads.run events).1 }, (state.threads.run events).2) := by
  induction events generalizing state with
  | nil => rfl
  | cons event rest ih =>
    obtain ⟨free, foreign⟩ := foreign
    have possible : state.possible (.act event) = true := by
      have other : event ≠ .closeNext := by
        rintro rfl
        cases free
      rw [possible_act state other, free]
      rfl
    have stepped : state.step (.act event) =
        ({ state with threads := (state.threads.step event).1 },
          (state.threads.step event).2) := by
      rw [step_of_possible possible]
      obtain ⟨effects, next | ⟨role, own, -⟩⟩ := state.perform_act event
      · exact Prod.ext next effects
      · cases free.symm.trans own
    have ran := ih (state.step (.act event)).1 (by rw [stepped]; exact foreign)
    unfold run Threaded.run at ran ⊢
    rw [List.map_cons, Machine.run_cons, Machine.run_cons, ran, stepped]

section

variable {client : Client κ} (drafts : List (Draft κ)) (taken : List (PendingCall × Ending))

lemma role?_conclude_none (client : Client κ) :
    (⟨client, drafts, taken⟩ : Threaded κ).role? (.conclude taken.length) = none := by
  unfold Threaded.role?
  dsimp only
  rw [List.getElem?_eq_none (Nat.le_refl _)]
  rfl

/-- A thread that issues a call without a connection resolves it itself. -/
lemma foreign_issue (shut : client.isOpen = false) (request : Request) (callback : Option κ) :
    Foreign ⟨client, drafts, taken⟩
      (Threaded.act drafts.length taken.length (.issue request callback)) := by
  have absent : drafts[drafts.length]? = none := List.getElem?_eq_none (Nat.le_refl _)
  refine ⟨rfl, rfl, rfl, ?_, trivial⟩
  cases encoded : request.encode client.registry client.maxPayload with
  | error e =>
    have issued : Threaded.step ⟨client, drafts, taken⟩ (.issue request callback) =
        (⟨client, drafts, taken⟩, [.refused e]) := by
      simp only [Threaded.step, Threaded.issue, encoded]
    have unregistered : Threaded.step ⟨client, drafts, taken⟩ (.register drafts.length) =
        (⟨client, drafts, taken⟩, []) := by
      simp only [Threaded.step, Threaded.register, absent]
    have unentered : Threaded.step ⟨client, drafts, taken⟩ (.enter drafts.length) =
        (⟨client, drafts, taken⟩, []) := by
      simp only [Threaded.step, Threaded.enter, absent]
    rw [issued, unregistered, unentered]
    exact role?_conclude_none drafts taken client
  | ok arguments =>
    have issued : Threaded.step ⟨client, drafts, taken⟩ (.issue request callback) =
        (⟨client.openSlot request.resultTypes,
            drafts ++ [⟨client.nextXid, .request client.nextXid request.callId arguments, callback,
              none⟩], taken⟩, [.issued client.nextXid]) := by
      simp only [Threaded.step, Threaded.issue, encoded]
    have shut' : ((callback.map (client.openSlot request.resultTypes).addCallback).getD
        (client.openSlot request.resultTypes)).isOpen = false := by
      cases callback <;> exact shut
    rw [issued, Threaded.step_register, Threaded.step_enter _ _ shut']
    -- the last call in the hands of threads is the one that was turned away
    unfold Threaded.role?
    dsimp only
    rw [List.getElem?_concat_length]
    rfl

lemma foreign_deed {stage : Closing} (shut : client.Shut stage) (deed : Deed κ) :
    Foreign ⟨client, drafts, taken⟩ (Threaded.act drafts.length taken.length deed) := by
  cases deed with
  | issue request callback => exact foreign_issue drafts taken shut.isOpen request callback
  | abandon xid =>
    have gone : Threaded.step ⟨client, drafts, taken⟩ (.abandon xid) =
        (⟨client, drafts, taken⟩, []) := by
      simp only [Threaded.step, Threaded.takeOut, shut.pendingCall? xid]
    refine ⟨rfl, ?_, trivial⟩
    rw [gone]
    exact role?_conclude_none drafts taken client
  | takeReply xid => exact ⟨rfl, trivial⟩

lemma foreign_deeds {stage : Closing} (shut : client.Shut stage) (deeds : List (Deed κ)) :
    Foreign ⟨client, drafts, taken⟩
      (deeds.flatMap (Threaded.act drafts.length taken.length)) := by
  induction deeds generalizing client with
  | nil => trivial
  | cons deed rest ih =>
    obtain ⟨client', seen, ran, within⟩ := Threaded.run_deed shut drafts taken deed
    refine foreign_append (foreign_deed drafts taken shut deed) ?_
    rw [ran]
    exact ih within.shut

end

/-- The closing thread fails calls that it has taken out of the table, and runs their callbacks.
Other threads have so many drafts and calls in their hands. -/
def failing (reactions : Int64 → Reaction κ) (drafts taken : Nat) : List PendingCall →
    List (Event κ)
  | [] => []
  | call :: rest =>
    .act (.conclude taken) ::
      ((call.deeds reactions).flatMap (Threaded.act drafts (taken + rest.length))).map .act ++
      .finish .closer :: failing reactions drafts taken rest

/-- The actions of the closing thread once it has joined the delivery thread. -/
def resuming (state : Joining κ) (reactions : Int64 → Reaction κ) : List (Event κ) :=
  .act .closeNext :: failing reactions state.threads.drafts.length state.threads.taken.length
    state.threads.client.byXid ++ [.act .closeNext]

section

variable {client : Client κ} {drafts : List (Draft κ)} {taken : List (PendingCall × Ending)}

/-- The closing thread fails a call, and is in its callback then. -/
lemma step_fails {state : Joining κ} (outside : state.closer = .outside) {call : PendingCall}
    {rest : List (PendingCall × Ending)}
    (threads : state.threads = ⟨client, drafts, taken ++ (call, Threaded.failed) :: rest⟩) :
    ∃ position, (position = .outside ∨ position = .inside) ∧
      state.step (.act (.conclude taken.length)) =
        ({ state with
            threads := (state.threads.step (.conclude taken.length)).1
            closer := position },
          (state.threads.step (.conclude taken.length)).2) := by
  have own : state.threads.role? (.conclude taken.length) = some .closer := by
    rw [threads]
    simp [Threaded.role?, Ending.runner]
  have possible : state.possible (.act (.conclude taken.length)) = true := by
    rw [possible_act state (by nofun), own]
    exact decide_eq_true outside
  rw [step_of_possible possible]
  obtain ⟨effects, next | ⟨role, own', next⟩⟩ := state.perform_act (.conclude taken.length)
  · refine ⟨.outside, Or.inl rfl, Prod.ext (next.trans ?_) effects⟩
    rw [← outside]
  · obtain rfl : Role.closer = role := Option.some.inj (own.symm.trans own')
    exact ⟨.inside, Or.inr rfl, Prod.ext next effects⟩

/-- A callback that the closing thread is in ends. -/
lemma step_finish_closer (state : Joining κ)
    (place : state.closer = .outside ∨ state.closer = .inside) :
    state.step (.finish .closer) = ({ state with closer := .outside }, []) := by
  rcases place with outside | inside
  · have impossible : ¬ state.possible (.finish .closer) = true := by
      simp [Joining.possible, position, outside]
    unfold step
    rw [if_neg impossible, ← outside]
  · have possible : state.possible (.finish .closer) = true := by
      simp [Joining.possible, position, busy, inside]
    rw [step_of_possible possible]
    rfl

/-- The closing thread fails its calls, and nothing keeps it from doing so. -/
lemma run_failing (reactions : Int64 → Reaction κ) {calls : List PendingCall} (state : Joining κ)
    (shut : client.Shut .callsFailed) (outside : state.closer = .outside)
    (threads : state.threads = ⟨client, drafts, taken ++ calls.map (·, Threaded.failed)⟩) :
    ∃ client', client'.Shut .callsFailed ∧
      (state.threads.run (Threaded.failing reactions drafts.length taken.length calls)).1 =
        ⟨client', drafts, taken⟩ ∧
      state.run (failing reactions drafts.length taken.length calls) =
        ({ state with
            threads := (state.threads.run
              (Threaded.failing reactions drafts.length taken.length calls)).1 },
          (state.threads.run
            (Threaded.failing reactions drafts.length taken.length calls)).2) := by
  induction calls generalizing client state with
  | nil =>
    rw [List.map_nil, List.append_nil] at threads
    exact ⟨client, shut, threads, rfl⟩
  | cons call rest ih =>
    -- The thread resolves the call, the callback does its deeds on it, and is over; none of the
    -- three has to wait for anybody.
    obtain ⟨place, known, failed⟩ := step_fails outside threads
    have shut' := shut.conclude (by decide) call Threaded.failed
    have concluded : (state.threads.step (.conclude taken.length)).1 =
        ⟨(client.conclude call Threaded.failed).1, drafts,
          taken ++ rest.map (·, Threaded.failed)⟩ := by
      rw [threads, List.map_cons, Threaded.step_conclude]
    obtain ⟨client', seen, deeds, within⟩ := Threaded.run_deeds shut' drafts
      (taken ++ rest.map (·, Threaded.failed)) (call.deeds reactions)
    have foreign := foreign_deeds drafts (taken ++ rest.map (·, Threaded.failed)) shut'
      (call.deeds reactions)
    rw [← concluded, List.length_append, List.length_map] at deeds foreign
    have did := run_foreign { state with
      threads := (state.threads.step (.conclude taken.length)).1, closer := place } foreign
    dsimp only at did
    rw [deeds] at did
    have ended := step_finish_closer { state with
      threads := (⟨client', drafts, taken ++ rest.map (·, Threaded.failed)⟩ : Threaded κ)
      closer := place } known
    obtain ⟨client'', shut'', threads'', others⟩ := ih { state with
      threads := ⟨client', drafts, taken ++ rest.map (·, Threaded.failed)⟩
      closer := .outside } within.shut rfl rfl
    have split : state.threads.run (Threaded.failing reactions drafts.length taken.length
        (call :: rest)) = ((Threaded.run ⟨client', drafts, taken ++ rest.map (·, Threaded.failed)⟩
          (Threaded.failing reactions drafts.length taken.length rest)).1,
        (state.threads.step (.conclude taken.length)).2 ++ (seen ++
          (Threaded.run ⟨client', drafts, taken ++ rest.map (·, Threaded.failed)⟩
            (Threaded.failing reactions drafts.length taken.length rest)).2)) := by
      unfold Threaded.run at deeds ⊢
      rw [Threaded.failing, List.cons_append, Machine.run_cons, Machine.run_append, deeds]
    refine ⟨client'', shut'', ?_, ?_⟩
    · rw [split]
      exact threads''
    · rw [split]
      unfold run at did others ⊢
      rw [failing, List.cons_append, Machine.run_cons, failed, Machine.run_append, did,
        Machine.run_cons, ended, others]
      simp only [outside, List.nil_append]

/-- The closing thread takes closing on when it has done what comes before. -/
lemma step_closeNext (state : Joining κ) (outside : state.closer = .outside)
    (proceeds : state.proceeds = true) :
    state.step (.act .closeNext) =
      ({ state with threads := (state.threads.step .closeNext).1 }, []) := by
  have possible : state.possible (.act .closeNext) = true := by
    unfold Joining.possible
    rw [proceeds, outside]
    rfl
  rw [step_of_possible possible]
  rfl

/-- Once it has joined the delivery thread, the closing thread waits for nobody. -/
lemma run_resuming {state : Joining κ} (idle : state.Idle)
    (stage : state.threads.client.closing = .deliveryStopped)
    (empty : state.threads.client.deliveries = []) (joined : state.joined = true)
    (reactions : Int64 → Reaction κ) :
    state.run (state.resuming reactions) =
      ({ state with threads := (state.threads.run (state.threads.resuming reactions)).1 },
        (state.threads.run (state.threads.resuming reactions)).2) := by
  have taken : state.threads.step .closeNext = (state.threads.emptied, []) := by
    have step := Threaded.step_closeNext_of_stopped stage
    rw [Threaded.withQueue_eq empty] at step
    exact step
  have first := step_closeNext state idle.closer (by unfold proceeds; rw [stage]; exact joined)
  rw [taken] at first
  have emptied : ({ state with threads := state.threads.emptied } : Joining κ).threads =
      ⟨state.threads.emptied.client, state.threads.drafts,
        state.threads.taken ++ state.threads.client.byXid.map (·, Threaded.failed)⟩ := rfl
  obtain ⟨client', shut, threads, failed⟩ := run_failing reactions
    { state with threads := state.threads.emptied } (Threaded.shut_emptied state.threads)
    idle.closer emptied
  rw [threads] at failed
  -- all calls that the closing thread had are resolved now, and what is left is that of others
  have last := step_closeNext { state with
      threads := (⟨client', state.threads.drafts, state.threads.taken⟩ : Threaded κ) }
    idle.closer (by
      unfold proceeds
      rw [shut.stage_eq]
      exact List.all_eq_true.mpr fun entry among => decide_eq_true (idle.taken entry among))
  unfold Threaded.run at threads failed ⊢
  unfold run at failed ⊢
  unfold Threaded.resuming Threaded.finishing resuming
  rw [List.cons_append, Machine.run_cons, Machine.run_append, first, failed, Machine.run_cons,
    last, Machine.run_cons, Machine.run_append, taken, Machine.run_cons]
  dsimp only
  rw [threads]
  have silent : ∀ threads : Threaded κ, (threads.step .closeNext).2 = [] := fun _ => rfl
  simp only [Machine.run_nil, silent, List.nil_append, List.append_nil]

end

/-! ## What is settled -/

section

variable {registry : Registry} {maxPayload : UInt32} {before meanwhile after : List (Event κ)}

lemma exists_run_close {state : Joining κ} {within : Bool}
    (possible : state.possible (.close within) = true) (events : List (Event κ)) :
    ∃ acts, state.threads.run (.closeNext :: acts) =
      ((state.run (.close within :: events)).1.threads,
        (state.run (.close within :: events)).2) := by
  obtain ⟨acts, ran⟩ := (state.step (.close within)).1.exists_run events
  refine ⟨acts, ?_⟩
  have begun : state.step (.close within) =
      ({ state with threads := (state.threads.step .closeNext).1, within }, []) :=
    step_of_possible possible
  unfold Threaded.run run at ran ⊢
  rw [begun] at ran
  rw [Machine.run_cons, Machine.run_cons, begun, ran]
  rfl

/-- A thread closes a client: delivery stops, then, some time later, the closing thread has joined
the delivery thread and goes on, and in the end the client is closed.  In a state in which the
delivery thread is in no callback, or closes the client itself, it may go on at once
(`meanwhile = []`).  All this holds until the counter of transaction IDs has come round. -/
theorem close_settles (within : Bool) (reactions : Int64 → Reaction κ)
    (possible : ((connected registry maxPayload).run before).1.possible (.close within) = true)
    (stage : ((connected registry maxPayload).run
      (before ++ .close within :: meanwhile)).1.threads.client.closing = .deliveryStopped)
    (joined : ((connected registry maxPayload).run
      (before ++ .close within :: meanwhile)).1.joined = true)
    (few : (Threaded.issued ((connected registry maxPayload).run
      (before ++ .close within :: meanwhile ++
        ((connected registry maxPayload).run
          (before ++ .close within :: meanwhile)).1.resuming reactions ++ after)).2).length ≤
            2 ^ 64) :
    let state := (connected registry maxPayload).run before
    let stopped := state.1.run (.close within :: meanwhile)
    let closed := stopped.1.run (stopped.1.resuming reactions)
    let final := closed.1.run after
    Threaded.Settled reactions (state.1.threads, state.2) (stopped.1.threads, stopped.2)
        (closed.1.threads, closed.2) (final.1.threads, final.2) ∧
      ∀ within, final.1.step (.close within) = (final.1, []) := by
  intro state stopped closed final
  have sooner : (connected registry maxPayload).run (before ++ .close within :: meanwhile) =
      (stopped.1, state.2 ++ stopped.2) := run_append _ _ _
  have whole := reached_run registry maxPayload few
  have reached := reached_run registry maxPayload (few_before (few_before few))
  have few₀ : (Threaded.issued ((connected registry maxPayload).run before).2).length ≤ 2 ^ 64 :=
    few_before (few_before (few_before few))
  have reached₀ := reached_run registry maxPayload few₀
  rw [run_append, run_append] at whole
  have idle := early_run registry maxPayload (before ++ .close within :: meanwhile)
    (Or.inr stage)
  rw [sooner] at stage joined whole reached idle
  have going : state.1.threads.client.closing = .notClosed :=
    of_decide_eq_true (Bool.and_eq_true_iff.mp possible).1
  -- a run of the threads leads from each of the four states to the next one
  obtain ⟨acts, window⟩ := exists_run_close possible meanwhile
  have stopped' : Threaded.Stopped state.1.threads stopped.1.threads state.2 stopped.2 := by
    have began := (reached₀.owned going).stopped reached₀.placed reached₀.meant going acts
    rw [window] at began
    exact began reached.xids reached.ids stage
  have resumed : closed = ({ stopped.1 with threads := (stopped.1.threads.run
      (stopped.1.threads.resuming reactions)).1 }, (stopped.1.threads.run
        (stopped.1.threads.resuming reactions)).2) :=
    run_resuming idle stage stopped'.deliveries joined reactions
  obtain ⟨acts', rest⟩ := closed.1.exists_run after
  have settled := Threaded.settled_of_stopped reached₀.placed (reached₀.owned going)
    reached.placed stopped' reactions acts'
  have threads : (stopped.1.threads.run (stopped.1.threads.resuming reactions)) =
      (closed.1.threads, closed.2) := by
    rw [resumed]
  rw [threads] at settled
  rw [rest] at settled
  have settled' := settled whole.xids whole.ids
  refine ⟨settled', fun within => if_neg fun again => ?_⟩
  have going' := of_decide_eq_true (Bool.and_eq_true_iff.mp again).1
  cases settled'.again.1.symm.trans going'

end

/-- Three calls have callbacks.  The second one is answered, and its callback waits for a fourth
call; the third one is answered, so that its callback is queued. -/
def overlapping : List (Event Nat) :=
  [.act (.issue ⟨7, [], [], []⟩ (some 10)), .act (.register 0), .act (.enter 0),
    .act (.issue ⟨7, [], [], []⟩ (some 20)), .act (.register 0), .act (.enter 0),
    .act (.issue ⟨7, [], [], []⟩ (some 30)), .act (.register 0), .act (.enter 0),
    .act (.receive (.reply 2 Status.ok [])), .act (.conclude 0), .act .deliver,
    .act (.issue ⟨7, [], [], []⟩ none), .act (.enter 0), .wait .delivery 4,
    .act (.receive (.reply 3 Status.ok [])), .act (.conclude 0)]

/-- The fourth call is answered, and the callback comes to its end. -/
def answering : List (Event Nat) :=
  [.act (.receive (.reply 4 Status.ok [])), .act (.conclude 0), .wake .delivery, .finish .delivery]

/-- The first callback issues a call, and panics before it would issue another one. -/
def panicking (xid : Int64) : Reaction Nat :=
  if xid = 1 then
    ⟨[.issue ⟨7, [], [], []⟩ (some 40), .issue ⟨7, [], [], []⟩ none], some 1⟩
  else ⟨[], none⟩

/-- A call is issued after the client was closed, and the delivery thread looks at its queue. -/
def belated : List (Event Nat) :=
  [.act (.issue ⟨7, [], [], []⟩ (some 50)), .act (.register 0), .act (.enter 0),
    .act (.conclude 0), .act .deliver]

theorem close_settles_answered :
    ((connected .empty 64).run overlapping).1.possible (.close false) = true ∧
      ((connected .empty 64).run
        (overlapping ++ .close false :: answering)).1.threads.client.closing = .deliveryStopped ∧
      ((connected .empty 64).run (overlapping ++ .close false :: answering)).1.joined = true ∧
      (Threaded.issued ((connected .empty 64).run (overlapping ++ .close false :: answering ++
        ((connected .empty 64).run (overlapping ++ .close false :: answering)).1.resuming
          panicking ++ belated)).2).length ≤ 2 ^ 64 ∧
      let state := (connected .empty 64).run overlapping
      let stopped := state.1.run (.close false :: answering)
      let closed := stopped.1.run (stopped.1.resuming panicking)
      let final := closed.1.run belated
      state.1.threads.client.deliveries = [(3, 3)] ∧
        Threaded.invocations closed.2 =
          [((1, 1), ⟨10, ⟨Status.clientClosed, []⟩, .closer⟩),
            ((4, 5), ⟨40, ⟨Status.notConnected, []⟩, .caller⟩)] ∧
        Threaded.Settled panicking (state.1.threads, state.2) (stopped.1.threads, stopped.2)
          (closed.1.threads, closed.2) (final.1.threads, final.2) ∧
        ∀ within, final.1.step (.close within) = (final.1, []) := by
  have possible : ((connected .empty 64).run overlapping).1.possible (.close false) = true := by
    cbv
  have stage : ((connected .empty 64).run
      (overlapping ++ .close false :: answering)).1.threads.client.closing =
        .deliveryStopped := by cbv
  have joined : ((connected .empty 64).run
      (overlapping ++ .close false :: answering)).1.joined = true := by cbv
  have calls : Threaded.issued ((connected .empty 64).run (overlapping ++ .close false ::
      answering ++ ((connected .empty 64).run (overlapping ++ .close false ::
        answering)).1.resuming panicking ++ belated)).2 = [1, 2, 3, 4, 5, 6] := by cbv
  have few : (Threaded.issued ((connected .empty 64).run (overlapping ++ .close false ::
      answering ++ ((connected .empty 64).run (overlapping ++ .close false ::
        answering)).1.resuming panicking ++ belated)).2).length ≤ 2 ^ 64 := by
    rw [calls]
    decide
  exact ⟨possible, stage, joined, few, by cbv, by cbv,
    close_settles false panicking possible stage joined few⟩

/-! ## What keeps the closing thread waiting -/

/-- Somebody takes a call out of the table: its reply has come, it is given up, or its connection
has gone down. -/
def Event.frees (xid : Int64) : Event κ → Bool
  | .act (.receive frame) => frame.xid = xid
  | .act (.sendFailed other _) | .act (.abandon other) => other = xid
  | .act .connectionLost => true
  | _ => false

/-- A thread other than the delivery thread is to join that thread, which is in a callback that
waits for a pending call. -/
structure Hangs (xid : Int64) (state : Joining κ) : Prop where
  stage : state.threads.client.closing = .deliveryStopped
  within : state.within = false
  waits : state.delivery = .waiting xid
  pending : xid ∈ state.threads.client.pending.map PendingCall.xid

/-- The closing thread is in a callback that waits for a call which this thread is to fail. -/
structure Starves (xid : Int64) (state : Joining κ) : Prop where
  stage : state.threads.client.closing = .callsFailed
  waits : state.closer = .waiting xid
  taken : ∃ entry ∈ state.threads.taken, entry.1.xid = xid ∧ entry.2.runner = .closer

section

variable {state : Joining κ} {history : List (Threaded.Effect κ)} {xid : Int64}

/-- A call of the table stays there until somebody frees it. -/
lemma mem_pending_step {state : Threaded κ}
    (pending : xid ∈ state.client.pending.map PendingCall.xid) {event : Threaded.Event κ}
    (kept : (Event.act event).frees xid = false) (other : event ≠ .closeNext) :
    xid ∈ (state.step event).1.client.pending.map PendingCall.xid := by
  have stays : ∀ {removed : Int64}, removed ≠ xid →
      xid ∈ (state.client.removePending removed).pending.map PendingCall.xid := by
    intro removed apart
    obtain ⟨call, among, rfl⟩ := List.mem_map.mp pending
    exact List.mem_map_of_mem (List.mem_filter.mpr ⟨among, decide_eq_true apart.symm⟩)
  have takes : ∀ {removed : Int64} (ending : Ending), removed ≠ xid →
      xid ∈ (state.takeOut removed ending).client.pending.map PendingCall.xid := by
    intro removed ending apart
    unfold Threaded.takeOut
    split
    · exact pending
    · exact stays apart
  -- Besides the second action of closing, only an action that frees the call removes it from the
  -- table.
  cases event with
  | closeNext => exact (other rfl).elim
  | connectionLost => cases kept
  | sendFailed removed e => exact takes _ (of_decide_eq_false kept)
  | abandon removed => exact takes _ (of_decide_eq_false kept)
  | receive frame => exact takes _ (of_decide_eq_false kept)
  | issue | register | deliver | takeReply =>
    rw [(state.sameCalls_step rfl).pending]
    exact pending
  | enter n =>
    show xid ∈ (state.enter n).1.client.pending.map PendingCall.xid
    unfold Threaded.enter
    split
    · split
      · exact ((List.sublist_append_left _ _).map PendingCall.xid).subset pending
      · exact pending
    · exact pending
  | conclude n =>
    show xid ∈ (state.conclude n).1.client.pending.map PendingCall.xid
    unfold Threaded.conclude
    split
    · exact pending
    · dsimp only
      rw [(state.client.conclude_tables _ _).pending]
      exact pending

/-- A call of the table is not resolved. -/
lemma Reached.unresolved (reached : Reached state history)
    (pending : xid ∈ state.threads.client.pending.map PendingCall.xid) :
    state.threads.client.resolution? xid = none := by
  refine reached.placed.unresolved reached.xids ?_
  have here := List.count_pos_iff.mpr pending
  omega

/-- A thread acts only while it is in no callback. -/
lemma outside_of_possible {event : Threaded.Event κ} (possible : state.possible (.act event) = true)
    {role : Role} (own : state.threads.role? event = some role) :
    state.position role = .outside := by
  by_cases closes : event = .closeNext
  · subst closes
    cases own
    exact of_decide_eq_true (Bool.and_eq_true_iff.mp possible).1
  · rw [possible_act state closes, own] at possible
    exact of_decide_eq_true possible

/-- A callback that waits for a call goes on waiting until that is resolved. -/
lemma waits_perform {role : Role} (waits : state.position role = .waiting xid)
    (unresolved : state.threads.client.resolution? xid = none) {event : Event κ}
    (possible : state.possible event = true) :
    (state.perform event).1.position role = .waiting xid := by
  -- whoever is moved by the event is somewhere else
  have stays : ∀ {other : Role} (position : Position), state.position other ≠ .waiting xid →
      (state.move other position).position role = .waiting xid := by
    intro other position elsewhere
    rw [position_move, if_neg, waits]
    rintro rfl
    exact elsewhere waits
  cases event with
  | act event =>
    obtain ⟨-, next | ⟨other, own, next⟩⟩ := state.perform_act event
    · rw [next, position_threads]
      exact waits
    · rw [next, move_threads, position_threads]
      refine stays _ ?_
      rw [outside_of_possible possible own]
      exact nofun
  | close within => exact waits
  | wait other _ | finish other =>
    refine stays _ ?_
    rw [of_decide_eq_true (Bool.and_eq_true_iff.mp possible).1]
    exact nofun
  | wake other =>
    refine stays _ fun same => ?_
    simp [Joining.possible, same, unresolved] at possible

/-- The closing thread and the callback go on waiting for each other. -/
lemma Hangs.step (hangs : Hangs xid state) (reached : Reached state history) {event : Event κ}
    (kept : event.frees xid = false) : Hangs xid (state.step event).1 := by
  by_cases possible : state.possible event = true
  swap
  · unfold Joining.step
    rw [if_neg possible]
    exact hangs
  have before : state.position .delivery = .waiting xid := hangs.waits
  have waits := waits_perform before (reached.unresolved hangs.pending) possible
  rw [step_of_possible possible]
  cases event with
  | act event =>
    have other : event ≠ .closeNext := by
      -- the closing thread has not joined the delivery thread
      rintro rfl
      simp [Joining.possible, proceeds, joined, hangs.stage, hangs.within, hangs.waits] at possible
    have stage : (state.threads.step event).1.client.closing = .deliveryStopped :=
      (Threaded.closing_step other).trans hangs.stage
    have pending := mem_pending_step hangs.pending kept other
    obtain ⟨-, next | ⟨role, -, next⟩⟩ := state.perform_act event <;> rw [next] at waits ⊢
    · exact ⟨stage, hangs.within, waits, pending⟩
    · refine ⟨?_, (within_move _ _ _).trans hangs.within, waits, ?_⟩ <;> rwa [threads_move]
  | close within =>
    have going := of_decide_eq_true (Bool.and_eq_true_iff.mp possible).1
    cases hangs.stage.symm.trans going
  | wait role | wake role | finish role =>
    refine ⟨?_, (within_move _ _ _).trans hangs.within, waits, ?_⟩
    · exact (congrArg (·.client.closing) (threads_move state role _)).trans hangs.stage
    · exact (threads_move state role _).symm ▸ hangs.pending

/-- A call that the closing thread is to fail is left to that thread. -/
lemma mem_taken_step {state : Threaded κ} {entry : PendingCall × Ending}
    (taken : entry ∈ state.taken) (own : entry.2.runner = .closer) {event : Threaded.Event κ}
    (foreign : state.role? event ≠ some .closer) : entry ∈ (state.step event).1.taken := by
  have stays : ∀ (removed : Int64) (ending : Ending),
      entry ∈ (state.takeOut removed ending).taken := by
    intro removed ending
    unfold Threaded.takeOut
    split
    · exact taken
    · exact List.mem_append_left _ taken
  cases event with
  | closeNext => exact (foreign rfl).elim
  | connectionLost => exact List.mem_append_left _ taken
  | sendFailed | abandon | receive => exact stays _ _
  | issue | register | deliver | takeReply =>
    rw [(state.sameCalls_step rfl).taken]
    exact taken
  | enter n =>
    show entry ∈ (state.enter n).1.taken
    unfold Threaded.enter
    split
    · split
      · exact taken
      · exact List.mem_append_left _ taken
    · exact taken
  | conclude n =>
    show entry ∈ (state.conclude n).1.taken
    unfold Threaded.conclude
    split
    · exact taken
    · rename_i call ending here
      -- the call that is resolved is another one, as it is not the closing thread's
      have apart : entry ≠ (call, ending) := by
        rintro rfl
        refine foreign ?_
        unfold Threaded.role?
        simp [here, own]
      obtain ⟨place, there⟩ := List.mem_iff_getElem?.mp taken
      refine List.mem_eraseIdx_iff_getElem?.mpr ⟨place, ?_, there⟩
      rintro rfl
      exact apart (Option.some.inj (there.symm.trans here))

/-- The closing thread goes on waiting for itself. -/
lemma Starves.step (starves : Starves xid state) (reached : Reached state history)
    (event : Event κ) : Starves xid (state.step event).1 := by
  by_cases possible : state.possible event = true
  swap
  · unfold Joining.step
    rw [if_neg possible]
    exact starves
  obtain ⟨⟨call, ending⟩, taken, rfl, own⟩ := starves.taken
  obtain ⟨place, here⟩ := List.mem_iff_getElem?.mp taken
  have before : state.position .closer = .waiting call.xid := starves.waits
  have unresolved := reached.placed.unresolved_of_taken reached.xids here
  have waits := waits_perform before unresolved possible
  rw [step_of_possible possible]
  cases event with
  | act event =>
    -- the call that is waited for can only be failed by the thread that waits for it
    have foreign : state.threads.role? event ≠ some .closer := by
      intro mine
      cases before.symm.trans (outside_of_possible possible mine)
    have other : event ≠ .closeNext := by
      rintro rfl
      exact foreign rfl
    have stage : (state.threads.step event).1.client.closing = .callsFailed :=
      (Threaded.closing_step other).trans starves.stage
    have stays := mem_taken_step taken own foreign
    obtain ⟨-, next | ⟨role, -, next⟩⟩ := state.perform_act event <;> rw [next] at waits ⊢
    · exact ⟨stage, waits, _, stays, rfl, own⟩
    · refine ⟨?_, waits, _, ?_, rfl, own⟩ <;> rwa [threads_move]
  | close within =>
    have going := of_decide_eq_true (Bool.and_eq_true_iff.mp possible).1
    cases starves.stage.symm.trans going
  | wait role | wake role | finish role =>
    refine ⟨?_, waits, _, (threads_move state role _).symm ▸ taken, rfl, own⟩
    exact (congrArg (·.client.closing) (threads_move state role _)).trans starves.stage

end

/-- What every allowed action keeps in the states that a new connection leads to, a run keeps. -/
lemma keeps_run {registry : Registry} {maxPayload : UInt32} (Inv : Joining κ → Prop)
    (Allowed : Event κ → Prop) (keeps : ∀ {state : Joining κ} {history : List (Threaded.Effect κ)}
      {event : Event κ}, Reached state history → Allowed event → Inv state →
        Inv (state.step event).1) {before after : List (Event κ)}
    (few : (Threaded.issued ((connected registry maxPayload).run (before ++ after)).2).length ≤
      2 ^ 64)
    (allowed : ∀ event ∈ after, Allowed event)
    (holds : Inv ((connected registry maxPayload).run before).1) :
    Inv ((connected registry maxPayload).run (before ++ after)).1 := by
  induction after generalizing before with
  | nil =>
    rw [List.append_nil]
    exact holds
  | cons event rest ih =>
    have split : before ++ event :: rest = (before ++ [event]) ++ rest := by simp
    have last : ((connected registry maxPayload).run (before ++ [event])).1 =
        (((connected registry maxPayload).run before).1.step event).1 := by
      rw [run_append]
      rfl
    have reached := reached_run registry maxPayload (few_before few)
    have now := keeps reached (allowed event List.mem_cons_self) holds
    rw [split] at few ⊢
    refine ih few (fun later among => allowed later (List.mem_cons_of_mem _ among)) ?_
    rw [last]
    exact now

section

variable {registry : Registry} {maxPayload : UInt32} {before after : List (Event κ)} {xid : Int64}

/-- A client is not closed, and a call of it is not resolved. -/
def Unsettled (xid : Int64) (state : Joining κ) : Prop :=
  state.threads.client.closing ≠ .closed ∧ state.threads.client.resolution? xid = none

/-- A callback on the delivery thread waits for a call, and another thread closes the client.  As
long as nobody frees the call, the client is not closed and the call is not resolved. -/
theorem unsettled_of_hangs
    (few : (Threaded.issued ((connected registry maxPayload).run (before ++ after)).2).length ≤
      2 ^ 64)
    (hangs : Hangs xid ((connected registry maxPayload).run before).1)
    (kept : ∀ event ∈ after, event.frees xid = false) :
    Unsettled xid ((connected registry maxPayload).run (before ++ after)).1 := by
  have hangs' := keeps_run (Hangs xid) (fun event => event.frees xid = false)
    (fun reached kept hangs => hangs.step reached kept) few kept hangs
  have reached := reached_run registry maxPayload few
  refine ⟨?_, reached.unresolved hangs'.pending⟩
  rw [hangs'.stage]
  decide

/-- A callback that the closing thread runs waits for a call which this thread is to fail.  Then the
client is never closed, and the call never resolved. -/
theorem unsettled_of_starves
    (few : (Threaded.issued ((connected registry maxPayload).run (before ++ after)).2).length ≤
      2 ^ 64)
    (starves : Starves xid ((connected registry maxPayload).run before).1) :
    Unsettled xid ((connected registry maxPayload).run (before ++ after)).1 := by
  have starves' := keeps_run (Starves xid) (fun _ => True)
    (fun reached _ starves => starves.step reached _) few (fun _ _ => trivial) starves
  have reached := reached_run registry maxPayload few
  obtain ⟨⟨call, ending⟩, taken, rfl, own⟩ := starves'.taken
  obtain ⟨place, here⟩ := List.mem_iff_getElem?.mp taken
  refine ⟨?_, reached.placed.unresolved_of_taken reached.xids here⟩
  rw [starves'.stage]
  decide

end

/-- A call is answered, and its callback issues another one and waits for it. -/
def waiting : List (Event Nat) :=
  [.act (.issue ⟨7, [], [], []⟩ (some 10)), .act (.register 0), .act (.enter 0),
    .act (.receive (.reply 1 Status.ok [])), .act (.conclude 0), .act .deliver,
    .act (.issue ⟨7, [], [], []⟩ none), .act (.enter 0), .wait .delivery 2]

/-- The client is closed by another thread then.  Whatever the threads do, unless the call is
answered or given up or its connection goes down, the close does not come to its end and the call is
never failed. -/
theorem close_hangs :
    ((connected .empty 64).run waiting).1.possible (.close false) = true ∧
      ((connected .empty 64).run waiting).1.threads.client.pending = [⟨2, none⟩] ∧
      ∀ after : List (Event Nat),
        (Threaded.issued ((connected .empty 64).run
          (waiting ++ [.close false] ++ after)).2).length ≤ 2 ^ 64 →
        (∀ event ∈ after, event.frees 2 = false) →
        Unsettled 2 ((connected .empty 64).run (waiting ++ [.close false] ++ after)).1 := by
  have hangs : Hangs 2 ((connected .empty 64).run (waiting ++ [.close false])).1 := by
    refine ⟨?_, ?_, ?_, ?_⟩
    · cbv
    · cbv
    · cbv
    · have pending :
          ((connected .empty 64).run (waiting ++ [.close false])).1.threads.client.pending =
            [⟨2, none⟩] := by cbv
      rw [pending]
      exact List.mem_singleton_self _
  exact ⟨by cbv, by cbv, fun after few kept => unsettled_of_hangs few hangs kept⟩

end Joining

end RemoteCall
