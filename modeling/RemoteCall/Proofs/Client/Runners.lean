import RemoteCall.Client.Link
import RemoteCall.Proofs.Client.Verdicts
import RemoteCall.Proofs.Machine

/-!
# Who runs callbacks

A callback is run by the delivery thread.  If a call fails before it was sent, its caller runs the
callback, and if it is still in the table when the client is closed, the closing thread does.

The delivery thread takes nothing on once it was stopped, which is the first action of closing.
From then on whoever resolves a call runs its callback himself, and the reader is one of those who
resolve calls: a reply that it hands on before the calls were failed, or the end of the connection,
makes it run a callback (`reader_runs`).  As the table is closed with the second action of closing,
there is no other way: if the reader has no call with a callback in its hands when delivery stops,
and takes none out of the table before the second action, it runs no callback (`invoked_aside`).

## The proof

The ending that a thread has in its hands names the thread that is to run the callback.  So it is
enough to know how calls come into the hands of threads (`Takes`, `mem_step`), and that all endings
are of a few kinds (`Meant`).  A run stays aside if no step of it gives the reader a call with a
callback between the first two actions of closing; that can be computed, step by step, and is what
`invoked_aside` assumes.

## Main statements

* `invoked_aside` — who runs callbacks, if the reader stays aside from those of a client that is
  being closed.
* `reader_runs` — the reader runs a callback.
-/

namespace RemoteCall

namespace Threaded

variable {κ : Type}

/-! ## Calls that come into the hands of threads -/

/-- In an action a thread takes a call out of the table, or finds that it is not admitted, and this
is how it is going to end the call. -/
inductive Takes (state : Threaded κ) : Event κ → PendingCall × Ending → Prop
  | enter {n : Nat} {call : PendingCall} :
    Takes state (.enter n) (call, .unsent Status.notConnected)
  | sendFailed {xid : Int64} {e : Error} {call : PendingCall} :
    Takes state (.sendFailed xid e) (call, .unsent (Client.unsentStatus e))
  | abandon {xid : Int64} {call : PendingCall} :
    Takes state (.abandon xid) (call, .settled Status.timedOut none .caller)
  | receive {frame : Frame} {call : PendingCall}
    (found : state.client.pendingCall? frame.xid = some call) :
    Takes state (.receive frame) (call, .settled frame.status (some frame.payload) .reader)
  | connectionLost {call : PendingCall} (among : call ∈ state.client.pending) :
    Takes state .connectionLost (call, .settled Status.connectionReset none .reader)
  | closeNext {call : PendingCall} :
    Takes state .closeNext (call, .settled Status.clientClosed none .closer)

section

variable {state : Threaded κ} {entry : PendingCall × Ending}

lemma mem_takeOut {xid : Int64} {ending : Ending}
    (present : entry ∈ (state.takeOut xid ending).taken) : entry ∈ state.taken ∨
      ∃ call, state.client.pendingCall? xid = some call ∧ entry = (call, ending) := by
  unfold takeOut at present
  split at present
  · exact Or.inl present
  · rename_i call found
    rcases List.mem_append.mp present with before | now
    · exact Or.inl before
    · exact Or.inr ⟨call, found, List.mem_singleton.mp now⟩

lemma mem_drain {status : Status} {runner : Runner}
    (present : entry ∈ (state.drain status runner).taken) : entry ∈ state.taken ∨
      ∃ call ∈ state.client.pending, entry = (call, .settled status none runner) := by
  rcases List.mem_append.mp present with before | now
  · exact Or.inl before
  · obtain ⟨call, among, rfl⟩ := List.mem_map.mp now
    exact Or.inr ⟨call, List.mem_mergeSort.mp among, rfl⟩

lemma mem_enter {n : Nat} (present : entry ∈ (state.enter n).1.taken) :
    entry ∈ state.taken ∨ Takes state (.enter n) entry := by
  unfold enter at present
  split at present
  · split at present
    · exact Or.inl present
    · rcases List.mem_append.mp present with before | now
      · exact Or.inl before
      · cases List.mem_singleton.mp now
        exact Or.inr .enter
  · exact Or.inl present

lemma mem_closeNext (present : entry ∈ state.closeNext.taken) :
    entry ∈ state.taken ∨ Takes state .closeNext entry := by
  unfold closeNext at present
  split at present
  · exact Or.inl present
  · rcases mem_drain present with before | ⟨call, -, rfl⟩
    · exact Or.inl before
    · exact Or.inr .closeNext
  · exact Or.inl present
  · exact Or.inl present

/-- A call is in the hands of a thread after an action if it was before, or if the thread has taken
it in this action. -/
lemma mem_step {event : Event κ} (present : entry ∈ (state.step event).1.taken) :
    entry ∈ state.taken ∨ Takes state event entry := by
  cases event with
  | enter n => exact mem_enter present
  | sendFailed xid e =>
    rcases mem_takeOut present with before | ⟨call, -, rfl⟩
    · exact Or.inl before
    · exact Or.inr .sendFailed
  | abandon xid =>
    rcases mem_takeOut present with before | ⟨call, -, rfl⟩
    · exact Or.inl before
    · exact Or.inr .abandon
  | receive frame =>
    rcases mem_takeOut present with before | ⟨call, found, rfl⟩
    · exact Or.inl before
    · exact Or.inr (.receive found)
  | connectionLost =>
    rcases mem_drain present with before | ⟨call, among, rfl⟩
    · exact Or.inl before
    · exact Or.inr (.connectionLost among)
  | closeNext => exact mem_closeNext present
  | issue | register | deliver | takeReply =>
    rw [(state.sameCalls_step rfl).taken] at present
    exact Or.inl present
  | conclude n =>
    unfold step conclude at present
    dsimp only at present
    split at present
    · exact Or.inl present
    · exact Or.inl (List.mem_of_mem_eraseIdx present)

end

/-- How the threads mean to end calls. -/
inductive Meant : Ending → Prop
  | unsent (status : Status) : Meant (.unsent status)
  /-- Its caller has waited long enough. -/
  | givenUp : Meant (.settled Status.timedOut none .caller)
  | handed (status : Status) (payload : Option Bytes) : Meant (.settled status payload .reader)
  | closed : Meant (.settled Status.clientClosed none .closer)

/-- Every call that a thread has in its hands ends in one of these ways. -/
def AllMeant (state : Threaded κ) : Prop := ∀ entry ∈ state.taken, Meant entry.2

lemma AllMeant.step {state : Threaded κ} (meant : state.AllMeant) (event : Event κ) :
    (state.step event).1.AllMeant := by
  intro entry present
  rcases mem_step present with before | takes
  · exact meant entry before
  · cases takes with
    | enter | sendFailed => exact .unsent _
    | abandon => exact .givenUp
    | receive | connectionLost => exact .handed _ _
    | closeNext => exact .closed

/-! ## Runs of callbacks -/

/-- A thread runs the callback of a call in an action. -/
inductive RunBy (state : Threaded κ) (id : UInt64) (xid : Int64) : Event κ → Runner → Prop
  | delivery {rest : List (UInt64 × Int64)} (next : state.client.deliveries = (id, xid) :: rest) :
    RunBy state id xid .deliver .delivery
  /-- The call could not be sent. -/
  | caller {n : Nat} {status : Status}
    (here : state.taken[n]? = some (⟨xid, some id⟩, .unsent status)) :
    RunBy state id xid (.conclude n) .caller
  /-- The caller has given the call up. -/
  | waiter {n : Nat}
    (here : state.taken[n]? = some (⟨xid, some id⟩, .settled Status.timedOut none .caller))
    (stopped : state.client.deliveryStopped = true) : RunBy state id xid (.conclude n) .caller
  | closer {n : Nat}
    (here : state.taken[n]? = some (⟨xid, some id⟩, .settled Status.clientClosed none .closer)) :
    RunBy state id xid (.conclude n) .closer
  | reader {n : Nat} {status : Status} {payload : Option Bytes}
    (here : state.taken[n]? = some (⟨xid, some id⟩, .settled status payload .reader))
    (stopped : state.client.deliveryStopped = true) : RunBy state id xid (.conclude n) .reader

lemma mem_ran {id id' : UInt64} {xid xid' : Int64} {runner : Runner} {client : Client κ}
    {invocation : Invocation κ}
    (seen : .invoked id xid invocation ∈ ran id' xid' (client.runCallback id' xid' runner).2) :
    id = id' ∧ xid = xid' ∧ invocation.runner = runner := by
  unfold Client.runCallback at seen
  split at seen
  · cases List.mem_singleton.mp seen
    exact ⟨rfl, rfl, rfl⟩
  · cases seen

/-- A thread that resolves a call runs its callback at once if the call fails before it was sent, or
if delivery has stopped. -/
lemma mem_ranFor_conclude {client : Client κ} {call : PendingCall} {ending : Ending} {id : UInt64}
    {xid : Int64} {invocation : Invocation κ}
    (seen : .invoked id xid invocation ∈ ranFor call (client.conclude call ending).2) :
    call = ⟨xid, some id⟩ ∧ invocation.runner = ending.runner ∧
      ((∃ status, ending = .unsent status) ∨ client.deliveryStopped = true) := by
  obtain ⟨number, callback⟩ := call
  cases callback with
  | none => cases seen
  | some callback =>
    cases ending with
    | unsent status =>
      obtain ⟨rfl, rfl, runner⟩ := mem_ran seen
      exact ⟨rfl, runner, Or.inl ⟨status, rfl⟩⟩
    | settled status payload runner =>
      have same : (client.resolve number status payload).deliveryStopped =
          client.deliveryStopped := rfl
      unfold Client.conclude Client.complete at seen
      dsimp only at seen
      rw [same] at seen
      split at seen
      · rename_i stopped
        obtain ⟨rfl, rfl, runner⟩ := mem_ran seen
        exact ⟨rfl, runner, Or.inr stopped⟩
      · cases seen

variable {state : Threaded κ}

lemma runBy_conclude (meant : state.AllMeant) {n : Nat} {id : UInt64} {xid : Int64}
    {invocation : Invocation κ} (seen : .invoked id xid invocation ∈ (state.conclude n).2) :
    RunBy state id xid (.conclude n) invocation.runner := by
  unfold conclude at seen
  split at seen
  · cases seen
  · rename_i call ending here
    have seen : .invoked id xid invocation ∈ ranFor call (state.client.conclude call ending).2 := by
      rcases List.mem_cons.mp seen with resolved | ran
      · cases resolved
      · exact ran
    obtain ⟨rfl, runner, stopped⟩ := mem_ranFor_conclude seen
    rw [runner]
    cases meant _ (List.mem_of_getElem? here) with
    | unsent status => exact .caller here
    | closed => exact .closer here
    | givenUp => exact .waiter here (stopped.resolve_left nofun)
    | handed => exact .reader here (stopped.resolve_left nofun)

/-- Every run of a callback is the work of one of these threads. -/
lemma runBy_step (meant : state.AllMeant) {event : Event κ} {id : UInt64} {xid : Int64}
    {invocation : Invocation κ} (seen : .invoked id xid invocation ∈ (state.step event).2) :
    RunBy state id xid event invocation.runner := by
  unfold step at seen
  cases event with
  | conclude n => exact runBy_conclude meant seen
  | deliver =>
    dsimp only at seen
    unfold deliver Client.deliver at seen
    cases queue : state.client.deliveries with
    | nil =>
      rw [queue] at seen
      cases seen
    | cons next rest =>
      rw [queue] at seen
      obtain ⟨rfl, rfl, runner⟩ := mem_ran seen
      rw [runner]
      exact .delivery queue
  | issue request callback =>
    dsimp only at seen
    unfold issue at seen
    split at seen <;> simp at seen
  | register n =>
    dsimp only at seen
    unfold register at seen
    split at seen <;> simp at seen
  | enter n =>
    dsimp only at seen
    unfold enter at seen
    split at seen
    · split at seen <;> simp at seen
    · cases seen
  | receive frame =>
    dsimp only at seen
    unfold receive at seen
    dsimp only at seen
    split at seen <;> simp at seen
  | sendFailed | abandon | connectionLost | takeReply | closeNext => cases seen

lemma runBy_run {start : Threaded κ} (meant : start.AllMeant) {events : List (Event κ)}
    {id : UInt64} {xid : Int64} {invocation : Invocation κ}
    (seen : .invoked id xid invocation ∈ (start.run events).2) :
    ∃ before event after, events = before ++ event :: after ∧
      RunBy (start.run before).1 id xid event invocation.runner := by
  obtain ⟨before, event, after, split, shown⟩ := Machine.exists_step_of_mem seen
  have keeps : ∀ (state : Threaded κ) (event : Event κ), state.AllMeant →
      (state.step event).1.AllMeant := fun _ event meant => meant.step event
  have meant' : (start.run before).1.AllMeant := Machine.run_invariant keeps meant before
  exact ⟨before, event, after, split, runBy_step meant' shown⟩

/-! ## The reader -/

/-- Between the first and the second action of closing the reader takes no call with a callback out
of the table, and at the first one it has none in its hands. -/
def keepsAside (state : Threaded κ) : Event κ → Bool
  | .receive frame =>
    decide (state.client.closing ≠ .deliveryStopped) ||
      (state.client.pendingCall? frame.xid).all (·.callback.isNone)
  | .connectionLost =>
    decide (state.client.closing ≠ .deliveryStopped) ||
      state.client.pending.all (·.callback.isNone)
  | .closeNext =>
    decide (state.client.closing ≠ .notClosed) ||
      state.taken.all fun (call, ending) => decide (ending.runner ≠ .reader) || call.callback.isNone
  | _ => true

/-- It is so in all actions of a run. -/
def staysAside (state : Threaded κ) : List (Event κ) → Bool
  | [] => true
  | event :: rest => state.keepsAside event && (state.step event).1.staysAside rest

/-- Once delivery has stopped, the reader has no call with a callback in its hands. -/
structure Aside (state : Threaded κ) : Prop where
  failed : state.Failed
  drained : state.client.isOpen = false → state.client.pending = []
  idle : state.client.closing ≠ .notClosed →
    ∀ entry ∈ state.taken, entry.2.runner = .reader → entry.1.callback = none

/-- Once the calls were failed in closing, nothing is left to be taken out. -/
lemma Aside.empty (aside : state.Aside) (closes : state.client.closing ≠ .notClosed)
    (failing : state.client.closing ≠ .deliveryStopped) : state.client.pending = [] := by
  refine aside.drained (aside.failed ?_)
  cases closing : state.client.closing with
  | notClosed => exact (closes closing).elim
  | deliveryStopped => exact (failing closing).elim
  | callsFailed => exact Or.inl rfl
  | closed => exact Or.inr rfl

/-- A call that the reader takes out of the table while the client is being closed has no
callback. -/
lemma Aside.receive (aside : state.Aside) {frame : Frame}
    (keeps : state.keepsAside (.receive frame) = true)
    (closes : state.client.closing ≠ .notClosed) {call : PendingCall}
    (found : state.client.pendingCall? frame.xid = some call) : call.callback = none := by
  unfold keepsAside at keeps
  by_cases failing : state.client.closing = .deliveryStopped
  · simpa [failing, found] using keeps
  · unfold Client.pendingCall? at found
    rw [aside.empty closes failing] at found
    cases found

lemma Aside.connectionLost (aside : state.Aside)
    (keeps : state.keepsAside .connectionLost = true)
    (closes : state.client.closing ≠ .notClosed) {call : PendingCall}
    (among : call ∈ state.client.pending) : call.callback = none := by
  unfold keepsAside at keeps
  by_cases failing : state.client.closing = .deliveryStopped
  · have all : ∀ call ∈ state.client.pending, call.callback = none := by
      simpa [failing] using keeps
    exact all call among
  · rw [aside.empty closes failing] at among
    cases among

/-- When delivery stops, the reader has no call with a callback in its hands. -/
lemma Aside.closeNext (aside : state.Aside) (keeps : state.keepsAside .closeNext = true)
    {entry : PendingCall × Ending} (present : entry ∈ state.taken)
    (reader : entry.2.runner = .reader) : entry.1.callback = none := by
  by_cases going : state.client.closing = .notClosed
  · unfold keepsAside at keeps
    have idle : ∀ entry ∈ state.taken, entry.2.runner = .reader → entry.1.callback = none := by
      simpa [going, imp_iff_not_or] using keeps
    exact idle entry present reader
  · exact aside.idle going entry present reader

lemma Aside.step (aside : state.Aside) {event : Event κ}
    (keeps : state.keepsAside event = true) : (state.step event).1.Aside := by
  refine ⟨failed_step aside.failed event, (acts_step state event).drained aside.drained, ?_⟩
  intro closes entry present reader
  by_cases closing : event = .closeNext
  · subst closing
    rcases mem_step present with before | takes
    · exact aside.closeNext keeps before reader
    · cases takes
      cases reader
  · rw [closing_step closing] at closes
    rcases mem_step present with before | takes
    · exact aside.idle closes entry before reader
    · cases takes with
      | enter | sendFailed | abandon | closeNext => cases reader
      | receive found => exact aside.receive keeps closes found
      | connectionLost among => exact aside.connectionLost keeps closes among

lemma Aside.run (aside : state.Aside) {before after : List (Event κ)}
    (stays : state.staysAside (before ++ after) = true) : (state.run before).1.Aside := by
  induction before generalizing state with
  | nil => exact aside
  | cons event rest ih =>
    obtain ⟨now, later⟩ := Bool.and_eq_true_iff.mp stays
    exact ih (aside.step now) later

lemma aside_connected {registry : Registry} {maxPayload : UInt32} :
    (connected registry maxPayload : Threaded κ).Aside := by
  refine ⟨fun failing => ?_, fun _ => rfl, nofun⟩
  rcases failing with failing | failing <;> cases failing

/-- The callbacks of a client are run by its delivery thread, by callers whose calls fail, and by
the thread that closes the client.  The reader runs none, if it stays aside from the calls with
callbacks between the first and the second action of closing. -/
theorem invoked_aside {registry : Registry} {maxPayload : UInt32} {events : List (Event κ)}
    (aside : (connected registry maxPayload).staysAside events = true) {id : UInt64} {xid : Int64}
    {invocation : Invocation κ}
    (seen : .invoked id xid invocation ∈ ((connected registry maxPayload).run events).2) :
    invocation.runner ≠ .reader ∧ ∃ before event after, events = before ++ event :: after ∧
      RunBy ((connected registry maxPayload).run before).1 id xid event invocation.runner := by
  have meant : (connected registry maxPayload : Threaded κ).AllMeant := nofun
  obtain ⟨before, event, after, rfl, runBy⟩ := runBy_run meant seen
  refine ⟨fun reader => ?_, before, event, after, rfl, runBy⟩
  rw [reader] at runBy
  cases runBy with
  | reader here stopped =>
    have idle := (aside_connected.run aside).idle (of_decide_eq_true stopped)
    cases idle _ (List.mem_of_getElem? here) rfl

/-- The first of three calls is answered, the second one waits when the client is closed, and the
third one is issued after that. -/
def aside : List (Event String) :=
  [.issue ⟨7, [], [], []⟩ (some "first"), .register 0, .enter 0, .receive (.reply 1 Status.ok []),
    .conclude 0, .deliver, .issue ⟨7, [], [], []⟩ (some "second"), .register 0, .enter 0,
    .closeNext, .closeNext, .conclude 0, .issue ⟨7, [], [], []⟩ (some "third"), .register 0,
    .enter 0, .conclude 0, .closeNext]

theorem invoked_aside_closed :
    (connected .empty 64).staysAside aside = true ∧
      (.invoked 2 2 ⟨"second", ⟨Status.clientClosed, []⟩, .closer⟩ : Effect String) ∈
        ((connected .empty 64).run aside).2 ∧
      ∃ before event after, aside = before ++ event :: after ∧
        RunBy ((connected .empty 64).run before).1 2 2 event .closer := by
  have stays : (connected .empty 64).staysAside aside = true := by cbv
  have seen : (.invoked 2 2 ⟨"second", ⟨Status.clientClosed, []⟩, .closer⟩ : Effect String) ∈
      ((connected .empty 64).run aside).2 := by
    have here : ((connected .empty 64).run aside).2[12]? =
        some (.invoked 2 2 ⟨"second", ⟨Status.clientClosed, []⟩, .closer⟩) := by cbv
    exact List.mem_of_getElem? here
  exact ⟨stays, seen, (invoked_aside stays seen).2⟩

/-- A reply arrives while the client is being closed, after delivery has stopped and before the
pending calls are failed.  The reader runs the callback. -/
theorem reader_runs :
    ((Link.connected .empty {} : Link Unit).run
      [.startReader, .issue ⟨7, [], [], []⟩ (some ()), .closeNext,
        .read (Frame.reply 1 Status.ok []).encode]).2 =
          [.issued 1, .invoked ⟨(), ⟨Status.ok, []⟩, .reader⟩] := by
  cbv

end Threaded

end RemoteCall
