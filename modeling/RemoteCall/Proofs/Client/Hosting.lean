import RemoteCall.Proofs.Client.Reading
import RemoteCall.Proofs.Client.Verdicts

/-!
# When the tasks of a client are dropped

A client does not run its reader itself: the reader is a task of a poll manager, and the manager may
be shut down at any time.  The task is dropped then, wherever it is.  A reader that has begun
disconnects its client in any case, so all calls of the table fail, and later ones find the table
closed (`calls_reset`).

A reader that was not polled before it is dropped runs nothing of its body, and nobody else
disconnects its client.  What is in the table then stays there (`unpolled_hangs`).

## The proof

`Hosted` is a client whose threads may be anywhere, with the state of its reader.  To leave the body
of the reader is to disconnect the client, whether the reader has come to its end or is dropped half
way; so a drop is the loss of the connection, which is known from `reset_run`, as long as the body
was entered (`leave_eq`).  A reader can have ended before only if the table was closed, by the
reader itself or by closing the client (`Sound`), and then the drop changes nothing.

The runs of a link are among those of a client on a manager (`exists_run_of_link`): each action of a
link is a few actions of the threads, followed by what the reader does (`leads_step`).

## Main statements

* `calls_reset` — when the tasks of a client are dropped, its calls are reset if its reader has
  begun.
* `unpolled_hangs` — a call that stays in the table for good.
* `exists_run_of_link` — the runs of a link are among those of a client on a manager.
-/

namespace RemoteCall

/-! ## The task of the reader -/

/-- A client on a poll manager: its threads, and how far its reader is. -/
structure Hosted (κ : Type) where
  threads : Threaded κ
  reader : ReplyReader

namespace Hosted

variable {κ : Type}

/-- A client that was just connected. -/
def connected (registry : Registry) (maxPayload : UInt32) : Hosted κ :=
  ⟨.connected registry maxPayload, .spawned⟩

/-- What happens to a client and its reader. -/
inductive Event (κ : Type) where
  /-- A thread acts.  Replies may come in at any time; when the reader hands them on is of no
  concern here. -/
  | act (event : Threaded.Event κ)
  /-- The reader is polled for the first time. -/
  | startReader
  /-- The reader ends by itself. -/
  | endReader
  /-- The client is closed, and its reader is cancelled. -/
  | cancelReader
  /-- The manager is shut down, and the tasks are dropped. -/
  | dropTasks

/-- The body of the reader is left, if it was entered.  The client is disconnected then. -/
def leave (state : Hosted κ) : Threaded κ :=
  match state.reader with
  | .running => state.threads.drain Status.connectionReset .reader
  | _ => state.threads

/-- Run one action. -/
def step (state : Hosted κ) : Event κ → Hosted κ × List (Threaded.Effect κ)
  | .act event =>
    (⟨(state.threads.step event).1, state.reader⟩, (state.threads.step event).2)
  | .startReader =>
    (if state.reader = .spawned then { state with reader := .running } else state, [])
  | .endReader => (if state.reader = .running then ⟨state.leave, .ended⟩ else state, [])
  | .cancelReader =>
    (if state.threads.client.closing = .closed then { state with reader := .ended } else state, [])
  | .dropTasks => (⟨state.leave, .ended⟩, [])

/-- Run actions one after the other. -/
def run (state : Hosted κ) (events : List (Event κ)) : Hosted κ × List (Threaded.Effect κ) :=
  Machine.run step state events

section

variable {state : Hosted κ}

lemma threads_leave (state : Hosted κ) :
    ∃ acts, state.threads.run acts = (state.leave, []) := by
  unfold leave
  split
  · exact ⟨[.connectionLost], rfl⟩
  · exact ⟨[], rfl⟩

lemma threads_step (state : Hosted κ) (event : Event κ) :
    ∃ acts, state.threads.run acts = ((state.step event).1.threads, (state.step event).2) := by
  cases event with
  | act event => exact ⟨[event], Prod.ext rfl (List.append_nil _)⟩
  | startReader =>
    refine ⟨[], ?_⟩
    unfold step
    dsimp only
    split <;> rfl
  | endReader =>
    unfold step
    dsimp only
    split
    · exact threads_leave state
    · exact ⟨[], rfl⟩
  | cancelReader =>
    refine ⟨[], ?_⟩
    unfold step
    dsimp only
    split <;> rfl
  | dropTasks => exact threads_leave state

/-- The threads of a client do nothing on a manager that they would not do otherwise. -/
lemma threads_run (state : Hosted κ) (events : List (Event κ)) :
    ∃ acts, state.threads.run acts = ((state.run events).1.threads, (state.run events).2) := by
  induction events generalizing state with
  | nil => exact ⟨[], rfl⟩
  | cons event rest ih =>
    obtain ⟨first, now⟩ := threads_step state event
    obtain ⟨others, later⟩ := ih (state.step event).1
    refine ⟨first ++ others, ?_⟩
    rw [Threaded.run_append, now, later]
    rfl

/-- A reader that was not dropped by the manager has ended only if the table is closed. -/
structure Sound (state : Hosted κ) : Prop where
  failed : state.threads.Failed
  ended : state.reader = .ended → state.threads.client.isOpen = false

lemma sound_connected {registry : Registry} {maxPayload : UInt32} :
    (connected registry maxPayload : Hosted κ).Sound := by
  refine ⟨fun failing => ?_, nofun⟩
  rcases failing with failing | failing <;> cases failing

lemma Sound.step (sound : state.Sound) {event : Event κ} (kept : event ≠ .dropTasks) :
    (state.step event).1.Sound := by
  unfold Hosted.step
  cases event with
  | dropTasks => exact (kept rfl).elim
  | act event =>
    exact ⟨Threaded.failed_step sound.failed event,
      fun ended => (Threaded.acts_step state.threads event).shut (sound.ended ended)⟩
  | startReader =>
    dsimp only
    split
    · exact ⟨sound.failed, nofun⟩
    · exact sound
  | endReader =>
    dsimp only
    split
    · rename_i running
      unfold leave
      rw [running]
      exact ⟨Threaded.failed_step sound.failed .connectionLost, fun _ => rfl⟩
    · exact sound
  | cancelReader =>
    dsimp only
    split
    · rename_i closed
      exact ⟨sound.failed, fun _ => sound.failed (Or.inr closed)⟩
    · exact sound

lemma Sound.run (sound : state.Sound) {events : List (Event κ)} (kept : .dropTasks ∉ events) :
    (state.run events).1.Sound := by
  induction events generalizing state with
  | nil => exact sound
  | cons event rest ih =>
    obtain ⟨now, later⟩ := not_or.mp (mt List.mem_cons.mpr kept)
    exact ih (sound.step (Ne.symm now)) later

end

lemma run_append (state : Hosted κ) (before after : List (Event κ)) :
    state.run (before ++ after) = (((state.run before).1.run after).1,
      (state.run before).2 ++ ((state.run before).1.run after).2) :=
  Machine.run_append step state before after

/-- When the tasks are dropped, the connection goes down. -/
lemma leave_eq {state : Hosted κ} (sound : state.Sound)
    (polled : state.reader = .spawned → state.threads.client.isOpen = false)
    (drained : state.threads.client.isOpen = false → state.threads.client.pending = []) :
    state.leave = (state.threads.step .connectionLost).1 := by
  unfold leave
  split
  · rfl
  · rename_i idle
    have shut : state.threads.client.isOpen = false := by
      cases reader : state.reader with
      | spawned => exact polled reader
      | running => exact (idle reader).elim
      | ended => exact sound.ended reader
    exact (Threaded.drain_of_shut shut (drained shut) _ _).symm

/-- When the tasks of a client are dropped, its calls are reset.  Its reader has to have begun, or
the table was closed before; and the counter of transaction IDs has not come round. -/
theorem calls_reset {registry : Registry} {maxPayload : UInt32} {before after : List (Event κ)}
    (first : .dropTasks ∉ before)
    (polled : ((connected registry maxPayload).run before).1.reader = .spawned →
      ((connected registry maxPayload).run before).1.threads.client.isOpen = false)
    (few : (Threaded.issued ((connected registry maxPayload).run
      (before ++ .dropTasks :: after)).2).length ≤ 2 ^ 64) :
    Threaded.Reset ((connected registry maxPayload).run before).1.threads
      ((connected registry maxPayload).run (before ++ .dropTasks :: after)).1.threads
      ((connected registry maxPayload).run (before ++ .dropTasks :: after)).2 := by
  have sound : ((connected registry maxPayload : Hosted κ).run before).1.Sound :=
    sound_connected.run first
  obtain ⟨acts, sooner⟩ : ∃ acts, (Threaded.connected registry maxPayload).run acts =
      (((connected registry maxPayload).run before).1.threads,
        ((connected registry maxPayload).run before).2) :=
    threads_run (connected registry maxPayload) before
  rw [run_append] at few ⊢
  generalize (connected registry maxPayload : Hosted κ).run before = middle at *
  obtain ⟨state, history⟩ := middle
  obtain ⟨acts', later⟩ := threads_run (state.step .dropTasks).1 after
  have drained : state.threads.client.isOpen = false → state.threads.client.pending = [] := by
    intro shut
    have kept : ((Threaded.connected registry maxPayload).run acts).1.client.isOpen = false →
        ((Threaded.connected registry maxPayload).run acts).1.client.pending = [] :=
      Threaded.drained_run (fun _ => rfl) acts
    rw [sooner] at kept
    exact kept shut
  -- the reader has begun, so dropping it is the loss of the connection
  have dropped : (state.step .dropTasks).1.threads = (state.threads.step .connectionLost).1 :=
    leave_eq sound polled drained
  -- the run as one of the threads, in which the connection is lost in the middle
  have whole : (Threaded.connected registry maxPayload).run (acts ++ .connectionLost :: acts') =
      ((state.run (.dropTasks :: after)).1.threads,
        history ++ (state.run (.dropTasks :: after)).2) := by
    rw [Threaded.run_append, sooner]
    show ((((state.threads.step .connectionLost).1).run acts').1,
      history ++ (((state.threads.step .connectionLost).1).run acts').2) = _
    rw [← dropped, later]
    rfl
  have few' : (Threaded.issued ((Threaded.connected registry maxPayload).run
      (acts ++ .connectionLost :: acts')).2).length ≤ 2 ^ 64 := by
    rw [whole]
    exact few
  have reset := Threaded.reset_run few'
  rw [whole, sooner] at reset
  exact reset

/-- Two calls are issued on a client whose reader has begun, and one of them has gone to the table
when the tasks are dropped. -/
def begun : List (Event Unit) :=
  [.startReader, .act (.issue ⟨7, [], [], []⟩ none), .act (.issue ⟨7, [], [], []⟩ (some ())),
    .act (.enter 0)]

/-- Then the other call goes on. -/
def goneOn : List (Event Unit) :=
  [.act (.register 0), .act (.enter 0), .act (.conclude 1), .act (.conclude 0)]

theorem calls_reset_begun :
    ((connected .empty 64).run begun).1.reader = .running ∧
      ((connected .empty 64).run begun).1.threads.client.pending = [⟨1, none⟩] ∧
      ((connected .empty 64).run (begun ++ .dropTasks :: goneOn)).1.threads.client.pending = [] ∧
      ((connected .empty 64).run (begun ++ .dropTasks :: goneOn)).1.threads.client.resolution? 1 =
        some ⟨Status.connectionReset, none⟩ ∧
      ((connected .empty 64).run (begun ++ .dropTasks :: goneOn)).1.threads.client.resolution? 2 =
        some .refusal := by
  have running : ((connected .empty 64).run begun).1.reader = .running := by cbv
  have both : Threaded.issued ((connected .empty 64).run (begun ++ .dropTasks :: goneOn)).2 =
      [1, 2] := by cbv
  have polled : ((connected .empty 64).run begun).1.reader = .spawned →
      ((connected .empty 64).run begun).1.threads.client.isOpen = false := by
    intro spawned
    rw [running] at spawned
    cases spawned
  have few : (Threaded.issued
      ((connected .empty 64).run (begun ++ .dropTasks :: goneOn)).2).length ≤ 2 ^ 64 := by
    rw [both]
    decide
  have calls := calls_reset (by simp [begun]) polled few
  have drafts : ((connected .empty 64).run
      (begun ++ .dropTasks :: goneOn)).1.threads.drafts = [] := by cbv
  have taken : ((connected .empty 64).run
      (begun ++ .dropTasks :: goneOn)).1.threads.taken = [] := by cbv
  have ended : ∀ xid ∈ [1, 2],
      ((connected .empty 64).run (begun ++ .dropTasks :: goneOn)).1.threads.client.resolution? xid =
        some (((connected .empty 64).run begun).1.threads.verdict xid) := by
    intro xid given
    refine calls.outcomes xid (both.symm ▸ given) ?_ ?_
    · rw [drafts]
      exact List.not_mem_nil
    · rw [taken]
      exact List.not_mem_nil
  have lost : ((connected .empty 64).run begun).1.threads.verdict 1 =
      ⟨Status.connectionReset, none⟩ := by cbv
  have late : ((connected .empty 64).run begun).1.threads.verdict 2 = .refusal := by cbv
  refine ⟨running, by cbv, calls.pending, ?_, ?_⟩
  · rw [ended 1 (by decide), lost]
  · rw [ended 2 (by decide), late]

/-- The tasks are dropped before the reader of a link was polled, and the request of a call is in
the queue.  The call stays in the table, whatever arrives. -/
theorem unpolled_hangs : ∃ link : Link Unit,
    ((Link.connected .empty {} : Link Unit).run [.issue ⟨7, [], [], []⟩ none, .dropTasks]).1 =
        link ∧
      link.client.pending = [⟨1, none⟩] ∧ link.client.isConnected = true ∧
      link.client.resolution? 1 = none ∧
      ∀ pieces : List Bytes, (link.run (pieces.map .read)).1 = link :=
  ⟨_, rfl, rfl, rfl, rfl, Link.run_of_ended rfl⟩

/-! ## The runs of a link -/

/-- A client between two actions, with its reader. -/
def ofLink (link : Link κ) : Hosted κ := ⟨⟨link.client, [], []⟩, link.reader⟩

/-- A run leads from one state to another. -/
def Leads (state next : Hosted κ) : Prop := ∃ events, (state.run events).1 = next

lemma Leads.refl (state : Hosted κ) : Leads state state := ⟨[], rfl⟩

lemma Leads.step (state : Hosted κ) (event : Event κ) : Leads state (state.step event).1 :=
  ⟨[event], rfl⟩

lemma Leads.trans {first second third : Hosted κ} (sooner : Leads first second)
    (later : Leads second third) : Leads first third := by
  obtain ⟨events, rfl⟩ := sooner
  obtain ⟨events', rfl⟩ := later
  exact ⟨events ++ events', by rw [run_append]⟩

lemma run_act (state : Hosted κ) (events : List (Threaded.Event κ)) :
    state.run (events.map .act) =
      (⟨(state.threads.run events).1, state.reader⟩, (state.threads.run events).2) := by
  induction events generalizing state with
  | nil => rfl
  | cons event rest ih =>
    unfold run Threaded.run at *
    rw [List.map_cons, Machine.run_cons, Machine.run_cons, ih]
    rfl

/-- What the threads do, they do whatever the reader does. -/
lemma Leads.act {threads next : Threaded κ} {effects : List (Client.Effect κ)}
    (leads : Threaded.Leads threads next effects) (reader : ReplyReader) :
    Leads ⟨threads, reader⟩ ⟨next, reader⟩ := by
  obtain ⟨events, seen, acted, -⟩ := leads
  refine ⟨events.map .act, ?_⟩
  rw [run_act, acted]

section

variable {link : Link κ}

lemma ofLink_onClient (link : Link κ)
    (act : Client κ → Client κ × List (Client.Effect κ)) :
    ofLink (link.onClient act).1 = ⟨⟨(act link.client).1, [], []⟩, link.reader⟩ := by
  unfold ofLink Link.onClient Link.settle
  dsimp only
  split <;> rfl

lemma leads_onClient (link : Link κ) (act : Client κ → Client κ × List (Client.Effect κ))
    {effects : List (Client.Effect κ)}
    (leads : Threaded.Leads ⟨link.client, [], []⟩ ⟨(act link.client).1, [], []⟩ effects) :
    Leads (ofLink link) (ofLink (link.onClient act).1) := by
  rw [ofLink_onClient]
  exact .act leads link.reader

lemma leads_transmit (link : Link κ) (frame : Frame) :
    Leads (ofLink link) (ofLink (link.transmit frame).1) := by
  unfold Link.transmit
  split
  · exact .refl _
  · exact .refl _
  · rename_i e writer _
    exact leads_onClient { link with writer } (·.sendFailed frame.xid e)
      (Threaded.leads_sendFailed link.client frame.xid e)

lemma leads_transmitAll (link : Link κ) (effects : List (Client.Effect κ)) :
    Leads (ofLink link) (ofLink (link.transmitAll effects).1) := by
  induction effects generalizing link with
  | nil => exact .refl _
  | cons effect rest ih =>
    cases effect with
    | transmit frame => exact (leads_transmit link frame).trans (ih _)
    | issued | refused | invoked => exact ih link

lemma leads_receiveAll (link : Link κ) (frames : List Frame) :
    Leads (ofLink link) (ofLink (link.receiveAll frames).1) := by
  induction frames generalizing link with
  | nil => exact .refl _
  | cons frame rest ih =>
    have received :=
      leads_onClient link (·.receive frame) (Threaded.leads_receive link.client frame)
    exact received.trans (ih (link.onClient (·.receive frame)).1)

/-- The reader of a link leaves its body. -/
lemma leads_leave {writer : Writer} {reassembly : Reassembly} {event : Event κ}
    (left : ((ofLink link).step event).1 =
      ⟨(⟨link.client, [], []⟩ : Threaded κ).drain Status.connectionReset .reader, .ended⟩) :
    Leads (ofLink link) (ofLink ({ link with writer, reassembly } : Link κ).endReader.1) := by
  have drained := Leads.act (Threaded.leads_drain link.client Status.connectionReset .reader) .ended
  have step := Leads.step (ofLink link) event
  rw [left] at step
  unfold Link.endReader
  rw [ofLink_onClient]
  exact step.trans drained

lemma leaves_end (running : link.reader = .running) : ((ofLink link).step .endReader).1 =
    ⟨(⟨link.client, [], []⟩ : Threaded κ).drain Status.connectionReset .reader, .ended⟩ := by
  simp only [Hosted.step, leave, ofLink, running, if_true]

lemma leads_cancel {client : Client κ} {reader : ReplyReader}
    (closed : client.closing = .closed) :
    Leads ⟨⟨client, [], []⟩, reader⟩ ⟨⟨client, [], []⟩, .ended⟩ := by
  have step := Leads.step (⟨⟨client, [], []⟩, reader⟩ : Hosted κ) .cancelReader
  unfold Hosted.step at step
  simp only [closed, if_true] at step
  exact step

lemma leads_step (link : Link κ) (event : Link.Event κ) :
    Leads (ofLink link) (ofLink (link.step event).1) := by
  -- Only the client and the reader of a link are seen here. What an action does to the client is a
  -- run of threads that finish what they begin; what it does to the reader is one more action.
  cases event with
  | issue request callback =>
    have issued := Leads.act (Threaded.leads_issue link.client request callback) link.reader
    exact issued.trans (leads_transmitAll
      { link with client := (link.client.issue request callback).1 } _)
  -- The request that goes on is queued, or it fails and its call with it.
  | resume =>
    show Leads (ofLink link) (ofLink (link.resume.getD (link, [])).1)
    unfold Link.resume
    split
    · exact .refl _
    · rename_i xid rest e writer _ _
      exact leads_onClient { link with writer, queueing := rest } (·.sendFailed xid e)
        (Threaded.leads_sendFailed link.client xid e)
    · exact .refl _
  | abandon xid =>
    exact leads_onClient link (·.abandon xid) (Threaded.leads_abandon link.client xid)
  | startReader =>
    have step := Leads.step (ofLink link) .startReader
    show Leads (ofLink link) (ofLink link.startReader)
    unfold Link.startReader
    split
    · rename_i spawned
      simp only [Hosted.step, ofLink, spawned, if_true] at step ⊢
      exact step
    · exact .refl _
  -- A read hands replies on, or breaks framing; then the reader leaves its body.
  | read bytes =>
    show Leads (ofLink link) (ofLink (link.read bytes).1)
    unfold Link.read
    split
    · rename_i running
      split
      · rename_i frames reassembly _
        exact leads_receiveAll { link with reassembly } frames
      · exact leads_leave (leaves_end running)
    · exact .refl _
  | streamEnded =>
    show Leads (ofLink link) (ofLink link.streamEnded.1)
    unfold Link.streamEnded
    split
    · rename_i running
      exact leads_leave (leaves_end running)
    · exact .refl _
  | deliver => exact leads_onClient link Client.deliver (Threaded.leads_deliver link.client)
  -- The reader is cancelled by the last action of closing, and only then.
  | closeNext =>
    have acted := leads_onClient link Client.closeNext (Threaded.leads_closeNext link.client)
    show Leads (ofLink link) (ofLink link.closeNext.1)
    unfold Link.closeNext
    dsimp only
    generalize (link.onClient Client.closeNext).1 = next at acted
    by_cases closed : next.client.closing = .closed
    · rw [if_pos closed]
      exact acted.trans (leads_cancel closed)
    · rw [if_neg closed]
      exact acted
  | close =>
    show Leads (ofLink link) (ofLink link.close.1)
    unfold Link.close
    split
    · rename_i notClosed
      have closed : link.client.close.1.closing = .closed := by
        unfold Client.close
        rw [notClosed]
        rfl
      have acted := Leads.act (Threaded.leads_close link.client) link.reader
      rw [ofLink_onClient]
      exact acted.trans (leads_cancel closed)
    · exact .refl _
  | dropTasks =>
    show Leads (ofLink link) (ofLink link.dropTasks.1)
    unfold Link.dropTasks
    dsimp only
    split
    · rename_i running
      have left : ((ofLink link).step .dropTasks).1 =
          ⟨(⟨link.client, [], []⟩ : Threaded κ).drain Status.connectionReset .reader, .ended⟩ := by
        simp only [Hosted.step, leave, ofLink, running]
      exact leads_leave left
    -- A reader that was not polled, or has ended, leaves nothing behind when it is dropped.
    · rename_i idle
      have step := Leads.step (ofLink link) .dropTasks
      have unchanged : (ofLink link).leave = ⟨link.client, [], []⟩ := by
        unfold leave ofLink
        split
        · rename_i running
          exact (idle running).elim
        · rfl
      unfold Hosted.step at step
      rw [unchanged] at step
      exact step
  | collect | sinkAccepts | sinkFails | flushed => exact .refl _

/-- The runs of a link are among those of a client on a manager. -/
theorem exists_run_of_link (link : Link κ) (events : List (Link.Event κ)) :
    Leads (ofLink link) (ofLink (link.run events).1) := by
  induction events generalizing link with
  | nil => exact .refl _
  | cons event rest ih => exact (leads_step link event).trans (ih _)

end

end Hosted

end RemoteCall
