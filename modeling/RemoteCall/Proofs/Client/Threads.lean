import Mathlib.Tactic.Lemma
import RemoteCall.Client.Basic

/-!
# A client and its threads

Any number of threads share a client, and what a thread does is no single action: it takes a
transaction ID, then registers a callback, then enters its call into the table; it takes a call out
of the table, and then resolves it.  The actions of other threads may come between any two of these.

`Threaded` is a client together with the calls that some thread has in its hands.  Each of its
actions is one access to what the threads share, so a run of it is an interleaving of the threads.
A run of the client by itself is the case in which every thread finishes what it has begun before
another one acts (`Threaded.exists_run_of_client`).

Whatever is done to a call is done by any thread at any time: a send may fail for any pending call,
anybody may give it up, and the calls that a disconnect has taken out are resolved in any order.  No
thread waits for another one, either.  The closing thread joins the delivery thread before it takes
the pending calls out of the table; here it may go on at once, so there are more runs than the
threads can really have, and what is shown of all of these is shown of the real ones.  `Joining`
has the join.
-/

namespace RemoteCall

/-- A call that has its transaction ID and is not in the table yet. -/
structure Draft (κ : Type) where
  xid : Int64
  /-- The request that is sent once the call is in the table. -/
  frame : Frame
  /-- The callback, until it is registered. -/
  callback : Option κ
  /-- The ID of the callback that was registered. -/
  id : Option UInt64

/-- How the thread that took a call out of the table is going to resolve it. -/
inductive Ending where
  /-- Its own caller found that it cannot be sent. -/
  | unsent (status : Status)
  /-- It was answered or given up, or its connection went down. -/
  | settled (status : Status) (payload : Option Bytes) (runner : Runner)

namespace Ending

/-- The status that the call will have. -/
def status : Ending → Status
  | unsent status | settled status _ _ => status

/-- The payload of the reply, if there is one. -/
def payload : Ending → Option Bytes
  | unsent _ => none
  | settled _ payload _ => payload

/-- Who runs the callback of the call, if the delivery thread does not. -/
def runner : Ending → Runner
  | unsent _ => .caller
  | settled _ _ runner => runner

/-- What the call will be resolved with. -/
def resolution (ending : Ending) : Resolution := ⟨ending.status, Future.replyOf ending.payload⟩

end Ending

namespace Client

variable {κ : Type}

/-- Give the next transaction ID to a call, with a slot for its outcome. -/
def openSlot (client : Client κ) (resultTypes : List Ty) : Client κ :=
  { client with
    nextXid := client.nextXid + 1
    futures := (client.nextXid, .unresolved resultTypes) :: client.futures }

/-- Enter a call into the table. -/
def addPending (client : Client κ) (call : PendingCall) : Client κ :=
  { client with pending := client.pending ++ [call] }

/-- Resolve a call that was taken out of the table. -/
def conclude (client : Client κ) (call : PendingCall) : Ending → Client κ × List (Effect κ)
  | .unsent status => client.failLocally call status
  | .settled status payload runner => client.complete call status payload runner

/-- The resolution of a call. -/
def resolution? (client : Client κ) (xid : Int64) : Option Resolution :=
  (client.future? xid).bind Future.resolution

/-- The tables of two clients are the same, apart from slots and callbacks. -/
structure SameTables (client client' : Client κ) : Prop where
  registry : client'.registry = client.registry
  maxPayload : client'.maxPayload = client.maxPayload
  isOpen : client'.isOpen = client.isOpen
  closing : client'.closing = client.closing
  nextXid : client'.nextXid = client.nextXid
  pending : client'.pending = client.pending
  nextCallback : client'.nextCallback = client.nextCallback

lemma runCallback_eq (client : Client κ) (id : UInt64) (xid : Int64) (runner : Runner) :
    (client.runCallback id xid runner).1 = client.dropCallback id := by
  unfold runCallback
  split <;> rfl

/-- Resolving a call resolves its slot.  Its callback is queued for the delivery thread, or is run
at once. -/
lemma conclude_cases (client : Client κ) (call : PendingCall) (ending : Ending) :
    let resolved := client.resolve call.xid ending.status ending.payload
    (call.callback = none ∧ client.conclude call ending = (resolved, [])) ∨
      (∃ id, call.callback = some id ∧
        client.conclude call ending = resolved.runCallback id call.xid ending.runner) ∨
      (∃ id, call.callback = some id ∧ client.closing = .notClosed ∧
        client.conclude call ending =
          ({ resolved with deliveries := resolved.deliveries ++ [(id, call.xid)] }, [])) := by
  cases ending with
  | unsent status =>
    unfold conclude failLocally
    cases call.callback with
    | none => exact Or.inl ⟨rfl, rfl⟩
    | some id => exact Or.inr (Or.inl ⟨id, rfl, rfl⟩)
  | settled status payload runner =>
    unfold conclude complete
    cases call.callback with
    | none => exact Or.inl ⟨rfl, rfl⟩
    | some id =>
      by_cases stopped : (client.resolve call.xid status payload).deliveryStopped = true
      · refine Or.inr (Or.inl ⟨id, rfl, ?_⟩)
        simp only [if_pos stopped]
        rfl
      · have going : client.closing = .notClosed := by
          simpa [deliveryStopped, resolve, updateFuture] using stopped
        refine Or.inr (Or.inr ⟨id, rfl, going, ?_⟩)
        simp only [if_neg stopped]
        rfl

lemma conclude_tables (client : Client κ) (call : PendingCall) (ending : Ending) :
    SameTables client (client.conclude call ending).1 := by
  rcases client.conclude_cases call ending with ⟨-, same⟩ | ⟨id, -, same⟩ | ⟨id, -, -, same⟩
  · rw [same]
    exact ⟨rfl, rfl, rfl, rfl, rfl, rfl, rfl⟩
  · rw [same, runCallback_eq]
    exact ⟨rfl, rfl, rfl, rfl, rfl, rfl, rfl⟩
  · rw [same]
    exact ⟨rfl, rfl, rfl, rfl, rfl, rfl, rfl⟩

/-- A call is resolved as the thread meant to. -/
lemma conclude_futures (client : Client κ) (call : PendingCall) (ending : Ending) :
    (client.conclude call ending).1.futures =
      (client.resolve call.xid ending.status ending.payload).futures := by
  rcases client.conclude_cases call ending with ⟨-, same⟩ | ⟨id, -, same⟩ | ⟨id, -, -, same⟩
  · rw [same]
  · rw [same, runCallback_eq]
    rfl
  · rw [same]

/-! ### Slots -/

lemma lookup_cons_eq_ite (key : Int64) (entry : Int64 × Future) (rest : List (Int64 × Future)) :
    (entry :: rest).lookup key = if key = entry.1 then some entry.2 else rest.lookup key := by
  rw [List.lookup_cons]
  by_cases hit : key = entry.1
  · simp [hit]
  · rw [if_neg hit, beq_eq_false_iff_ne.mpr hit]

lemma future?_openSlot (client : Client κ) (types : List Ty) (xid : Int64) :
    (client.openSlot types).future? xid =
      if xid = client.nextXid then some (.unresolved types) else client.future? xid :=
  lookup_cons_eq_ite xid _ _

lemma future?_updateFuture (client : Client κ) (xid : Int64) (change : Future → Future)
    (xid' : Int64) :
    (client.updateFuture xid change).future? xid' =
      if xid' = xid then (client.future? xid').map change else client.future? xid' := by
  unfold future? updateFuture
  dsimp only
  induction client.futures with
  | nil => simp
  | cons entry rest ih =>
    rw [List.map_cons, lookup_cons_eq_ite, lookup_cons_eq_ite, ih]
    by_cases hit : entry.1 = xid
    · rw [if_pos hit]
      by_cases same : xid' = entry.1
      · simp [same, hit]
      · simp [same, ← hit]
    · rw [if_neg hit]
      by_cases same : xid' = entry.1
      · simp [same, hit]
      · simp [same]

lemma isSome_future?_updateFuture (client : Client κ) (xid : Int64) (change : Future → Future)
    (xid' : Int64) :
    ((client.updateFuture xid change).future? xid').isSome = (client.future? xid').isSome := by
  rw [future?_updateFuture]
  by_cases hit : xid' = xid
  · rw [if_pos hit, Option.isSome_map, hit]
  · rw [if_neg hit]

/-- What a change of a slot leaves, it leaves of all slots. -/
lemma bind_future?_updateFuture {α : Type} {look : Future → Option α} {client : Client κ}
    {xid : Int64} {change : Future → Future}
    (same : ∀ future, client.future? xid = some future → look (change future) = look future)
    (xid' : Int64) :
    ((client.updateFuture xid change).future? xid').bind look =
      (client.future? xid').bind look := by
  rw [future?_updateFuture]
  by_cases hit : xid' = xid
  · subst hit
    rw [if_pos rfl]
    cases found : client.future? xid' with
    | none => rfl
    | some future => exact same future found
  · rw [if_neg hit]

/-- A slot is resolved once. -/
lemma resolution?_resolve (client : Client κ) (xid : Int64) (status : Status)
    (payload : Option Bytes) (xid' : Int64) :
    (client.resolve xid status payload).resolution? xid' =
      if xid' = xid ∧ (client.future? xid).isSome ∧ client.resolution? xid = none then
        some ⟨status, Future.replyOf payload⟩
      else client.resolution? xid' := by
  unfold resolution? resolve
  rw [future?_updateFuture]
  by_cases same : xid' = xid
  · subst same
    cases found : client.future? xid' with
    | none => simp
    | some future =>
      unfold Future.resolve
      cases before : future.resolution <;> simp [before]
  · simp [same]

end Client

/-- A client whose threads may be anywhere in what they do. -/
structure Threaded (κ : Type) where
  client : Client κ
  /-- The calls that are being issued. -/
  drafts : List (Draft κ)
  /-- The calls that were taken out of the table, or not admitted to it, and are not resolved. -/
  taken : List (PendingCall × Ending)

namespace Threaded

variable {κ : Type}

/-- A client on a new connection. -/
def connected (registry : Registry) (maxPayload : UInt32) : Threaded κ :=
  ⟨.connected registry maxPayload, [], []⟩

/-- What an action did. -/
inductive Effect (κ : Type) where
  /-- A call was given its transaction ID. -/
  | issued (xid : Int64)
  /-- A call was not issued. -/
  | refused (e : Error)
  /-- The callback of a call was registered under an ID. -/
  | registered (id : UInt64) (xid : Int64) (callback : κ)
  /-- A call was entered into the table, or found it closed. -/
  | entered (xid : Int64)
  /-- A request is to be sent. -/
  | transmit (frame : Frame)
  /-- A reply has found its call in the table. -/
  | answered (frame : Frame)
  /-- A call was resolved. -/
  | resolved (xid : Int64) (resolution : Resolution)
  /-- The callback of a call was run. -/
  | invoked (id : UInt64) (xid : Int64) (invocation : Invocation κ)

/-- The runs of a callback among the effects of the client. -/
def ran (id : UInt64) (xid : Int64) (effects : List (Client.Effect κ)) : List (Effect κ) :=
  effects.filterMap fun
    | .invoked invocation => some (.invoked id xid invocation)
    | _ => none

/-- The run of the callback of a call, if it has one. -/
def ranFor (call : PendingCall) (effects : List (Client.Effect κ)) : List (Effect κ) :=
  match call.callback with
  | none => []
  | some id => ran id call.xid effects

/-! ## Issuing -/

/-- A caller takes a transaction ID for its call, unless the request may not be issued. -/
def issue (state : Threaded κ) (request : Request) (callback : Option κ) :
    Threaded κ × List (Effect κ) :=
  match request.encode state.client.registry state.client.maxPayload with
  | .error e => (state, [.refused e])
  | .ok arguments =>
    let xid := state.client.nextXid
    let draft := ⟨xid, .request xid request.callId arguments, callback, none⟩
    ({ state with
        client := state.client.openSlot request.resultTypes
        drafts := state.drafts ++ [draft] },
      [.issued xid])

/-- A caller registers the callback of its call. -/
def register (state : Threaded κ) (n : Nat) : Threaded κ × List (Effect κ) :=
  match state.drafts[n]? with
  | some ⟨xid, frame, some callback, none⟩ =>
    let id := state.client.nextCallback
    ({ state with
        client := state.client.addCallback callback
        drafts := state.drafts.set n ⟨xid, frame, none, some id⟩ },
      [.registered id xid callback])
  | _ => (state, [])

/-- A caller enters its call into the table, and is to send its request.  If the table is closed, it
is left with the call. -/
def enter (state : Threaded κ) (n : Nat) : Threaded κ × List (Effect κ) :=
  match state.drafts[n]? with
  | some ⟨xid, frame, none, id⟩ =>
    if state.client.isOpen then
      ({ state with
          client := state.client.addPending ⟨xid, id⟩
          drafts := state.drafts.eraseIdx n },
        [.entered xid, .transmit frame])
    else
      ({ state with
          drafts := state.drafts.eraseIdx n
          taken := state.taken ++ [(⟨xid, id⟩, .unsent Status.notConnected)] },
        [.entered xid])
  | _ => (state, [])

/-! ## Taking calls out of the table -/

/-- A thread takes a call out of the table, if it is there. -/
def takeOut (state : Threaded κ) (xid : Int64) (ending : Ending) : Threaded κ :=
  match state.client.pendingCall? xid with
  | none => state
  | some call =>
    { state with
      client := state.client.removePending xid
      taken := state.taken ++ [(call, ending)] }

/-- A reply has arrived. -/
def receive (state : Threaded κ) (frame : Frame) : Threaded κ × List (Effect κ) :=
  (state.takeOut frame.xid (.settled frame.status (some frame.payload) .reader),
    if (state.client.pendingCall? frame.xid).isSome then [.answered frame] else [])

/-- A thread closes the table, and takes all calls out of it. -/
def drain (state : Threaded κ) (status : Status) (runner : Runner) : Threaded κ :=
  let calls := state.client.pending.mergeSort fun a b => a.xid ≤ b.xid
  { state with
    client := { state.client with isOpen := false, pending := [] }
    taken := state.taken ++ calls.map fun call => (call, .settled status none runner) }

/-! ## Resolving -/

/-- A thread resolves a call that it has taken out of the table. -/
def conclude (state : Threaded κ) (n : Nat) : Threaded κ × List (Effect κ) :=
  match state.taken[n]? with
  | none => (state, [])
  | some (call, ending) =>
    let (client, effects) := state.client.conclude call ending
    ({ state with client, taken := state.taken.eraseIdx n },
      .resolved call.xid ending.resolution :: ranFor call effects)

/-- The delivery thread runs the next callback of its queue. -/
def deliver (state : Threaded κ) : Threaded κ × List (Effect κ) :=
  match state.client.deliveries with
  | [] => (state, [])
  | (id, xid) :: _ =>
    let (client, effects) := state.client.deliver
    ({ state with client }, ran id xid effects)

/-- Whoever holds the future of a call takes its raw reply. -/
def takeReply (state : Threaded κ) (xid : Int64) : Threaded κ :=
  match (state.client.future? xid).bind Future.takeReply? with
  | none => state
  | some (_, future) => { state with client := state.client.updateFuture xid fun _ => future }

/-! ## Steps -/

/-- The next action of the thread that closes the client.  The join of the delivery thread, which
comes after the first one, is no action, and it is not waited for here. -/
def closeNext (state : Threaded κ) : Threaded κ :=
  match state.client.closing with
  | .notClosed => { state with client := state.client.stopDelivery }
  | .deliveryStopped =>
    { state with client := { state.client with closing := .callsFailed } }.drain
      Status.clientClosed .closer
  | .callsFailed => { state with client := state.client.clearCallbacks }
  | .closed => state

/-- An action of a thread.  A call in the hands of a thread is named by its place. -/
inductive Event (κ : Type) where
  | issue (request : Request) (callback : Option κ)
  | register (n : Nat)
  | enter (n : Nat)
  | sendFailed (xid : Int64) (e : Error)
  | abandon (xid : Int64)
  | receive (frame : Frame)
  /-- The reader has ended. -/
  | connectionLost
  | conclude (n : Nat)
  | deliver
  | takeReply (xid : Int64)
  | closeNext

/-- Run one action.  An action that is not possible changes nothing. -/
def step (state : Threaded κ) : Event κ → Threaded κ × List (Effect κ)
  | .issue request callback => state.issue request callback
  | .register n => state.register n
  | .enter n => state.enter n
  | .sendFailed xid e => (state.takeOut xid (.unsent (Client.unsentStatus e)), [])
  | .abandon xid => (state.takeOut xid (.settled Status.timedOut none .caller), [])
  | .receive frame => state.receive frame
  | .connectionLost => (state.drain Status.connectionReset .reader, [])
  | .conclude n => state.conclude n
  | .deliver => state.deliver
  | .takeReply xid => (state.takeReply xid, [])
  | .closeNext => (state.closeNext, [])

/-- Run actions one after the other. -/
def run (state : Threaded κ) (events : List (Event κ)) : Threaded κ × List (Effect κ) :=
  Machine.run step state events

lemma run_append (state : Threaded κ) (before after : List (Event κ)) :
    state.run (before ++ after) = (((state.run before).1.run after).1,
      (state.run before).2 ++ ((state.run before).1.run after).2) :=
  Machine.run_append step state before after

/-! ## The runs of a client

A thread that is left alone finishes what it has begun, and that is an action of the client. -/

/-- What is seen of an action from outside. -/
def Effect.shown? : Effect κ → Option (Client.Effect κ)
  | .issued xid => some (.issued xid)
  | .refused e => some (.refused e)
  | .transmit frame => some (.transmit frame)
  | .invoked _ _ invocation => some (.invoked invocation)
  | .registered .. | .entered _ | .answered _ | .resolved .. => none

/-- A run leads from one state to another, and shows some effects. -/
def Leads (state : Threaded κ) (next : Threaded κ) (effects : List (Client.Effect κ)) : Prop :=
  ∃ events seen, state.run events = (next, seen) ∧ seen.filterMap Effect.shown? = effects

lemma Leads.refl (state : Threaded κ) : Leads state state [] := ⟨[], [], rfl, rfl⟩

lemma Leads.step (state : Threaded κ) (event : Event κ) :
    Leads state (state.step event).1 ((state.step event).2.filterMap Effect.shown?) := by
  refine ⟨[event], (state.step event).2, ?_, rfl⟩
  simp only [run, Machine.run_cons, Machine.run_nil, List.append_nil]

lemma Leads.trans {first second third : Threaded κ} {effects more : List (Client.Effect κ)}
    (sooner : Leads first second effects) (later : Leads second third more) :
    Leads first third (effects ++ more) := by
  obtain ⟨events, seen, ran, shown⟩ := sooner
  obtain ⟨events', seen', ran', shown'⟩ := later
  refine ⟨events ++ events', seen ++ seen', ?_, ?_⟩
  · rw [run_append, ran, ran']
  · rw [List.filterMap_append, shown, shown']

lemma shown_ran (id : UInt64) (xid : Int64) (client : Client κ) (runner : Runner) :
    (ran id xid (client.runCallback id xid runner).2).filterMap Effect.shown? =
      (client.runCallback id xid runner).2 := by
  unfold Client.runCallback
  split <;> rfl

lemma shown_conclude (client : Client κ) (call : PendingCall) (ending : Ending) :
    (ranFor call (client.conclude call ending).2).filterMap Effect.shown? =
      (client.conclude call ending).2 := by
  unfold ranFor
  rcases client.conclude_cases call ending with
      ⟨none, same⟩ | ⟨id, some, same⟩ | ⟨id, some, -, same⟩
  · rw [same, none]
    rfl
  · rw [same, some]
    exact shown_ran id call.xid _ _
  · rw [same, some]
    rfl

/-- A thread resolves the first of the calls that were taken out. -/
lemma leads_conclude (client : Client κ) (call : PendingCall) (ending : Ending)
    (rest : List (PendingCall × Ending)) :
    Leads ⟨client, [], (call, ending) :: rest⟩ ⟨(client.conclude call ending).1, [], rest⟩
      (client.conclude call ending).2 := by
  have step := Leads.step ⟨client, [], (call, ending) :: rest⟩ (.conclude 0)
  have shown := shown_conclude client call ending
  unfold Threaded.step conclude at step
  simp only [List.getElem?_cons_zero, List.eraseIdx_cons_zero] at step
  rw [List.filterMap_cons_none rfl, shown] at step
  exact step

/-- A thread takes a call out of the table and resolves it. -/
lemma leads_takeOut {client : Client κ} {xid : Int64} {call : PendingCall}
    (pending : client.pendingCall? xid = some call) (ending : Ending) :
    Leads ((⟨client, [], []⟩ : Threaded κ).takeOut xid ending)
      ⟨((client.removePending xid).conclude call ending).1, [], []⟩
      ((client.removePending xid).conclude call ending).2 := by
  unfold takeOut
  simp only [pending]
  exact leads_conclude _ call ending []

/-- A thread resolves all calls that it has taken out. -/
lemma leads_completeAll (client : Client κ) (status : Status) (runner : Runner)
    (calls : List PendingCall) :
    Leads ⟨client, [], calls.map fun call => (call, .settled status none runner)⟩
      ⟨(client.completeAll status runner calls).1, [], []⟩
      (client.completeAll status runner calls).2 := by
  induction calls generalizing client with
  | nil => exact Leads.refl _
  | cons call rest ih =>
    have first := leads_conclude client call (.settled status none runner)
      (rest.map fun call => (call, .settled status none runner))
    exact first.trans (ih _)

lemma leads_drain (client : Client κ) (status : Status) (runner : Runner) :
    Leads ((⟨client, [], []⟩ : Threaded κ).drain status runner)
      ⟨(client.disconnect status runner).1, [], []⟩ (client.disconnect status runner).2 :=
  leads_completeAll _ status runner _

lemma leads_register (client : Client κ) (xid : Int64) (frame : Frame) (callback : Option κ) :
    Leads ⟨client, [⟨xid, frame, callback, none⟩], []⟩
      ⟨(callback.map client.addCallback).getD client,
        [⟨xid, frame, none, callback.map fun _ => client.nextCallback⟩], []⟩ [] := by
  cases callback with
  | none => exact Leads.refl _
  | some callback =>
    exact Leads.step ⟨client, [⟨xid, frame, some callback, none⟩], []⟩ (.register 0)

lemma leads_enter_of_open {client : Client κ} (admitted : client.isOpen = true) (xid : Int64)
    (frame : Frame) (id : Option UInt64) :
    Leads ⟨client, [⟨xid, frame, none, id⟩], []⟩ ⟨client.addPending ⟨xid, id⟩, [], []⟩
      [.transmit frame] := by
  have entered := Leads.step ⟨client, [⟨xid, frame, none, id⟩], []⟩ (.enter 0)
  simp only [Threaded.step, enter, List.getElem?_cons_zero, if_pos admitted] at entered
  exact entered

/-- A caller that finds the table closed resolves its call. -/
lemma leads_enter_of_closed {client : Client κ} (shut : ¬ client.isOpen = true) (xid : Int64)
    (frame : Frame) (id : Option UInt64) :
    Leads ⟨client, [⟨xid, frame, none, id⟩], []⟩
      ⟨(client.failLocally ⟨xid, id⟩ Status.notConnected).1, [], []⟩
      (client.failLocally ⟨xid, id⟩ Status.notConnected).2 := by
  have entered := Leads.step ⟨client, [⟨xid, frame, none, id⟩], []⟩ (.enter 0)
  simp only [Threaded.step, enter, List.getElem?_cons_zero, if_neg shut] at entered
  exact entered.trans (leads_conclude client ⟨xid, id⟩ (.unsent Status.notConnected) [])

/-- Issuing a call as the work of one thread. -/
lemma issue_eq {client : Client κ} {request : Request} {arguments : Bytes}
    (encoded : request.encode client.registry client.maxPayload = .ok arguments)
    (callback : Option κ) :
    client.issue request callback =
      let numbered := client.openSlot request.resultTypes
      let registered := (callback.map numbered.addCallback).getD numbered
      let call := ⟨client.nextXid, callback.map fun _ => client.nextCallback⟩
      if registered.isOpen then
        (registered.addPending call, [.issued client.nextXid,
          .transmit (.request client.nextXid request.callId arguments)])
      else
        ((registered.failLocally call Status.notConnected).1,
          .issued client.nextXid :: (registered.failLocally call Status.notConnected).2) := by
  unfold Client.issue
  rw [encoded]
  cases callback with
  | none => rfl
  | some callback => rfl

lemma leads_issue (client : Client κ) (request : Request) (callback : Option κ) :
    Leads ⟨client, [], []⟩ ⟨(client.issue request callback).1, [], []⟩
      (client.issue request callback).2 := by
  have issued := Leads.step ⟨client, [], []⟩ (.issue request callback)
  cases encoded : request.encode client.registry client.maxPayload with
  | error e =>
    simp only [Threaded.step, issue, encoded] at issued
    simp only [Client.issue, encoded]
    exact issued
  | ok arguments =>
    simp only [Threaded.step, issue, encoded, List.nil_append] at issued
    have registered := issued.trans (leads_register (client.openSlot request.resultTypes)
      client.nextXid (.request client.nextXid request.callId arguments) callback)
    rw [issue_eq encoded]
    dsimp only
    split
    · rename_i admitted
      exact registered.trans (leads_enter_of_open admitted _ _ _)
    · rename_i shut
      exact registered.trans (leads_enter_of_closed shut _ _ _)

lemma leads_sendFailed (client : Client κ) (xid : Int64) (e : Error) :
    Leads ⟨client, [], []⟩ ⟨(client.sendFailed xid e).1, [], []⟩ (client.sendFailed xid e).2 := by
  have step := Leads.step ⟨client, [], []⟩ (.sendFailed xid e)
  unfold Client.sendFailed
  cases pending : client.pendingCall? xid with
  | none => exact Leads.refl _
  | some call => exact step.trans (leads_takeOut pending _)

lemma leads_abandon (client : Client κ) (xid : Int64) :
    Leads ⟨client, [], []⟩ ⟨(client.abandon xid).1, [], []⟩ (client.abandon xid).2 := by
  have step := Leads.step ⟨client, [], []⟩ (.abandon xid)
  unfold Client.abandon
  cases pending : client.pendingCall? xid with
  | none => exact Leads.refl _
  | some call => exact step.trans (leads_takeOut pending _)

lemma leads_receive (client : Client κ) (frame : Frame) :
    Leads ⟨client, [], []⟩ ⟨(client.receive frame).1, [], []⟩ (client.receive frame).2 := by
  have step := Leads.step ⟨client, [], []⟩ (.receive frame)
  unfold Client.receive
  cases pending : client.pendingCall? frame.xid with
  | none => exact Leads.refl _
  | some call =>
    simp only [Threaded.step, receive, pending] at step
    exact step.trans (leads_takeOut pending _)

lemma leads_deliver (client : Client κ) :
    Leads ⟨client, [], []⟩ ⟨client.deliver.1, [], []⟩ client.deliver.2 := by
  have step := Leads.step ⟨client, [], []⟩ .deliver
  unfold Threaded.step deliver at step
  unfold Client.deliver at step ⊢
  cases queue : client.deliveries with
  | nil => exact Leads.refl _
  | cons next rest =>
    simp only [queue, shown_ran] at step ⊢
    exact step

lemma leads_closeNext (client : Client κ) :
    Leads ⟨client, [], []⟩ ⟨client.closeNext.1, [], []⟩ client.closeNext.2 := by
  have step := Leads.step ⟨client, [], []⟩ .closeNext
  unfold Threaded.step closeNext at step
  unfold Client.closeNext
  cases state : client.closing with
  | notClosed | callsFailed | closed =>
    simp only [state] at step ⊢
    exact step
  | deliveryStopped =>
    simp only [state] at step ⊢
    exact step.trans (leads_drain _ _ _)

lemma closing_completeAll (client : Client κ) (status : Status) (runner : Runner)
    (calls : List PendingCall) :
    (client.completeAll status runner calls).1.closing = client.closing := by
  induction calls generalizing client with
  | nil => rfl
  | cons call rest ih =>
    have first := (client.conclude_tables call (.settled status none runner)).closing
    exact (ih _).trans first

lemma leads_close (client : Client κ) :
    Leads ⟨client, [], []⟩ ⟨client.close.1, [], []⟩ client.close.2 := by
  unfold Client.close
  cases state : client.closing with
  | notClosed =>
    have stopped := leads_closeNext client
    have failed := leads_closeNext client.stopDelivery
    have cleared := leads_closeNext client.stopDelivery.failPending.1
    have state' : client.stopDelivery.failPending.1.closing = .callsFailed :=
      closing_completeAll _ _ _ _
    simp only [Client.closeNext, state] at stopped
    simp only [Client.closeNext, state'] at cleared
    have all := (stopped.trans failed).trans cleared
    simp only [List.nil_append, List.append_nil] at all
    exact all
  | deliveryStopped | callsFailed | closed => exact Leads.refl _

/-- Every action of a client is a run of its threads. -/
lemma leads_step (client : Client κ) (event : Client.Event κ) :
    Leads ⟨client, [], []⟩ ⟨(client.step event).1, [], []⟩ (client.step event).2 := by
  cases event with
  | issue request callback => exact leads_issue client request callback
  | sendFailed xid e => exact leads_sendFailed client xid e
  | abandon xid => exact leads_abandon client xid
  | receive frame => exact leads_receive client frame
  | connectionLost => exact (Leads.step ⟨client, [], []⟩ .connectionLost).trans (leads_drain _ _ _)
  | deliver => exact leads_deliver client
  | closeNext => exact leads_closeNext client
  | close => exact leads_close client

/-- The runs of a client are among those of its threads. -/
theorem exists_run_of_client (client : Client κ) (events : List (Client.Event κ)) :
    Leads ⟨client, [], []⟩ ⟨(client.run events).1, [], []⟩ (client.run events).2 := by
  induction events generalizing client with
  | nil => exact Leads.refl _
  | cons event rest ih => exact (leads_step client event).trans (ih _)

end Threaded

end RemoteCall
