import Mathlib.Data.List.InsertIdx
import RemoteCall.Proofs.Client.Threads
import RemoteCall.Proofs.Machine

/-!
# A client does not look into callbacks

A callback is run by the client, and what it does then, returning or panicking, the client does not
see.  So if other callbacks are put in the place of those of a run, the run is the same but for them
(`run_map`).

That a client treats callbacks as opaque is what lets the rest of the development leave their type
open.  A statement that is proved of callbacks of one type holds of all, and one that is proved of
callbacks that are told apart by a name says something of callbacks that cannot be compared.

What callbacks do to the client is not lost by this.  They act on it as any other thread does, so it
is in the run, among the actions that come after the callback was run.

The proof goes through the functions of a client one after the other.  Each of them commutes with
`Client.map`, which changes the callbacks of the table and nothing else; an effect is changed in the
callback that it names (`Effect.map`), and a run is the composition of its steps (`step_map`).
-/

namespace RemoteCall

variable {κ κ' : Type} (change : κ → κ')

def Invocation.map (invocation : Invocation κ) : Invocation κ' :=
  ⟨change invocation.callback, invocation.result, invocation.runner⟩

def Draft.map (draft : Draft κ) : Draft κ' :=
  ⟨draft.xid, draft.frame, draft.callback.map change, draft.id⟩

namespace Client

/-- The client with other callbacks in its table. -/
def map (client : Client κ) : Client κ' where
  registry := client.registry
  maxPayload := client.maxPayload
  isOpen := client.isOpen
  closing := client.closing
  nextXid := client.nextXid
  pending := client.pending
  futures := client.futures
  nextCallback := client.nextCallback
  callbacks := client.callbacks.map fun entry => (entry.1, change entry.2)
  deliveries := client.deliveries

def Effect.map : Effect κ → Effect κ'
  | .issued xid => .issued xid
  | .refused e => .refused e
  | .transmit frame => .transmit frame
  | .invoked invocation => .invoked (invocation.map change)

lemma lookup_map (id : UInt64) (callbacks : List (UInt64 × κ)) :
    (callbacks.map fun entry => (entry.1, change entry.2)).lookup id =
      (callbacks.lookup id).map change := by
  induction callbacks with
  | nil => rfl
  | cons entry rest ih =>
    rw [List.map_cons, List.lookup_cons, List.lookup_cons]
    cases id == entry.1 with
    | true => rfl
    | false => exact ih

lemma map_dropCallback (client : Client κ) (id : UInt64) :
    (client.dropCallback id).map change = (client.map change).dropCallback id := by
  unfold dropCallback map
  dsimp only
  rw [List.filter_map]
  rfl

lemma runCallback_map (client : Client κ) (id : UInt64) (xid : Int64) (runner : Runner) :
    (client.map change).runCallback id xid runner =
      ((client.runCallback id xid runner).1.map change,
        (client.runCallback id xid runner).2.map (Effect.map change)) := by
  have same : (client.map change).result? xid = client.result? xid := rfl
  have found : (client.map change).callbacks.lookup id =
      (client.callbacks.lookup id).map change := lookup_map change id client.callbacks
  unfold runCallback
  rw [same, found, ← map_dropCallback]
  cases client.callbacks.lookup id with
  | none => rfl
  | some callback =>
    cases client.result? xid with
    | none => rfl
    | some result => rfl

lemma conclude_map (client : Client κ) (call : PendingCall) (ending : Ending) :
    (client.map change).conclude call ending =
      ((client.conclude call ending).1.map change,
        (client.conclude call ending).2.map (Effect.map change)) := by
  cases ending with
  | unsent status =>
    unfold conclude failLocally
    cases call.callback with
    | none => rfl
    | some id => exact runCallback_map change (client.resolve call.xid status none) id _ _
  | settled status payload runner =>
    unfold conclude complete
    cases call.callback with
    | none => rfl
    | some id =>
      have stopped : ((client.map change).resolve call.xid status payload).deliveryStopped =
          (client.resolve call.xid status payload).deliveryStopped := rfl
      dsimp only
      rw [stopped]
      split
      · exact runCallback_map change (client.resolve call.xid status payload) id _ _
      · rfl

lemma deliver_map (client : Client κ) :
    (client.map change).deliver =
      (client.deliver.1.map change, client.deliver.2.map (Effect.map change)) := by
  have queue : (client.map change).deliveries = client.deliveries := rfl
  unfold deliver
  rw [queue]
  cases client.deliveries with
  | nil => rfl
  | cons next rest => exact runCallback_map change { client with deliveries := rest } _ _ _

end Client

namespace Threaded

/-- The threads with other callbacks in their hands. -/
def map (state : Threaded κ) : Threaded κ' :=
  ⟨state.client.map change, state.drafts.map (Draft.map change), state.taken⟩

def Effect.map : Effect κ → Effect κ'
  | .issued xid => .issued xid
  | .refused e => .refused e
  | .registered id xid callback => .registered id xid (change callback)
  | .entered xid => .entered xid
  | .transmit frame => .transmit frame
  | .answered frame => .answered frame
  | .resolved xid resolution => .resolved xid resolution
  | .invoked id xid invocation => .invoked id xid (invocation.map change)

def Event.map : Event κ → Event κ'
  | .issue request callback => .issue request (callback.map change)
  | .register n => .register n
  | .enter n => .enter n
  | .sendFailed xid e => .sendFailed xid e
  | .abandon xid => .abandon xid
  | .receive frame => .receive frame
  | .connectionLost => .connectionLost
  | .conclude n => .conclude n
  | .deliver => .deliver
  | .takeReply xid => .takeReply xid
  | .closeNext => .closeNext

/-- What an action leads to, with other callbacks. -/
def mapBoth (result : Threaded κ × List (Effect κ)) : Threaded κ' × List (Effect κ') :=
  (result.1.map change, result.2.map (Effect.map change))

lemma ran_map (id : UInt64) (xid : Int64) (effects : List (Client.Effect κ)) :
    ran id xid (effects.map (Client.Effect.map change)) =
      (ran id xid effects).map (Effect.map change) := by
  unfold ran
  rw [List.filterMap_map, List.map_filterMap]
  congr 1
  funext effect
  cases effect <;> rfl

lemma ranFor_map (call : PendingCall) (effects : List (Client.Effect κ)) :
    ranFor call (effects.map (Client.Effect.map change)) =
      (ranFor call effects).map (Effect.map change) := by
  unfold ranFor
  cases call.callback with
  | none => rfl
  | some id => exact ran_map change id call.xid effects

section

variable (state : Threaded κ)

lemma issue_map (request : Request) (callback : Option κ) :
    (state.map change).issue request (callback.map change) =
      mapBoth change (state.issue request callback) := by
  have same : request.encode (state.map change).client.registry
      (state.map change).client.maxPayload =
        request.encode state.client.registry state.client.maxPayload := rfl
  unfold issue
  rw [same]
  cases request.encode state.client.registry state.client.maxPayload with
  | error e => rfl
  | ok arguments =>
    unfold mapBoth map
    dsimp only
    rw [List.map_append]
    rfl

lemma getElem?_drafts_map (n : Nat) :
    (state.map change).drafts[n]? = state.drafts[n]?.map (Draft.map change) :=
  List.getElem?_map

lemma register_map (n : Nat) :
    (state.map change).register n = mapBoth change (state.register n) := by
  unfold register
  rw [getElem?_drafts_map]
  rcases state.drafts[n]? with _ | ⟨xid, frame, _ | callback, _ | id⟩
  · rfl
  · rfl
  · rfl
  · unfold mapBoth map
    dsimp only
    rw [List.map_set]
    rfl
  · rfl

lemma enter_map (n : Nat) : (state.map change).enter n = mapBoth change (state.enter n) := by
  have same : (state.map change).client.isOpen = state.client.isOpen := rfl
  have rest : (state.map change).drafts.eraseIdx n =
      (state.drafts.eraseIdx n).map (Draft.map change) := List.eraseIdx_map _ _ _
  unfold enter
  rw [getElem?_drafts_map, same, rest]
  rcases state.drafts[n]? with _ | ⟨xid, frame, _ | callback, id⟩
  · rfl
  · cases state.client.isOpen with
    | true => rfl
    | false => rfl
  · rfl

lemma takeOut_map (xid : Int64) (ending : Ending) :
    (state.map change).takeOut xid ending = (state.takeOut xid ending).map change := by
  have same : (state.map change).client.pendingCall? xid = state.client.pendingCall? xid := rfl
  unfold takeOut
  rw [same]
  cases state.client.pendingCall? xid with
  | none => rfl
  | some call => rfl

lemma conclude_map (n : Nat) :
    (state.map change).conclude n = mapBoth change (state.conclude n) := by
  have same : (state.map change).taken[n]? = state.taken[n]? := rfl
  unfold conclude
  rw [same]
  cases state.taken[n]? with
  | none => rfl
  | some entry =>
    have concluded := state.client.conclude_map change entry.1 entry.2
    have silent := ranFor_map change entry.1 (state.client.conclude entry.1 entry.2).2
    have client : (state.map change).client = state.client.map change := rfl
    dsimp only
    rw [client, concluded, silent]
    rfl

lemma deliver_map : (state.map change).deliver = mapBoth change state.deliver := by
  have queue : (state.map change).client.deliveries = state.client.deliveries := rfl
  have client : (state.map change).client = state.client.map change := rfl
  unfold deliver
  rw [queue]
  cases state.client.deliveries with
  | nil => rfl
  | cons next rest =>
    dsimp only
    rw [client, Client.deliver_map, ran_map]
    rfl

lemma takeReply_map (xid : Int64) :
    (state.map change).takeReply xid = (state.takeReply xid).map change := by
  have same : (state.map change).client.future? xid = state.client.future? xid := rfl
  unfold takeReply
  rw [same]
  cases (state.client.future? xid).bind Future.takeReply? with
  | none => rfl
  | some taken => rfl

lemma closeNext_map : (state.map change).closeNext = state.closeNext.map change := by
  have same : (state.map change).client.closing = state.client.closing := rfl
  unfold closeNext
  rw [same]
  cases state.client.closing with
  | notClosed | deliveryStopped | callsFailed | closed => rfl

lemma step_map (event : Event κ) :
    (state.map change).step (event.map change) = mapBoth change (state.step event) := by
  cases event with
  | issue request callback => exact issue_map change state request callback
  | register n => exact register_map change state n
  | enter n => exact enter_map change state n
  | sendFailed xid e =>
    exact congrArg (·, []) (takeOut_map change state xid (.unsent (Client.unsentStatus e)))
  | abandon xid =>
    exact congrArg (·, []) (takeOut_map change state xid (.settled Status.timedOut none .caller))
  | receive frame =>
    have taken := takeOut_map change state frame.xid
      (.settled frame.status (some frame.payload) .reader)
    have same : (state.map change).client.pendingCall? frame.xid =
        state.client.pendingCall? frame.xid := rfl
    show (state.map change).receive frame = mapBoth change (state.receive frame)
    unfold receive mapBoth
    dsimp only
    rw [taken, same]
    split
    · rfl
    · rfl
  | connectionLost => rfl
  | conclude n => exact conclude_map change state n
  | deliver => exact deliver_map change state
  | takeReply xid => exact congrArg (·, []) (takeReply_map change state xid)
  | closeNext => exact congrArg (·, []) (closeNext_map change state)

/-- With other callbacks, a run is the same but for them. -/
theorem run_map (events : List (Event κ)) :
    (state.map change).run (events.map (Event.map change)) =
      ((state.run events).1.map change, (state.run events).2.map (Effect.map change)) :=
  Machine.run_map (step_map change) state events

end

end Threaded

end RemoteCall
