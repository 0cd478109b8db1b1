import RemoteCall.Proofs.Client.Threads

/-!
# What an action of a thread does

Whatever a thread does to the calls of a client, it is one of a few things, and `Acts` has one case
for each of them.  A fact that every action keeps is proved by these cases (`acts_step`), without
looking at the actions themselves.

Each case gives the state before and after the action in full, together with what the action shows,
and the guard under which it is taken.  There are fewer cases than actions.  To give a call up, to
fail it because its request could not be sent, and to let it time out are one case: a call leaves
the table with an ending that is not a reply.  The loss of the connection and the second action of
closing are one case as well, with the closing stage as a parameter.  An action that is not possible
is the case in which nothing happens.

What a run has shown is read off its effects: the transaction IDs that it gave, the callbacks that
it registered, the calls that went to the table, and how calls were resolved.  Invariants relate a
state to such a history, and `Acts` says at the same time what becomes of both.

## Main statements

* `acts_step` — every action does one of the things on the list.
-/

namespace RemoteCall

namespace Threaded

variable {κ : Type}

/-! ## Histories -/

/-- The transaction IDs that were given, in order. -/
def issued (history : List (Effect κ)) : List Int64 :=
  history.filterMap fun
    | .issued xid => some xid
    | _ => none

/-- The callbacks that were registered, each with its ID and its call. -/
def registrations (history : List (Effect κ)) : List ((UInt64 × Int64) × κ) :=
  history.filterMap fun
    | .registered id xid callback => some ((id, xid), callback)
    | _ => none

/-- The IDs of callbacks that were given, in order. -/
def registered (history : List (Effect κ)) : List UInt64 := (registrations history).map (·.1.1)

/-- The calls that have gone to the table, and were admitted to it or not. -/
def entered (history : List (Effect κ)) : List Int64 :=
  history.filterMap fun
    | .entered xid => some xid
    | _ => none

/-- The attempts to resolve a call. -/
def resolutions (history : List (Effect κ)) : List (Int64 × Resolution) :=
  history.filterMap fun
    | .resolved xid resolution => some (xid, resolution)
    | _ => none

lemma issued_append (first second : List (Effect κ)) :
    issued (first ++ second) = issued first ++ issued second := List.filterMap_append

lemma registrations_append (first second : List (Effect κ)) :
    registrations (first ++ second) = registrations first ++ registrations second :=
  List.filterMap_append

lemma registered_append (first second : List (Effect κ)) :
    registered (first ++ second) = registered first ++ registered second := by
  unfold registered
  rw [registrations_append, List.map_append]

lemma entered_append (first second : List (Effect κ)) :
    entered (first ++ second) = entered first ++ entered second := List.filterMap_append

lemma resolutions_append (first second : List (Effect κ)) :
    resolutions (first ++ second) = resolutions first ++ resolutions second :=
  List.filterMap_append

/-! ## What an action does -/

/-- The resolutions of a client that has no reply for a call. -/
def Lost (resolution : Resolution) : Prop :=
  resolution.reply = none ∧ resolution.status ∈ [Status.timedOut, Status.notConnected,
    Status.connectionReset, Status.clientClosed]

/-- Everything that an action can do to the calls of a client. -/
inductive Acts (state : Threaded κ) : Threaded κ → List (Effect κ) → Prop
  | nothing : Acts state state []
  | refuses (e : Error) : Acts state state [.refused e]
  | issues (types : List Ty) {draft : Draft κ} (xid : draft.xid = state.client.nextXid)
      (id : draft.id = none) :
      Acts state ⟨state.client.openSlot types, state.drafts ++ [draft], state.taken⟩
        [.issued state.client.nextXid]
  | registers {n : Nat} {xid : Int64} {frame : Frame} {callback : κ}
      (here : state.drafts[n]? = some ⟨xid, frame, some callback, none⟩) :
      Acts state
        ⟨state.client.addCallback callback,
          state.drafts.set n ⟨xid, frame, none, some state.client.nextCallback⟩, state.taken⟩
        [.registered state.client.nextCallback xid callback]
  | admits {n : Nat} {draft : Draft κ} (here : state.drafts[n]? = some draft)
      (isOpen : state.client.isOpen = true) :
      Acts state
        ⟨state.client.addPending ⟨draft.xid, draft.id⟩, state.drafts.eraseIdx n, state.taken⟩
        [.entered draft.xid, .transmit draft.frame]
  | turnsAway {n : Nat} {draft : Draft κ} (here : state.drafts[n]? = some draft)
      (shut : state.client.isOpen = false) :
      Acts state
        ⟨state.client, state.drafts.eraseIdx n,
          state.taken ++ [(⟨draft.xid, draft.id⟩, .unsent Status.notConnected)]⟩
        [.entered draft.xid]
  | answers {frame : Frame} {call : PendingCall}
      (found : state.client.pendingCall? frame.xid = some call) :
      Acts state
        ⟨state.client.removePending frame.xid, state.drafts,
          state.taken ++ [(call, .settled frame.status (some frame.payload) .reader)]⟩
        [.answered frame]
  | givesUp {xid : Int64} {call : PendingCall} {ending : Ending} (lost : Lost ending.resolution)
      (found : state.client.pendingCall? xid = some call) :
      Acts state
        ⟨state.client.removePending xid, state.drafts, state.taken ++ [(call, ending)]⟩ []
  | drains {closing : Closing} {ending : Ending} {calls : List PendingCall}
      (lost : Lost ending.resolution) (all : calls.Perm state.client.pending)
      (closes : closing = state.client.closing ∨
        state.client.closing = .deliveryStopped ∧ closing = .callsFailed) :
      Acts state
        ⟨{ state.client with closing, isOpen := false, pending := [] }, state.drafts,
          state.taken ++ calls.map (·, ending)⟩ []
  | concludes {n : Nat} {call : PendingCall} {ending : Ending}
      (here : state.taken[n]? = some (call, ending)) :
      Acts state ⟨(state.client.conclude call ending).1, state.drafts, state.taken.eraseIdx n⟩
        (.resolved call.xid ending.resolution ::
          ranFor call (state.client.conclude call ending).2)
  | delivers {id : UInt64} {xid : Int64} {rest : List (UInt64 × Int64)}
      (queue : state.client.deliveries = (id, xid) :: rest) :
      Acts state
        ⟨({ state.client with deliveries := rest }.runCallback id xid .delivery).1, state.drafts,
          state.taken⟩
        (ran id xid ({ state.client with deliveries := rest }.runCallback id xid .delivery).2)
  | takes {xid : Int64} {future : Future} {reply : Except Error (Option Bytes)}
      (here : (state.client.future? xid).bind Future.takeReply? = some (reply, future)) :
      Acts state
        ⟨state.client.updateFuture xid fun _ => future, state.drafts, state.taken⟩ []
  | stops (going : state.client.closing = .notClosed) :
      Acts state ⟨state.client.stopDelivery, state.drafts, state.taken⟩ []
  | clears (failed : state.client.closing = .callsFailed) :
      Acts state ⟨state.client.clearCallbacks, state.drafts, state.taken⟩ []

lemma lost_of_status {status : Status} {runner : Runner}
    (known : status ∈ [Status.timedOut, Status.notConnected, Status.connectionReset,
      Status.clientClosed]) : Lost (Ending.settled status none runner).resolution :=
  ⟨rfl, known⟩

lemma lost_unsent (e : Error) : Lost (Ending.unsent (Client.unsentStatus e)).resolution := by
  refine ⟨rfl, ?_⟩
  show Client.unsentStatus e ∈ _
  unfold Client.unsentStatus
  split <;> decide

section

variable (state : Threaded κ)

lemma acts_issue (request : Request) (callback : Option κ) :
    Acts state (state.issue request callback).1 (state.issue request callback).2 := by
  unfold issue
  split
  · exact .refuses _
  · exact .issues request.resultTypes rfl rfl

lemma acts_register (n : Nat) : Acts state (state.register n).1 (state.register n).2 := by
  unfold register
  split
  · rename_i here
    exact .registers here
  · exact .nothing

lemma acts_enter (n : Nat) : Acts state (state.enter n).1 (state.enter n).2 := by
  unfold enter
  split
  · rename_i xid frame id here
    by_cases isOpen : state.client.isOpen = true
    · rw [if_pos isOpen]
      exact .admits here isOpen
    · rw [if_neg isOpen]
      exact .turnsAway here (by simpa using isOpen)
  · exact .nothing

lemma acts_takeOut (xid : Int64) {ending : Ending} (lost : Lost ending.resolution) :
    Acts state (state.takeOut xid ending) [] := by
  unfold takeOut
  split
  · exact .nothing
  · rename_i call found
    exact .givesUp lost found

lemma acts_receive (frame : Frame) :
    Acts state (state.receive frame).1 (state.receive frame).2 := by
  unfold receive takeOut
  split
  · rename_i unknown
    rw [unknown]
    exact .nothing
  · rename_i call found
    rw [found]
    exact .answers found

lemma acts_conclude (n : Nat) : Acts state (state.conclude n).1 (state.conclude n).2 := by
  unfold conclude
  split
  · exact .nothing
  · rename_i call ending here
    exact .concludes here

lemma acts_deliver : Acts state state.deliver.1 state.deliver.2 := by
  unfold deliver Client.deliver
  cases queue : state.client.deliveries with
  | nil => exact .nothing
  | cons next rest => exact .delivers queue

lemma acts_takeReply (xid : Int64) : Acts state (state.takeReply xid) [] := by
  unfold takeReply
  split
  · exact .nothing
  · rename_i here
    exact .takes here

lemma acts_closeNext : Acts state state.closeNext [] := by
  unfold closeNext
  split
  · rename_i going
    exact .stops going
  · rename_i stopped
    exact .drains (lost_of_status (by decide)) (List.mergeSort_perm _ _) (Or.inr ⟨stopped, rfl⟩)
  · rename_i failed
    exact .clears failed
  · exact .nothing

/-- Every action does one of these things. -/
theorem acts_step (event : Event κ) : Acts state (state.step event).1 (state.step event).2 := by
  cases event with
  | issue request callback => exact acts_issue state request callback
  | register n => exact acts_register state n
  | enter n => exact acts_enter state n
  | sendFailed xid e => exact acts_takeOut state xid (lost_unsent e)
  | abandon xid => exact acts_takeOut state xid (lost_of_status (by decide))
  | receive frame => exact acts_receive state frame
  | connectionLost =>
    exact .drains (lost_of_status (by decide)) (List.mergeSort_perm _ _) (Or.inl rfl)
  | conclude n => exact acts_conclude state n
  | deliver => exact acts_deliver state
  | takeReply xid => exact acts_takeReply state xid
  | closeNext => exact acts_closeNext state

/-! ## Actions that leave the calls where they are -/

/-- Nothing happens to calls that were entered: a call is issued, its callback is registered, a
callback of the queue is run, or a reply is taken. -/
def Event.sparesCalls : Event κ → Bool
  | .issue _ _ | .register _ | .deliver | .takeReply _ => true
  | .enter _ | .sendFailed _ _ | .abandon _ | .receive _ | .connectionLost | .conclude _
  | .closeNext => false

/-- The calls of the table and those in the hands of threads are the same, and closing has not gone
on. -/
structure SameCalls (state next : Threaded κ) : Prop where
  pending : next.client.pending = state.client.pending
  taken : next.taken = state.taken
  closing : next.client.closing = state.client.closing

lemma sameCalls_step {event : Event κ} (spares : event.sparesCalls = true) :
    SameCalls state (state.step event).1 := by
  cases event with
  | issue request callback =>
    show SameCalls state (state.issue request callback).1
    unfold issue
    split <;> exact ⟨rfl, rfl, rfl⟩
  | register n =>
    show SameCalls state (state.register n).1
    unfold register
    split <;> exact ⟨rfl, rfl, rfl⟩
  | deliver =>
    show SameCalls state state.deliver.1
    unfold deliver Client.deliver
    cases state.client.deliveries with
    | nil => exact ⟨rfl, rfl, rfl⟩
    | cons next rest =>
      dsimp only
      rw [Client.runCallback_eq]
      exact ⟨rfl, rfl, rfl⟩
  | takeReply xid =>
    show SameCalls state (state.takeReply xid)
    unfold takeReply
    split <;> exact ⟨rfl, rfl, rfl⟩
  | enter | sendFailed | abandon | receive | connectionLost | conclude | closeNext => cases spares

end

/-- Whoever does not look for callbacks sees nothing of their runs. -/
lemma filterMap_ran {β : Type} {look : Effect κ → Option β}
    (blind : ∀ id xid invocation, look (.invoked id xid invocation) = none) (id : UInt64)
    (xid : Int64) (effects : List (Client.Effect κ)) :
    (ran id xid effects).filterMap look = [] := by
  unfold ran
  rw [List.filterMap_filterMap, List.filterMap_eq_nil_iff]
  intro effect _
  cases effect with
  | invoked invocation => exact blind id xid invocation
  | issued | refused | transmit => rfl

lemma filterMap_ranFor {β : Type} {look : Effect κ → Option β}
    (blind : ∀ id xid invocation, look (.invoked id xid invocation) = none) (call : PendingCall)
    (effects : List (Client.Effect κ)) : (ranFor call effects).filterMap look = [] := by
  unfold ranFor
  split
  · rfl
  · exact filterMap_ran blind _ _ _

end Threaded

end RemoteCall
