import RemoteCall.Proofs.Client.Stopping

/-!
# Closing a client

Once delivery has stopped, the closing thread takes the pending calls out of the table and resolves
them one after the other, and then it drops the callbacks that are left.  Between two of these calls
the callback of the first one is run, on this thread, and it may use the client: it may issue calls,
and the callbacks of these are run within it, and in the end it may panic.  `resuming` lists the
actions of the thread, and what callbacks do is a parameter of it (`Reaction`).

The table is closed by then, so a call that is issued within a callback fails at once (`run_deed`).
That leaves the callbacks of the other pending calls where they are, so each of them is found when
its turn comes (`run_failing`).

## Reactions

A callback does a finite number of things (`Deed`): it issues calls, gives calls up, takes replies.
To close the client again does nothing, and is left out.  Callbacks that are run within it do such
things, too, and these are listed in its own reaction, at the place where they happen.  A panic ends
a callback and is caught where the callback was run, so what comes after it in the list is not done
(`Reaction.done`).  A callback that waits for a call is not among these; where the closing thread
may come to wait is the subject of `Joining`.

## The proof

What a deed does to a closed client is the same each time: the table stays closed, some callbacks
were registered and run, and the others are untouched (`Inline`).  Such stretches compose.  The loop
over the pending calls is then an induction in which the callbacks of the calls to come are in the
table all the time (`Present`).

## Main statements

* `run_deed` — what a callback does on a closed client.
-/

namespace RemoteCall

/-- Something that a callback does to its client. -/
inductive Deed (κ : Type) where
  | issue (request : Request) (callback : Option κ)
  | abandon (xid : Int64)
  | takeReply (xid : Int64)

/-- What a callback does when it is run.  What other callbacks do that are run within it, is part of
this. -/
structure Reaction (κ : Type) where
  deeds : List (Deed κ)
  /-- The number of deeds after which it panics, if it does. -/
  panics : Option Nat

variable {κ : Type}

/-- A panic ends a callback, and it is caught where the callback was run. -/
def Reaction.done (reaction : Reaction κ) : List (Deed κ) :=
  match reaction.panics with
  | none => reaction.deeds
  | some n => reaction.deeds.take n

/-- What is done while a call is failed: only a callback does anything. -/
def PendingCall.deeds (reactions : Int64 → Reaction κ) (call : PendingCall) : List (Deed κ) :=
  if call.callback.isSome then (reactions call.xid).done else []

/-- The callback of a call, with its ticket. -/
def PendingCall.owed (table : List (UInt64 × κ)) (call : PendingCall) :
    Option ((UInt64 × Int64) × κ) :=
  call.callback.bind fun id => (table.lookup id).map fun callback => ((id, call.xid), callback)

/-- Calls that are sorted by their transaction IDs are in ascending order. -/
lemma pairwise_sorted {calls : List PendingCall} (xids : (calls.map PendingCall.xid).Nodup) :
    ((calls.mergeSort fun a b => a.xid ≤ b.xid).map PendingCall.xid).Pairwise (· < ·) := by
  have distinct : ((calls.mergeSort fun a b => a.xid ≤ b.xid).map PendingCall.xid).Nodup :=
    ((List.mergeSort_perm calls _).map PendingCall.xid).nodup_iff.mpr xids
  have sorted : ((calls.mergeSort fun a b => a.xid ≤ b.xid).map PendingCall.xid).Pairwise
      (· ≤ ·) := by
    rw [List.pairwise_map]
    refine (List.pairwise_mergeSort ?_ ?_ calls).imp of_decide_eq_true
    · intro a b c first second
      exact decide_eq_true (Int64.le_trans (of_decide_eq_true first) (of_decide_eq_true second))
    · intro a b
      rw [Bool.or_eq_true, decide_eq_true_iff, decide_eq_true_iff]
      exact Int64.le_total a.xid b.xid
  exact (sorted.and distinct).imp fun both => Int64.lt_of_le_of_ne both.1 both.2

namespace Client

/-- The calls of the table in the order of their transaction IDs. -/
def byXid (client : Client κ) : List PendingCall :=
  client.pending.mergeSort fun a b => a.xid ≤ b.xid

/-- The table is closed and empty, and nothing waits for the delivery thread. -/
structure Shut (stage : Closing) (client : Client κ) : Prop where
  isOpen : client.isOpen = false
  stage_eq : client.closing = stage
  pending : client.pending = []
  deliveries : client.deliveries = []

/-- A call that has failed has no results. -/
lemma result?_of_resolution? {client : Client κ} {xid : Int64} {status : Status}
    {reply : Option Bytes} (failure : status ≠ Status.ok)
    (resolved : client.resolution? xid = some ⟨status, reply⟩) :
    client.result? xid = some ⟨status, []⟩ := by
  obtain ⟨future, found, resolved⟩ := Option.bind_eq_some_iff.mp resolved
  unfold result? Future.result?
  rw [found, Option.bind_some, resolved, Option.map_some, CallResult.ofReply_of_ne failure]
  rfl

lemma Shut.pendingCall? {stage : Closing} {client : Client κ} (shut : client.Shut stage)
    (xid : Int64) : client.pendingCall? xid = none := by
  unfold Client.pendingCall?
  rw [shut.pending]
  rfl

/-- Whoever resolves a call after delivery has stopped runs its callback. -/
lemma conclude_of_some {client : Client κ} (stopped : client.closing ≠ .notClosed)
    {call : PendingCall} {id : UInt64} (own : call.callback = some id) {callback : κ}
    (found : client.callbacks.lookup id = some callback) {ending : Ending} {result : CallResult}
    (outcome : (client.conclude call ending).1.result? call.xid = some result) :
    client.conclude call ending =
      ((client.resolve call.xid ending.status ending.payload).dropCallback id,
        [.invoked ⟨callback, result, ending.runner⟩]) := by
  rw [result?_conclude] at outcome
  rcases client.conclude_cases call ending with ⟨bare, -⟩ | ⟨id', own', same⟩ | ⟨-, -, going, -⟩
  · cases bare.symm.trans own
  · cases own.symm.trans own'
    have found' : (client.resolve call.xid ending.status ending.payload).callbacks.lookup id =
      some callback := found
    rw [same]
    exact runCallback_of_lookup found' outcome ending.runner
  · exact (stopped going).elim

/-- After delivery has stopped, a call that is resolved has no callback in the table. -/
lemma callbacks_conclude {client : Client κ} (stopped : client.closing ≠ .notClosed)
    (call : PendingCall) (ending : Ending) : (client.conclude call ending).1.callbacks =
      client.callbacks.filter fun entry => decide (call.callback ≠ some entry.1) := by
  rcases client.conclude_cases call ending with ⟨bare, same⟩ | ⟨id, own, same⟩ | ⟨-, -, going, -⟩
  · rw [same, bare]
    exact (List.filter_eq_self.mpr fun _ _ => decide_eq_true nofun).symm
  · rw [same, runCallback_eq, own]
    refine List.filter_congr fun entry _ => ?_
    simp [eq_comm]
  · exact (stopped going).elim

/-- A client that is closed, or being closed, is left alone. -/
lemma close_of_stopped {client : Client κ} (stopped : client.closing ≠ .notClosed) :
    client.close = (client, []) := by
  unfold close
  cases stage : client.closing with
  | notClosed => exact (stopped stage).elim
  | deliveryStopped | callsFailed | closed => rfl

/-- A call that cannot be sent is resolved, and its callback is run, before anything else is
done. -/
lemma failLocally_of_lookup {client : Client κ} {xid : Int64} {types : List Ty}
    (slot : client.future? xid = some (.unresolved types)) {id : UInt64} {callback : κ}
    (found : client.callbacks.lookup id = some callback) {status : Status}
    (failure : status ≠ Status.ok) :
    client.failLocally ⟨xid, some id⟩ status =
      ((client.resolve xid status none).dropCallback id,
        [.invoked ⟨callback, ⟨status, []⟩, .caller⟩]) := by
  have outcome : (client.resolve xid status none).result? xid = some ⟨status, []⟩ :=
    result?_of_resolution? failure (resolution?_failLocally slot none status)
  have found' : (client.resolve xid status none).callbacks.lookup id = some callback := found
  exact runCallback_of_lookup found' outcome .caller

lemma issue_of_shut_none {client : Client κ} (shut : client.isOpen = false) {request : Request}
    {arguments : Bytes}
    (encoded : request.encode client.registry client.maxPayload = .ok arguments) :
    client.issue request none =
      ((client.openSlot request.resultTypes).resolve client.nextXid Status.notConnected none,
        [.issued client.nextXid]) := by
  have shut' : ¬ (client.openSlot request.resultTypes).isOpen = true := by
    simp [openSlot, shut]
  rw [Threaded.issue_eq encoded]
  exact if_neg shut'

/-- Without a connection the callback of a call is run before the operation that issues the call is
over. -/
lemma issue_of_shut_some {client : Client κ} (shut : client.isOpen = false) {request : Request}
    {arguments : Bytes}
    (encoded : request.encode client.registry client.maxPayload = .ok arguments) (callback : κ) :
    client.issue request (some callback) =
      ((((client.openSlot request.resultTypes).addCallback callback).resolve client.nextXid
          Status.notConnected none).dropCallback client.nextCallback,
        [.issued client.nextXid,
          .invoked ⟨callback, ⟨Status.notConnected, []⟩, .caller⟩]) := by
  have shut' : ¬ ((client.openSlot request.resultTypes).addCallback callback).isOpen = true := by
    simp [openSlot, addCallback, shut]
  have slot := client.future?_openSlot request.resultTypes client.nextXid
  rw [if_pos rfl] at slot
  have slot' : ((client.openSlot request.resultTypes).addCallback callback).future?
      client.nextXid = some (.unresolved request.resultTypes) := slot
  have found : ((client.openSlot request.resultTypes).addCallback callback).callbacks.lookup
      client.nextCallback = some callback := List.lookup_cons_self
  have failed := failLocally_of_lookup slot' found (by decide : Status.notConnected ≠ Status.ok)
  rw [Threaded.issue_eq encoded]
  refine (if_neg shut').trans ?_
  dsimp only [Option.map_some, Option.getD_some]
  rw [failed]

lemma Shut.conclude {stage : Closing} {client : Client κ} (shut : client.Shut stage)
    (stopped : stage ≠ .notClosed) (call : PendingCall) (ending : Ending) :
    (client.conclude call ending).1.Shut stage := by
  have tables := client.conclude_tables call ending
  refine ⟨tables.isOpen.trans shut.isOpen, tables.closing.trans shut.stage_eq,
    tables.pending.trans shut.pending, ?_⟩
  rcases client.conclude_cases call ending with ⟨-, same⟩ | ⟨id, -, same⟩ | ⟨id, -, going, -⟩
  · rw [same]
    exact shut.deliveries
  · rw [same, runCallback_eq]
    exact shut.deliveries
  · exact (stopped (shut.stage_eq.symm.trans going)).elim

end Client

namespace Threaded

open Client

/-! ## The actions of the closing thread -/

/-- The actions of a deed, if so many calls are being issued and are in the hands of threads. -/
def act (drafts taken : Nat) : Deed κ → List (Event κ)
  | .issue request callback =>
    [.issue request callback, .register drafts, .enter drafts, .conclude taken]
  | .abandon xid => [.abandon xid, .conclude taken]
  | .takeReply xid => [.takeReply xid]

/-- The closing thread resolves calls that it has taken out of the table, and their callbacks are
run.  Other threads have so many drafts and calls in their hands. -/
def failing (reactions : Int64 → Reaction κ) (drafts taken : Nat) :
    List PendingCall → List (Event κ)
  | [] => []
  | call :: rest =>
    .conclude taken :: (call.deeds reactions).flatMap (act drafts (taken + rest.length)) ++
      failing reactions drafts taken rest

/-- The closing thread fails the pending calls and drops the callbacks that are left. -/
def finishing (state : Threaded κ) (reactions : Int64 → Reaction κ) : List (Event κ) :=
  failing reactions state.drafts.length state.taken.length state.client.byXid ++ [.closeNext]

/-- The actions of the closing thread once delivery has stopped. -/
def resuming (state : Threaded κ) (reactions : Int64 → Reaction κ) : List (Event κ) :=
  .closeNext :: state.finishing reactions

/-! ## What callbacks do -/

/-- A callback is run for a call that has failed. -/
def runAs (status : Status) (runner : Runner) (made : (UInt64 × Int64) × κ) :
    (UInt64 × Int64) × Invocation κ := (made.1, ⟨made.2, ⟨status, []⟩, runner⟩)

/-- Calls were issued by a thread that was alone with a closed table.  Their callbacks were run and
are gone, and the other ones are left. -/
structure Inline (stage : Closing) (client client' : Client κ) (seen : List (Effect κ)) :
    Prop where
  shut : client'.Shut stage
  callbacks : client'.callbacks = client.callbacks.filter (·.1 ∉ registered seen)
  runs : invocations seen = (registrations seen).map (runAs Status.notConnected .caller)

section

variable {stage : Closing} {client client' client'' : Client κ} {seen more : List (Effect κ)}

lemma Inline.silent (shut : client'.Shut stage) (callbacks : client'.callbacks = client.callbacks)
    (unregistered : registrations seen = []) (idle : invocations seen = []) :
    Inline stage client client' seen := by
  refine ⟨shut, ?_, ?_⟩
  · unfold registered
    rw [callbacks, unregistered]
    exact (List.filter_eq_self.mpr fun _ _ => by simp).symm
  · rw [idle, unregistered]
    rfl

lemma Inline.trans (first : Inline stage client client' seen)
    (second : Inline stage client' client'' more) :
    Inline stage client client'' (seen ++ more) := by
  refine ⟨second.shut, ?_, ?_⟩
  · rw [second.callbacks, first.callbacks, List.filter_filter, registered_append]
    refine List.filter_congr fun entry _ => ?_
    simp [Bool.and_comm]
  · rw [invocations_append, registrations_append, List.map_append, first.runs, second.runs]

/-! ### Actions on the last draft and on the call that was taken out -/

section

variable (drafts : List (Draft κ)) (taken rest : List (PendingCall × Ending))

lemma step_conclude (client : Client κ) (call : PendingCall) (ending : Ending) :
    step ⟨client, drafts, taken ++ (call, ending) :: rest⟩ (.conclude taken.length) =
      (⟨(client.conclude call ending).1, drafts, taken ++ rest⟩,
        .resolved call.xid ending.resolution ::
          ranFor call (client.conclude call ending).2) := by
  have here : (taken ++ (call, ending) :: rest)[taken.length]? = some (call, ending) := by simp
  have gone : (taken ++ (call, ending) :: rest).eraseIdx taken.length = taken ++ rest := by
    rw [List.eraseIdx_append_of_length_le (Nat.le_refl _), Nat.sub_self, List.eraseIdx_cons_zero]
  simp only [step, Threaded.conclude, here, gone]

lemma step_conclude_none (client : Client κ) :
    step ⟨client, drafts, taken⟩ (.conclude taken.length) = (⟨client, drafts, taken⟩, []) := by
  have none : taken[taken.length]? = none := List.getElem?_eq_none (Nat.le_refl _)
  simp only [step, Threaded.conclude, none]

/-- The callback of the last draft is registered, if it has one. -/
lemma step_register (client : Client κ) (xid : Int64) (frame : Frame) (callback : Option κ) :
    step ⟨client, drafts ++ [⟨xid, frame, callback, none⟩], taken⟩ (.register drafts.length) =
      (⟨(callback.map client.addCallback).getD client,
          drafts ++ [⟨xid, frame, none, callback.map fun _ => client.nextCallback⟩], taken⟩,
        (callback.map fun callback => .registered client.nextCallback xid callback).toList) := by
  have here : (drafts ++ [⟨xid, frame, callback, none⟩])[drafts.length]? =
      some ⟨xid, frame, callback, none⟩ := List.getElem?_concat_length
  cases callback with
  | none =>
    simp only [step, register, here]
    rfl
  | some callback =>
    have changed : (drafts ++ [(⟨xid, frame, some callback, none⟩ : Draft κ)]).set drafts.length
        ⟨xid, frame, none, some client.nextCallback⟩ =
          drafts ++ [⟨xid, frame, none, some client.nextCallback⟩] := by
      rw [List.set_append_right _ _ (Nat.le_refl _), Nat.sub_self, List.set_cons_zero]
    simp only [step, register, here, changed]
    rfl

/-- The last draft comes to the table, which is closed. -/
lemma step_enter {client : Client κ} (shut : client.isOpen = false) (xid : Int64)
    (frame : Frame) (id : Option UInt64) :
    step ⟨client, drafts ++ [⟨xid, frame, none, id⟩], taken⟩ (.enter drafts.length) =
      (⟨client, drafts, taken ++ [(⟨xid, id⟩, .unsent Status.notConnected)]⟩,
        [.entered xid]) := by
  have here : (drafts ++ [⟨xid, frame, none, id⟩])[drafts.length]? =
      some ⟨xid, frame, none, id⟩ := List.getElem?_concat_length
  have gone : (drafts ++ [(⟨xid, frame, none, id⟩ : Draft κ)]).eraseIdx drafts.length =
      drafts := by
    rw [List.eraseIdx_append_of_length_le (Nat.le_refl _), Nat.sub_self, List.eraseIdx_cons_zero,
      List.append_nil]
  have shut' : ¬ client.isOpen = true := by simp [shut]
  simp only [step, enter, here, gone, if_neg shut']

end

/-! ### Deeds -/

/-- A thread that is alone with a closed table issues a call as in one action of the client. -/
lemma run_issue_of_shut (shut : client.isOpen = false) (drafts : List (Draft κ))
    (taken : List (PendingCall × Ending)) {request : Request} {arguments : Bytes}
    (encoded : request.encode client.registry client.maxPayload = .ok arguments)
    (callback : Option κ) :
    run ⟨client, drafts, taken⟩ (act drafts.length taken.length (.issue request callback)) =
      (⟨(client.issue request callback).1, drafts, taken⟩,
        .issued client.nextXid ::
          (callback.map fun callback =>
            .registered client.nextCallback client.nextXid callback).toList ++
          .entered client.nextXid :: .resolved client.nextXid .refusal ::
          ranFor ⟨client.nextXid, callback.map fun _ => client.nextCallback⟩
            (client.issue request callback).2) := by
  have issued : step ⟨client, drafts, taken⟩ (.issue request callback) =
      (⟨client.openSlot request.resultTypes,
          drafts ++ [⟨client.nextXid, .request client.nextXid request.callId arguments, callback,
            none⟩], taken⟩, [.issued client.nextXid]) := by
    simp only [step, issue, encoded]
  have shut' : ((callback.map (client.openSlot request.resultTypes).addCallback).getD
      (client.openSlot request.resultTypes)).isOpen = false := by
    cases callback <;> exact shut
  have whole := issue_eq encoded callback
  dsimp only at whole
  rw [if_neg (by simp [shut'])] at whole
  rw [whole]
  simp only [act, run, Machine.run_cons, Machine.run_nil, issued, step_register,
    step_enter _ _ shut', step_conclude, List.append_nil]
  cases callback <;> rfl

/-- A request that may not be issued leaves no trace. -/
lemma run_issue_of_error (drafts : List (Draft κ)) (taken : List (PendingCall × Ending))
    {request : Request} {e : Error}
    (refused : request.encode client.registry client.maxPayload = .error e)
    (callback : Option κ) :
    run ⟨client, drafts, taken⟩ (act drafts.length taken.length (.issue request callback)) =
      (⟨client, drafts, taken⟩, [.refused e]) := by
  have issued : step ⟨client, drafts, taken⟩ (.issue request callback) =
      (⟨client, drafts, taken⟩, [.refused e]) := by
    simp only [step, issue, refused]
  have absent : drafts[drafts.length]? = none := List.getElem?_eq_none (Nat.le_refl _)
  have unregistered : step ⟨client, drafts, taken⟩ (.register drafts.length) =
      (⟨client, drafts, taken⟩, []) := by
    simp only [step, register, absent]
  have unentered : step ⟨client, drafts, taken⟩ (.enter drafts.length) =
      (⟨client, drafts, taken⟩, []) := by
    simp only [step, enter, absent]
  simp only [act, run, Machine.run_cons, Machine.run_nil, issued, unregistered, unentered,
    step_conclude_none, List.append_nil]

lemma inline_issue (shut : client.Shut stage) (drafts : List (Draft κ))
    (taken : List (PendingCall × Ending)) (request : Request) (callback : Option κ) :
    ∃ client' seen, run ⟨client, drafts, taken⟩
        (act drafts.length taken.length (.issue request callback)) =
          (⟨client', drafts, taken⟩, seen) ∧ Inline stage client client' seen := by
  cases encoded : request.encode client.registry client.maxPayload with
  | error e =>
    exact ⟨client, [.refused e], run_issue_of_error drafts taken encoded callback,
      .silent shut rfl rfl rfl⟩
  | ok arguments =>
    have stays : ∀ {client' : Client κ}, client'.isOpen = client.isOpen →
        client'.closing = client.closing → client'.pending = client.pending →
          client'.deliveries = client.deliveries → client'.Shut stage :=
      fun isOpen closing pending deliveries => ⟨isOpen.trans shut.isOpen,
        closing.trans shut.stage_eq, pending.trans shut.pending, deliveries.trans shut.deliveries⟩
    refine ⟨_, _, run_issue_of_shut shut.isOpen drafts taken encoded callback, ?_⟩
    cases callback with
    | none =>
      rw [Client.issue_of_shut_none shut.isOpen encoded]
      exact .silent (stays rfl rfl rfl rfl) rfl rfl rfl
    | some callback =>
      rw [Client.issue_of_shut_some shut.isOpen encoded]
      refine ⟨stays rfl rfl rfl rfl, ?_, rfl⟩
      -- its own callback was put into the table and taken out again
      show ((client.nextCallback, callback) :: client.callbacks).filter
        (·.1 ≠ client.nextCallback) = client.callbacks.filter (·.1 ∉ [client.nextCallback])
      rw [List.filter_cons_of_neg (by simp)]
      refine List.filter_congr fun entry _ => ?_
      simp only [List.mem_singleton]

/-- A deed is done while the table is closed. -/
theorem run_deed (shut : client.Shut stage) (drafts : List (Draft κ))
    (taken : List (PendingCall × Ending)) (deed : Deed κ) :
    ∃ client' seen, run ⟨client, drafts, taken⟩ (act drafts.length taken.length deed) =
        (⟨client', drafts, taken⟩, seen) ∧ Inline stage client client' seen := by
  cases deed with
  | issue request callback => exact inline_issue shut drafts taken request callback
  | abandon xid =>
    refine ⟨client, [], ?_, .silent shut rfl rfl rfl⟩
    simp only [act, run, Machine.run_cons, Machine.run_nil, step, takeOut, shut.pendingCall? xid,
      List.append_nil]
    exact step_conclude_none drafts taken client
  | takeReply xid =>
    have shut' : ∀ change, (client.updateFuture xid change).Shut stage :=
      fun _ => ⟨shut.isOpen, shut.stage_eq, shut.pending, shut.deliveries⟩
    have taking : step ⟨client, drafts, taken⟩ (.takeReply xid) =
        ((⟨client, drafts, taken⟩ : Threaded κ).takeReply xid, []) := rfl
    simp only [act, run, Machine.run_cons, Machine.run_nil, taking]
    unfold takeReply
    dsimp only
    split
    · exact ⟨client, [], rfl, .silent shut rfl rfl rfl⟩
    · exact ⟨_, [], rfl, .silent (shut' _) rfl rfl rfl⟩

lemma run_deeds (shut : client.Shut stage) (drafts : List (Draft κ))
    (taken : List (PendingCall × Ending)) (deeds : List (Deed κ)) :
    ∃ client' seen, run ⟨client, drafts, taken⟩ (deeds.flatMap (act drafts.length taken.length)) =
        (⟨client', drafts, taken⟩, seen) ∧ Inline stage client client' seen := by
  induction deeds generalizing client with
  | nil => exact ⟨client, [], rfl, .silent shut rfl rfl rfl⟩
  | cons deed rest ih =>
    obtain ⟨client', seen, ran, first⟩ := run_deed shut drafts taken deed
    obtain ⟨client'', more, ran', second⟩ := ih first.shut
    refine ⟨client'', seen ++ more, ?_, first.trans second⟩
    rw [List.flatMap_cons, run_append, ran]
    dsimp only
    rw [ran']

end

/-! ## What the closing thread does -/

/-- How the closing thread ends a call. -/
abbrev failed : Ending := .settled Status.clientClosed none .closer

/-- The callbacks that were run: some by the closing thread, for calls that it has failed, and the
others within these, for calls that were issued there. -/
structure Runs (owed : List ((UInt64 × Int64) × κ)) (seen : List (Effect κ)) : Prop where
  closer : (invocations seen).filter (·.2.runner = .closer) =
    owed.map (runAs Status.clientClosed .closer)
  others : (invocations seen).filter (·.2.runner ≠ .closer) =
    (registrations seen).map (runAs Status.notConnected .caller)

section

variable {stage : Closing} {client client' : Client κ} {seen more : List (Effect κ)}
  {owed owed' : List ((UInt64 × Int64) × κ)}

lemma Runs.append (first : Runs owed seen) (second : Runs owed' more) :
    Runs (owed ++ owed') (seen ++ more) := by
  refine ⟨?_, ?_⟩
  · rw [invocations_append, List.filter_append, List.map_append, first.closer, second.closer]
  · rw [invocations_append, registrations_append, List.filter_append, List.map_append,
      first.others, second.others]

lemma Runs.of_inline (within : Inline stage client client' seen) : Runs [] seen := by
  refine ⟨?_, ?_⟩
  · rw [within.runs, List.filter_map, List.filter_eq_nil_iff.mpr fun _ _ => by simp [runAs]]
    rfl
  · rw [within.runs, List.filter_map, List.filter_eq_self.mpr fun _ _ => by simp [runAs]]

/-- The closing thread resolves a call, and runs its callback if it has one. -/
lemma runs_conclude (stopped : client.closing ≠ .notClosed) {table : List (UInt64 × κ)}
    {call : PendingCall}
    (present : ∀ id, call.callback = some id → ∃ callback,
      client.callbacks.lookup id = some callback ∧ table.lookup id = some callback)
    (outcome : (client.conclude call failed).1.result? call.xid =
      some ⟨Status.clientClosed, []⟩) :
    Runs (call.owed table).toList
      (.resolved call.xid (failed).resolution ::
        ranFor call (client.conclude call failed).2) := by
  cases own : call.callback with
  | none =>
    unfold PendingCall.owed ranFor
    rw [own]
    exact ⟨rfl, rfl⟩
  | some id =>
    obtain ⟨callback, found, listed⟩ := present id own
    rw [Client.conclude_of_some stopped own found outcome]
    unfold PendingCall.owed ranFor
    rw [own, Option.bind_some, listed]
    exact ⟨rfl, rfl⟩

end

/-- An entry is found as before if other ones are gone. -/
lemma lookup_filter {α β : Type} [BEq α] [LawfulBEq α] {table : List (α × β)}
    (keep : α → Bool) {id : α} (kept : keep id = true) :
    (table.filter (keep ·.1)).lookup id = table.lookup id := by
  induction table with
  | nil => rfl
  | cons entry rest ih =>
    by_cases own : id = entry.1
    · subst own
      have first : (entry :: rest).filter (keep ·.1) = entry :: rest.filter (keep ·.1) :=
        List.filter_cons_of_pos kept
      rw [first, List.lookup_cons, List.lookup_cons]
      simp
    · have skipped : (entry :: rest).lookup id = rest.lookup id := by
        rw [List.lookup_cons, beq_eq_false_iff_ne.mpr own]
      rw [skipped]
      by_cases stays : keep entry.1 = true
      · have first : (entry :: rest).filter (keep ·.1) = entry :: rest.filter (keep ·.1) :=
          List.filter_cons_of_pos stays
        rw [first, List.lookup_cons, beq_eq_false_iff_ne.mpr own, ih]
      · have first : (entry :: rest).filter (keep ·.1) = rest.filter (keep ·.1) :=
          List.filter_cons_of_neg stays
        rw [first, ih]

section

variable {table : List (UInt64 × κ)} {whole : List (Effect κ)}

/-- The callbacks of some calls are in the table, and they are those of another table. -/
def Present (table : List (UInt64 × κ)) (client : Client κ) (calls : List PendingCall) : Prop :=
  ∀ call ∈ calls, ∀ id, call.callback = some id → ∃ callback,
    client.callbacks.lookup id = some callback ∧ table.lookup id = some callback

lemma Placed.of_run {state next : Threaded κ} {events : List (Event κ)} {seen : List (Effect κ)}
    (placed : Placed state whole) (ran : state.run events = (next, seen))
    (distinct : (issued (whole ++ seen)).Nodup) : Placed next (whole ++ seen) := by
  obtain ⟨rfl, rfl⟩ := Prod.mk.inj ran
  exact placed.run distinct

/-- The closing thread fails a call that it has taken out. -/
lemma run_fails (reactions : Int64 → Reaction κ) (drafts : List (Draft κ))
    (taken rest : List (PendingCall × Ending)) {client : Client κ} (shut : client.Shut .callsFailed)
    {call : PendingCall} (placed : Placed ⟨client, drafts, taken ++ (call, failed) :: rest⟩ whole)
    (distinct : (issued whole).Nodup) (present : Present table client [call]) :
    ∃ client' seen, run ⟨client, drafts, taken ++ (call, failed) :: rest⟩
        (.conclude taken.length ::
          (call.deeds reactions).flatMap (act drafts.length (taken.length + rest.length))) =
        (⟨client', drafts, taken ++ rest⟩, seen) ∧
      client'.Shut .callsFailed ∧
      (client'.callbacks = client.callbacks.filter fun entry =>
        decide (entry.1 ∉ registered seen) && decide (call.callback ≠ some entry.1)) ∧
      Runs (call.owed table).toList seen := by
  have stopped : client.closing ≠ .notClosed := by
    rw [shut.stage_eq]
    decide
  have outcome : (client.conclude call failed).1.result? call.xid =
      some ⟨Status.clientClosed, []⟩ := by
    have here : (taken ++ (call, failed) :: rest)[taken.length]? = some (call, failed) := by simp
    have resolved := placed.resolution?_conclude distinct here call.xid
    rw [if_pos rfl] at resolved
    exact Client.result?_of_resolution? (by decide) resolved
  have own := runs_conclude stopped (present call (List.mem_singleton_self _)) outcome
  have unregistered : registered (.resolved call.xid (failed).resolution ::
      ranFor call (client.conclude call failed).2) = [] := by
    unfold registered registrations
    rw [List.filterMap_cons_none rfl, filterMap_ranFor fun _ _ _ => rfl]
    rfl
  obtain ⟨client', seen, ran, within⟩ :=
    run_deeds (shut.conclude (by decide) call failed) drafts (taken ++ rest) (call.deeds reactions)
  rw [List.length_append] at ran
  refine ⟨client', _, ?_, within.shut, ?_, (List.append_nil _) ▸ own.append (.of_inline within)⟩
  · unfold run at ran ⊢
    rw [Machine.run_cons, step_conclude]
    dsimp only
    rw [ran]
  · rw [within.callbacks, Client.callbacks_conclude stopped, List.filter_filter, registered_append,
      unregistered, List.nil_append]

/-- The closing thread fails the calls that it has taken out, one after the other. -/
theorem run_failing (reactions : Int64 → Reaction κ) (drafts : List (Draft κ))
    (taken : List (PendingCall × Ending)) {calls : List PendingCall}
    {client : Client κ} (shut : client.Shut .callsFailed)
    (placed : Placed ⟨client, drafts, taken ++ calls.map (·, failed)⟩ whole)
    (xids : (issued (whole ++ (run ⟨client, drafts, taken ++ calls.map (·, failed)⟩
      (failing reactions drafts.length taken.length calls)).2)).Nodup)
    (ids : (registered (whole ++ (run ⟨client, drafts, taken ++ calls.map (·, failed)⟩
      (failing reactions drafts.length taken.length calls)).2)).Nodup)
    (known : ∀ entry ∈ client.callbacks, entry.1 ∈ registered whole)
    (apart : (calls.filterMap PendingCall.callback).Nodup) (present : Present table client calls) :
    ∃ client' seen, run ⟨client, drafts, taken ++ calls.map (·, failed)⟩
        (failing reactions drafts.length taken.length calls) = (⟨client', drafts, taken⟩, seen) ∧
      client'.Shut .callsFailed ∧ Runs (calls.filterMap (PendingCall.owed table)) seen := by
  -- One call after the other. What the reactions of the first one register is of no concern to the
  -- later ones, because the IDs that they wait for were given before.
  induction calls generalizing client whole with
  | nil =>
    refine ⟨client, [], ?_, shut, rfl, rfl⟩
    rw [List.map_nil, List.append_nil]
    rfl
  | cons call rest ih =>
    have head : Present table client [call] := by
      intro other among
      rw [List.mem_singleton.mp among]
      exact present call List.mem_cons_self
    obtain ⟨client', seen, ran, shut', table', runs⟩ := run_fails reactions drafts taken
      (rest.map (·, failed)) shut placed (nodup_issued_before xids) head
    rw [List.length_map] at ran
    have split : failing reactions drafts.length taken.length (call :: rest) =
        (.conclude taken.length ::
          (call.deeds reactions).flatMap (act drafts.length (taken.length + rest.length))) ++
        failing reactions drafts.length taken.length rest := rfl
    rw [List.map_cons, split, run_append, ran] at xids ids
    rw [List.map_cons, split, run_append, ran]
    dsimp only at xids ids ⊢
    rw [← List.append_assoc] at xids ids
    have placed' : Placed ⟨client', drafts, taken ++ rest.map (·, failed)⟩ (whole ++ seen) :=
      placed.of_run ran (nodup_issued_before xids)
    have known' : ∀ entry ∈ client'.callbacks, entry.1 ∈ registered (whole ++ seen) := by
      intro entry among
      rw [table'] at among
      rw [registered_append]
      exact List.mem_append_left _ (known entry (List.mem_filter.mp among).1)
    have fresh : ∀ id ∈ registered whole, id ∉ registered seen := by
      intro id before after
      rw [registered_append, registered_append] at ids
      exact (List.nodup_append.mp (List.nodup_append.mp ids).1).2.2 id before id after rfl
    -- The callbacks of the other calls are still in the table: none of them has the ID of one that
    -- was registered meanwhile, and none that of the callback that was run.
    have present' : Present table client' rest := by
      intro other among id own
      obtain ⟨callback, found, listed⟩ := present other (List.mem_cons_of_mem _ among) id own
      have entry : (id, callback) ∈ client.callbacks := by
        obtain ⟨before, after, all, -⟩ := List.lookup_eq_some_iff.mp found
        rw [all]
        exact List.mem_append_right _ List.mem_cons_self
      have kept : (decide (id ∉ registered seen) && decide (call.callback ≠ some id)) = true := by
        rw [Bool.and_eq_true, decide_eq_true_iff, decide_eq_true_iff]
        refine ⟨fresh id (known _ entry), fun same => ?_⟩
        rw [List.filterMap_cons_some same, List.nodup_cons] at apart
        exact apart.1 (List.mem_filterMap.mpr ⟨other, among, own⟩)
      refine ⟨callback, ?_, listed⟩
      rw [table']
      exact (lookup_filter (fun id => decide (id ∉ registered seen) &&
        decide (call.callback ≠ some id)) kept).trans found
    have apart' : (rest.filterMap PendingCall.callback).Nodup :=
      apart.sublist ((List.sublist_cons_self call rest).filterMap _)
    obtain ⟨client'', more, ran', shut'', runs'⟩ := ih shut' placed' xids ids known' apart' present'
    refine ⟨client'', seen ++ more, ?_, shut'', ?_⟩
    · rw [ran']
    · have owed : (call :: rest).filterMap (PendingCall.owed table) =
          (call.owed table).toList ++ rest.filterMap (PendingCall.owed table) := by
        rw [List.filterMap_cons]
        cases call.owed table <;> rfl
      rw [owed]
      exact runs.append runs'

/-! ## Closing -/

/-- The callbacks of the pending calls, in the order of these. -/
def owed (state : Threaded κ) : List ((UInt64 × Int64) × κ) :=
  state.client.byXid.filterMap (PendingCall.owed state.client.callbacks)

/-- The closing thread has taken the calls out of the table. -/
def emptied (state : Threaded κ) : Threaded κ :=
  ⟨{ state.client with closing := .callsFailed, isOpen := false, pending := [], deliveries := [] },
    state.drafts, state.taken ++ state.client.byXid.map (·, failed)⟩

variable {state : Threaded κ} {history : List (Effect κ)}

lemma step_closeNext_of_stopped (stopped : state.client.closing = .deliveryStopped) :
    (state.withQueue []).step .closeNext = (state.emptied, []) := by
  have stage : (state.withQueue []).client.closing = .deliveryStopped := stopped
  unfold step closeNext
  rw [stage]
  rfl

lemma run_resuming_eq (stopped : state.client.closing = .deliveryStopped)
    (reactions : Int64 → Reaction κ) :
    (state.withQueue []).run ((state.withQueue []).resuming reactions) =
      state.emptied.run (state.finishing reactions) := by
  unfold run resuming
  rw [Machine.run_cons, step_closeNext_of_stopped stopped]
  rfl

lemma Placed.withQueue (placed : Placed state history) (queue : List (UInt64 × Int64)) :
    Placed (state.withQueue queue) history :=
  ⟨placed.drafts, placed.places, placed.slots, placed.outcomes⟩

lemma Placed.emptied (placed : Placed state history)
    (stopped : state.client.closing = .deliveryStopped) (distinct : (issued history).Nodup) :
    Placed state.emptied history := by
  have ran : (state.withQueue []).run [.closeNext] = (state.emptied, []) := by
    unfold Threaded.run
    rw [Machine.run_cons, step_closeNext_of_stopped stopped]
    rfl
  have later := (placed.withQueue []).of_run ran
  rw [List.append_nil] at later
  exact later distinct

lemma shut_emptied (state : Threaded κ) : state.emptied.client.Shut .callsFailed :=
  ⟨rfl, rfl, rfl, rfl⟩

lemma mem_tickets {call : PendingCall} (pending : call ∈ state.client.pending) {id : UInt64}
    (own : call.callback = some id) : (id, call.xid) ∈ state.tickets := by
  refine List.mem_append_left _ (List.mem_filterMap.mpr ⟨call, ?_, ?_⟩)
  · exact List.mem_append_left _ (List.mem_append_right _ pending)
  · unfold PendingCall.ticket
    rw [own]
    rfl

/-- No ID is on two tickets that are under way. -/
lemma Owned.nodup_tickets (owned : Owned [] state history) (ids : (registered history).Nodup) :
    (state.tickets.map Prod.fst).Nodup := by
  have all := owned.nodup_callbacks ids
  rw [owned.table.nodup_iff, live_nil] at all
  exact all

/-- No two pending calls have the same callback. -/
lemma Owned.nodup_pending (owned : Owned [] state history) (ids : (registered history).Nodup) :
    (state.client.pending.filterMap PendingCall.callback).Nodup := by
  have all := owned.nodup_tickets ids
  rw [map_tickets] at all
  exact (List.nodup_append.mp (List.nodup_append.mp (List.nodup_append.mp all).1).1).2.1

/-- The callbacks of the pending calls are in the table. -/
lemma Owned.present (owned : Owned [] state history) :
    Present state.client.callbacks state.client state.client.pending := by
  intro call pending id own
  have ticket := mem_tickets pending own
  rw [← live_nil] at ticket
  obtain ⟨callback, found, -⟩ := owned.lookup ticket
  exact ⟨callback, found, found⟩

lemma Owned.known (owned : Owned [] state history) :
    ∀ entry ∈ state.client.callbacks, entry.1 ∈ registered history := by
  intro entry among
  obtain ⟨xid, made⟩ := owned.entries entry among
  exact List.mem_map_of_mem (f := (·.1.1)) made

/-- The closing thread runs the callbacks of the pending calls, in order, and what is issued within
them fails; then it drops all other callbacks. -/
lemma run_finishing (placed : Placed state history) (owned : Owned [] state history)
    (stopped : state.client.closing = .deliveryStopped) (reactions : Int64 → Reaction κ)
    (xids : (issued (history ++ (state.emptied.run (state.finishing reactions)).2)).Nodup)
    (ids : (registered (history ++ (state.emptied.run (state.finishing reactions)).2)).Nodup) :
    ∃ client' seen, state.emptied.run (state.finishing reactions) =
        (⟨client', state.drafts, state.taken⟩, seen) ∧
      client'.Shut .closed ∧ client'.callbacks = [] ∧ Runs state.owed seen := by
  have perm : state.client.byXid.Perm state.client.pending := List.mergeSort_perm _ _
  rw [finishing, run_append] at xids ids
  rw [finishing, run_append]
  dsimp only at xids ids ⊢
  rw [← List.append_assoc] at xids ids
  have placed' := placed.emptied stopped (nodup_issued_before (nodup_issued_before xids))
  have sooner := nodup_registered_before ids
  have apart : (state.client.byXid.filterMap PendingCall.callback).Nodup :=
    (perm.filterMap _).nodup_iff.mpr (owned.nodup_pending (nodup_registered_before sooner))
  have present : Present state.client.callbacks state.emptied.client state.client.byXid :=
    fun call among => owned.present call (perm.mem_iff.mp among)
  -- the calls are failed one after the other, and then the table of callbacks is cleared
  obtain ⟨client', seen, ran, shut, runs⟩ := run_failing reactions state.drafts state.taken
    (shut_emptied state) placed' (nodup_issued_before xids) sooner owned.known apart present
  have last : step ⟨client', state.drafts, state.taken⟩ .closeNext =
      (⟨client'.clearCallbacks, state.drafts, state.taken⟩, []) := by
    unfold step closeNext
    rw [shut.stage_eq]
  have ran' : state.emptied.run (failing reactions state.drafts.length state.taken.length
      state.client.byXid) = (⟨client', state.drafts, state.taken⟩, seen) := ran
  refine ⟨client'.clearCallbacks, seen, ?_,
    ⟨shut.isOpen, rfl, shut.pending, shut.deliveries⟩, rfl, runs⟩
  rw [ran']
  simp only [run, Machine.run_cons, Machine.run_nil, last, List.append_nil]

/-! ## Callbacks that leave the client alone -/

/-- A thread that has the last calls in its hands resolves these as in one action. -/
lemma run_completeAll (status : Status) (runner : Runner) (drafts : List (Draft κ))
    (taken : List (PendingCall × Ending)) (calls : List PendingCall) (client : Client κ) {n : Nat}
    (enough : calls.length ≤ n) :
    ∃ seen, run ⟨client, drafts, taken ++ calls.map (·, .settled status none runner)⟩
        (List.replicate n (.conclude taken.length)) =
      (⟨(client.completeAll status runner calls).1, drafts, taken⟩, seen) ∧
      seen.filterMap Effect.shown? = (client.completeAll status runner calls).2 := by
  induction n generalizing client calls with
  | zero =>
    obtain rfl := List.eq_nil_of_length_eq_zero (Nat.le_zero.mp enough)
    refine ⟨[], ?_, rfl⟩
    rw [List.map_nil, List.append_nil]
    rfl
  | succ n ih =>
    unfold run at ih ⊢
    rw [List.replicate_succ, Machine.run_cons]
    cases calls with
    | nil =>
      obtain ⟨seen, ran, shown⟩ := ih [] client (Nat.zero_le n)
      rw [List.map_nil, List.append_nil] at ran ⊢
      rw [step_conclude_none]
      exact ⟨seen, ran, shown⟩
    | cons call rest =>
      obtain ⟨seen, ran, shown⟩ := ih rest (client.conclude call (.settled status none runner)).1
        (Nat.le_of_succ_le_succ enough)
      rw [List.map_cons, step_conclude]
      dsimp only
      rw [ran]
      refine ⟨_, rfl, ?_⟩
      rw [List.filterMap_append, shown, List.filterMap_cons_none rfl, shown_conclude]
      rfl

lemma failing_alone {reactions : Int64 → Reaction κ} (idle : ∀ xid, (reactions xid).done = [])
    (drafts taken : Nat) (calls : List PendingCall) :
    failing reactions drafts taken calls = List.replicate calls.length (.conclude taken) := by
  induction calls with
  | nil => rfl
  | cons call rest ih =>
    have deeds : call.deeds reactions = [] := by
      unfold PendingCall.deeds
      rw [idle, ite_self]
    rw [failing, deeds, ih]
    rfl

/-- If callbacks leave the client alone, the rest of closing is one action of the client. -/
lemma run_finishing_alone (state : Threaded κ) {reactions : Int64 → Reaction κ}
    (idle : ∀ xid, (reactions xid).done = []) :
    ∃ seen, state.emptied.run (state.finishing reactions) =
        (⟨(state.client.withQueue []).failPending.1.clearCallbacks, state.drafts, state.taken⟩,
          seen) ∧
      seen.filterMap Effect.shown? = (state.client.withQueue []).failPending.2 := by
  obtain ⟨seen, ran, shown⟩ := run_completeAll Status.clientClosed .closer state.drafts
    state.taken state.client.byXid state.emptied.client (Nat.le_refl _)
  rw [← failing_alone idle state.drafts.length] at ran
  have ran' : state.emptied.run (failing reactions state.drafts.length state.taken.length
      state.client.byXid) =
        (⟨(state.client.withQueue []).failPending.1, state.drafts, state.taken⟩, seen) := ran
  have stage : (state.client.withQueue []).failPending.1.closing = .callsFailed :=
    closing_completeAll _ _ _ _
  have last : step ⟨(state.client.withQueue []).failPending.1, state.drafts, state.taken⟩
      .closeNext = (⟨(state.client.withQueue []).failPending.1.clearCallbacks, state.drafts,
        state.taken⟩, []) := by
    unfold step closeNext
    rw [stage]
  rw [finishing, run_append, ran']
  refine ⟨seen, ?_, shown⟩
  simp only [run, Machine.run_cons, Machine.run_nil, last, List.append_nil]

end

end Threaded

end RemoteCall
