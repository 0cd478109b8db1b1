import Mathlib.Data.List.Induction
import RemoteCall.Client.Link
import RemoteCall.Proofs.Call.Answering
import RemoteCall.Proofs.Call.Requests
import RemoteCall.Proofs.Client.Accounts
import RemoteCall.Proofs.Frame.Reassembly

/-!
# From the call to the handler

A request that is unfit is refused before anything is done for it: the client stays as it is, and
the only thing that happens is the report (`issue_of_unfit`).  Any other request is given the next
transaction ID, which differs from all that were given in a full round of the counter before
(`Numbered.fresh`).

The frame of a call is made when the call is issued and travels through the hands of its thread, so
every frame that is sent goes back to an issue in the same run (`MadeBy`).  Both ends walk the same
types in the same registry.  A server that accepts payloads of this length therefore finds the frame
in the stream as it is, and the arguments in the frame in canonical form (`Request.Carried`).

## Main statements

* `Threaded.requests_agree` — which requests a client issues, and what servers make of them.
-/

namespace RemoteCall

/-- A counter differs from the numbers that it has given in the round before. -/
lemma next_notMem_counted (n : Nat) :
    Int64.ofNat (n + 1) ∉ (counted Int64.ofNat n).reverse.take (2 ^ 64 - 1) := by
  intro among
  obtain ⟨k, within, same⟩ := List.mem_iff_getElem.mp among
  have length : (counted Int64.ofNat n).length = n := by simp [counted]
  rw [List.length_take, List.length_reverse, length] at within
  rw [List.getElem_take, List.getElem_reverse] at same
  simp only [counted, List.getElem_map, List.getElem_range, List.length_map,
    List.length_range] at same
  have words : (Int64.ofNat (n - 1 - k + 1)).toBitVec.toNat =
      (Int64.ofNat (n + 1)).toBitVec.toNat := by
    rw [same]
  have value : ∀ i, (Int64.ofNat i).toBitVec.toNat = i % 2 ^ 64 := fun _ => rfl
  rw [value, value] at words
  omega

/-! ## A request in its frame -/

namespace Request

open Codec

variable {registry : Registry} {limit : UInt32} {request : Request} {arguments : Bytes}

/-- What a server reads off a frame is the request, if the function is registered under the same
argument types. -/
structure Carried (registry : Registry) (request : Request) (xid : Int64) (frame : Frame) :
    Prop where
  xid_eq : frame.xid = xid
  callId_eq : frame.callId = request.callId
  /-- The handler is called with the arguments in canonical form; what it makes of them is not
  answered as if they had been invalid. -/
  called : ∃ forms, canonicals registry request.argTypes request.args = some forms ∧
    ∀ {η : Type} [Handles η] (registration : Registration η),
      registration.argTypes = request.argTypes → ∀ limit,
        (registration.answer registry limit frame.xid frame.payload).2 = some forms ∧
        (registration.answer registry limit frame.xid frame.payload).1.status ≠
          Status.invalidArguments

lemma carried_of_encode (built : registry.Built)
    (encoded : request.encode registry limit = .ok arguments) (xid : Int64) :
    Carried registry request xid (.request xid request.callId arguments) := by
  obtain ⟨written, -⟩ := written_of_encode encoded
  obtain ⟨forms, conform, -⟩ := readValues_of_done built written
  refine ⟨rfl, rfl, forms, conform, ?_⟩
  intro η _ registration same limit
  have decoded : registration.arguments? registry arguments = some forms := by
    rw [Registration.arguments?, same, readExactly_of_done built written, conform]
  have answered : registration.answer registry limit xid arguments =
      (registration.replyTo registry limit xid (Handles.run registration.handler forms),
        some forms) := by
    rw [Registration.answer, decoded]
  show (registration.answer registry limit xid arguments).2 = _ ∧
    (registration.answer registry limit xid arguments).1.status ≠ _
  rw [answered]
  refine ⟨rfl, ?_⟩
  rcases registration.replyTo_cases registry limit xid (Handles.run registration.handler forms) with
    ⟨results, bytes, -, -, reply⟩ | ⟨-, reply⟩
  · rw [reply]
    exact Status.invalidArguments_ne_ok.symm
  · rw [reply]
    exact Status.handlerFailed_ne_invalidArguments

/-- A frame with a request is within the limits of all servers that accept as much. -/
lemma fits_of_encode (encoded : request.encode registry limit = .ok arguments)
    (onWire : limit ≤ Header.protocolLimit) {accepted : UInt32} (enough : limit ≤ accepted)
    (xid : Int64) : Frame.Fits accepted (.request xid request.callId arguments) := by
  obtain ⟨-, within⟩ := written_of_encode encoded
  have bound := UInt32.le_iff_toNat_le.mp onWire
  have more := UInt32.le_iff_toNat_le.mp enough
  exact Frame.fits_ofPayload _ _ (by omega) (by omega)

end Request

/-- A thread that is left alone does not come to the writer if its request is unfit. -/
theorem Link.issue_of_unfit {κ : Type} {link : Link κ} {request : Request}
    (built : link.client.registry.Built)
    (unfit : request.Unfit link.client.registry link.client.maxPayload) (callback : Option κ) :
    ∃ e, link.issue request callback = (link, [.refused e]) := by
  obtain ⟨e, refused⟩ := (Request.exists_error_iff built).mpr unfit
  refine ⟨e, ?_⟩
  rw [Link.issue, Client.issue, refused]
  rfl

namespace Threaded

variable {κ : Type}

/-! ## Issuing -/

/-- The requests that were handed to the writer, in order. -/
def transmitted (history : List (Effect κ)) : List Frame :=
  history.filterMap fun
    | .transmit frame => some frame
    | _ => none

section

variable {state next : Threaded κ} {history seen : List (Effect κ)}

/-- An unfit request is refused, and nothing changes. -/
theorem issue_of_unfit {request : Request} (built : state.client.registry.Built)
    (unfit : request.Unfit state.client.registry state.client.maxPayload) (callback : Option κ) :
    ∃ e, state.step (.issue request callback) = (state, [.refused e]) := by
  obtain ⟨e, refused⟩ := (Request.exists_error_iff built).mpr unfit
  refine ⟨e, ?_⟩
  show state.issue request callback = _
  rw [issue, refused]

/-- Any other request is given a transaction ID and a frame. -/
lemma issue_of_ok {request : Request} {arguments : Bytes}
    (encoded : request.encode state.client.registry state.client.maxPayload = .ok arguments)
    (callback : Option κ) :
    state.step (.issue request callback) =
      ({ state with
          client := state.client.openSlot request.resultTypes
          drafts := state.drafts ++ [⟨state.client.nextXid,
            .request state.client.nextXid request.callId arguments, callback, none⟩] },
        [.issued state.client.nextXid]) := by
  show state.issue request callback = _
  rw [issue, encoded]

/-- The registry and the limit stay. -/
lemma Acts.settings (acts : Acts state next seen) :
    next.client.registry = state.client.registry ∧
      next.client.maxPayload = state.client.maxPayload := by
  cases acts with
  | concludes here =>
    have tables := state.client.conclude_tables ‹_› ‹_›
    exact ⟨tables.registry, tables.maxPayload⟩
  | delivers queue =>
    rw [Client.runCallback_eq]
    exact ⟨rfl, rfl⟩
  | nothing | refuses | issues | registers | admits | turnsAway | answers | givesUp | drains | takes
  | stops | clears => exact ⟨rfl, rfl⟩

lemma settings_run (state : Threaded κ) (events : List (Event κ)) :
    (state.run events).1.client.registry = state.client.registry ∧
      (state.run events).1.client.maxPayload = state.client.maxPayload := by
  have keeps : ∀ (next : Threaded κ) event,
      next.client.registry = state.client.registry ∧
        next.client.maxPayload = state.client.maxPayload →
      (next.step event).1.client.registry = state.client.registry ∧
        (next.step event).1.client.maxPayload = state.client.maxPayload := by
    rintro next event ⟨registry, maxPayload⟩
    obtain ⟨registry', maxPayload'⟩ := (acts_step next event).settings
    exact ⟨registry'.trans registry, maxPayload'.trans maxPayload⟩
  exact Machine.run_invariant keeps ⟨rfl, rfl⟩ events

/-- A transaction ID differs from those that were given in the round before it. -/
theorem Numbered.fresh (numbered : Numbered state history) :
    state.client.nextXid ∉ (issued history).reverse.take (2 ^ 64 - 1) := by
  rw [numbered.xids.next, numbered.xids.inOrder]
  have fresh := next_notMem_counted (issued history).length
  have length : (counted Int64.ofNat (issued history).length).length = (issued history).length := by
    rw [← numbered.xids.inOrder]
  rwa [length]

/-! ## Where frames come from -/

lemma takeOut_drafts (state : Threaded κ) (xid : Int64) (ending : Ending) :
    (state.takeOut xid ending).drafts = state.drafts := by
  unfold takeOut
  split <;> rfl

/-- The frame of a draft is made when its call is issued. -/
lemma mem_drafts_step {event : Event κ} {draft : Draft κ}
    (among : draft ∈ (state.step event).1.drafts) :
    (∃ earlier ∈ state.drafts, earlier.frame = draft.frame) ∨
      ∃ request callback arguments, event = .issue request callback ∧
        request.encode state.client.registry state.client.maxPayload = .ok arguments ∧
        draft.frame = .request state.client.nextXid request.callId arguments := by
  -- Drafts come into being by issuing, and keep their frame; every other action removes some at
  -- most.
  cases event with
  | issue request callback =>
    unfold step issue at among
    dsimp only at among
    split at among
    · exact .inl ⟨draft, among, rfl⟩
    · rename_i arguments encoded
      rcases List.mem_append.mp among with before | new
      · exact .inl ⟨draft, before, rfl⟩
      · obtain rfl := List.mem_singleton.mp new
        exact .inr ⟨request, callback, arguments, rfl, encoded, rfl⟩
  | register n =>
    unfold step register at among
    dsimp only at among
    split at among
    · rename_i here
      rcases List.mem_or_eq_of_mem_set among with before | rfl
      · exact .inl ⟨draft, before, rfl⟩
      · exact .inl ⟨_, List.mem_of_getElem? here, rfl⟩
    · exact .inl ⟨draft, among, rfl⟩
  | enter n =>
    unfold step enter at among
    dsimp only at among
    split at among
    · split at among
      · exact .inl ⟨draft, List.mem_of_mem_eraseIdx among, rfl⟩
      · exact .inl ⟨draft, List.mem_of_mem_eraseIdx among, rfl⟩
    · exact .inl ⟨draft, among, rfl⟩
  | sendFailed | abandon | receive => exact .inl ⟨draft, takeOut_drafts state _ _ ▸ among, rfl⟩
  | connectionLost => exact .inl ⟨draft, among, rfl⟩
  | conclude n =>
    unfold step conclude at among
    dsimp only at among
    split at among <;> exact .inl ⟨draft, among, rfl⟩
  | deliver =>
    unfold step deliver at among
    dsimp only at among
    split at among <;> exact .inl ⟨draft, among, rfl⟩
  | takeReply xid =>
    unfold step takeReply at among
    dsimp only at among
    split at among <;> exact .inl ⟨draft, among, rfl⟩
  | closeNext =>
    unfold step closeNext at among
    dsimp only at among
    split at among <;> exact .inl ⟨draft, among, rfl⟩

/-- What is handed to the writer is the frame of a draft. -/
lemma Acts.mem_drafts (acts : Acts state next seen) {frame : Frame}
    (sent : frame ∈ transmitted seen) : ∃ draft ∈ state.drafts, draft.frame = frame := by
  cases acts with
  | admits here isOpen =>
    obtain rfl := List.mem_singleton.mp sent
    exact ⟨_, List.mem_of_getElem? here, rfl⟩
  | @concludes n call ending here =>
    have silent : transmitted (.resolved call.xid ending.resolution ::
        ranFor call (state.client.conclude call ending).2) = [] :=
      filterMap_ranFor (fun _ _ _ => rfl) call _
    rw [silent] at sent
    cases sent
  | @delivers id xid rest queue =>
    have silent : transmitted (ran id xid
        ({ state.client with deliveries := rest }.runCallback id xid .delivery).2) = [] :=
      filterMap_ran (fun _ _ _ => rfl) id xid _
    rw [silent] at sent
    cases sent
  | nothing | refuses | issues | registers | turnsAway | answers | givesUp | drains | takes | stops
  | clears => cases sent

end

/-- A frame is that of a call that was issued in a run. -/
def MadeBy (start : Threaded κ) (events : List (Event κ)) (frame : Frame) : Prop :=
  ∃ before request callback after arguments, events = before ++ .issue request callback :: after ∧
    request.encode start.client.registry start.client.maxPayload = .ok arguments ∧
    frame = .request (start.run before).1.client.nextXid request.callId arguments

section

variable {start : Threaded κ} {events : List (Event κ)} {frame : Frame}

lemma MadeBy.mono (made : MadeBy start events frame) (more : List (Event κ)) :
    MadeBy start (events ++ more) frame := by
  obtain ⟨before, request, callback, after, arguments, rfl, encoded, built⟩ := made
  exact ⟨before, request, callback, after ++ more, arguments, by simp, encoded, built⟩

/-- The drafts of a run were made in it. -/
lemma madeBy_of_draft (new : start.drafts = []) {draft : Draft κ}
    (among : draft ∈ (start.run events).1.drafts) : MadeBy start events draft.frame := by
  induction events using List.reverseRecOn generalizing draft with
  | nil =>
    rw [show (start.run []).1.drafts = [] from new] at among
    cases among
  | append_singleton events event ih =>
    have last : (start.run (events ++ [event])).1 = ((start.run events).1.step event).1 := by
      rw [run_append, run, Machine.run_cons, Machine.run_nil]
    rw [last] at among
    rcases mem_drafts_step among with
      ⟨earlier, before, same⟩ | ⟨request, callback, arguments, rfl, encoded, built⟩
    · rw [← same]
      exact (ih before).mono [event]
    · obtain ⟨registry, maxPayload⟩ := settings_run start events
      rw [registry, maxPayload] at encoded
      exact ⟨events, request, callback, [], arguments, rfl, encoded, built⟩

/-- Every frame that is handed to the writer in a run was made in it. -/
lemma madeBy_of_transmitted (new : start.drafts = [])
    (sent : frame ∈ transmitted (start.run events).2) : MadeBy start events frame := by
  obtain ⟨effect, among, shows⟩ := List.mem_filterMap.mp sent
  obtain ⟨before, event, after, rfl, here⟩ := Machine.exists_step_of_mem among
  have now : frame ∈ transmitted ((start.run before).1.step event).2 :=
    List.mem_filterMap.mpr ⟨effect, here, shows⟩
  obtain ⟨draft, present, rfl⟩ := (acts_step _ event).mem_drafts now
  exact (madeBy_of_draft new present).mono _

/-- A request that can be encoded is given the next transaction ID at any time of a run. -/
lemma issued_of_encode {request : Request} {arguments : Bytes}
    (encoded : request.encode start.client.registry start.client.maxPayload = .ok arguments)
    (before : List (Event κ)) (callback : Option κ) :
    (start.run before).1.client.nextXid ∈
      issued ((start.run before).1.step (.issue request callback)).2 := by
  obtain ⟨registry, maxPayload⟩ := settings_run start before
  rw [← registry, ← maxPayload] at encoded
  rw [issue_of_ok encoded]
  exact List.mem_singleton_self _

/-- What one action of a run has given, the run has given. -/
lemma mem_issued_run {before after : List (Event κ)} {event : Event κ} {xid : Int64}
    (given : xid ∈ issued ((start.run before).1.step event).2) :
    xid ∈ issued (start.run (before ++ event :: after)).2 := by
  rw [run_append, run, Machine.run_cons, issued_append, issued_append]
  exact List.mem_append_right _ (List.mem_append_left _ given)

/-- A transaction ID is not given again, as long as none is. -/
lemma issued_apart {before between after : List (Event κ)} {event event' : Event κ} {xid : Int64}
    (distinct : (issued (start.run (before ++ event :: between ++ event' :: after)).2).Nodup)
    (given : xid ∈ issued ((start.run before).1.step event).2) :
    xid ∉ issued ((start.run (before ++ event :: between)).1.step event').2 := by
  intro again
  rw [run_append, issued_append] at distinct
  have later : xid ∈ issued ((start.run (before ++ event :: between)).1.run (event' :: after)).2 :=
    @mem_issued_run κ _ [] after event' xid again
  exact (List.nodup_append.mp distinct).2.2 xid (mem_issued_run given) xid later rfl

/-- The action that has given a transaction ID is the only one, as long as none is given twice. -/
lemma eq_of_issued (distinct : (issued (start.run events).2).Nodup)
    {before before' after after' : List (Event κ)} {event event' : Event κ}
    (split : events = before ++ event :: after) (split' : events = before' ++ event' :: after')
    {xid : Int64} (given : xid ∈ issued ((start.run before).1.step event).2)
    (given' : xid ∈ issued ((start.run before').1.step event').2) :
    before = before' ∧ event = event' := by
  rcases List.append_eq_append_iff.mp (split.symm.trans split') with
    ⟨more, rfl, rest⟩ | ⟨more, rfl, rest⟩
  · cases more with
    | nil => exact ⟨(List.append_nil _).symm, (List.cons.inj rest).1⟩
    | cons first between =>
      obtain ⟨rfl, -⟩ := List.cons.inj rest
      exact absurd given' (issued_apart (split' ▸ distinct) given)
  · cases more with
    | nil => exact ⟨List.append_nil _, (List.cons.inj rest).1.symm⟩
    | cons first between =>
      obtain ⟨rfl, -⟩ := List.cons.inj rest
      exact absurd given (issued_apart (split ▸ distinct) given')

/-- The frame under the transaction ID of a call is the one that was made for it, as long as none is
given twice. -/
lemma frame_eq_of_xid (new : start.drafts = []) (distinct : (issued (start.run events).2).Nodup)
    {before after : List (Event κ)} {request : Request} {callback : Option κ} {arguments : Bytes}
    (split : events = before ++ .issue request callback :: after)
    (encoded : request.encode start.client.registry start.client.maxPayload = .ok arguments)
    (sent : frame ∈ transmitted (start.run events).2)
    (same : frame.xid = (start.run before).1.client.nextXid) :
    frame = .request (start.run before).1.client.nextXid request.callId arguments := by
  obtain ⟨before', request', callback', after', arguments', split', encoded', rfl⟩ :=
    madeBy_of_transmitted new sent
  have given := issued_of_encode encoded before callback
  have given' := issued_of_encode encoded' before' callback'
  have xid_eq : (start.run before').1.client.nextXid = (start.run before).1.client.nextXid := same
  rw [xid_eq] at given'
  obtain ⟨rfl, event_eq⟩ := eq_of_issued distinct split split' given given'
  cases event_eq
  cases encoded.symm.trans encoded'
  rfl

end

/-! ## Both ends -/

/-- What becomes of requests, after some actions of the threads of a client and of its server. -/
structure RequestPath (start : Threaded κ) (events : List (Event κ)) : Prop where
  /-- A request is refused exactly if it is unfit. -/
  refuses : ∀ request callback,
    (∃ e, .refused e ∈ ((start.run events).1.step (.issue request callback)).2) ↔
      request.Unfit start.client.registry start.client.maxPayload
  /-- A refusal is reported.  Nothing else happens, and nothing changes: no transaction ID is used
  up, nothing enters a table, nothing is sent and no callback is run. -/
  untouched : ∀ request callback,
    request.Unfit start.client.registry start.client.maxPayload →
      ∃ e, (start.run events).1.step (.issue request callback) =
        ((start.run events).1, [.refused e])
  /-- The writer stays as it is, too. -/
  unsent : ∀ (link : Link κ) request callback, link.client = (start.run events).1.client →
    request.Unfit start.client.registry start.client.maxPayload →
      ∃ e, link.issue request callback = (link, [.refused e])
  /-- Any other request is given the next transaction ID, with a future. -/
  issues : ∀ request callback,
    ¬ request.Unfit start.client.registry start.client.maxPayload →
      ∃ next, (start.run events).1.step (.issue request callback) =
          (next, [.issued (start.run events).1.client.nextXid]) ∧
        next.client.future? (start.run events).1.client.nextXid =
          some (.unresolved request.resultTypes)
  /-- This transaction ID was not given to any of the last calls, up to a round of the counter. -/
  fresh : (start.run events).1.client.nextXid ∉
    (issued (start.run events).2).reverse.take (2 ^ 64 - 1)
  /-- Every frame that is handed to the writer carries a request that was issued, under the
  transaction ID that was given to it. -/
  carried : ∀ frame ∈ transmitted (start.run events).2,
    ∃ before request callback after, events = before ++ .issue request callback :: after ∧
      ¬ request.Unfit start.client.registry start.client.maxPayload ∧
      request.Carried start.client.registry (start.run before).1.client.nextXid frame
  /-- As long as no transaction ID was given twice, the frame of a call carries its own request. -/
  own : (issued (start.run events).2).length ≤ 2 ^ 64 →
    ∀ before request callback after, events = before ++ .issue request callback :: after →
      ¬ request.Unfit start.client.registry start.client.maxPayload →
      ∀ frame ∈ transmitted (start.run events).2,
        frame.xid = (start.run before).1.client.nextXid →
          request.Carried start.client.registry frame.xid frame
  /-- Whichever of these frames are queued, a server that accepts payloads of this length finds them
  in the stream, however it is cut. -/
  decoded : ∀ frames, (∀ frame ∈ frames, frame ∈ transmitted (start.run events).2) →
    ∀ accepted, start.client.maxPayload ≤ accepted → ∀ pieces : List Bytes,
      pieces.flatten = Writer.content frames →
        ((Reassembly.fresh accepted).pushAll pieces).1 = (frames, none)

/-- Whatever the threads of a client have done and in which order, it refuses the unfit requests
and no others, without a trace, and the requests that it sends reach the handlers of servers that
have registered the function under the same types. -/
theorem requests_agree {registry : Registry} (built : registry.Built) {settings : ClientSettings}
    (valid : settings.validate = .ok ()) (events : List (Event κ)) :
    RequestPath (connected registry settings.maxPayload) events := by
  generalize limited : settings.maxPayload = limit
  have onWire : limit ≤ Header.protocolLimit := limited ▸ le_of_checkConnection valid
  -- What a request is checked against does not change, so the check of a later moment is that of
  -- the beginning.
  obtain ⟨sameRegistry, sameLimit⟩ :=
    settings_run (connected registry limit : Threaded κ) events
  have numbered := (numbered_connected registry limit).run events
  rw [List.nil_append] at numbered
  have builtNow : ((connected registry limit : Threaded κ).run events).1.client.registry.Built := by
    rw [sameRegistry]
    exact built
  constructor
  case refuses =>
    intro request callback
    constructor
    · rintro ⟨e, refused⟩
      by_contra fit
      rw [← sameRegistry, ← sameLimit] at fit
      obtain ⟨arguments, encoded⟩ := Request.exists_ok_of_fit builtNow fit
      rw [issue_of_ok encoded] at refused
      cases List.mem_singleton.mp refused
    · intro unfit
      rw [← sameRegistry, ← sameLimit] at unfit
      obtain ⟨e, refused⟩ := issue_of_unfit builtNow unfit callback
      rw [refused]
      exact ⟨e, List.mem_singleton_self _⟩
  case untouched =>
    intro request callback unfit
    rw [← sameRegistry, ← sameLimit] at unfit
    exact issue_of_unfit builtNow unfit callback
  case unsent =>
    intro link request callback same unfit
    rw [← sameRegistry, ← sameLimit, ← same] at unfit
    rw [← same] at builtNow
    exact Link.issue_of_unfit builtNow unfit callback
  case issues =>
    intro request callback fit
    rw [← sameRegistry, ← sameLimit] at fit
    obtain ⟨arguments, encoded⟩ := Request.exists_ok_of_fit builtNow fit
    refine ⟨_, issue_of_ok encoded callback, ?_⟩
    rw [Client.future?_openSlot, if_pos rfl]
  case fresh => exact numbered.fresh
  case carried =>
    intro frame sent
    obtain ⟨before, request, callback, after, arguments, split, encoded, rfl⟩ :=
      madeBy_of_transmitted rfl sent
    exact ⟨before, request, callback, after, split, Request.fit_of_encode built encoded,
      Request.carried_of_encode built encoded _⟩
  -- The transaction IDs are distinct, so a frame with that of a call is its request.
  case own =>
    intro few before request callback after split fit frame sent same
    obtain ⟨arguments, encoded⟩ := Request.exists_ok_of_fit built fit
    rw [frame_eq_of_xid rfl (numbered.nodup_issued few) split encoded sent same]
    exact Request.carried_of_encode built encoded _
  case decoded =>
    intro frames sent accepted enough pieces whole
    refine Reassembly.pushAll_of_fits (fun frame among => ?_) whole
    obtain ⟨before, request, callback, after, arguments, -, encoded, rfl⟩ :=
      madeBy_of_transmitted rfl (sent frame among)
    exact Request.fits_of_encode encoded onWire enough _

/-- A call with a pin whose fields come in another order, one of them twice. -/
def pinRequest : Request where
  callId := 7
  args := [.struct "pin" [("label", .string "a"),
    ("at", .struct "point" [("y", .double 2), ("x", .double 1), ("x", .double 5)])]]
  argTypes := [.struct "pin"]
  resultTypes := [.int32]

/-- The call without its argument is refused.  Then the call is issued and sent. -/
def pinEvents : List (Event Unit) :=
  [.issue { pinRequest with args := [] } none, .issue pinRequest none, .enter 0]

theorem requests_agree_pin :
    ({} : ClientSettings).validate = .ok () ∧
      issued ((connected Buffer.nestedRegistry ({} : ClientSettings).maxPayload).run pinEvents).2 =
        [1] ∧
      ∃ frame, transmitted ((connected Buffer.nestedRegistry
          ({} : ClientSettings).maxPayload).run pinEvents).2 = [frame] ∧
        pinRequest.Carried Buffer.nestedRegistry 1 frame := by
  have valid : ({} : ClientSettings).validate = .ok () := rfl
  have path := requests_agree Buffer.nestedRegistry_built valid pinEvents
  have given : issued ((connected Buffer.nestedRegistry
      ({} : ClientSettings).maxPayload).run pinEvents).2 = [1] := rfl
  have encoded : pinRequest.encode Buffer.nestedRegistry ({} : ClientSettings).maxPayload =
      .ok [1, 0, 0, 0, 0, 0, 0, 0, 2, 0, 0, 0, 0, 0, 0, 0, 1, 0, 0, 0, 97] := rfl
  have sent : transmitted ((connected Buffer.nestedRegistry
      ({} : ClientSettings).maxPayload).run pinEvents).2 =
        [.request 1 7 [1, 0, 0, 0, 0, 0, 0, 0, 2, 0, 0, 0, 0, 0, 0, 0, 1, 0, 0, 0, 97]] := rfl
  refine ⟨valid, given, _, sent, ?_⟩
  have few : (issued ((connected Buffer.nestedRegistry
      ({} : ClientSettings).maxPayload).run pinEvents).2).length ≤ 2 ^ 64 := by
    rw [given]
    decide
  exact path.own few [.issue { pinRequest with args := [] } none] pinRequest none [.enter 0] rfl
    (Request.fit_of_encode Buffer.nestedRegistry_built encoded) _
    (sent ▸ List.mem_singleton_self _) rfl

end Threaded

end RemoteCall
