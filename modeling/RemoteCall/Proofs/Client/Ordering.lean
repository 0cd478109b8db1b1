import Mathlib
import RemoteCall.Proofs.Client.Closed
import RemoteCall.Proofs.Client.Queueing
import RemoteCall.Proofs.Client.Reading

/-!
# Callbacks in the order of the replies

The reader of a client reads a stream in pieces, reassembles frames from them, and hands these to
the client one after the other, until the stream ends or breaks framing.  Then it takes all calls
out of the table that have no reply, and resolves them in the order of their transaction IDs.

The actions of the reader are `reading`.  Those of the delivery thread, and of callers that take
their replies, may come between any two of them (`Woven`).  Which calls the reader resolves, and in
which order, does not depend on that, and neither does it depend on the pieces: a call is resolved
with the first frame of its transaction ID in the stream (`answered`), or after all of these with no
reply (`abandoned`).  As callbacks are queued when their calls are resolved, this is the order in
which the delivery thread runs them (`callbacks_ordered`).

## Main statements

* `Threaded.callbacks_ordered` — the order of callbacks.
-/

namespace RemoteCall

/-- The first frame of each transaction ID. -/
def Frame.firsts : List Frame → List Frame
  | [] => []
  | frame :: rest => frame :: (firsts rest).filter (·.xid ≠ frame.xid)

namespace Threaded

open Client

variable {κ : Type}

/-! ## The calls that the reader resolves -/

/-- How the reader ends a call with a reply. -/
abbrev replied (frame : Frame) : Ending :=
  .settled frame.status (some frame.payload) .reader

/-- How the reader ends a call that has no reply. -/
abbrev unreplied : Ending := .settled Status.connectionReset none .reader

/-- The calls that some frames answer, in the order of these. -/
def answered (pending : List PendingCall) (frames : List Frame) :
    List (PendingCall × Ending) :=
  (Frame.firsts frames).filterMap fun frame =>
    (pending.find? (·.xid = frame.xid)).map (·, replied frame)

/-- The calls that none of some frames answers. -/
def unanswered (pending : List PendingCall) (frames : List Frame) : List PendingCall :=
  pending.filter fun call => call.xid ∉ frames.map Frame.xid

/-- The calls that have no reply when the reader ends, in the order of their transaction IDs. -/
def abandoned (pending : List PendingCall) (frames : List Frame) : List (PendingCall × Ending) :=
  ((unanswered pending frames).mergeSort fun a b => a.xid ≤ b.xid).map (·, unreplied)

lemma unanswered_nil (pending : List PendingCall) : unanswered pending [] = pending :=
  List.filter_eq_self.mpr fun _ _ => decide_eq_true List.not_mem_nil

/-- A call that is not in the table need not be taken out. -/
lemma filter_xid_of_find? {pending : List PendingCall} {xid : Int64}
    (missing : pending.find? (·.xid = xid) = none) : pending.filter (·.xid ≠ xid) = pending := by
  rw [List.filter_eq_self]
  intro call among
  simpa using List.find?_eq_none.mp missing call among

lemma find?_filter_xid (pending : List PendingCall) (gone xid : Int64) :
    (pending.filter (·.xid ≠ gone)).find? (·.xid = xid) =
      if xid ≠ gone then pending.find? (·.xid = xid) else none := by
  rw [List.find?_filter]
  by_cases same : xid = gone
  · subst same
    rw [if_neg (not_not.mpr rfl), List.find?_eq_none]
    intro call _
    simp
  · rw [if_pos same]
    congr 1
    funext call
    by_cases own : call.xid = xid
    · simp [own, same]
    · simp [own]

lemma answered_cons (pending : List PendingCall) (frame : Frame) (rest : List Frame) :
    answered pending (frame :: rest) =
      ((pending.find? (·.xid = frame.xid)).map (·, replied frame)).toList ++
        answered (pending.filter (·.xid ≠ frame.xid)) rest := by
  have others : ((Frame.firsts rest).filter (·.xid ≠ frame.xid)).filterMap
      (fun frame => (pending.find? (·.xid = frame.xid)).map (·, replied frame)) =
        answered (pending.filter (·.xid ≠ frame.xid)) rest := by
    unfold answered
    rw [List.filterMap_filter]
    refine List.filterMap_congr fun other _ => ?_
    rw [find?_filter_xid]
    by_cases same : other.xid = frame.xid
    · simp [same]
    · simp [same]
  rw [answered, Frame.firsts, List.filterMap_cons, others]
  cases pending.find? (·.xid = frame.xid) <;> rfl

lemma unanswered_cons (pending : List PendingCall) (frame : Frame) (rest : List Frame) :
    unanswered pending (frame :: rest) =
      unanswered (pending.filter (·.xid ≠ frame.xid)) rest := by
  unfold unanswered
  rw [List.filter_filter]
  refine List.filter_congr fun call _ => ?_
  simp [Bool.and_comm]

/-! ## The actions of the reader -/

/-- The reader hands a frame to the client: it takes the call out of the table, and resolves it.
Other threads have so many calls in their hands. -/
def handing (others : Nat) (frame : Frame) : List (Event κ) :=
  [.receive frame, .conclude others]

/-- The reader ends: it takes all calls out of the table, which are at most so many, and resolves
them. -/
def ending (others calls : Nat) : List (Event κ) :=
  .connectionLost :: List.replicate calls (.conclude others)

/-- The actions of the reader that reads some pieces of the stream.  It ends when the stream ends or
cannot be read (`ends`), and when it breaks framing. -/
def reading (state : Threaded κ) (reassembly : Reassembly) (pieces : List Bytes) (ends : Bool) :
    List (Event κ) :=
  let heard := (reassembly.pushAll pieces).1
  heard.1.flatMap (handing state.taken.length) ++
    if ends || heard.2.isSome then ending state.taken.length state.client.pending.length else []

/-- The reader acts, and so do the delivery thread and callers that take their replies. -/
inductive Woven : List (Event κ) → List (Event κ) → Prop
  | nil : Woven [] []
  | receive (frame : Frame) {reads events : List (Event κ)} (rest : Woven reads events) :
    Woven (.receive frame :: reads) (.receive frame :: events)
  | conclude (n : Nat) {reads events : List (Event κ)} (rest : Woven reads events) :
    Woven (.conclude n :: reads) (.conclude n :: events)
  | connectionLost {reads events : List (Event κ)} (rest : Woven reads events) :
    Woven (.connectionLost :: reads) (.connectionLost :: events)
  | deliver {reads events : List (Event κ)} (rest : Woven reads events) :
    Woven reads (.deliver :: events)
  | takeReply (xid : Int64) {reads events : List (Event κ)} (rest : Woven reads events) :
    Woven reads (.takeReply xid :: events)

/-- The same calls are in the table, and in the hands of threads. -/
structure Alike (state state' : Threaded κ) : Prop where
  pending : state.client.pending = state'.client.pending
  taken : state.taken = state'.taken

section

variable {state state' : Threaded κ}

lemma Alike.receive (alike : Alike state state') (frame : Frame) :
    Alike (state.step (.receive frame)).1 (state'.step (.receive frame)).1 := by
  have same : state.client.pendingCall? frame.xid = state'.client.pendingCall? frame.xid := by
    unfold pendingCall?
    rw [alike.pending]
  show Alike (state.takeOut frame.xid _) (state'.takeOut frame.xid _)
  unfold takeOut
  rw [same]
  split
  · exact alike
  · refine ⟨?_, congrArg (· ++ _) alike.taken⟩
    show state.client.pending.filter _ = state'.client.pending.filter _
    rw [alike.pending]

lemma Alike.connectionLost (alike : Alike state state') :
    Alike (state.step .connectionLost).1 (state'.step .connectionLost).1 := by
  refine ⟨rfl, ?_⟩
  show state.taken ++ _ = state'.taken ++ _
  rw [alike.taken, alike.pending]

lemma Alike.conclude (alike : Alike state state') (n : Nat) :
    Alike (state.step (.conclude n)).1 (state'.step (.conclude n)).1 := by
  show Alike (state.conclude n).1 (state'.conclude n).1
  unfold Threaded.conclude
  rw [alike.taken]
  split
  · exact alike
  · rename_i call ending _
    refine ⟨?_, rfl⟩
    dsimp only
    rw [(state.client.conclude_tables call ending).pending,
      (state'.client.conclude_tables call ending).pending]
    exact alike.pending

lemma alike_deliver (state : Threaded κ) : Alike (state.step .deliver).1 state := by
  show Alike state.deliver.1 state
  unfold deliver Client.deliver
  cases state.client.deliveries with
  | nil => exact ⟨rfl, rfl⟩
  | cons ticket rest =>
    refine ⟨?_, rfl⟩
    dsimp only
    rw [runCallback_eq]
    rfl

lemma alike_takeReply (state : Threaded κ) (xid : Int64) :
    Alike (state.step (.takeReply xid)).1 state := by
  show Alike (state.takeReply xid) state
  unfold takeReply
  split <;> exact ⟨rfl, rfl⟩

lemma Alike.trans {state'' : Threaded κ} (first : Alike state state')
    (second : Alike state' state'') : Alike state state'' :=
  ⟨first.pending.trans second.pending, first.taken.trans second.taken⟩

/-- What the reader does is not affected by the others. -/
lemma Woven.concluded {reads events : List (Event κ)} (woven : Woven reads events)
    (alike : Alike state state') : state.concluded events = state'.concluded reads ∧
      Alike (state.run events).1 (state'.run reads).1 := by
  induction woven generalizing state state' with
  | nil => exact ⟨rfl, alike⟩
  | receive frame rest ih => exact ih (alike.receive frame)
  | connectionLost rest ih => exact ih alike.connectionLost
  | conclude n rest ih =>
    obtain ⟨later, still⟩ := ih (alike.conclude n)
    refine ⟨?_, still⟩
    rw [Threaded.concluded, Threaded.concluded, later]
    exact congrArg (·[n]?.toList ++ _) alike.taken
  | deliver rest ih => exact ih ((alike_deliver state).trans alike)
  | takeReply xid rest ih => exact ih ((alike_takeReply state xid).trans alike)

lemma Woven.others {reads events : List (Event κ)} (woven : Woven reads events) :
    .closeNext ∉ events := by
  induction woven with
  | nil => exact List.not_mem_nil
  | receive _ rest ih | conclude _ rest ih | connectionLost rest ih | deliver rest ih
    | takeReply _ rest ih =>
    exact fun among => (List.mem_cons.mp among).elim nofun ih

/-! ## What the reader resolves -/

/-- The reader resolves some calls, and leaves others in the table. -/
structure Settles (state : Threaded κ) (events : List (Event κ))
    (entries : List (PendingCall × Ending)) (left : List PendingCall) : Prop where
  resolves : state.concluded events = entries
  taken : (state.run events).1.taken = state.taken
  leaves : (state.run events).1.client.pending = left

lemma Settles.nil (state : Threaded κ) : Settles state [] [] state.client.pending :=
  ⟨rfl, rfl, rfl⟩

lemma Settles.append {before after : List (Event κ)} {entries more : List (PendingCall × Ending)}
    {left left' : List PendingCall} (first : Settles state before entries left)
    (second : Settles (state.run before).1 after more left') :
    Settles state (before ++ after) (entries ++ more) left' := by
  refine ⟨?_, ?_, ?_⟩
  · rw [concluded_append, first.resolves, second.resolves]
  · rw [run_append]
    exact second.taken.trans first.taken
  · rw [run_append]
    exact second.leaves

section

variable (drafts : List (Draft κ)) (taken : List (PendingCall × Ending)) {client : Client κ}
  {frame : Frame}

/-- A frame that answers no call is dropped. -/
lemma step_receive_of_none (missing : client.pendingCall? frame.xid = none) :
    step ⟨client, drafts, taken⟩ (.receive frame) = (⟨client, drafts, taken⟩, []) := by
  simp only [step, Threaded.receive, takeOut, missing]
  rfl

/-- The reader has the call that a frame answers in its hands. -/
lemma step_receive_of_some {call : PendingCall}
    (found : client.pendingCall? frame.xid = some call) :
    step ⟨client, drafts, taken⟩ (.receive frame) =
      (⟨client.removePending frame.xid, drafts, taken ++ [(call, replied frame)]⟩,
        [.answered frame]) := by
  simp only [step, Threaded.receive, takeOut, found]
  rfl

end

lemma settles_handing (state : Threaded κ) (frame : Frame) :
    Settles state (handing state.taken.length frame)
      ((state.client.pending.find? (·.xid = frame.xid)).map (·, replied frame)).toList
      (state.client.pending.filter (·.xid ≠ frame.xid)) := by
  obtain ⟨client, drafts, taken⟩ := state
  have nobody : taken[taken.length]? = none := List.getElem?_eq_none (Nat.le_refl _)
  cases found : client.pending.find? (·.xid = frame.xid) with
  | none =>
    dsimp only
    rw [filter_xid_of_find? found]
    refine ⟨?_, ?_, ?_⟩ <;>
      simp only [handing, concluded, concludes, run, Machine.run_cons, Machine.run_nil,
        step_receive_of_none drafts taken found, step_conclude_none, nobody]
    rfl
  | some call =>
    have here : (taken ++ [(call, replied frame)])[taken.length]? = some (call, replied frame) :=
      List.getElem?_concat_length
    refine ⟨?_, ?_, ?_⟩ <;>
      simp only [handing, concluded, concludes, run, Machine.run_cons, Machine.run_nil,
        step_receive_of_some drafts taken found, step_conclude, here, List.append_nil]
    · rfl
    · exact (conclude_tables _ _ _).pending

/-- The reader resolves the calls that its frames answer. -/
lemma settles_replies (state : Threaded κ) (frames : List Frame) :
    Settles state (frames.flatMap (handing state.taken.length))
      (answered state.client.pending frames) (unanswered state.client.pending frames) := by
  induction frames generalizing state with
  | nil =>
    rw [unanswered_nil]
    exact .nil state
  | cons frame rest ih =>
    have first := settles_handing state frame
    have others := ih (state.run (handing state.taken.length frame)).1
    rw [first.taken, first.leaves] at others
    rw [List.flatMap_cons, answered_cons, unanswered_cons]
    exact first.append others

/-- A thread that has the last calls in its hands resolves these. -/
lemma conclude_all (client : Client κ) (drafts : List (Draft κ))
    (taken entries : List (PendingCall × Ending)) {n : Nat} (enough : entries.length ≤ n) :
    concluded ⟨client, drafts, taken ++ entries⟩ (List.replicate n (.conclude taken.length)) =
        entries ∧
      (run ⟨client, drafts, taken ++ entries⟩
        (List.replicate n (.conclude taken.length))).1.taken = taken ∧
      (run ⟨client, drafts, taken ++ entries⟩
        (List.replicate n (.conclude taken.length))).1.client.pending = client.pending := by
  induction n generalizing client entries with
  | zero =>
    obtain rfl := List.eq_nil_of_length_eq_zero (Nat.le_zero.mp enough)
    exact ⟨rfl, List.append_nil taken, rfl⟩
  | succ n ih =>
    cases entries with
    | nil =>
      have nobody : taken[taken.length]? = none := List.getElem?_eq_none (Nat.le_refl _)
      have none_left := ih client [] (Nat.zero_le n)
      rw [List.append_nil] at none_left ⊢
      simp only [List.replicate_succ, concluded, concludes, run, Machine.run_cons,
        step_conclude_none, nobody, Option.toList_none, List.nil_append] at none_left ⊢
      exact none_left
    | cons entry rest =>
      obtain ⟨call, ending⟩ := entry
      have here : (taken ++ (call, ending) :: rest)[taken.length]? = some (call, ending) := by
        simp
      obtain ⟨others, taken', pending⟩ :=
        ih (client.conclude call ending).1 rest (Nat.le_of_succ_le_succ enough)
      simp only [List.replicate_succ, concluded, concludes, run, Machine.run_cons, step_conclude,
        here] at others taken' pending ⊢
      rw [others]
      exact ⟨rfl, taken', pending.trans (conclude_tables _ _ _).pending⟩

/-- When it ends, the reader resolves all calls that are left. -/
lemma settles_ending (state : Threaded κ) {calls : Nat}
    (enough : state.client.pending.length ≤ calls) :
    Settles state (ending state.taken.length calls)
      ((state.client.pending.mergeSort fun a b => a.xid ≤ b.xid).map (·, unreplied)) [] := by
  have enough' : ((state.client.pending.mergeSort fun a b => a.xid ≤ b.xid).map
      fun call => (call, unreplied)).length ≤ calls := by
    rw [List.length_map, List.length_mergeSort]
    exact enough
  obtain ⟨resolves, taken, leaves⟩ := conclude_all
    { state.client with isOpen := false, pending := [] } state.drafts state.taken _ enough'
  exact ⟨resolves, taken, leaves⟩

/-- What the reader resolves depends on the stream only, and not on its pieces. -/
lemma settles_reading (state : Threaded κ) {limit : UInt32} {bytes : Bytes}
    {reassembly : Reassembly} (received : Reassembly.Received limit bytes reassembly)
    (pieces : List Bytes) (ends : Bool) :
    let frames := Reassembly.completed limit bytes (Reassembly.sound limit bytes pieces).flatten
    let lost := ends || Reassembly.breaks limit bytes pieces
    Settles state (state.reading reassembly pieces ends)
      (answered state.client.pending frames ++
        if lost then abandoned state.client.pending frames else [])
      (if lost then [] else unanswered state.client.pending frames) := by
  intro frames lost
  obtain ⟨heard, faultless⟩ := Reassembly.pushAll_sound received pieces
  have replies := settles_replies state frames
  unfold reading
  dsimp only
  rw [heard, faultless]
  by_cases loses : lost = true
  · rw [if_pos loses, if_pos loses, if_pos loses]
    have fewer : (unanswered state.client.pending frames).length ≤ state.client.pending.length :=
      List.length_filter_le _ _
    rw [← replies.leaves] at fewer
    have ends := settles_ending _ fewer
    rw [replies.taken, replies.leaves] at ends
    exact replies.append ends
  · rw [if_neg loses, if_neg loses, if_neg loses, List.append_nil, List.append_nil]
    exact replies

/-- Every call is answered or not. -/
lemma perm_answered {pending : List PendingCall}
    (distinct : (pending.map PendingCall.xid).Nodup) (frames : List Frame) :
    ((answered pending frames).map Prod.fst ++ unanswered pending frames).Perm pending := by
  induction frames generalizing pending with
  | nil =>
    rw [unanswered_nil]
    exact .refl _
  | cons frame rest ih =>
    have fewer : ((pending.filter (·.xid ≠ frame.xid)).map PendingCall.xid).Nodup :=
      distinct.sublist (List.filter_sublist.map _)
    have others := ih fewer
    rw [answered_cons, unanswered_cons, List.map_append, List.append_assoc]
    refine (others.append_left _).trans ?_
    cases found : pending.find? (·.xid = frame.xid) with
    | none =>
      rw [filter_xid_of_find? found]
      exact .refl _
    | some call =>
      exact (perm_filter_xid found (List.nodup_iff_count_le_one.mp distinct _)).symm

/-- The callbacks of all calls that the reader resolves are queued. -/
lemma queued_of_resolved {pending : List PendingCall} {frames : List Frame}
    {entry : PendingCall × Ending}
    (among : entry ∈ answered pending frames ++ abandoned pending frames) :
    entry.1.queued entry.2 = entry.1.ticket := by
  rcases List.mem_append.mp among with answers | others
  · obtain ⟨frame, -, found⟩ := List.mem_filterMap.mp answers
    obtain ⟨call, -, rfl⟩ := Option.map_eq_some_iff.mp found
    rfl
  · obtain ⟨call, -, rfl⟩ := List.mem_map.mp others
    rfl

/-! ## A run -/

/-- No call is issued, and no callback is registered. -/
structure Silent (seen : List (Effect κ)) : Prop where
  unissued : issued seen = []
  unregistered : registrations seen = []

lemma Silent.append {seen more : List (Effect κ)} (first : Silent seen) (second : Silent more) :
    Silent (seen ++ more) := by
  refine ⟨?_, ?_⟩
  · rw [issued_append, first.unissued, second.unissued, List.append_nil]
  · rw [registrations_append, first.unregistered, second.unregistered, List.append_nil]

lemma silent_receive (state : Threaded κ) (frame : Frame) : Silent (state.receive frame).2 := by
  unfold receive
  dsimp only
  split <;> exact ⟨rfl, rfl⟩

lemma silent_conclude (state : Threaded κ) (n : Nat) : Silent (state.conclude n).2 := by
  unfold Threaded.conclude
  split
  · exact ⟨rfl, rfl⟩
  · exact ⟨filterMap_ranFor (fun _ _ _ => rfl) _ _, filterMap_ranFor (fun _ _ _ => rfl) _ _⟩

lemma silent_deliver (state : Threaded κ) : Silent state.deliver.2 := by
  unfold deliver
  split
  · exact ⟨rfl, rfl⟩
  · exact ⟨filterMap_ran (fun _ _ _ => rfl) _ _ _, filterMap_ran (fun _ _ _ => rfl) _ _ _⟩

lemma Woven.silent {reads events : List (Event κ)} (woven : Woven reads events) :
    Silent (state.run events).2 := by
  induction woven generalizing state with
  | nil => exact ⟨rfl, rfl⟩
  | receive frame rest ih => exact (silent_receive state frame).append ih
  | conclude n rest ih => exact (silent_conclude state n).append ih
  | connectionLost rest ih | takeReply _ rest ih => exact ih
  | deliver rest ih => exact (silent_deliver state).append ih

/-- The delivery thread gets to the end of its queue. -/
lemma drained_queue (state : Threaded κ) :
    (state.run (List.replicate state.client.deliveries.length .deliver)).1.client.deliveries =
      [] := by
  generalize count : state.client.deliveries.length = n
  induction n generalizing state with
  | zero => exact List.eq_nil_of_length_eq_zero count
  | succ n ih =>
    obtain ⟨⟨id, xid⟩, rest, queue⟩ := List.exists_cons_of_length_eq_add_one count
    have next : (state.step .deliver).1.client.deliveries = rest := by
      show state.deliver.1.client.deliveries = rest
      unfold deliver Client.deliver
      rw [queue]
      dsimp only
      rw [runCallback_eq]
      rfl
    have fewer : (state.step .deliver).1.client.deliveries.length = n := by
      rw [next]
      rw [queue] at count
      exact Nat.succ.inj count
    exact ih (state.step .deliver).1 fewer

/-- Some frames are handed to a client in one state, and after these its connection is lost, or is
not.  Meanwhile the delivery thread is at work, and this leads to another state. -/
structure Ordered (frames : List Frame) (lost : Bool)
    (before final : Threaded κ × List (Effect κ)) : Prop where
  /-- What the delivery thread has run and what is left for it are first the callbacks that were
  queued before, then those of the calls that are answered, in the order of the frames that answer
  them, and at last, if the connection is lost, those of all other calls. -/
  order : (served final.2).map Prod.fst ++ final.1.client.deliveries =
    before.1.client.deliveries ++
      (answered before.1.client.pending frames ++
        if lost then abandoned before.1.client.pending frames else []).filterMap (·.1.ticket)
  /-- The others are taken in ascending order. -/
  ascending : ((abandoned before.1.client.pending frames).map (·.1.xid)).Pairwise (· < ·)
  /-- There are no other calls. -/
  all : ((answered before.1.client.pending frames ++
    abandoned before.1.client.pending frames).map Prod.fst).Perm before.1.client.pending
  /-- A callback is run with the outcome of the call that it was registered for. -/
  runs : ∀ run ∈ served final.2, (run.1, run.2.callback) ∈ registrations before.2 ∧
    final.1.client.result? run.1.2 = some run.2.result
  /-- The outcome of a call is the first frame that answers it. -/
  replies : ∀ entry ∈ answered before.1.client.pending frames,
    final.1.client.resolution? entry.1.xid = some entry.2.resolution
  /-- Without such a frame it ends with the connection, -/
  resets : lost = true → ∀ call ∈ unanswered before.1.client.pending frames,
    final.1.client.result? call.xid = some ⟨Status.connectionReset, []⟩
  /-- and is pending until then. -/
  waits : final.1.client.pending =
    if lost then [] else unanswered before.1.client.pending frames
  /-- The delivery thread gets through its queue if it goes on. -/
  drains : (final.1.run (List.replicate final.1.client.deliveries.length
    .deliver)).1.client.deliveries = []

/-- What the reader settles is settled when others act as well. -/
lemma ordered_of_settles {history : List (Effect κ)} (placed : Placed state history)
    (owned : Owned [] state history) (going : state.client.closing = .notClosed)
    (xids : (issued history).Nodup) (ids : (registered history).Nodup) {frames : List Frame}
    {lost : Bool} {reads events : List (Event κ)}
    (settles : Settles state reads
      (answered state.client.pending frames ++
        if lost then abandoned state.client.pending frames else [])
      (if lost then [] else unanswered state.client.pending frames))
    (woven : Woven reads events) : Ordered frames lost (state, history) (state.run events) := by
  -- Nobody issues a call or registers a callback while the reader is at work.
  have silent : Silent (state.run events).2 := woven.silent
  have xids' : (issued (history ++ (state.run events).2)).Nodup := by
    rw [issued_append, silent.unissued, List.append_nil]
    exact xids
  have made : registrations (history ++ (state.run events).2) = registrations history := by
    rw [registrations_append, silent.unregistered, List.append_nil]
  have ids' : (registered (history ++ (state.run events).2)).Nodup := by
    unfold registered
    rw [made]
    exact ids
  -- The actions of the reader come in their order, whatever comes between them, so the calls are
  -- resolved in the order in which it settles them.
  obtain ⟨resolved, alike⟩ := woven.concluded (⟨rfl, rfl⟩ : Alike state state)
  rw [settles.resolves] at resolved
  obtain ⟨queue, owned'⟩ := served_run placed owned going woven.others xids' ids'
  have placed' : Placed (state.run events).1 (history ++ (state.run events).2) :=
    placed.run xids'
  have outcome : ∀ entry ∈ state.concluded events,
      (state.run events).1.client.resolution? entry.1.xid = some entry.2.resolution := by
    intro entry among
    rw [placed'.outcomes, resolutions_append, resolutions_run]
    exact List.mem_append_right _ (List.mem_map_of_mem among)
  rw [resolved] at outcome queue
  have distinct := placed.nodup_pending xids
  -- The calls without a reply are reset in the order of their transaction IDs.
  have others : (abandoned state.client.pending frames).map Prod.fst =
      (unanswered state.client.pending frames).mergeSort fun a b => a.xid ≤ b.xid := by
    unfold abandoned
    rw [List.map_map]
    exact List.map_id _
  have sorted : ((abandoned state.client.pending frames).map Prod.fst).Perm
      (unanswered state.client.pending frames) := others ▸ List.mergeSort_perm _ _
  constructor
  case order =>
    rw [queue]
    refine congrArg _ (List.filterMap_congr fun entry among => ?_)
    have either : entry ∈ answered state.client.pending frames ++
        abandoned state.client.pending frames := by
      cases lost with
      | true => exact among
      | false => exact List.mem_append_left _ ((List.mem_append.mp among).resolve_right nofun)
    exact queued_of_resolved either
  case ascending =>
    have fewer : ((unanswered state.client.pending frames).map PendingCall.xid).Nodup :=
      distinct.sublist (List.filter_sublist.map PendingCall.xid)
    have upwards := pairwise_sorted fewer
    rw [← others, List.map_map] at upwards
    exact upwards
  case all =>
    rw [List.map_append]
    exact (sorted.append_left _).trans (perm_answered distinct frames)
  case runs =>
    intro run among
    have ran : run ∈ invocations (history ++ (state.run events).2) := by
      rw [invocations_append]
      exact List.mem_append_right _ (List.mem_of_mem_filter among)
    rw [← made]
    exact owned'.results run ran
  case replies => exact fun entry among => outcome entry (List.mem_append_left _ among)
  case resets =>
    rintro rfl call among
    have entry : (call, unreplied) ∈ abandoned state.client.pending frames :=
      List.mem_map_of_mem (List.mem_mergeSort.mpr among)
    exact result?_of_resolution? (by decide) (outcome _ (List.mem_append_right _ entry))
  case waits => exact alike.pending.trans settles.leaves
  case drains => exact drained_queue _

/-- The callbacks of a client that nobody closes are run in the order of the replies, and then in
the order of the transaction IDs, however the stream is cut into pieces and the threads interleave.
That holds until the counter of transaction IDs has come round. -/
theorem callbacks_ordered {registry : Registry} {maxPayload : UInt32}
    {before events : List (Event κ)} {limit : UInt32} {bytes : Bytes} {reassembly : Reassembly}
    {pieces : List Bytes} {ends : Bool}
    (few : (issued ((connected registry maxPayload).run before).2).length ≤ 2 ^ 64)
    (going : ((connected registry maxPayload).run before).1.client.closing = .notClosed)
    (received : Reassembly.Received limit bytes reassembly)
    (woven : Woven
      (((connected registry maxPayload).run before).1.reading reassembly pieces ends) events) :
    Ordered (Reassembly.completed limit bytes (Reassembly.sound limit bytes pieces).flatten)
      (ends || Reassembly.breaks limit bytes pieces) ((connected registry maxPayload).run before)
      (((connected registry maxPayload).run before).1.run events) := by
  have xids := nodup_issued registry maxPayload before few
  have ids := nodup_registered registry maxPayload before few
  have placed := placed_run registry maxPayload before few
  have owned := owned_run few ids going
  generalize (connected registry maxPayload : Threaded κ).run before = start at *
  obtain ⟨state, history⟩ := start
  exact ordered_of_settles placed owned going xids ids (settles_reading state received pieces ends)
    woven

end

/-- Three calls with callbacks are pending. -/
def outstanding : List (Event Nat) :=
  [.issue ⟨7, [], [], []⟩ (some 10), .register 0, .enter 0,
    .issue ⟨7, [], [], []⟩ (some 20), .register 0, .enter 0,
    .issue ⟨7, [], [], []⟩ (some 30), .register 0, .enter 0]

/-- The third call is answered twice and the first one once, and one reply belongs to no call. -/
def arriving : Bytes :=
  (Frame.reply 3 Status.ok []).encode ++ (Frame.reply 9 Status.ok []).encode ++
    (Frame.reply 1 Status.ok []).encode ++ (Frame.reply 3 Status.timedOut []).encode

/-- They are read in two pieces, and then the stream ends.  The delivery thread is at work, and the
reply of the third call is taken. -/
def handedOn : List (Event Nat) :=
  [.receive (.reply 3 Status.ok []), .conclude 0, .deliver, .receive (.reply 9 Status.ok []),
    .takeReply 3, .conclude 0, .receive (.reply 1 Status.ok []), .conclude 0,
    .receive (.reply 3 Status.timedOut []), .conclude 0, .connectionLost, .deliver, .conclude 0,
    .conclude 0, .conclude 0, .deliver]

theorem callbacks_ordered_twice :
    (issued ((connected .empty 64).run outstanding).2).length ≤ 2 ^ 64 ∧
      ((connected .empty 64).run outstanding).1.client.closing = .notClosed ∧
      Reassembly.Received 64 [] (.fresh 64) ∧
      Woven (((connected .empty 64).run outstanding).1.reading (.fresh 64)
        [arriving.take 20, arriving.drop 20] true) handedOn ∧
      Ordered (Reassembly.completed 64 []
          (Reassembly.sound 64 [] [arriving.take 20, arriving.drop 20]).flatten)
        (true || Reassembly.breaks 64 [] [arriving.take 20, arriving.drop 20])
        ((connected .empty 64).run outstanding)
        (((connected .empty 64).run outstanding).1.run handedOn) := by
  have calls : issued ((connected .empty 64).run outstanding).2 = [1, 2, 3] := by cbv
  have few : (issued ((connected .empty 64).run outstanding).2).length ≤ 2 ^ 64 := by
    rw [calls]
    decide
  have going : ((connected .empty 64).run outstanding).1.client.closing = .notClosed := by cbv
  have reads : ((connected .empty 64).run outstanding).1.reading (.fresh 64)
      [arriving.take 20, arriving.drop 20] true =
        [.receive (.reply 3 Status.ok []), .conclude 0, .receive (.reply 9 Status.ok []),
          .conclude 0, .receive (.reply 1 Status.ok []), .conclude 0,
          .receive (.reply 3 Status.timedOut []), .conclude 0, .connectionLost, .conclude 0,
          .conclude 0, .conclude 0] := by cbv
  have woven : Woven (((connected .empty 64).run outstanding).1.reading (.fresh 64)
      [arriving.take 20, arriving.drop 20] true) handedOn := by
    rw [reads]
    exact .receive _ (.conclude 0 (.deliver (.receive _ (.takeReply 3 (.conclude 0 (.receive _
      (.conclude 0 (.receive _ (.conclude 0 (.connectionLost (.deliver (.conclude 0 (.conclude 0
        (.conclude 0 (.deliver .nil)))))))))))))))
  have received := Reassembly.received_fresh 64
  exact ⟨few, going, received, woven, callbacks_ordered few going received woven⟩

end Threaded

end RemoteCall
