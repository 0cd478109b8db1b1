import Mathlib.Data.List.Induction
import RemoteCall.Proofs.Client.Actions

/-!
# The life of a slot

Three kinds of parties share the slot of a call.  Those that try to resolve it compete, and the
first one wins.  The holder of the future asks whether it is resolved, takes the raw reply, or ends
the future with the decoded outcome.  A callback is given the decoded outcome.  `Future.run` lets
them act in any order.

A party that asks for what is not there yet waits, so its action changes nothing and shows nothing.
The callback does not look at whether the reply was taken, and nothing else tells of it but another
attempt to take it and the end of the future.

## The proof

The state of a slot is small, and what was seen of it is not; so the invariant (`Tracks`) relates
both to the attempts that were made to resolve the call.  The outcome of the slot is that of the
first attempt, and the attempts were told that they had lost but for this one.  That the reply is
handed out once is a separate clause, since resolving and taking do not affect each other.  What the
other parties see does not change if all attempts to take the reply are left out of a run
(`run_without_takes`).

A client may have many slots, and its threads act on them through the client.  Each of its slots has
gone through such a run all the same (`Threaded.lives_run`).

## Main statements

* `Future.life_cycle` — what is seen of a slot, whatever the order.
* `Threaded.lives_run` — the slots of a client come about by such actions, whatever its threads do.
-/

namespace RemoteCall

namespace Future

/-! ## Actions -/

/-- An action on the slot of a call. -/
inductive Event where
  /-- Somebody tries to resolve the call. -/
  | resolve (status : Status) (payload : Option Bytes)
  /-- The holder asks whether the call is resolved. -/
  | poll
  /-- The holder asks for the status. -/
  | ask
  | takeReply
  /-- The outcome is decoded for a callback. -/
  | decode
  deriving DecidableEq, Repr

/-- What an action shows. -/
inductive Seen where
  /-- Whether an attempt to resolve the call was the first. -/
  | won (first : Bool)
  | polled (ready : Bool)
  | status (status : Option Status)
  /-- What an attempt to take the reply gave. -/
  | took (reply : Except Error (Option Bytes))
  | decoded (result : CallResult)

/-- Run one action.  Whoever has to wait is shown nothing. -/
def step (registry : Registry) (future : Future) : Event → Future × List Seen
  | .resolve status payload =>
    ((future.resolve status payload).2, [.won (future.resolve status payload).1])
  | .poll => (future, [.polled future.ready])
  | .ask => (future, [.status future.status?])
  | .takeReply =>
    match future.takeReply? with
    | some (reply, future) => (future, [.took reply])
    | none => (future, [])
  | .decode =>
    match future.result? registry with
    | some result => (future, [.decoded result])
    | none => (future, [])

/-- Run actions one after the other. -/
def run (registry : Registry) (future : Future) (events : List Event) : Future × List Seen :=
  Machine.run (step registry) future events

/-! ## Views -/

/-- The outcome that an attempt would give the call.  An empty payload is no reply. -/
def Event.outcome? : Event → Option Resolution
  | .resolve status none | .resolve status (some []) => some ⟨status, none⟩
  | .resolve status (some payload) => some ⟨status, some payload⟩
  | _ => none

/-- The outcomes of all attempts, in order. -/
def outcomes (events : List Event) : List Resolution := events.filterMap Event.outcome?

/-- What the attempts to resolve the call were told, in order. -/
def wins (history : List Seen) : List Bool :=
  history.filterMap fun
    | .won first => some first
    | _ => none

/-- What the attempts to take the reply gave, in order. -/
def takes (history : List Seen) : List (Except Error (Option Bytes)) :=
  history.filterMap fun
    | .took reply => some reply
    | _ => none

/-- What callbacks were given, in order. -/
def decodes (history : List Seen) : List CallResult :=
  history.filterMap fun
    | .decoded result => some result
    | _ => none

/-- Whether an attempt to take the reply is seen. -/
def Seen.isTake : Seen → Bool
  | .took _ => true
  | _ => false

@[simp] lemma outcomes_append (first second : List Event) :
    outcomes (first ++ second) = outcomes first ++ outcomes second := List.filterMap_append

@[simp] lemma wins_append (first second : List Seen) :
    wins (first ++ second) = wins first ++ wins second := List.filterMap_append

@[simp] lemma takes_append (first second : List Seen) :
    takes (first ++ second) = takes first ++ takes second := List.filterMap_append

@[simp] lemma decodes_append (first second : List Seen) :
    decodes (first ++ second) = decodes first ++ decodes second := List.filterMap_append

@[simp] lemma takes_took (reply : Except Error (Option Bytes)) : takes [.took reply] = [reply] :=
  rfl

lemma outcome?_resolve (status : Status) (payload : Option Bytes) :
    (Event.resolve status payload).outcome? = some ⟨status, replyOf payload⟩ := by
  rcases payload with _ | _ | _ <;> rfl

/-! ## Runs -/

/-- What the state of a slot and what was seen of it have to do with the attempts to resolve it. -/
structure Tracks (registry : Registry) (types : List Ty) (events : List Event) (future : Future)
    (history : List Seen) : Prop where
  types_eq : future.resultTypes = types
  resolution : future.resolution = (outcomes events).head?
  taken : future.taken = true ↔ takes history ≠ []
  /-- Nothing is seen before the first attempt. -/
  early : outcomes events = [] → ∀ seen ∈ history, seen = .polled false ∨ seen = .status none
  /-- The first attempt has resolved the call, and no other has. -/
  first : wins history = (List.range (outcomes events).length).map (· == 0)
  /-- The reply was handed out at most once, and first. -/
  once : takes history = [] ∨ ∃ r n, (outcomes events).head? = some r ∧
    takes history = .ok r.reply :: List.replicate n (.error .replyTaken)
  /-- Every callback is given the same. -/
  given : ∀ result ∈ decodes history, ∃ r, (outcomes events).head? = some r ∧
    result = .ofReply registry types r.status r.reply

lemma tracks_unresolved (registry : Registry) (types : List Ty) :
    Tracks registry types [] (unresolved types) [] := by
  refine ⟨rfl, rfl, ?_, nofun, rfl, Or.inl rfl, nofun⟩
  simp [unresolved, takes]

section

variable {registry : Registry} {types : List Ty} {events : List Event} {future : Future}
  {history : List Seen}

lemma Tracks.resolve (tracks : Tracks registry types events future history) (status : Status)
    (payload : Option Bytes) :
    Tracks registry types (events ++ [.resolve status payload])
      (future.resolve status payload).2 (history ++ [.won (future.resolve status payload).1]) := by
  have outcome : outcomes [.resolve status payload] = [⟨status, replyOf payload⟩] := by
    simp [outcomes, outcome?_resolve]
  have count : (outcomes (events ++ [.resolve status payload])).length =
      (outcomes events).length + 1 := by
    simp [outcome]
  have same : takes (history ++ [.won (future.resolve status payload).1]) = takes history := by
    simp [takes]
  have kept : decodes (history ++ [.won (future.resolve status payload).1]) = decodes history := by
    simp [decodes]
  -- Whether there was an attempt before decides; what else was seen follows from the invariant.
  cases first : outcomes events with
  | nil =>
    have free : future.resolution = none := by
      rw [tracks.resolution, first]
      rfl
    have resolves : future.resolve status payload =
        (true, { future with resolution := some ⟨status, replyOf payload⟩ }) := by
      simp [Future.resolve, free]
    have untaken : takes history = [] := by
      rcases tracks.once with none | ⟨r, n, some, -⟩
      · exact none
      · simp [first] at some
    have unseen : decodes history = [] := by
      refine List.eq_nil_iff_forall_not_mem.mpr fun result shown => ?_
      obtain ⟨r, some, -⟩ := tracks.given result shown
      simp [first] at some
    have none : wins history = [] := by simpa [first] using tracks.first
    rw [resolves] at same kept ⊢
    refine ⟨tracks.types_eq, ?_, ?_, ?_, ?_, ?_, ?_⟩
    · simp [outcome, first]
    · rw [same]
      exact tracks.taken
    · simp [outcome]
    · rw [count, wins_append, none, first]
      rfl
    · exact Or.inl (same.trans untaken)
    · rw [kept, unseen]
      nofun
  | cons r rest =>
    have resolved : future.resolution = some r := by
      rw [tracks.resolution, first]
      rfl
    have late : future.resolve status payload = (false, future) := by
      simp [Future.resolve, resolved]
    have head : (outcomes (events ++ [.resolve status payload])).head? = some r := by
      simp [first]
    have head' : (outcomes events).head? = some r := by
      simp [first]
    rw [late] at same kept ⊢
    refine ⟨tracks.types_eq, ?_, ?_, ?_, ?_, ?_, ?_⟩
    · rw [resolved, head]
    · rw [same]
      exact tracks.taken
    · simp [outcome]
    · rw [count, wins_append, tracks.first, List.range_succ, List.map_append, first]
      rfl
    · rw [same, head, ← head']
      exact tracks.once
    · rw [kept, head, ← head']
      exact tracks.given

/-- An action that leaves the slot as it is. -/
lemma Tracks.shows (tracks : Tracks registry types events future history) {event : Event}
    (quiet : event.outcome? = none) {seen : List Seen} (untold : wins seen = [])
    (untaken : takes seen = [])
    (early : future.resolution = none → ∀ s ∈ seen, s = .polled false ∨ s = .status none)
    (given : ∀ result ∈ decodes seen, ∃ r, future.resolution = some r ∧
      result = .ofReply registry types r.status r.reply) :
    Tracks registry types (events ++ [event]) future (history ++ seen) := by
  have outcome : outcomes (events ++ [event]) = outcomes events := by
    simp [outcomes, quiet]
  have same : takes (history ++ seen) = takes history := by simp [untaken]
  refine ⟨tracks.types_eq, ?_, ?_, ?_, ?_, ?_, ?_⟩
  · rw [outcome]
    exact tracks.resolution
  · rw [same]
    exact tracks.taken
  · rw [outcome]
    intro none s among
    rcases List.mem_append.mp among with old | new
    · exact tracks.early none s old
    · refine early ?_ s new
      rw [tracks.resolution, none]
      rfl
  · rw [outcome, wins_append, untold, List.append_nil]
    exact tracks.first
  · rw [outcome, same]
    exact tracks.once
  · rw [outcome, decodes_append]
    intro result among
    rcases List.mem_append.mp among with old | new
    · exact tracks.given result old
    · rw [← tracks.resolution]
      exact given result new

/-- The reply is handed out if it was not before. -/
lemma Tracks.take (tracks : Tracks registry types events future history) {r : Resolution}
    (resolved : future.resolution = some r) :
    Tracks registry types (events ++ [.takeReply]) { future with taken := true }
      (history ++ [.took (if future.taken then .error .replyTaken else .ok r.reply)]) := by
  have outcome : outcomes (events ++ [.takeReply]) = outcomes events := by
    simp [outcomes, Event.outcome?]
  have head := tracks.resolution.symm.trans resolved
  refine ⟨tracks.types_eq, ?_, ?_, ?_, ?_, ?_, ?_⟩
  · rw [outcome]
    exact tracks.resolution
  · simp [takes]
  · rw [outcome]
    intro none
    simp [none] at head
  · rw [outcome]
    simpa [wins] using tracks.first
  · refine Or.inr ?_
    rw [outcome, takes_append]
    rcases tracks.once with none | ⟨r', n, same, once⟩
    · have free : future.taken = false := by
        simpa [none] using tracks.taken
      exact ⟨r, 0, head, by simp [none, free]⟩
    · have spent : future.taken = true := by
        simp [tracks.taken, once]
      refine ⟨r', n + 1, same, ?_⟩
      simp [once, spent, List.replicate_succ']
  · rw [outcome]
    simpa [decodes] using tracks.given

lemma Tracks.step (tracks : Tracks registry types events future history) (event : Event) :
    Tracks registry types (events ++ [event]) (future.step registry event).1
      (history ++ (future.step registry event).2) := by
  cases event with
  | resolve status payload => exact tracks.resolve status payload
  | poll =>
    refine tracks.shows rfl rfl rfl ?_ nofun
    intro unresolved
    simp [Future.step, ready, unresolved]
  | ask =>
    refine tracks.shows rfl rfl rfl ?_ nofun
    intro unresolved
    simp [Future.step, status?, unresolved]
  | takeReply =>
    cases resolved : future.resolution with
    | none =>
      simp only [Future.step, takeReply?, resolved, Option.map_none]
      exact tracks.shows rfl rfl rfl nofun nofun
    | some r =>
      have takes := tracks.take resolved
      cases taken : future.taken with
      | false => simpa [Future.step, takeReply?, resolved, taken] using takes
      | true =>
        have same : { future with taken := true } = future := by rw [← taken]
        rw [same] at takes
        simpa [Future.step, takeReply?, resolved, taken] using takes
  | decode =>
    cases resolved : future.resolution with
    | none =>
      simp only [Future.step, result?, resolved, Option.map_none]
      exact tracks.shows rfl rfl rfl nofun nofun
    | some r =>
      simp only [Future.step, result?, resolved, Option.map_some, tracks.types_eq]
      refine tracks.shows rfl rfl rfl ?_ ?_
      · simp [resolved]
      · simp [decodes, resolved]

end

lemma tracks_run (registry : Registry) (types : List Ty) (events : List Event) :
    Tracks registry types events ((unresolved types).run registry events).1
      ((unresolved types).run registry events).2 := by
  induction events using List.reverseRecOn with
  | nil => exact tracks_unresolved registry types
  | append_singleton before event ih =>
    have next := ih.step event
    unfold run at next ⊢
    rw [Machine.run_append]
    simpa using next

/-! ## Taking the reply -/

/-- Nothing but another attempt and the end of the future tells whether the reply was taken. -/
lemma step_taken (registry : Registry) (future : Future) (taken : Bool) {event : Event}
    (other : event ≠ .takeReply) :
    step registry { future with taken } event =
      ({ (future.step registry event).1 with taken }, (future.step registry event).2) := by
  cases event with
  | resolve status payload =>
    cases resolved : future.resolution <;> simp [step, resolve, resolved]
  | poll | ask => rfl
  | takeReply => exact absurd rfl other
  | decode =>
    cases resolved : future.resolution <;> simp [step, result?, resolved]

/-- An attempt to take the reply is all that it shows, and changes nothing else. -/
lemma step_takeReply (registry : Registry) (future : Future) :
    (future.step registry .takeReply).1 = { future with taken := future.ready || future.taken } ∧
      (future.step registry .takeReply).2.filter (!·.isTake) = [] := by
  obtain ⟨types, _ | r, _ | _⟩ := future <;> exact ⟨rfl, rfl⟩

/-- No other action shows such an attempt. -/
lemma isTake_step (registry : Registry) (future : Future) {event : Event}
    (other : event ≠ .takeReply) :
    (future.step registry event).2.filter (!·.isTake) = (future.step registry event).2 := by
  cases event with
  | resolve status payload => rfl
  | poll | ask => rfl
  | takeReply => exact absurd rfl other
  | decode =>
    cases resolved : future.resolution <;> simp [step, result?, resolved, Seen.isTake]

/-- Without the attempts to take the reply everything else is seen in the same way. -/
lemma run_without_takes (registry : Registry) (future : Future) (taken : Bool)
    (events : List Event) :
    run registry { future with taken } (events.filter (· ≠ .takeReply)) =
      ({ (future.run registry events).1 with taken },
        (future.run registry events).2.filter (!·.isTake)) := by
  induction events generalizing future with
  | nil => rfl
  | cons event rest ih =>
    have later := ih (future.step registry event).1
    unfold run at later ⊢
    rw [Machine.run_cons, List.filter_append]
    by_cases takes : event = .takeReply
    · subst takes
      obtain ⟨slot, unseen⟩ := step_takeReply registry future
      have same : ({ (future.step registry .takeReply).1 with taken } : Future) =
          { future with taken } := by
        rw [slot]
      rw [same] at later
      rw [List.filter_cons_of_neg (by simp), unseen, List.nil_append]
      exact later
    · rw [List.filter_cons_of_pos (by simpa using takes), Machine.run_cons,
        step_taken registry future taken takes, later, isTake_step registry future takes]

/-! ## The life of a slot -/

/-- What is seen of a slot, and what comes of the next action. -/
structure LifeCycle (registry : Registry) (types : List Ty) (events : List Event) (future : Future)
    (history : List Seen) : Prop extends Tracks registry types events future history where
  /-- Before the first attempt whoever asks for the outcome waits. -/
  waits : outcomes events = [] →
    future.takeReply? = none ∧ future.result? registry = none ∧ future.finish? registry = none
  /-- After it another attempt changes nothing. -/
  late : outcomes events ≠ [] →
    ∀ status payload, future.resolve status payload = (false, future)
  /-- The first attempt is what the holder and the callback see. -/
  shown : ∀ r, (outcomes events).head? = some r →
    future.ready = true ∧ future.status? = some r.status ∧
      future.result? registry = some (.ofReply registry types r.status r.reply)
  /-- The end of the future gives the outcome unless the reply was handed out. -/
  finish : ∀ r, (outcomes events).head? = some r →
    future.finish? registry = some
      (if takes history = [] then .ok (.ofReply registry types r.status r.reply)
        else .error .replyTaken)
  /-- Nothing else depends on whether and when the reply was taken. -/
  apart : ((unresolved types).run registry (events.filter (· ≠ .takeReply))).2 =
    history.filter (!·.isTake)

/-- **Whatever the order of the actions on a slot**, nothing is seen before the first attempt to
resolve the call.  That one is told that it was the first, and gives the outcome for good.  At most
one attempt to take the reply succeeds, with the payload of the first attempt, and none after it.
The future ends with the decoded outcome if there was none, and a callback is given the decoded
outcome in any case. -/
theorem life_cycle (registry : Registry) (types : List Ty) (events : List Event) :
    LifeCycle registry types events ((unresolved types).run registry events).1
      ((unresolved types).run registry events).2 := by
  have tracks := tracks_run registry types events
  have apart := run_without_takes registry (unresolved types) false events
  generalize (unresolved types).run registry events = ran at tracks apart ⊢
  obtain ⟨future, history⟩ := ran
  dsimp only at tracks apart ⊢
  refine { tracks with waits := ?_, late := ?_, shown := ?_, finish := ?_, apart := ?_ }
  · intro none
    have free : future.resolution = Option.none := by
      rw [tracks.resolution, none]
      rfl
    simp [takeReply?, result?, finish?, free]
  · intro some status payload
    obtain ⟨r, rest, first⟩ := List.exists_cons_of_ne_nil some
    have resolved : future.resolution = Option.some r := by
      rw [tracks.resolution, first]
      rfl
    simp [resolve, resolved]
  · intro r first
    have resolved := tracks.resolution.trans first
    simp [ready, status?, result?, resolved, tracks.types_eq]
  · intro r first
    have resolved := tracks.resolution.trans first
    by_cases untaken : takes history = []
    · have free : future.taken = false := by simpa [untaken] using tracks.taken
      simp [finish?, result?, resolved, tracks.types_eq, untaken, free]
    · have spent : future.taken = true := tracks.taken.mpr untaken
      simp [finish?, result?, resolved, untaken, spent]
  · exact congrArg Prod.snd apart

/-! ## The slots of a client -/

/-- A slot that has come about by actions on the slot of a new call. -/
def Lives (registry : Registry) (future : Future) : Prop :=
  ∃ types events, future = ((unresolved types).run registry events).1

lemma lives_unresolved (registry : Registry) (types : List Ty) :
    Lives registry (unresolved types) := ⟨types, [], rfl⟩

lemma Lives.step {registry : Registry} {future : Future} (lives : Lives registry future)
    (event : Event) : Lives registry (future.step registry event).1 := by
  obtain ⟨types, events, rfl⟩ := lives
  refine ⟨types, events ++ [event], ?_⟩
  unfold run
  rw [Machine.run_append, Machine.run_cons, Machine.run_nil]

lemma Lives.resolve {registry : Registry} {future : Future} (lives : Lives registry future)
    (status : Status) (payload : Option Bytes) :
    Lives registry (future.resolve status payload).2 := lives.step (.resolve status payload)

lemma Lives.takeReply {registry : Registry} {future after : Future}
    {reply : Except Error (Option Bytes)} (lives : Lives registry future)
    (taken : future.takeReply? = some (reply, after)) : Lives registry after := by
  have takes := lives.step .takeReply
  simpa only [Future.step, taken] using takes

end Future

namespace Threaded

open Client

variable {κ : Type}

lemma Acts.lives {state next : Threaded κ} {seen : List (Effect κ)} {registry : Registry}
    (acts : Acts state next seen)
    (lives : ∀ xid future, state.client.future? xid = some future → future.Lives registry) :
    ∀ xid future, next.client.future? xid = some future → future.Lives registry := by
  cases acts with
  | issues types =>
    intro xid future found
    rw [future?_openSlot] at found
    split at found
    · cases found
      exact Future.lives_unresolved registry types
    · exact lives xid future found
  | @concludes n call ending here =>
    intro xid future found
    have same : (state.client.conclude call ending).1.future? xid =
        (state.client.resolve call.xid ending.status ending.payload).future? xid :=
      congrArg (List.lookup xid) (state.client.conclude_futures call ending)
    rw [same, Client.resolve, future?_updateFuture] at found
    split at found
    · obtain ⟨before, present, rfl⟩ := Option.map_eq_some_iff.mp found
      exact (lives xid before present).resolve ending.status ending.payload
    · exact lives xid future found
  | @takes taker after reply here =>
    intro xid future found
    rw [future?_updateFuture] at found
    split at found
    · rename_i same
      obtain ⟨before, present, rfl⟩ := Option.map_eq_some_iff.mp found
      obtain ⟨before', present', taken⟩ := Option.bind_eq_some_iff.mp here
      exact (lives taker before' present').takeReply taken
    · exact lives xid future found
  | delivers queue =>
    intro xid future found
    rw [runCallback_eq] at found
    exact lives xid future found
  | nothing | refuses | registers | admits | turnsAway | answers | givesUp | drains | stops
  | clears => exact lives

/-- Whatever the threads of a client do, its slots come about by actions on slots. -/
theorem lives_run (registry : Registry) (maxPayload : UInt32) (events : List (Event κ))
    {xid : Int64} {future : Future}
    (found : ((connected registry maxPayload : Threaded κ).run events).1.client.future? xid =
      some future) : future.Lives registry := by
  have start : ∀ xid future,
      (connected registry maxPayload : Threaded κ).client.future? xid = some future →
        future.Lives registry := nofun
  have keeps : ∀ (state : Threaded κ) (event : Event κ),
      (∀ xid future, state.client.future? xid = some future → future.Lives registry) →
        ∀ xid future, (state.step event).1.client.future? xid = some future →
          future.Lives registry :=
    fun state event lives => (acts_step state event).lives lives
  exact Machine.run_invariant keeps start events xid future found

end Threaded

end RemoteCall
