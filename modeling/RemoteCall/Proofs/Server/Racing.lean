import RemoteCall.Proofs.Machine
import RemoteCall.Proofs.Server.Basic
import RemoteCall.Proofs.Writer.Batches

/-!
# Replies that race for the limit

The reader of a connection and its jobs send from threads of their own.  A party reads the count of
pending frames and acts on it later: it goes on although others have passed meanwhile, or gives up
although the batch was flushed in its last pause.  In `Server` an offer is made in one go.  `Racing`
is a server whose parties may also go on or give up at any time, whatever the count is by then, so
every order of their reads and of what follows them is among its runs.  The runs of a server are
among them too (`run_act`).

## The journal

A run keeps a journal of what has happened on each connection: the reads that were taken in, the
requests that were looked up, and what became of the replies.  A reply that finds the task of the
writer over is told from one that was given up at the limit.  Calls of handlers are left out; they
are a matter between a job and its handler, and what the handler returns is in the reply.

## What a step can do

`Connection.Acts` lists all that can happen on a connection, and `Steps` all that a step of the
server can do; whatever is proved of runs here is proved from them (`steps_step`).  There are more
kinds of events than kinds of steps: whichever part of the server moves, it moves one connection,
grants a slot, accepts a connection, or does something that concerns no connection at all.

## Main statements

* `run_act` — a run of a server is a run whose parties do not race.
* `steps_step` — every step of a server is on the list.
-/

namespace RemoteCall

variable {η : Type}

namespace Connection

/-- A party hands its frame over, whatever the count of pending frames is. -/
def pass (connection : Connection η) (party : Party) : Option (Delivery × Connection η) :=
  match connection.outgoing? party with
  | none => none
  | some reply =>
    match connection.writer.pass reply with
    | (.queued, writer) => some (.queued reply, { connection with writer }.sent party)
    | (.waiting, writer) => some (.pending, { connection with writer }.wait reply party)
    | (.failed _, writer) => some (.dropped reply, { connection with writer }.unsent party)

/-- A party gives up, whatever the count of pending frames is. -/
def expire (connection : Connection η) (party : Party) : Option (Delivery × Connection η) :=
  (connection.outgoing? party).map fun reply => (.dropped reply, connection.unsent party)

/-- An offer is a look at the limit, and then the rest of a send. -/
lemma offer_eq (connection : Connection η) (party : Party) :
    connection.offer party =
      if connection.writer.settings.maxPending ≤ connection.writer.pending then none
      else connection.pass party := by
  unfold offer pass
  cases connection.outgoing? party with
  | none => simp only [ite_self]
  | some reply =>
    simp only [Writer.offer_eq]
    by_cases held : connection.writer.settings.maxPending ≤ connection.writer.pending
    · simp only [if_pos held]
    · simp only [if_neg held]
      rcases connection.writer.pass reply with ⟨_ | _ | _, writer⟩ <;> rfl

/-- A party gives up only at the limit. -/
lemma giveUp_eq (connection : Connection η) (party : Party) :
    connection.giveUp party =
      if connection.writer.settings.maxPending ≤ connection.writer.pending then
        connection.expire party
      else none := by
  unfold giveUp expire
  cases connection.outgoing? party with
  | none => simp only [Option.map_none, ite_self]
  | some reply =>
    simp only [Writer.offer_eq, Option.map_some]
    by_cases held : connection.writer.settings.maxPending ≤ connection.writer.pending
    · simp only [if_pos held]
    · simp only [if_neg held]
      rcases connection.writer.pass reply with ⟨_ | _ | _, writer⟩ <;> rfl

end Connection

namespace Racing

/-! ## The journal -/

/-- What has happened on a connection. -/
inductive Entry (η : Type) where
  /-- The reader has taken in what one read gave. -/
  | received (bytes : Bytes)
  /-- The reader has seen the end of the stream. -/
  | ended
  /-- A request was looked up, and this was registered under its call ID. -/
  | looked (request : Frame) (found : Option (Registration η))
  /-- A reply entered the queue of the writer. -/
  | queued (reply : Frame)
  /-- A reply was dropped because the task of the writer was over. -/
  | refused (reply : Frame)
  /-- A reply was dropped because too many frames were pending for too long. -/
  | expired (reply : Frame)
  /-- Bytes left for the peer. -/
  | wrote (bytes : Bytes)

/-- What has happened on one connection. -/
def on (c : Nat) (journal : List (Nat × Entry η)) : List (Entry η) :=
  journal.filterMap fun (k, entry) => if k = c then some entry else none

/-- The reads, in order. -/
def reads (entries : List (Entry η)) : List Bytes :=
  entries.filterMap fun
    | .received bytes => some bytes
    | _ => none

/-- The requests that were looked up, in order, and what was found for each. -/
def looked (entries : List (Entry η)) : List (Frame × Option (Registration η)) :=
  entries.filterMap fun
    | .looked request found => some (request, found)
    | _ => none

/-- The replies that entered the queue, in order. -/
def queued (entries : List (Entry η)) : List Frame :=
  entries.filterMap fun
    | .queued reply => some reply
    | _ => none

/-- The replies that found the task of the writer over. -/
def refused (entries : List (Entry η)) : List Frame :=
  entries.filterMap fun
    | .refused reply => some reply
    | _ => none

/-- The replies that were given up at the limit. -/
def expired (entries : List (Entry η)) : List Frame :=
  entries.filterMap fun
    | .expired reply => some reply
    | _ => none

/-- The bytes that have left for the peer. -/
def written (entries : List (Entry η)) : Bytes :=
  entries.flatMap fun
    | .wrote bytes => bytes
    | _ => []

section

variable (first second : List (Entry η))

lemma reads_append : reads (first ++ second) = reads first ++ reads second :=
  List.filterMap_append

lemma looked_append : looked (first ++ second) = looked first ++ looked second :=
  List.filterMap_append

lemma queued_append : queued (first ++ second) = queued first ++ queued second :=
  List.filterMap_append

lemma refused_append : refused (first ++ second) = refused first ++ refused second :=
  List.filterMap_append

lemma expired_append : expired (first ++ second) = expired first ++ expired second :=
  List.filterMap_append

lemma written_append : written (first ++ second) = written first ++ written second :=
  List.flatMap_append

end

/-- The requests for which a registration was found, in order. -/
def known (requests : List (Frame × Option (Registration η))) : List (Registration η × Frame) :=
  requests.filterMap fun (request, found) => found.map (·, request)

lemma known_append (first second : List (Frame × Option (Registration η))) :
    known (first ++ second) = known first ++ known second := List.filterMap_append

lemma on_append (c : Nat) (first second : List (Nat × Entry η)) :
    on c (first ++ second) = on c first ++ on c second := List.filterMap_append

@[simp] lemma on_nil (c : Nat) : on c ([] : List (Nat × Entry η)) = [] := rfl

lemma on_tagged (c k : Nat) (entries : List (Entry η)) :
    on c (entries.map (k, ·)) = if c = k then entries else [] := by
  induction entries with
  | nil => rw [List.map_nil, on_nil, ite_self]
  | cons entry rest ih =>
    have front : on c ((k, entry) :: rest.map (k, ·)) =
        (if k = c then [entry] else []) ++ on c (rest.map (k, ·)) := by
      unfold on
      rw [List.filterMap_cons]
      by_cases same : k = c
      · simp only [if_pos same, List.singleton_append]
      · simp only [if_neg same, List.nil_append]
    rw [List.map_cons, front, ih]
    by_cases same : c = k
    · rw [if_pos same.symm, if_pos same, if_pos same, List.singleton_append]
    · rw [if_neg (Ne.symm same), if_neg same, if_neg same, List.nil_append]

/-! ## Steps -/

/-- An action on a server whose parties race. -/
inductive Event (η : Type) where
  | act (event : Server.Event η)
  /-- A party goes on that has found the count below the limit before. -/
  | pass (connection : Nat) (party : Party)
  /-- A party gives up that has found the count at the limit before. -/
  | expire (connection : Nat) (party : Party)

/-- Whether a party gives up. -/
def Event.givesUp : Event η → Bool
  | .act (.giveUp ..) | .expire .. => true
  | _ => false

/-- What the server does. -/
def serve [Handles η] (server : Server η) : Event η → Server η × List (Server.Effect η)
  | .act event => server.step event
  | .pass c party => server.delivering c (·.pass party)
  | .expire c party => server.delivering c (·.expire party)

/-- What the reader of a connection takes in. -/
def arrivals (server : Server η) : Event η → List (Nat × Entry η)
  | .act (.receive c bytes) =>
    if ((server.connection? c).bind (·.receive bytes)).isSome then [(c, .received bytes)] else []
  | .act (.streamEnded c) =>
    if ((server.connection? c).bind (·.streamEnded)).isSome then [(c, .ended)] else []
  | _ => []

/-- How an effect is entered in the journal.  Calls of handlers are not. -/
def noted? (event : Event η) : Server.Effect η → Option (Nat × Entry η)
  | .dispatched c request found => some (c, .looked request found)
  | .called .. => none
  | .queued c reply => some (c, .queued reply)
  | .dropped c reply => some (c, if event.givesUp then .expired reply else .refused reply)
  | .wrote c bytes => some (c, .wrote bytes)

/-- Run one action. -/
def step [Handles η] (server : Server η) (event : Event η) : Server η × List (Nat × Entry η) :=
  ((serve server event).1, arrivals server event ++ (serve server event).2.filterMap (noted? event))

/-- Run actions one after the other. -/
def run [Handles η] (server : Server η) (events : List (Event η)) :
    Server η × List (Nat × Entry η) :=
  Machine.run step server events

/-! ## The runs of a server -/

/-- The effect of a server that an entry stands for. -/
def effect? : Nat × Entry η → Option (Server.Effect η)
  | (_, .received _) | (_, .ended) => none
  | (c, .looked request found) => some (.dispatched c request found)
  | (c, .queued reply) => some (.queued c reply)
  | (c, .refused reply) | (c, .expired reply) => some (.dropped c reply)
  | (c, .wrote bytes) => some (.wrote c bytes)

/-- Whether an effect is the call of a handler. -/
def isCall : Server.Effect η → Bool
  | .called .. => true
  | _ => false

lemma effect?_noted? (event : Event η) (effect : Server.Effect η) :
    (noted? event effect).bind effect? = if isCall effect then none else some effect := by
  cases effect with
  | dropped c reply => cases gives : event.givesUp <;> simp [noted?, effect?, isCall, gives]
  | dispatched | called | queued | wrote => rfl

lemma effects_arrivals (server : Server η) (event : Event η) :
    (arrivals server event).filterMap effect? = [] := by
  unfold arrivals
  split
  · split <;> rfl
  · split <;> rfl
  · rfl

lemma effects_step [Handles η] (server : Server η) (event : Event η) :
    (step server event).2.filterMap effect? = (serve server event).2.filter (!isCall ·) := by
  unfold step
  rw [List.filterMap_append, effects_arrivals, List.nil_append, List.filterMap_filterMap,
    ← List.filterMap_eq_filter]
  congr 1
  funext effect
  rw [effect?_noted?]
  cases call : isCall effect <;> simp [Option.guard, call]

/-- A run of a server is a run whose parties do not race. -/
theorem run_act [Handles η] (server : Server η) (events : List (Server.Event η)) :
    (run server (events.map .act)).1 = (server.run events).1 ∧
      (run server (events.map .act)).2.filterMap effect? =
        (server.run events).2.filter (!isCall ·) := by
  induction events generalizing server with
  | nil => exact ⟨rfl, rfl⟩
  | cons event rest ih =>
    obtain ⟨state, effects⟩ := ih (server.step event).1
    unfold run Server.run at *
    rw [List.map_cons, Machine.run_cons, Machine.run_cons]
    refine ⟨state, ?_⟩
    rw [List.filterMap_append, effects_step, List.filter_append]
    exact congrArg _ effects

end Racing

/-! ## What can happen on a connection -/

/-- How a delivery is entered in the journal. -/
def Connection.Delivery.entries (givenUp : Bool) : Connection.Delivery → List (Racing.Entry η)
  | .queued reply => [.queued reply]
  | .dropped reply => [if givenUp then .expired reply else .refused reply]
  | .pending => []

/-- What a reader does that is reading. -/
inductive Connection.Reads (functions : Functions η) (old : Connection η) :
    List (Racing.Entry η) → Connection η → Prop
  | receive {bytes : Bytes} {new : Connection η} (received : old.receive bytes = some new) :
    Reads functions old [.received bytes] new
  | streamEnded {new : Connection η} (ended : old.streamEnded = some new) :
    Reads functions old [.ended] new
  | lookUp {request : Frame} {found : Option (Registration η)} {new : Connection η}
      (looked : old.lookUp functions = some (request, found, new)) :
    Reads functions old [.looked request found] new

/-- All that can happen on a connection, apart from the start of a job. -/
inductive Connection.Acts [Handles η] (registry : Registry) (limit : UInt32)
    (functions : Functions η) (old : Connection η) :
    List (Racing.Entry η) → Connection η → Prop
  | read {entries : List (Racing.Entry η)} {new : Connection η}
      (reads : old.Reads functions entries new) : Acts registry limit functions old entries new
  | finish {id : Nat} {job : Job η} (found : old.job? id = some job)
      (executing : job.stage = .executing) :
    Acts registry limit functions old [] (old.setStage id (.replying
      (job.registration.answer registry limit job.request.xid job.request.payload).1))
  | pass {party : Party} {delivery : Delivery} {new : Connection η}
      (passed : old.pass party = some (delivery, new)) :
    Acts registry limit functions old (delivery.entries false) new
  | expire {party : Party} {reply : Frame} (outgoing : old.outgoing? party = some reply) :
    Acts registry limit functions old [.expired reply] (old.unsent party)
  | resume {delivery : Delivery} {new : Connection η}
      (resumed : old.resume = some (delivery, new)) :
    Acts registry limit functions old (delivery.entries false) new
  | collect {writer : Writer} (collected : old.writer.collect = some writer) :
    Acts registry limit functions old [] { old with writer }
  | accept (n : Nat) :
    Acts registry limit functions old [.wrote (old.writer.offered.flatten.take n)]
      (old.updateWriter (·.accept n))
  | fail (e : Error) : Acts registry limit functions old [] (old.updateWriter (·.fail e))
  | flushed : Acts registry limit functions old [] (old.updateWriter Writer.flushed)
  | stop : Acts registry limit functions old [] old.stop

namespace Racing

lemma looked_entries_delivery (givenUp : Bool) (delivery : Connection.Delivery) :
    looked (delivery.entries givenUp : List (Entry η)) = [] := by
  cases delivery with
  | queued | pending => rfl
  | dropped => cases givenUp <;> rfl

/-- A look-up is all that enters a request in the journal. -/
lemma looked_cases [Handles η] {registry : Registry} {limit : UInt32} {functions : Functions η}
    {old new : Connection η} {entries : List (Entry η)}
    (acts : old.Acts registry limit functions entries new) :
    looked entries = [] ∨ ∃ request found, entries = [.looked request found] ∧
      old.lookUp functions = some (request, found, new) := by
  cases acts with
  | read reads =>
    cases reads with
    | receive | streamEnded => exact Or.inl rfl
    | lookUp looked => exact Or.inr ⟨_, _, rfl, looked⟩
  | finish | expire | collect | accept | fail | flushed | stop => exact Or.inl rfl
  | @pass _ delivery | @resume delivery =>
    exact Or.inl (looked_entries_delivery false delivery)

/-- The server after one of its connections has acted: the connection waits for a slot if it has
looked up a registered request. -/
def acted (server : Server η) (c : Nat) (old new : Connection η) (entries : List (Entry η)) :
    Server η :=
  { server.setConnection c old new with
    slotQueue := (server.setConnection c old new).slotQueue ++
      (known (looked entries)).map fun _ => c }

lemma acted_of_unlooked {entries : List (Entry η)} (unlooked : looked entries = [])
    (server : Server η) (c : Nat) (old new : Connection η) :
    acted server c old new entries = server.setConnection c old new := by
  unfold acted
  rw [unlooked]
  exact congrArg (fun queue => { server.setConnection c old new with slotQueue := queue })
    (List.append_nil _)

variable [Handles η]

/-- All that a step of a server can do. -/
inductive Steps (server next : Server η) : List (Nat × Entry η) → Prop
  /-- No connection is concerned. -/
  | aside (connections : next.connections = server.connections)
      (registry : next.registry = server.registry) (settings : next.settings = server.settings)
      (nextConnection : next.nextConnection = server.nextConnection)
      (nextJob : next.nextJob = server.nextJob) (freeSlots : next.freeSlots = server.freeSlots)
      (slotQueue : next.slotQueue = server.slotQueue) : Steps server next []
  | accepted {generation : Nat} (accepted : server.accept generation = some next) :
    Steps server next []
  | starts {c : Nat} {old new : Connection η} (started : old.startJob server.nextJob = some new)
      (touches : Server.Touches c old new server next)
      (nextJob : next.nextJob = server.nextJob + 1) (granted : server.grant = some next) :
    Steps server next []
  | acts {c : Nat} {old new : Connection η} {entries : List (Entry η)}
      (acts : old.Acts server.registry server.settings.maxPayload server.functions entries new)
      (touches : Server.Touches c old new server next)
      (result : next = acted server c old new entries) :
    Steps server next (entries.map (c, ·))

variable {server : Server η}

lemma Steps.still : Steps server server [] := .aside rfl rfl rfl rfl rfl rfl rfl

lemma Steps.set {c : Nat} {old new : Connection η} {entries : List (Entry η)}
    (found : server.connection? c = some old)
    (acts : old.Acts server.registry server.settings.maxPayload server.functions entries new)
    (unlooked : looked entries = []) :
    Steps server (server.setConnection c old new) (entries.map (c, ·)) :=
  .acts acts (Server.touches_setConnection found new) (acted_of_unlooked unlooked _ _ _ _).symm

/-- What is not seen from outside may still be entered in the journal. -/
lemma steps_silently {c : Nat} {act : Connection η → Option (Connection η)}
    {entries : List (Entry η)} {event : Event η} (unlooked : looked entries = [])
    (acts : ∀ old new, act old = some new →
      old.Acts server.registry server.settings.maxPayload server.functions entries new) :
    Steps server (server.silently c act).1
      ((if ((server.connection? c).bind act).isSome then entries.map (c, ·) else []) ++
        (server.silently c act).2.filterMap (noted? event)) := by
  cases taken : (server.connection? c).bind act with
  | none =>
    rw [Server.silently_of_none taken]
    exact .still
  | some new =>
    obtain ⟨old, found, acted⟩ := Option.bind_eq_some_iff.mp taken
    rw [Server.silently_of_some found acted, List.filterMap_nil, List.append_nil]
    exact .set found (acts old new acted) unlooked

lemma steps_quietly {c : Nat} {act : Connection η → Option (Connection η)} {event : Event η}
    (acts : ∀ old new, act old = some new →
      old.Acts server.registry server.settings.maxPayload server.functions [] new) :
    Steps server (server.silently c act).1
      ((server.silently c act).2.filterMap (noted? event)) := by
  have steps : Steps server (server.silently c act).1
      ((if ((server.connection? c).bind act).isSome then [].map (c, ·) else []) ++
        (server.silently c act).2.filterMap (noted? event)) := steps_silently rfl acts
  rwa [List.map_nil, ite_self] at steps

omit [Handles η] in
lemma entries_deliveryEffects (event : Event η) (c : Nat) (delivery : Connection.Delivery) :
    (Server.deliveryEffects c delivery).filterMap (noted? event) =
      (delivery.entries event.givesUp).map (c, ·) := by
  cases delivery with
  | queued | dropped | pending => rfl

lemma steps_delivering {c : Nat} {event : Event η}
    {act : Connection η → Option (Connection.Delivery × Connection η)}
    (acts : ∀ delivery old new, act old = some (delivery, new) →
      old.Acts server.registry server.settings.maxPayload server.functions
        (delivery.entries event.givesUp) new) :
    Steps server (server.delivering c act).1
      ((server.delivering c act).2.filterMap (noted? event)) := by
  rcases server.delivering_cases c act with nothing | ⟨delivery, old, new, found, acted, seen⟩
  · rw [nothing]
    exact .still
  · rw [seen, entries_deliveryEffects]
    exact .set found (acts delivery old new acted) (looked_entries_delivery _ delivery)

/-- A party that gives up has had something to send. -/
lemma steps_expire {c : Nat} {event : Event η} (gives : event.givesUp = true)
    {act : Connection η → Option (Connection.Delivery × Connection η)} (party : Party)
    (expires : ∀ delivery old new, act old = some (delivery, new) →
      old.expire party = some (delivery, new)) :
    Steps server (server.delivering c act).1
      ((server.delivering c act).2.filterMap (noted? event)) := by
  refine steps_delivering fun delivery old new acted => ?_
  obtain ⟨reply, outgoing, made⟩ := Option.map_eq_some_iff.mp (expires delivery old new acted)
  rw [Prod.mk.injEq] at made
  obtain ⟨rfl, rfl⟩ := made
  rw [gives]
  exact .expire outgoing

lemma steps_registered (server : Server η) (registered : Except Error (Functions η))
    (event : Event η) :
    let taken : Server η × List (Server.Effect η) :=
      match registered.map fun functions => { server with functions } with
      | .ok next => (next, [])
      | .error _ => (server, [])
    Steps server taken.1 (taken.2.filterMap (noted? event)) := by
  cases registered with
  | error e => exact .still
  | ok functions => exact .aside rfl rfl rfl rfl rfl rfl rfl

lemma steps_start (server : Server η) (address : String) (event : Event η) :
    let taken : Server η × List (Server.Effect η) :=
      match server.start (.ok address) false with
      | .ok next => (next, [])
      | .error _ => (server, [])
    Steps server taken.1 (taken.2.filterMap (noted? event)) := by
  unfold Server.start
  cases server.listening with
  | some listening => exact .still
  | none => exact .aside rfl rfl rfl rfl rfl rfl rfl

lemma steps_endAccepting (server : Server η) (generation : Nat) :
    Steps server ((server.endAccepting generation).getD server) [] := by
  unfold Server.endAccepting
  split
  · exact .aside rfl rfl rfl rfl rfl rfl rfl
  · exact .still

lemma steps_lookUp (server : Server η) (c : Nat) (event : Event η) :
    Steps server ((server.lookUp c).getD (server, [])).1
      (((server.lookUp c).getD (server, [])).2.filterMap (noted? event)) := by
  cases looked : server.lookUp c with
  | none => exact .still
  | some pair =>
    obtain ⟨next, effects⟩ := pair
    obtain ⟨request, found, old, new, present, result, rfl, rfl⟩ := Server.lookUp_eq_some looked
    have touches := Server.touches_setConnection present new
    have acts : old.Acts server.registry server.settings.maxPayload server.functions
        [.looked request found] new := .read (.lookUp result)
    refine .acts acts ⟨present, touches.connections, rfl, rfl, rfl, rfl, Nat.le_refl _⟩ ?_
    cases found <;> rfl

lemma steps_grant (server : Server η) : Steps server (server.grant.getD server) [] := by
  cases granted : server.grant with
  | none => exact .still
  | some next =>
    obtain ⟨c, old, new, started, touches, nextJob⟩ := Server.touches_grant granted
    exact .starts started touches nextJob granted

omit [Handles η] in
/-- The call of a handler is not entered in the journal. -/
lemma noted_called (event : Event η) (c : Nat) (request : Frame)
    (registration : Registration η) (args : List (List Value)) :
    (args.map (Server.Effect.called c request registration ·)).filterMap (noted? event) = [] := by
  rw [List.filterMap_map, List.filterMap_eq_nil_iff]
  exact fun _ _ => rfl

lemma steps_finish (server : Server η) (c id : Nat) (event : Event η) :
    Steps server ((server.finish c id).getD (server, [])).1
      (((server.finish c id).getD (server, [])).2.filterMap (noted? event)) := by
  cases finished : server.finish c id with
  | none => exact .still
  | some pair =>
    obtain ⟨next, effects⟩ := pair
    obtain ⟨old, job, present, found, executing, rfl, rfl⟩ := Server.finish_eq_some finished
    dsimp only [Option.getD_some]
    rw [noted_called]
    exact .set present (.finish found executing) rfl

lemma steps_accept (server : Server η) (generation : Nat) :
    Steps server ((server.accept generation).getD server) [] := by
  cases accepted : server.accept generation with
  | none => exact .still
  | some next => exact .accepted accepted

lemma sinkAccepts_of_none {c : Nat} (absent : server.connection? c = none) (n : Nat) :
    server.step (.sinkAccepts c n) = (server, []) := by
  simp only [Server.step, absent]

lemma sinkAccepts_of_some {c : Nat} {connection : Connection η}
    (found : server.connection? c = some connection) (n : Nat) :
    server.step (.sinkAccepts c n) =
      (server.setConnection c connection (connection.updateWriter (·.accept n)),
        [.wrote c (connection.writer.offered.flatten.take n)]) := by
  have updated : server.silently c
      (fun connection => some (connection.updateWriter (·.accept n))) =
      (server.setConnection c connection (connection.updateWriter (·.accept n)), []) :=
    Server.silently_of_some found rfl
  simp only [Server.step, found, updated]

lemma steps_sinkAccepts (server : Server η) (c n : Nat) (event : Event η) :
    Steps server (server.step (.sinkAccepts c n)).1
      ((server.step (.sinkAccepts c n)).2.filterMap (noted? event)) := by
  cases found : server.connection? c with
  | none =>
    rw [sinkAccepts_of_none found]
    exact .still
  | some connection =>
    rw [sinkAccepts_of_some found]
    exact .set found (.accept n) rfl

/-- Whatever the server does in one step is on the list. -/
theorem steps_step (server : Server η) (event : Event η) :
    Steps server (step server event).1 (step server event).2 := by
  cases event with
  | pass c party => exact steps_delivering fun _ _ _ passed => .pass passed
  | expire c party => exact steps_expire rfl party fun _ _ _ expired => expired
  | act event =>
    cases event with
    | register registration => exact steps_registered server _ _
    | registerService service => exact steps_registered server _ _
    | unregister id => exact .aside rfl rfl rfl rfl rfl rfl rfl
    | start address => exact steps_start server address _
    | stop => exact .aside rfl rfl rfl rfl rfl rfl rfl
    | accept generation => exact steps_accept server generation
    | endAccepting generation => exact steps_endAccepting server generation
    | receive c bytes => exact steps_silently rfl fun _ _ received => .read (.receive received)
    | streamEnded c => exact steps_silently rfl fun _ _ ended => .read (.streamEnded ended)
    | lookUp c => exact steps_lookUp server c _
    | grant => exact steps_grant server
    | finish c id => exact steps_finish server c id _
    -- an offer that is refused changes nothing; one that goes through passes the delivery on
    | offer c party =>
      refine steps_delivering fun delivery old new offered => ?_
      rw [Connection.offer_eq] at offered
      split at offered
      · cases offered
      · exact .pass offered
    | giveUp c party =>
      refine steps_expire rfl party fun delivery old new given => ?_
      rw [Connection.giveUp_eq] at given
      split at given
      · exact given
      · cases given
    | resume c => exact steps_delivering fun _ _ _ resumed => .resume resumed
    | collect c =>
      refine steps_quietly fun old new collected => ?_
      obtain ⟨writer, result, rfl⟩ := Option.map_eq_some_iff.mp collected
      exact .collect result
    | sinkAccepts c n => exact steps_sinkAccepts server c n _
    | sinkFails c e =>
      refine steps_quietly ?_
      rintro old _ ⟨⟩
      exact .fail e
    | flushed c =>
      refine steps_quietly ?_
      rintro old _ ⟨⟩
      exact .flushed
    | observeStop c =>
      refine steps_quietly fun old new stopped => ?_
      split at stopped
      · cases stopped
        exact .stop
      · cases stopped

end Racing

end RemoteCall
