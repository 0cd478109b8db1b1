import RemoteCall.Proofs.Server.Basic
import RemoteCall.Session.World

/-!
# The rounds of a world

The world of a session takes its machines on in rounds.  In a round a client starts its reader,
writes what it has, reads what has arrived and runs a callback; a connection of a server learns of a
stop, reads, looks requests up, lets handlers end and sends replies.  The world calls the functions
of the machines for that.  Most of them are single actions; a writer that writes all it has takes
many.

Whatever a round does to a server is a run of that server, and whatever it does to a client is a run
of the client's link (`leads_settle`).  So what is proved of all runs of a server or of a link holds
of those that a session goes through.

The proof does not carry runs through the functions of the world.  It goes by what is kept: if every
action of a machine keeps a property, then everything that the world does keeps it (`Keeps`).  To be
at the end of a run is such a property.

## Main statements

* `Keeps.settle` — what every action of a server and of a link keeps, a settling world keeps.
* `leads_settle` — while a world settles, every server runs and every link runs.
-/

namespace RemoteCall

/-! ## A task that writes all it has -/

/-- What every action of the task and of its sink keeps, the task keeps until it is at rest. -/
lemma Writer.Scripted.settle_keeps (Inv : Writer → Prop)
    (collect : ∀ writer next, Inv writer → writer.collect = some next → Inv next)
    (accept : ∀ (writer : Writer) n, Inv writer → Inv (writer.accept n))
    (fail : ∀ (writer : Writer) e, Inv writer → Inv (writer.fail e))
    (flushed : ∀ writer : Writer, Inv writer → Inv writer.flushed)
    (scripted : Scripted) (holds : Inv scripted.writer) : Inv scripted.settle.writer := by
  induction scripted using Scripted.settle.induct with
  | case1 scripted rests =>
    rw [settle]
    split
    · exact holds
    · rename_i next goes
      rw [rests] at goes
      cases goes
  | case2 scripted next goes _ ih =>
    rw [settle]
    split
    · rename_i rests
      rw [goes] at rests
      cases rests
    · rename_i next' goes'
      obtain rfl := Option.some.inj (goes.symm.trans goes')
      -- a step collects, writes or flushes, according to what the task is at
      refine ih ?_
      unfold advance at goes
      split at goes
      · obtain ⟨writer, collected, rfl⟩ := Option.map_eq_some_iff.mp goes
        exact collect _ _ holds collected
      · split at goes
        · cases goes
        · cases goes
          unfold write
          dsimp only
          split
          · exact accept _ _ holds
          · exact fail _ _ holds
          · exact holds
          · exact holds
      · cases goes
        unfold flush
        split
        · exact fail _ _ holds
        · exact flushed _ holds
      all_goals cases goes

namespace Server

variable {η : Type}

/-- A change of the writer leaves the jobs and the reader of a connection as they are. -/
lemma setConnection_updateWriter (server : Server η) (c : Nat) (connection : Connection η)
    (first second : Writer → Writer) :
    (server.setConnection c connection (connection.updateWriter first)).setConnection c
        (connection.updateWriter first) ((connection.updateWriter first).updateWriter second) =
      server.setConnection c connection (connection.updateWriter (second ∘ first)) := by
  have replaced : ∀ entries : List (Nat × Connection η),
      (entries.map fun entry =>
          if entry.1 = c then (c, connection.updateWriter first) else entry).map
          (fun entry => if entry.1 = c then
            (c, (connection.updateWriter first).updateWriter second) else entry) =
        entries.map fun entry => if entry.1 = c then
          (c, connection.updateWriter (second ∘ first)) else entry := by
    intro entries
    rw [List.map_map]
    refine List.map_congr_left fun entry _ => ?_
    by_cases here : entry.1 = c
    · simp only [Function.comp_apply, if_pos here]
      rfl
    · simp only [Function.comp_apply, if_neg here]
  have served : ∀ (connection : Connection η) change,
      (connection.updateWriter change).isServed = connection.isServed := fun _ _ => rfl
  have jobs : ∀ (connection : Connection η) change,
      (connection.updateWriter change).jobs = connection.jobs := fun _ _ => rfl
  unfold setConnection
  simp only [replaced, jobs, served, Nat.sub_self, Nat.add_zero, Bool.and_not_self,
    Bool.false_eq_true, if_false]
  congr 1
  split
  · rfl
  · rw [List.filter_filter]
    congr 1
    funext k
    exact Bool.and_self _

end Server

namespace Session

namespace World

/-! ## Properties of the machines of a world -/

/-- Something holds of each server of a world, and something of each link. -/
structure Holds (P : Nat → Server Handler → Prop) (Q : Nat → Link Callback → Prop)
    (world : World) : Prop where
  servers : ∀ s host, world.hosts[s]? = some host → P s host.server
  links : ∀ i caller, world.clients[i]? = some caller → Q i caller.link

/-- Every action of a server keeps the one property, and every action of a link the other. -/
structure Keeps (P : Nat → Server Handler → Prop) (Q : Nat → Link Callback → Prop) : Prop where
  serves : ∀ s server event, P s server → P s (Server.step server event).1
  links : ∀ i link event, Q i link → Q i (Link.step link event).1

section

variable {P : Nat → Server Handler → Prop} {Q : Nat → Link Callback → Prop} {world : World}

/-- The rest of the world is of no concern. -/
lemma Holds.congr (holds : world.Holds P Q) {next : World} (hosts : next.hosts = world.hosts)
    (clients : next.clients = world.clients) : next.Holds P Q := by
  refine ⟨fun s host here => ?_, fun i caller here => ?_⟩
  · rw [hosts] at here
    exact holds.servers s host here
  · rw [clients] at here
    exact holds.links i caller here

lemma Holds.updateHost (holds : world.Holds P Q) {s : Nat} {change : Host → Host}
    (keeps : ∀ host, world.hosts[s]? = some host → P s (change host).server) :
    (world.updateHost s change).Holds P Q := by
  refine ⟨fun k host here => ?_, holds.links⟩
  unfold World.updateHost at here
  rw [List.getElem?_modify] at here
  obtain ⟨before, found, rfl⟩ := Option.map_eq_some_iff.mp here
  split
  · rename_i same
    subst same
    exact keeps before found
  · exact holds.servers k before found

lemma Holds.updateClient (holds : world.Holds P Q) {i : Nat} {change : Caller → Caller}
    (keeps : ∀ caller, world.clients[i]? = some caller → Q i (change caller).link) :
    (world.updateClient i change).Holds P Q := by
  refine ⟨holds.servers, fun k caller here => ?_⟩
  unfold World.updateClient at here
  rw [List.getElem?_modify] at here
  obtain ⟨before, found, rfl⟩ := Option.map_eq_some_iff.mp here
  split
  · rename_i same
    subst same
    exact keeps before found
  · exact holds.links k before found

lemma Holds.foldl {α : Type} (holds : world.Holds P Q) (items : List α)
    {act : World → α → World}
    (keeps : ∀ (world : World) item, world.Holds P Q → (act world item).Holds P Q) :
    (items.foldl act world).Holds P Q :=
  List.foldlRecOn items act holds fun between kept item _ => keeps between item kept

/-! ## Clients -/

lemma Holds.act (holds : world.Holds P Q) {i : Nat}
    {action : Link Callback → Link Callback × List (Client.Effect Callback)}
    (keeps : ∀ link, Q i link → Q i (action link).1) : (world.act i action).2.Holds P Q := by
  unfold World.act
  split
  · exact holds
  · rename_i caller found
    exact holds.updateClient fun _ _ => keeps caller.link (holds.links i caller found)

lemma Holds.record (holds : world.Holds P Q) (invocation : Invocation Callback)
    (place : Place) : (world.record invocation place).Holds P Q := holds.congr rfl rfl

lemma Keeps.runInner (keeps : Keeps P Q) (holds : world.Holds P Q) (i : Nat) (thread : Place)
    (invocation : Invocation Callback) : (world.runInner i thread invocation).Holds P Q := by
  unfold World.runInner
  refine Holds.record ?_ _ _
  split
  · have acted := holds.act fun link =>
      keeps.links i link (.issue followUp (some invocation.callback.next))
    exact acted.foldl _ fun _ nested kept => kept.record nested _
  · exact holds

lemma Keeps.runBehindGate (keeps : Keeps P Q) (holds : world.Holds P Q) (i : Nat)
    (thread : Place) (invocation : Invocation Callback) :
    (world.runBehindGate i thread invocation).Holds P Q := by
  unfold World.runBehindGate
  split
  · have acted := holds.act fun link => keeps.links i link .close
    exact (acted.foldl _ fun _ nested kept => keeps.runInner kept i _ nested).record _ _
  · exact keeps.runInner holds i thread invocation

lemma Keeps.runCallback (keeps : Keeps P Q) (holds : world.Holds P Q) (i : Nat)
    (thread : Place) (invocation : Invocation Callback) :
    (world.runCallback i thread invocation).Holds P Q := by
  have came : world.arrive.Holds P Q := holds.congr rfl rfl
  unfold World.runCallback
  split
  · dsimp only
    split
    · exact came.updateClient fun caller found => came.links i caller found
    · exact keeps.runBehindGate came i thread invocation
  · exact keeps.runBehindGate holds i thread invocation

lemma Keeps.perform (keeps : Keeps P Q) (holds : world.Holds P Q) (i : Nat) (thread : Place)
    {action : Link Callback → Link Callback × List (Client.Effect Callback)}
    (acts : ∀ link, Q i link → Q i (action link).1) :
    (world.perform i thread action).2.Holds P Q :=
  (holds.act acts).foldl _ fun _ invocation kept => keeps.runCallback kept i thread invocation

lemma Keeps.flushClient (keeps : Keeps P Q) (holds : world.Holds P Q) (i : Nat) :
    (world.flushClient i).Holds P Q := by
  unfold World.flushClient
  split
  · exact holds
  · rename_i caller found
    refine Holds.congr (holds.updateClient fun caller' found' => ?_) rfl rfl
    obtain rfl := Option.some.inj (found.symm.trans found')
    -- Each step of the task is an action of the link.
    refine Writer.Scripted.settle_keeps (fun writer => Q i { caller.link with writer })
      ?_ ?_ ?_ ?_ _ (holds.links i caller found)
    · intro writer next here collected
      have acted := keeps.links i _ .collect here
      simp only [Link.step, collected, Option.getD_some] at acted
      exact acted
    · exact fun writer n here => keeps.links i _ (.sinkAccepts n) here
    · exact fun writer e here => keeps.links i _ (.sinkFails e) here
    · exact fun writer here => keeps.links i _ .flushed here

lemma Keeps.readClient (keeps : Keeps P Q) (holds : world.Holds P Q) (i : Nat) :
    (world.readClient i).Holds P Q := by
  unfold World.readClient
  split
  · exact holds
  · rename_i caller _
    split
    · exact holds
    · rename_i line _
      have taken : (world.updateLine caller.line fun line =>
          { line with toDialer := { line.toDialer with segments := [] } }).Holds P Q :=
        holds.congr rfl rfl
      have read := taken.foldl line.toDialer.segments fun _ segment kept =>
        keeps.perform kept i .other fun link => keeps.links i link (.read segment)
      dsimp only
      split
      · exact keeps.perform read i .other fun link => keeps.links i link .streamEnded
      · exact read

lemma Keeps.deliver (keeps : Keeps P Q) (holds : world.Holds P Q) (i : Nat) :
    (world.deliver i).Holds P Q := by
  unfold World.deliver
  split
  · exact holds
  · split
    · exact keeps.perform holds i .delivery fun link => keeps.links i link .deliver
    · rename_i invocation _
      split
      · refine keeps.runBehindGate (holds.updateClient fun caller found => ?_) i _ invocation
        exact holds.links i caller found
      · exact holds

lemma Keeps.runClient (keeps : Keeps P Q) (holds : world.Holds P Q) (i : Nat) :
    (world.runClient i).Holds P Q := by
  have started := holds.act fun link => keeps.links i link .startReader
  have resumed := (keeps.flushClient started i).act fun link => keeps.links i link .resume
  exact keeps.deliver (keeps.readClient resumed i) i

/-! ## Servers -/

lemma Keeps.onServer (keeps : Keeps P Q) (holds : world.Holds P Q) (s : Nat)
    (event : Server.Event Handler) : (world.onServer s event).Holds P Q :=
  holds.updateHost fun host found => keeps.serves s _ event (holds.servers s host found)

lemma Keeps.readConnection (keeps : Keeps P Q) (holds : world.Holds P Q) (s c l : Nat) :
    (world.readConnection s c l).Holds P Q := by
  unfold World.readConnection
  split
  · split
    · rename_i segment rest _ _ _
      have taken : (world.updateLine l fun line =>
          { line with toListener := { line.toListener with segments := rest } }).Holds P Q :=
        holds.congr rfl rfl
      exact keeps.onServer taken s (.receive c segment)
    · split
      · exact keeps.onServer holds s (.streamEnded c)
      · exact holds
    · exact holds
  · exact holds

lemma Keeps.runJob (keeps : Keeps P Q) (holds : world.Holds P Q) (s c : Nat)
    (job : Job Handler) : (world.runJob s c job).Holds P Q := by
  unfold World.runJob
  split
  · exact holds
  · rename_i host _
    have came : ∀ waits : Bool, (if waits then
        (world.updateHost s fun host => { host with atGate := (c, job.id) :: host.atGate }).arrive
      else world).Holds P Q := by
      intro waits
      split
      · refine Holds.congr (holds.updateHost fun host found => ?_) rfl rfl
        exact holds.servers s host found
      · exact holds
    dsimp only
    generalize (job.registration.handler.passesGate && _ && _ : Bool) = waits
    specialize came waits
    generalize (ite (waits = true) _ _ : World) = between at came ⊢
    refine keeps.onServer ?_ s _
    split
    · split
      · exact keeps.onServer came s _
      · exact came
    · exact came

/-- A task that writes all it has acts on its connection alone. -/
lemma Keeps.writeAll (keeps : Keeps P Q) {s c : Nat} {server : Server Handler}
    {connection : Connection Handler} (holds : P s server)
    (found : server.connection? c = some connection) :
    P s (server.setConnection c connection
      (connection.updateWriter fun _ => connection.writer.writeAll.2)) := by
  have there : ∀ writer, (server.setConnection c connection
      (connection.updateWriter fun _ => writer)).connection? c =
        some (connection.updateWriter fun _ => writer) := by
    intro writer
    rw [Server.connection?_setConnection found, if_pos rfl]
  have again : ∀ (writer : Writer) change, (server.setConnection c connection
      (connection.updateWriter fun _ => writer)).setConnection c
        (connection.updateWriter fun _ => writer)
        ((connection.updateWriter fun _ => writer).updateWriter change) =
      server.setConnection c connection (connection.updateWriter fun _ => change writer) :=
    fun writer change => server.setConnection_updateWriter c connection (fun _ => writer) change
  refine Writer.Scripted.settle_keeps
    (fun writer => P s (server.setConnection c connection
      (connection.updateWriter fun _ => writer))) ?_ ?_ ?_ ?_ _ ?_
  · intro writer next here collected
    have acted := keeps.serves s _ (.collect c) here
    have collects : (connection.updateWriter fun _ => writer).writer.collect = some next :=
      collected
    simp only [Server.step, Server.silently, Server.onConnection, there, collects,
      Option.map_some] at acted
    rw [← again writer fun _ => next]
    exact acted
  · intro writer n here
    have acted := keeps.serves s _ (.sinkAccepts c n) here
    simp only [Server.step, Server.silently, Server.onConnection, there, Option.map_some,
      again] at acted
    exact acted
  · intro writer e here
    have acted := keeps.serves s _ (.sinkFails c e) here
    simp only [Server.step, Server.silently, Server.onConnection, there, Option.map_some,
      again] at acted
    exact acted
  · intro writer here
    have acted := keeps.serves s _ (.flushed c) here
    simp only [Server.step, Server.silently, Server.onConnection, there, Option.map_some,
      again] at acted
    exact acted
  -- Nothing is flushed by a task that is not flushing, and nothing is accepted from one that is.
  · by_cases flushing : ∃ batch, connection.writer.task = .flushing batch
    · obtain ⟨batch, flushing⟩ := flushing
      have same : connection.writer.accept 0 = connection.writer := by
        unfold Writer.accept
        rw [flushing]
      have acted := keeps.serves s server (.sinkAccepts c 0) holds
      simp only [Server.step, Server.silently, Server.onConnection, found, Option.map_some] at acted
      have unchanged : connection.updateWriter (Writer.accept · 0) =
          connection.updateWriter fun _ => connection.writer :=
        congrArg (fun writer => { connection with writer }) same
      rw [unchanged] at acted
      exact acted
    · have same : connection.writer.flushed = connection.writer := by
        unfold Writer.flushed
        split
        · rename_i batch flushes
          exact absurd ⟨batch, flushes⟩ flushing
        · rfl
      have acted := keeps.serves s server (.flushed c) holds
      simp only [Server.step, Server.silently, Server.onConnection, found, Option.map_some] at acted
      have unchanged : connection.updateWriter Writer.flushed =
          connection.updateWriter fun _ => connection.writer :=
        congrArg (fun writer => { connection with writer }) same
      rw [unchanged] at acted
      exact acted

lemma Keeps.flushConnection (keeps : Keeps P Q) (holds : world.Holds P Q) (s c l : Nat) :
    (world.flushConnection s c l).Holds P Q := by
  unfold World.flushConnection
  split
  · exact holds
  · rename_i connection found
    refine Holds.congr (holds.updateHost fun host here => ?_) rfl rfl
    unfold World.connection? at found
    rw [here] at found
    exact keeps.writeAll (holds.servers s host here) found

lemma Keeps.runConnection (keeps : Keeps P Q) (holds : world.Holds P Q) (s c : Nat) :
    (world.runConnection s c).Holds P Q := by
  unfold World.runConnection
  split
  · exact holds
  · rename_i l _
    have stopped := keeps.onServer holds s (.observeStop c)
    have read := keeps.readConnection stopped s c l
    have looked := keeps.onServer read s (.lookUp c)
    have answered := keeps.onServer looked s (.offer c .reader)
    have granted := keeps.onServer answered s .grant
    refine keeps.flushConnection (keeps.onServer (granted.foldl _ fun _ job kept => ?_) s _) s c l
    exact keeps.runJob kept s c job

lemma Keeps.runHost (keeps : Keeps P Q) (holds : world.Holds P Q) (s : Nat) :
    (world.runHost s).Holds P Q := by
  unfold World.runHost
  split
  · exact holds
  · refine (holds.foldl _ fun _ generation kept => ?_).foldl _ fun _ entry kept => ?_
    · exact keeps.onServer kept s (.endAccepting generation)
    · exact keeps.runConnection kept s entry.1

lemma Keeps.giveUpHeld (keeps : Keeps P Q) (holds : world.Holds P Q) (s : Nat) :
    (world.giveUpHeld s).Holds P Q := by
  unfold World.giveUpHeld
  split
  · exact holds
  · refine holds.foldl _ fun _ entry kept => ?_
    exact (keeps.onServer kept s (.giveUp entry.1 .reader)).foldl _ fun _ party kept =>
      keeps.onServer kept s (.giveUp entry.1 party)

/-! ## Everything runs -/

lemma Keeps.round (keeps : Keeps P Q) (holds : world.Holds P Q) : world.round.Holds P Q :=
  (holds.foldl _ fun _ i kept => keeps.runClient kept i).foldl _
    fun _ s kept => keeps.runHost kept s

lemma Keeps.rounds (keeps : Keeps P Q) (n : Nat) (holds : world.Holds P Q) :
    (World.rounds n world).Holds P Q := by
  induction n generalizing world with
  | zero => exact holds
  | succ n ih => exact ih (keeps.round holds)

/-- What every action of a server and of a link keeps, a settling world keeps. -/
theorem Keeps.settle (keeps : Keeps P Q) (holds : world.Holds P Q) : world.settle.Holds P Q := by
  have ran : world.run.Holds P Q := keeps.rounds _ holds
  exact keeps.rounds _ (ran.foldl _ fun _ s kept => keeps.giveUpHeld kept s)

end

/-- Every machine of a world has run until the next one. -/
structure Leads (world next : World) : Prop where
  servers : ∀ (s : Nat) (later : Host), next.hosts[s]? = some later →
    ∃ (host : Host) (events : List (Server.Event Handler)),
      world.hosts[s]? = some host ∧ (host.server.run events).1 = later.server
  links : ∀ (i : Nat) (later : Caller), next.clients[i]? = some later →
    ∃ (caller : Caller) (events : List (Link.Event Callback)),
      world.clients[i]? = some caller ∧ (caller.link.run events).1 = later.link

/-- To have been reached by a run is kept by every action. -/
lemma keeps_runs (world : World) :
    Keeps
      (fun s server => ∃ (host : Host) (events : List (Server.Event Handler)),
        world.hosts[s]? = some host ∧ (host.server.run events).1 = server)
      (fun i link => ∃ (caller : Caller) (events : List (Link.Event Callback)),
        world.clients[i]? = some caller ∧ (caller.link.run events).1 = link) := by
  refine ⟨fun s server event reached => ?_, fun i link event reached => ?_⟩
  · obtain ⟨host, events, here, rfl⟩ := reached
    refine ⟨host, events ++ [event], here, ?_⟩
    unfold Server.run
    rw [Machine.run_append, Machine.run_cons, Machine.run_nil]
  · obtain ⟨caller, events, here, rfl⟩ := reached
    refine ⟨caller, events ++ [event], here, ?_⟩
    unfold Link.run
    rw [Machine.run_append, Machine.run_cons, Machine.run_nil]

/-- While a world settles, every server runs and every link runs. -/
theorem leads_settle (world : World) : Leads world world.settle := by
  have settled := (keeps_runs world).settle
    ⟨fun s host here => ⟨host, [], here, rfl⟩, fun i caller here => ⟨caller, [], here, rfl⟩⟩
  exact ⟨settled.servers, settled.links⟩

end World

end Session

end RemoteCall
