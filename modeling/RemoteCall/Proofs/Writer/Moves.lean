import Mathlib.Logic.Relation
import RemoteCall.Client.Link
import RemoteCall.Proofs.Server.Order
import RemoteCall.Proofs.Server.Racing

/-!
# What connections do to their writers

A client and a server act on the writers of their connections in many places, but whatever they do
is one of the few actions that a writer has (`Writer.Move`).  So what these actions keep holds of
the writer of every client (`Link.moves_run`) and of every connection of a server
(`Racing.moves_run`) at any time.

A move need not be possible for any sender that follows the rules: a sender goes on in `Move.pass`
whatever the count is.  That covers senders that have read the count some time ago, as those of
`Racing` have, and what is proved of moves is proved of them, too.

The lemmas go through the functions of a link and of a connection and say of each that it is a chain
of moves.  Those that do not touch the writer are chains of length zero.  Nothing is said of how
many moves there are or in which order, so a change of these functions that keeps to the actions of
a writer leaves the two main statements as they are.

## Main statements

* `Link.moves_run` — the writer of a client moves.
* `Racing.moves_run` — the writers of a server move.
-/

namespace RemoteCall

namespace Writer

/-- An action on a writer. -/
inductive Move (writer : Writer) : Writer → Prop
  /-- A sender goes on that has found the count below the limit. -/
  | pass (frame : Frame) : Move writer (writer.pass frame).2
  | resume {outcome : Sent} {next : Writer} (resumed : writer.resume = some (outcome, next)) :
    Move writer next
  | collect {next : Writer} (collected : writer.collect = some next) : Move writer next
  | accept (n : Nat) : Move writer (writer.accept n)
  | fail (e : Error) : Move writer (writer.fail e)
  | flushed : Move writer writer.flushed
  | release : Move writer writer.release
  | abort : Move writer writer.abort

/-- One action after the other. -/
abbrev Moves : Writer → Writer → Prop := Relation.ReflTransGen Move

lemma moves_send (writer : Writer) (sender : Sender) (frame : Frame) :
    Moves writer (writer.send sender frame).2 := by
  rw [send_eq]
  split
  · exact .refl
  · exact .single (.pass frame)

end Writer

open Writer (Moves)

/-! ## Clients -/

namespace Link

open Client (Effect)

variable {κ : Type}

lemma moves_settle (link : Link κ) : Moves link.writer link.settle.writer := by
  unfold settle
  split
  · exact .refl
  · exact .single .release

lemma moves_onClient (link : Link κ) (act : Client κ → Client κ × List (Effect κ)) :
    Moves link.writer (link.onClient act).1.writer :=
  moves_settle { link with client := (act link.client).1 }

lemma moves_transmit (link : Link κ) (frame : Frame) :
    Moves link.writer (link.transmit frame).1.writer := by
  have sent := Writer.moves_send link.writer .thread frame
  unfold transmit
  split
  · rename_i writer result
    rwa [result] at sent
  · rename_i writer result
    rwa [result] at sent
  · rename_i e writer result
    rw [result] at sent
    exact sent.trans (moves_onClient { link with writer } (·.sendFailed frame.xid e))

lemma moves_transmitAll (link : Link κ) (effects : List (Effect κ)) :
    Moves link.writer (link.transmitAll effects).1.writer := by
  induction effects generalizing link with
  | nil => exact .refl
  | cons effect rest ih =>
    cases effect with
    | transmit frame => exact (link.moves_transmit frame).trans (ih _)
    | _ => exact ih link

lemma moves_receiveAll (link : Link κ) (frames : List Frame) :
    Moves link.writer (link.receiveAll frames).1.writer := by
  induction frames generalizing link with
  | nil => exact .refl
  | cons frame rest ih =>
    exact (link.moves_onClient (·.receive frame)).trans (ih (link.onClient (·.receive frame)).1)

lemma moves_resume {link next : Link κ} {effects : List (Effect κ)}
    (resumed : link.resume = some (next, effects)) : Moves link.writer next.writer := by
  unfold resume at resumed
  split at resumed
  · rename_i result
    cases resumed
    exact .single (.resume result)
  · rename_i xid rest e writer _ result
    cases resumed
    exact .trans (.single (.resume result))
      (moves_onClient { link with writer, queueing := rest } (·.sendFailed xid e))
  · cases resumed

lemma moves_endReader (link : Link κ) : Moves link.writer link.endReader.1.writer :=
  moves_onClient { link with reader := .ended } _

lemma moves_step (link : Link κ) (event : Event κ) :
    Moves link.writer (link.step event).1.writer := by
  -- Each action of a link moves the writer by sends, by a release, or as an action of its task.
  cases event with
  | issue request callback =>
    exact moves_transmitAll { link with client := (link.client.issue request callback).1 }
      (link.client.issue request callback).2
  | resume =>
    show Moves link.writer (link.resume.getD (link, [])).1.writer
    cases resumed : link.resume with
    | none => exact .refl
    | some result => exact moves_resume resumed
  | abandon xid => exact link.moves_onClient (·.abandon xid)
  | startReader =>
    show Moves link.writer link.startReader.writer
    unfold startReader
    split
    · exact .refl
    · exact .refl
  | read bytes =>
    show Moves link.writer (link.read bytes).1.writer
    unfold read
    split
    · split
      · rename_i frames reassembly _
        exact moves_receiveAll { link with reassembly } frames
      · rename_i reassembly _
        exact moves_endReader { link with reassembly }
    · exact .refl
  | streamEnded =>
    show Moves link.writer link.streamEnded.1.writer
    unfold streamEnded
    split
    · exact link.moves_endReader
    · exact .refl
  | deliver => exact link.moves_onClient Client.deliver
  | closeNext => exact link.moves_onClient Client.closeNext
  | close =>
    show Moves link.writer link.close.1.writer
    unfold close
    split
    · exact moves_onClient { link with reader := .ended } Client.close
    · exact .refl
  | dropTasks =>
    have aborted : Moves link.writer link.writer.abort := .single .abort
    show Moves link.writer link.dropTasks.1.writer
    unfold dropTasks
    dsimp only
    split
    · exact aborted.trans (moves_endReader { link with writer := link.writer.abort })
    · exact aborted
  | collect =>
    show Moves link.writer (link.writer.collect.getD link.writer)
    cases collected : link.writer.collect with
    | none => exact .refl
    | some next => exact .single (.collect collected)
  | sinkAccepts n => exact .single (.accept n)
  | sinkFails e => exact .single (.fail e)
  | flushed => exact .single .flushed

theorem moves_run (link : Link κ) (events : List (Event κ)) :
    Moves link.writer (link.run events).1.writer := by
  have keeps : ∀ (state : Link κ) event, Moves link.writer state.writer →
      Moves link.writer (state.step event).1.writer :=
    fun state event moves => moves.trans (state.moves_step event)
  exact Machine.run_invariant keeps .refl events

end Link

/-! ## Connections of a server -/

namespace Connection

variable {η : Type} {old new : Connection η}

lemma moves_settle (connection : Connection η) :
    Moves connection.writer connection.settle.writer := by
  unfold settle
  split
  · exact .single .release
  · exact .refl

lemma moves_endReading (connection : Connection η) :
    Moves connection.writer connection.endReading.writer :=
  moves_settle { connection with reader := .ended, backlog := [] }

lemma moves_endJob (connection : Connection η) (id : Nat) :
    Moves connection.writer (connection.endJob id).writer :=
  moves_settle { connection with jobs := connection.jobs.filter (·.id ≠ id) }

lemma moves_sent (connection : Connection η) (party : Party) :
    Moves connection.writer (connection.sent party).writer := by
  cases party with
  | job id => exact connection.moves_endJob id
  | reader =>
    unfold sent
    dsimp only
    split
    · exact .refl
    · exact .refl

lemma moves_unsent (connection : Connection η) (party : Party) :
    Moves connection.writer (connection.unsent party).writer := by
  cases party with
  | job id => exact connection.moves_endJob id
  | reader => exact connection.moves_endReading

lemma writer_wait (connection : Connection η) (reply : Frame) (party : Party) :
    (connection.wait reply party).writer = connection.writer := by
  cases party <;> rfl

lemma moves_pass {party : Party} {delivery : Delivery}
    (passed : old.pass party = some (delivery, new)) : Moves old.writer new.writer := by
  unfold pass at passed
  split at passed
  · cases passed
  · rename_i reply outgoing
    have moves : Moves old.writer (old.writer.pass reply).2 := .single (.pass reply)
    split at passed
    · rename_i writer result
      cases passed
      rw [result] at moves
      exact moves.trans (moves_sent { old with writer } party)
    · rename_i writer result
      cases passed
      rw [writer_wait]
      rwa [result] at moves
    · rename_i e writer result
      cases passed
      rw [result] at moves
      exact moves.trans (moves_unsent { old with writer } party)

lemma moves_resume {delivery : Delivery} (resumed : old.resume = some (delivery, new)) :
    Moves old.writer new.writer := by
  unfold resume at resumed
  split at resumed
  · rename_i party rest reply others writer _ _ result
    cases resumed
    exact .trans (.single (.resume result))
      (moves_sent { old with writer, queueing := rest } party)
  · rename_i party rest reply others e writer _ _ result
    cases resumed
    exact .trans (.single (.resume result))
      (moves_unsent { old with writer, queueing := rest } party)
  · cases resumed

lemma moves_reads {functions : Functions η} {entries : List (Racing.Entry η)}
    (reads : old.Reads functions entries new) : Moves old.writer new.writer := by
  cases reads with
  | @receive bytes _ received =>
    obtain ⟨-, -, ⟨frames, -, rfl⟩ | ⟨-, rfl⟩⟩ := receive_cases received
    · exact .refl
    · exact moves_endReading { old with reassembly := (old.reassembly.push bytes).2 }
  | streamEnded ended =>
    obtain ⟨-, -, rfl⟩ := streamEnded_cases ended
    exact old.moves_endReading
  | lookUp looked =>
    obtain ⟨-, rest, -, -, rfl⟩ := lookUp_cases looked
    exact .refl

lemma Acts.moves [Handles η] {registry : Registry} {limit : UInt32} {functions : Functions η}
    {entries : List (Racing.Entry η)} (acts : old.Acts registry limit functions entries new) :
    Moves old.writer new.writer := by
  cases acts with
  | read reads => exact moves_reads reads
  | finish => exact .refl
  | pass passed => exact moves_pass passed
  | expire => exact old.moves_unsent _
  | resume resumed => exact moves_resume resumed
  | collect collected => exact .single (.collect collected)
  | accept n => exact .single (.accept n)
  | fail e => exact .single (.fail e)
  | flushed => exact .single .flushed
  | stop =>
    unfold Connection.stop
    split
    · exact .trans (.single .abort) (moves_endReading (old.updateWriter Writer.abort))
    · exact .refl

end Connection

namespace Racing

variable {η : Type} {registry : Registry} {settings : ServerSettings} {server next : Server η}

/-- Every connection of a server has a writer of its settings to begin with. -/
structure Moved (settings : ServerSettings) (server : Server η) : Prop where
  settings_eq : server.settings = settings
  moves : ∀ c connection, server.connection? c = some connection →
    Moves (.start settings.queue) connection.writer

lemma Moved.touch (moved : Moved settings server) {c : Nat} {old new : Connection η}
    (touches : Server.Touches c old new server next) (moves : Moves old.writer new.writer) :
    Moved settings next := by
  refine ⟨touches.settings.trans moved.settings_eq, ?_⟩
  intro k connection found
  rw [touches.connections] at found
  split at found
  · cases found
    exact (moved.moves c old touches.found).trans moves
  · exact moved.moves k connection found

variable [Handles η]

lemma Moved.steps (moved : Moved settings server) {entries : List (Nat × Entry η)}
    (steps : Steps server next entries) : Moved settings next := by
  cases steps with
  | aside same sameRegistry sameSettings =>
    refine ⟨sameSettings.trans moved.settings_eq, ?_⟩
    intro c connection found
    rw [Server.connection?_congr same] at found
    exact moved.moves c connection found
  | accepted accepted =>
    refine ⟨(Server.fields_accept accepted).2.1.trans moved.settings_eq, ?_⟩
    intro c connection found
    rw [Server.connection?_accept accepted, Option.or_eq_some_iff] at found
    rcases found with present | ⟨-, new⟩
    · exact moved.moves c connection present
    · split at new
      · cases new
        rw [moved.settings_eq]
        exact .refl
      · cases new
  | starts started touches =>
    obtain ⟨registration, request, -, rfl⟩ := Connection.startJob_cases started
    exact moved.touch touches .refl
  | acts acts touches => exact moved.touch touches acts.moves

theorem moves_run (created : Server.create registry settings = .ok server)
    (events : List (Event η)) : Moved settings (run server events).1 := by
  have moved : Moved settings server := by
    unfold Server.create at created
    split at created
    · cases created
    · cases created
      exact ⟨rfl, nofun⟩
  exact Machine.run_invariant (fun state event moved => moved.steps (steps_step state event)) moved
    events

end Racing

end RemoteCall
