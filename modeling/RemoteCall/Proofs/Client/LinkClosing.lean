import RemoteCall.Proofs.Client.Hosting
import RemoteCall.Proofs.Client.Outstanding
import RemoteCall.Proofs.Writer.Moves

/-!
# Closing a link

A link may be closed in one go or action by action, by one thread or by several, and calls, replies
and failures of the connection may come at any time in between.  Whatever comes, closing only goes
on by the actions of closing (`closing_step`), it never goes back (`begun_step`), and a link that is
closed stays so: it takes no calls, its reader is cancelled, and it has let go of its writer
(`Closed.step`).

That the table of calls is shut by then is known of the threads of a client, and what a link does is
among what they do (`exists_threads_step`).

The stages of closing are a field of the client, and no function but those of closing writes it.
That is shown function by function at the beginning.  What holds at a stage is then an invariant
over all actions (`Orderly`): at the last stage the link is closed in the sense of `Closed`.

Pools are what this is for.  A pool closes clients that others may be using, so it needs to know
what a closed link is like whatever its users do at the time, and that a link which somebody else is
closing need not be closed again.

## Main statements

* `closing_step` — closing goes on only by closing.
* `Closed.step` — what is closed stays closed.
* `begun_step` — nobody opens a client again.
* `Orderly.step` — closing does what it has to, as far as it has come.
-/

namespace RemoteCall

variable {κ : Type}

/-! ## Closing goes on only by closing -/

namespace Client

lemma closing_issue (client : Client κ) (request : Request) (callback : Option κ) :
    (client.issue request callback).1.closing = client.closing := by
  unfold issue
  split
  · rfl
  · cases callback with
    | none | some =>
      dsimp only
      split
      · rfl
      · exact (conclude_tables _ _ (.unsent Status.notConnected)).closing

lemma closing_sendFailed (client : Client κ) (xid : Int64) (e : Error) :
    (client.sendFailed xid e).1.closing = client.closing := by
  unfold sendFailed
  split
  · rfl
  · exact (conclude_tables (client.removePending xid) _ (.unsent (unsentStatus e))).closing

lemma closing_abandon (client : Client κ) (xid : Int64) :
    (client.abandon xid).1.closing = client.closing := by
  unfold abandon
  split
  · rfl
  · exact (conclude_tables (client.removePending xid) _
      (.settled Status.timedOut none .caller)).closing

lemma closing_receive (client : Client κ) (frame : Frame) :
    (client.receive frame).1.closing = client.closing := by
  unfold receive
  split
  · rfl
  · exact (conclude_tables (client.removePending frame.xid) _
      (.settled frame.status (some frame.payload) .reader)).closing

lemma closing_disconnect (client : Client κ) (status : Status) (runner : Runner) :
    (client.disconnect status runner).1.closing = client.closing :=
  Threaded.closing_completeAll _ status runner _

lemma closing_deliver (client : Client κ) : client.deliver.1.closing = client.closing := by
  unfold deliver
  split
  · rfl
  · rw [runCallback_eq]
    rfl

lemma closing_close (client : Client κ) (going : client.closing = .notClosed) :
    client.close.1.closing = .closed := by
  unfold close
  rw [going]
  rfl

end Client

namespace Link

open Client (Effect)

lemma closing_transmit (link : Link κ) (frame : Frame) :
    (link.transmit frame).1.client.closing = link.client.closing := by
  unfold transmit
  split
  · rfl
  · rfl
  · rw [client_onClient]
    exact Client.closing_sendFailed _ _ _

lemma closing_transmitAll (link : Link κ) (effects : List (Effect κ)) :
    (link.transmitAll effects).1.client.closing = link.client.closing := by
  induction effects generalizing link with
  | nil => rfl
  | cons effect rest ih =>
    cases effect with
    | transmit frame => exact (ih _).trans (closing_transmit link frame)
    | issued | refused | invoked => exact ih link

lemma closing_receiveAll (link : Link κ) (frames : List Frame) :
    (link.receiveAll frames).1.client.closing = link.client.closing := by
  induction frames generalizing link with
  | nil => rfl
  | cons frame rest ih =>
    have received : (link.onClient (·.receive frame)).1.client.closing = link.client.closing := by
      rw [client_onClient]
      exact Client.closing_receive _ _
    exact (ih _).trans received

lemma closing_endReader (link : Link κ) :
    link.endReader.1.client.closing = link.client.closing := by
  unfold endReader
  rw [client_onClient]
  exact Client.closing_disconnect _ _ _

theorem closing_step (link : Link κ) {event : Event κ} (whole : event ≠ .close)
    (part : event ≠ .closeNext) :
    (link.step event).1.client.closing = link.client.closing := by
  cases event with
  | close => exact absurd rfl whole
  | closeNext => exact absurd rfl part
  -- every other action is one of the client, which leaves the field alone, perhaps followed by
  -- frames that are handed to the writer
  | issue request callback =>
    exact (closing_transmitAll _ _).trans (Client.closing_issue link.client request callback)
  | resume =>
    show (link.resume.getD (link, [])).1.client.closing = _
    unfold resume
    split
    · rfl
    · rw [Option.getD_some, client_onClient]
      exact Client.closing_sendFailed _ _ _
    · rfl
  | abandon xid =>
    show (link.onClient (·.abandon xid)).1.client.closing = _
    rw [client_onClient]
    exact Client.closing_abandon _ xid
  | startReader =>
    show link.startReader.client.closing = _
    unfold startReader
    split <;> rfl
  | read bytes =>
    show (link.read bytes).1.client.closing = _
    unfold read
    split
    · split
      · exact closing_receiveAll _ _
      · exact closing_endReader _
    · rfl
  | streamEnded =>
    show link.streamEnded.1.client.closing = _
    unfold streamEnded
    split
    · exact closing_endReader _
    · rfl
  | deliver =>
    show (link.onClient Client.deliver).1.client.closing = _
    rw [client_onClient]
    exact Client.closing_deliver _
  | dropTasks =>
    show link.dropTasks.1.client.closing = _
    unfold dropTasks
    dsimp only
    split
    · exact closing_endReader _
    · rfl
  | collect | sinkAccepts | sinkFails | flushed => rfl

end Link

/-! ## Closed for good -/

/-- No sender comes back. -/
lemma Writer.released_of_moves {writer next : Writer} (moves : Writer.Moves writer next)
    (released : writer.released = true) : next.released = true := by
  induction moves with
  | refl => exact released
  | tail _ move ih =>
    cases move with
    | pass frame =>
      unfold Writer.pass
      split
      · exact ih
      · split <;> exact ih
    | resume resumed =>
      unfold Writer.resume at resumed
      grind
    | collect collected =>
      unfold Writer.collect at collected
      grind
    | accept n =>
      unfold Writer.accept Writer.fail
      grind
    | fail e =>
      unfold Writer.fail
      grind
    | flushed =>
      unfold Writer.flushed
      grind
    | release => rfl
    | abort =>
      unfold Writer.abort
      grind

namespace Link

/-- A client is closed: it takes no calls, its reader is cancelled, and it has let go of the
writer. -/
structure Closed (link : Link κ) : Prop where
  closing : link.client.closing = .closed
  isOpen : link.client.isOpen = false
  reader : link.reader = .ended
  released : link.writer.released = true

/-- Closing does what it has to, as far as it has come. -/
structure Orderly (link : Link κ) : Prop where
  failed : link.client.closing = .callsFailed ∨ link.client.closing = .closed →
    link.client.isOpen = false
  closed : link.client.closing = .closed → link.Closed

lemma orderly_connected (registry : Registry) (settings : ClientSettings) :
    (connected registry settings : Link κ).Orderly :=
  ⟨fun closing => (nomatch closing), nofun⟩

/-- The threads of a link only do what threads do. -/
theorem exists_threads_step (link : Link κ) (event : Event κ) :
    ∃ acts, ((⟨link.client, [], []⟩ : Threaded κ).run acts).1 =
      ⟨(link.step event).1.client, [], []⟩ := by
  obtain ⟨events, led⟩ := Hosted.leads_step link event
  obtain ⟨acts, acted⟩ := Hosted.threads_run (Hosted.ofLink link) events
  rw [led] at acted
  exact ⟨acts, congrArg Prod.fst acted⟩

lemma shut_step {link : Link κ} (shut : link.client.isOpen = false) (event : Event κ) :
    (link.step event).1.client.isOpen = false := by
  obtain ⟨acts, acted⟩ := exists_threads_step link event
  have stays : ((⟨link.client, [], []⟩ : Threaded κ).run acts).1.client.isOpen = false :=
    Threaded.shut_run shut acts
  exact (congrArg (·.client.isOpen) acted).symm.trans stays

lemma failed_step {link : Link κ}
    (failed : (⟨link.client, [], []⟩ : Threaded κ).Failed) (event : Event κ) :
    (⟨(link.step event).1.client, [], []⟩ : Threaded κ).Failed := by
  obtain ⟨acts, acted⟩ := exists_threads_step link event
  have keeps : ∀ (state : Threaded κ) (act : Threaded.Event κ), state.Failed →
      (state.step act).1.Failed := fun _ act failed => Threaded.failed_step failed act
  have stays := Machine.run_invariant keeps failed acts
  exact acted ▸ stays

lemma reader_step {link : Link κ} (ended : link.reader = .ended) (event : Event κ) :
    (link.step event).1.reader = .ended := by
  obtain ⟨events, led⟩ := Hosted.leads_step link event
  have keeps : ∀ (state : Hosted κ) (act : Hosted.Event κ), state.reader = .ended →
      (state.step act).1.reader = .ended := by
    intro state act ended
    unfold Hosted.step
    cases act with
    | act event => exact ended
    | dropTasks => rfl
    | startReader | endReader | cancelReader =>
      dsimp only
      split
      · simp_all
      · exact ended
  have stays : ((Hosted.ofLink link).run events).1.reader = .ended :=
    Machine.run_invariant keeps ended events
  exact (congrArg Hosted.reader led).symm.trans stays

lemma released_onClient (link : Link κ) {act : Client κ → Client κ × List (Client.Effect κ)}
    (shut : (link.onClient act).1.client.isOpen = false) :
    (link.onClient act).1.writer.released = true := by
  rw [client_onClient] at shut
  unfold onClient settle
  dsimp only
  rw [if_neg (by rw [shut]; exact Bool.false_ne_true)]
  rfl

lemma close_of_begun {link : Link κ} (begun : link.client.closing ≠ .notClosed) :
    link.close.1 = link := by
  unfold close
  split
  · exact absurd ‹_› begun
  · rfl

/-- What is closed stays closed. -/
theorem Closed.step {link : Link κ} (closed : link.Closed) (event : Event κ) :
    (link.step event).1.Closed := by
  refine ⟨?_, shut_step closed.isOpen event, reader_step closed.reader event,
    Writer.released_of_moves (moves_step link event) closed.released⟩
  by_cases whole : event = .close
  · subst whole
    show link.close.1.client.closing = _
    rw [close_of_begun (by rw [closed.closing]; exact Closing.noConfusion)]
    exact closed.closing
  by_cases part : event = .closeNext
  · subst part
    show (link.onClient Client.closeNext).1.client.closing = _
    rw [client_onClient]
    unfold Client.closeNext
    rw [closed.closing]
    exact closed.closing
  · rw [closing_step link whole part]
    exact closed.closing

theorem Orderly.step {link : Link κ} (orderly : link.Orderly) (event : Event κ) :
    (link.step event).1.Orderly := by
  have failed : (⟨(link.step event).1.client, [], []⟩ : Threaded κ).Failed :=
    failed_step orderly.failed event
  refine ⟨failed, fun closing => ?_⟩
  have shut : (link.step event).1.client.isOpen = false := failed (Or.inr closing)
  by_cases whole : event = .close
  · subst whole
    by_cases going : link.client.closing = .notClosed
    · have acted : (link.step .close).1 =
          (({ link with reader := .ended } : Link κ).onClient Client.close).1 := by
        show link.close.1 = _
        unfold close
        rw [going]
      rw [acted] at closing shut ⊢
      have reader : (({ link with reader := .ended } : Link κ).onClient Client.close).1.reader =
          .ended := by
        unfold onClient settle
        dsimp only
        split <;> rfl
      exact ⟨closing, shut, reader, released_onClient _ shut⟩
    · have kept : (link.step .close).1 = link := close_of_begun going
      rw [kept] at closing ⊢
      exact orderly.closed closing
  by_cases part : event = .closeNext
  · subst part
    have shut' : (link.onClient Client.closeNext).1.client.isOpen = false := shut
    exact ⟨closing, shut, if_pos closing, released_onClient link shut'⟩
  · rw [closing_step link whole part] at closing
    exact (orderly.closed closing).step event

/-- Nobody opens a client again that is closed, or being closed. -/
theorem begun_step {link : Link κ} (begun : link.client.closing ≠ .notClosed) (event : Event κ) :
    (link.step event).1.client.closing ≠ .notClosed := by
  by_cases whole : event = .close
  · subst whole
    show link.close.1.client.closing ≠ _
    rwa [close_of_begun begun]
  by_cases part : event = .closeNext
  · subst part
    show (link.onClient Client.closeNext).1.client.closing ≠ _
    rw [client_onClient]
    unfold Client.closeNext
    split
    · exact absurd ‹_› begun
    · unfold Client.failPending
      rw [Client.closing_disconnect]
      exact Closing.noConfusion
    · exact Closing.noConfusion
    · exact begun
  · rwa [closing_step link whole part]

/-- Who closes a client in one go leaves it closed. -/
lemma whole_close {link : Link κ}
    (whole : link.client.closing = .notClosed ∨ link.client.closing = .closed) :
    link.close.1.client.closing = .notClosed ∨ link.close.1.client.closing = .closed := by
  rcases whole with going | closed
  · unfold close
    rw [going, client_onClient]
    exact Or.inr (Client.closing_close _ going)
  · rw [close_of_begun (by rw [closed]; exact Closing.noConfusion)]
    exact Or.inr closed

lemma whole_step {link : Link κ}
    (whole : link.client.closing = .notClosed ∨ link.client.closing = .closed) {event : Event κ}
    (other : event ≠ .closeNext) : (link.step event).1.client.closing = .notClosed ∨
      (link.step event).1.client.closing = .closed := by
  by_cases closes : event = .close
  · subst closes
    exact whole_close whole
  · rwa [closing_step link closes other]

/-- Whoever closes a client finds it closed, or being closed by somebody else. -/
lemma begun_close (link : Link κ) : link.close.1.client.closing ≠ .notClosed := by
  by_cases going : link.client.closing = .notClosed
  · unfold close
    rw [going, client_onClient, Client.closing_close _ going]
    exact Closing.noConfusion
  · rwa [close_of_begun going]

end Link

end RemoteCall
