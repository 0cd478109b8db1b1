import RemoteCall.Proofs.Frame.Reassembly
import RemoteCall.Proofs.Server.Connection
import RemoteCall.Proofs.System.History

/-!
# The side of the server

`Connection.Sound` is what holds of a connection of the server at any time, given what has happened
on it.  The requests that were looked up are the first of those that the client sent; each was
looked up under a registration for its call ID, and its handler was called at most once, with the
arguments that the request encodes; and every reply with the status of success encodes what a
handler returned for a request of its transaction ID.

## The invariant

The last of these is what a client relies on (`Justified`), and the others carry it.  A reply is
made from the result of a handler, so the call of the handler must be in the history, with the
arguments of the request; the request waits, together with its registration, from the look-up until
a handler has it, and both must be what was looked up; and the look-up takes the next frame of what
the connection has read, which must be what the client has sent.

That a handler is called at most once for a request is a matter of counting (`counted`): the
requests of one transaction ID whose handlers were called, and those whose handlers are still to be
called, are no more than those that were looked up.

Replies are looked after in all the places where they can be: made but not yet sent, waiting for
room in the queue, and in the queue.  A connection whose reader has ended may be sent anything; it
does not look (`Sound.unserved`).

## The steps

There is one lemma for each action of a connection.  Most actions move replies from one place to
another and share `Sound.grow`; `Sound.dispatch` and `Sound.finish` are the two that make something
happen.
-/

namespace RemoteCall

/-- What a server and its clients have agreed on: the structs, the types of every call, and the
payload limit of the server. -/
structure Terms where
  registry : Registry
  types : CallId → List Ty × List Ty
  limit : UInt32
  onWire : limit ≤ Header.protocolLimit

/-- A registration is for the types that were agreed on. -/
def Terms.Has {η : Type} (terms : Terms) (registration : Registration η) : Prop :=
  terms.types registration.callId = (registration.argTypes, registration.resultTypes)

namespace Connection

open RemoteCall.Frame Happening

variable {η : Type}

/-- A reply can be sent, and if it reports success then it encodes what a handler returned. -/
def Justified (terms : Terms) (history : List (Happening η)) (reply : Frame) : Prop :=
  Fits Header.protocolLimit reply ∧
    (reply.status = Status.ok → ∃ handling ∈ handlings history,
      handling.request.xid = reply.xid ∧ ∃ results, handling.outcome = .returned results ∧
        handling.registration.encodeResults? terms.registry terms.limit results =
          some reply.payload)

structure Sound (terms : Terms) (history : List (Happening η)) (received written : Bytes)
    (connection : Connection η) : Prop where
  streams : connection.writer.Streams (replies history) written
  reading : connection.isServed = true →
    Reassembly.Received terms.limit received connection.reassembly ∧
      dispatches history ++ connection.backlog = (parse terms.limit received).frames
  dispatched : dispatches history <+: requests history
  looked : ∀ frame registration, .dispatched frame (some registration) ∈ history →
    registration.callId = frame.callId ∧ terms.Has registration
  begun : ∀ entry ∈ connection.underway, .dispatched entry.2 (some entry.1) ∈ history
  /-- No request is handled twice. -/
  counted : ∀ xid, (handlings history).countP (·.request.xid = xid) +
    connection.underway.countP (·.2.xid = xid) ≤ (dispatches history).countP (·.xid = xid)
  handled : ∀ handling ∈ handlings history,
    .dispatched handling.request (some handling.registration) ∈ history ∧
      handling.registration.arguments? terms.registry handling.request.payload =
        some handling.args
  justified : ∀ reply ∈ connection.unsentReplies ++ (connection.writer.waiting ++
    replies history), Justified terms history reply

lemma sound_accepted (terms : Terms) (generation : Nat) {settings : ServerSettings}
    (limit : settings.maxPayload = terms.limit) :
    Sound terms ([] : List (Happening η)) [] [] (accepted generation settings) := by
  refine ⟨Writer.streams_start _, ?_, List.prefix_refl _, ?_, ?_, fun _ => Nat.zero_le _, ?_, ?_⟩
  · intro _
    rw [parse_nil, ← limit]
    exact ⟨Reassembly.received_fresh _, rfl⟩
  · intro frame registration absent
    cases absent
  · intro entry absent
    cases absent
  · intro handling absent
    cases absent
  · intro reply absent
    cases absent

section

variable {terms : Terms} {history : List (Happening η)} {received written : Bytes}
  {connection next : Connection η}

lemma Justified.mono {reply : Frame} (justified : Justified terms history reply)
    (seen : List (Happening η)) : Justified terms (history ++ seen) reply := by
  refine ⟨justified.1, fun success => ?_⟩
  obtain ⟨handling, called, rest⟩ := justified.2 success
  refine ⟨handling, ?_, rest⟩
  rw [handlings_append]
  exact List.mem_append_left _ called

/-- A reply that says why a request failed needs no handler. -/
lemma justified_errorReply {status : Status} (xid : Int64) (failure : status ≠ Status.ok) :
    Justified terms history (.errorReply xid status) :=
  ⟨fits_ofPayload xid status (Nat.zero_le _) (Nat.zero_le _),
    fun success => absurd success failure⟩

/-- What the client may read was sent as a reply. -/
lemma Sound.fits (sound : Sound terms history received written connection) :
    ∀ reply ∈ replies history, Fits Header.protocolLimit reply := by
  intro reply sent
  exact (sound.justified reply (List.mem_append_right _ (List.mem_append_right _ sent))).1

/-! ## What changes nothing -/

lemma Sound.ease (sound : Sound terms history received written connection)
    (eases : Eases connection next) : Sound terms history received written next := by
  refine ⟨eases.streams _ _ sound.streams, ?_, sound.dispatched, sound.looked, ?_, ?_,
    sound.handled, ?_⟩
  · intro served
    obtain ⟨before, reassembly, backlog⟩ := eases.reading served
    rw [reassembly, backlog]
    exact sound.reading before
  · intro entry present
    exact sound.begun entry (eases.underway.subset present)
  · intro xid
    have fewer := eases.underway.countP_le (p := (·.2.xid = xid))
    have before := sound.counted xid
    omega
  · intro reply present
    rw [eases.waiting] at present
    apply sound.justified
    rcases List.mem_append.mp present with unsent | queued
    · exact List.mem_append_left _ (eases.unsent reply unsent)
    · exact List.mem_append_right _ queued

/-! ## What the server does not look up or handle -/

lemma Sound.looked_append (sound : Sound terms history received written connection)
    {seen : List (Happening η)} (quiet : dispatches seen = []) (frame : Frame)
    (registration : Registration η)
    (shown : .dispatched frame (some registration) ∈ history ++ seen) :
    registration.callId = frame.callId ∧ terms.Has registration := by
  rcases List.mem_append.mp shown with before | new
  · exact sound.looked frame registration before
  · have absent := mem_dispatches new
    rw [quiet] at absent
    cases absent

lemma Sound.handled_append (sound : Sound terms history received written connection)
    {seen : List (Happening η)} (quiet : handlings seen = []) {handling : Handling η}
    (called : handling ∈ handlings (history ++ seen)) :
    .dispatched handling.request (some handling.registration) ∈ history ++ seen ∧
      handling.registration.arguments? terms.registry handling.request.payload =
        some handling.args := by
  rw [handlings_append, quiet, List.append_nil] at called
  obtain ⟨shown, decoded⟩ := sound.handled handling called
  exact ⟨List.mem_append_left _ shown, decoded⟩

/-- Nothing was looked up or handled; the writer goes on, with replies that are known. -/
lemma Sound.grow {seen : List (Happening η)} {writer : Writer} {written' : Bytes}
    (sound : Sound terms history received written connection)
    (quiet : dispatches seen = [] ∧ handlings seen = [])
    (streams : writer.Streams (replies (history ++ seen)) written')
    (waiting : ∀ reply ∈ writer.waiting,
      reply ∈ connection.unsentReplies ++ connection.writer.waiting)
    (queued : ∀ reply ∈ replies seen,
      reply ∈ connection.unsentReplies ++ connection.writer.waiting) :
    Sound terms (history ++ seen) received written' { connection with writer } := by
  have dispatches_eq : dispatches (history ++ seen) = dispatches history := by
    rw [dispatches_append, quiet.1, List.append_nil]
  have handlings_eq : handlings (history ++ seen) = handlings history := by
    rw [handlings_append, quiet.2, List.append_nil]
  have known : ∀ reply ∈ connection.unsentReplies ++ connection.writer.waiting,
      Justified terms (history ++ seen) reply := by
    intro reply present
    refine (sound.justified reply ?_).mono seen
    rw [← List.append_assoc]
    exact List.mem_append_left _ present
  refine ⟨streams, ?_, ?_, sound.looked_append quiet.1, ?_, ?_,
    fun handling => sound.handled_append quiet.2, ?_⟩
  · rw [dispatches_eq]
    exact sound.reading
  · rw [dispatches_eq, requests_append]
    exact sound.dispatched.trans (List.prefix_append _ _)
  · intro entry present
    exact List.mem_append_left _ (sound.begun entry present)
  · intro xid
    rw [handlings_eq, dispatches_eq]
    exact sound.counted xid
  · intro reply present
    rcases List.mem_append.mp present with unsent | others
    · exact known reply (List.mem_append_left _ unsent)
    · rcases List.mem_append.mp others with waits | sent
      · exact known reply (waiting reply waits)
      · rw [replies_append] at sent
        rcases List.mem_append.mp sent with before | new
        · refine (sound.justified reply ?_).mono seen
          exact List.mem_append_right _ (List.mem_append_right _ before)
        · exact known reply (queued reply new)

/-- A view that shows neither calls nor requests shows nothing that a client does. -/
lemma filterMap_of_client {α : Type} {view : Happening η → Option α}
    {seen : List (Happening η)} (apart : ∀ happening ∈ seen,
      (∃ xid request, happening = .issued xid request) ∨ ∃ frame, happening = .requested frame)
    (issued : ∀ xid request, view (.issued xid request) = none)
    (requested : ∀ frame, view (.requested frame) = none) : seen.filterMap view = [] := by
  rw [List.filterMap_eq_nil_iff]
  intro happening shown
  rcases apart happening shown with ⟨xid, request, rfl⟩ | ⟨frame, rfl⟩
  · exact issued xid request
  · exact requested frame

/-- What the client does is of no concern to the server. -/
lemma Sound.client (sound : Sound terms history received written connection)
    {seen : List (Happening η)} (apart : ∀ happening ∈ seen,
      (∃ xid request, happening = .issued xid request) ∨ ∃ frame, happening = .requested frame) :
    Sound terms (history ++ seen) received written connection := by
  have none_dispatched : dispatches seen = [] :=
    filterMap_of_client apart (fun _ _ => rfl) fun _ => rfl
  have none_handled : handlings seen = [] :=
    filterMap_of_client apart (fun _ _ => rfl) fun _ => rfl
  have none_replied : replies seen = [] :=
    filterMap_of_client apart (fun _ _ => rfl) fun _ => rfl
  refine sound.grow ⟨none_dispatched, none_handled⟩ ?_ ?_ ?_
  · rw [replies_append, none_replied, List.append_nil]
    exact sound.streams
  · intro reply waits
    exact List.mem_append_right _ waits
  · rw [none_replied]
    intro reply absent
    cases absent

/-- The writer goes on, with replies that are known. -/
lemma Sound.write {writer : Writer} {written' : Bytes}
    (sound : Sound terms history received written connection)
    (streams : writer.Streams (replies history) written')
    (waiting : ∀ reply ∈ writer.waiting,
      reply ∈ connection.unsentReplies ++ connection.writer.waiting) :
    Sound terms history received written' { connection with writer } := by
  rw [← List.append_nil history] at streams ⊢
  exact sound.grow ⟨rfl, rfl⟩ streams waiting fun _ absent => by cases absent

/-- A reply that is known is queued. -/
lemma Sound.reply {writer : Writer} {reply : Frame}
    (sound : Sound terms history received written connection)
    (known : reply ∈ connection.unsentReplies ++ connection.writer.waiting)
    (streams : writer.Streams (replies history ++ [reply]) written)
    (waiting : ∀ reply ∈ writer.waiting,
      reply ∈ connection.unsentReplies ++ connection.writer.waiting) :
    Sound terms (history ++ [.replied reply]) received written { connection with writer } := by
  refine sound.grow ⟨rfl, rfl⟩ ?_ waiting ?_
  · rw [replies_append]
    exact streams
  · intro reply' queued
    rw [List.mem_singleton.mp queued]
    exact known

/-! ## Sending -/

/-- What the deliveries of a connection add to its history. -/
def delivered : Delivery → List (Happening η)
  | .queued reply => [.replied reply]
  | .dropped _ | .pending => []

lemma Sound.offer {party : Party} {delivery : Delivery}
    (sound : Sound terms history received written connection)
    (offered : connection.offer party = some (delivery, next)) :
    Sound terms (history ++ delivered delivery) received written next := by
  unfold Connection.offer at offered
  cases outgoing : connection.outgoing? party with
  | none =>
    rw [outgoing] at offered
    cases offered
  | some reply =>
    have known := List.mem_append_left connection.writer.waiting
      (mem_unsentReplies_of_outgoing outgoing)
    rw [outgoing] at offered
    dsimp only at offered
    generalize result : connection.writer.offer reply = pair at offered
    obtain ⟨admission, writer⟩ := pair
    have streams := sound.streams.offer result
    have waiting := Writer.waiting_offer result
    have others : ∀ reply' ∈ writer.waiting,
        reply' ∈ connection.unsentReplies ++ connection.writer.waiting := by
      intro reply' waits
      rw [waiting] at waits
      split at waits
      · rcases List.mem_append.mp waits with before | new
        · exact List.mem_append_right _ before
        · rw [List.mem_singleton.mp new]
          exact known
      · exact List.mem_append_right _ waits
    cases admission with
    | held => cases offered
    | queued =>
      cases offered
      exact (sound.reply known streams others).ease (eases_sent _ party)
    | waiting =>
      cases offered
      rw [delivered, List.append_nil]
      exact (sound.write streams others).ease (eases_wait outgoing)
    | refused =>
      cases offered
      rw [delivered, List.append_nil]
      exact (sound.write streams others).ease (eases_unsent _ party)

lemma Sound.giveUp {party : Party} {delivery : Delivery}
    (sound : Sound terms history received written connection)
    (given : connection.giveUp party = some (delivery, next)) :
    Sound terms (history ++ delivered delivery) received written next := by
  unfold Connection.giveUp at given
  split at given
  · cases given
  · split at given
    · cases given
      show Sound terms (history ++ []) received written _
      rw [List.append_nil]
      exact sound.ease (eases_unsent _ _)
    · cases given

lemma Sound.resume {delivery : Delivery}
    (sound : Sound terms history received written connection)
    (resumed : connection.resume = some (delivery, next)) :
    Sound terms (history ++ delivered delivery) received written next := by
  unfold Connection.resume at resumed
  split at resumed
  · rename_i party rest reply others writer _ waits result
    obtain ⟨reply', others', waits', waiting, ⟨-, streams⟩ | ⟨⟨e, failure⟩, -⟩⟩ :=
      sound.streams.resume result
    · cases resumed
      rw [waits, List.cons.injEq] at waits'
      obtain ⟨rfl, rfl⟩ := waits'
      have known : ∀ reply' ∈ reply :: others,
          reply' ∈ connection.unsentReplies ++ connection.writer.waiting := by
        rw [waits]
        exact fun _ present => List.mem_append_right _ present
      have queued := sound.reply (known reply List.mem_cons_self) streams (by
        rw [waiting]
        exact fun reply' later => known reply' (List.mem_cons_of_mem _ later))
      exact (queued.ease (eases_queueing _ rest)).ease (eases_sent _ party)
    · cases failure
  · rename_i party rest reply others e writer _ waits result
    obtain ⟨reply', others', waits', waiting, ⟨queued, -⟩ | ⟨-, streams⟩⟩ :=
      sound.streams.resume result
    · cases queued
    · cases resumed
      rw [waits, List.cons.injEq] at waits'
      obtain ⟨rfl, rfl⟩ := waits'
      have wrote := sound.write streams (by
        rw [waiting, waits]
        exact fun reply' later => List.mem_append_right _ (List.mem_cons_of_mem _ later))
      show Sound terms (history ++ []) received written _
      rw [List.append_nil]
      exact (wrote.ease (eases_queueing _ rest)).ease (eases_unsent _ party)
  · cases resumed

/-! ## Reading -/

/-- It does not matter what arrives for a reader that has ended. -/
lemma Sound.unserved (sound : Sound terms history received written connection)
    (ended : connection.isServed = false) (received' : Bytes) :
    Sound terms history received' written connection := by
  refine ⟨sound.streams, ?_, sound.dispatched, sound.looked, sound.begun, sound.counted,
    sound.handled, sound.justified⟩
  intro served
  rw [ended] at served
  cases served

lemma Sound.receive {bytes : Bytes} (sound : Sound terms history received written connection)
    (read : connection.receive bytes = some next) :
    Sound terms history (received ++ bytes) written next := by
  unfold Connection.receive at read
  split at read
  · rename_i reading empty
    have served : connection.isServed = true := by
      unfold isServed
      rw [reading]
    obtain ⟨kept, looked⟩ := sound.reading served
    rw [empty, List.append_nil] at looked
    rcases Reassembly.push_of_received kept bytes with
        ⟨-, fault, stopped⟩ | ⟨frames, pushed, found, kept'⟩
    · generalize connection.reassembly.push bytes = push at read stopped
      obtain ⟨outcome, reassembly⟩ := push
      obtain rfl : outcome = .error fault := stopped
      cases read
      exact (sound.ease (eases_endReading connection reassembly)).unserved
        (isServed_endReading _) _
    · generalize connection.reassembly.push bytes = push at read pushed kept'
      obtain ⟨outcome, reassembly⟩ := push
      obtain rfl : outcome = .ok frames := pushed
      cases read
      refine ⟨sound.streams, ?_, sound.dispatched, sound.looked, sound.begun, sound.counted,
        sound.handled, sound.justified⟩
      intro _
      refine ⟨kept', ?_⟩
      dsimp only
      rw [found, looked]
  · cases read

lemma Sound.streamEnded (sound : Sound terms history received written connection)
    (ended : connection.streamEnded = some next) :
    Sound terms history received written next := by
  unfold Connection.streamEnded at ended
  split at ended
  · cases ended
    exact sound.ease (eases_endReading connection connection.reassembly)
  · cases ended

/-- A request is looked up: it is under way if there is a registration for it, and answered if
there is none. -/
lemma Sound.dispatch {request : Frame} {rest : List Frame} {reader : Reader η}
    {found : Option (Registration η)} (sound : Sound terms history received written connection)
    (fit : ∀ frame ∈ requests history, Fits Header.protocolLimit frame)
    (sent : received <+: Writer.content (requests history))
    (reading : connection.reader = .reading) (backlog : connection.backlog = request :: rest)
    (agreed : ∀ registration, found = some registration →
      registration.callId = request.callId ∧ terms.Has registration)
    (underway : reader.underway = (found.map (·, request)).toList)
    (answers : ∀ reply ∈ reader.unsentReplies, Justified terms history reply) :
    Sound terms (history ++ [.dispatched request found]) received written
      { connection with backlog := rest, reader } := by
  obtain ⟨kept, frames⟩ := sound.reading (by unfold isServed; rw [reading])
  rw [backlog] at frames
  have dispatches_eq : dispatches (history ++ [.dispatched request found]) =
      dispatches history ++ [request] := dispatches_append _ _
  have handlings_eq : handlings (history ++ [.dispatched request found]) = handlings history := by
    rw [handlings_append]
    exact List.append_nil _
  have requests_eq : requests (history ++ [.dispatched request found]) = requests history := by
    rw [requests_append]
    exact List.append_nil _
  have replies_eq : replies (history ++ [.dispatched request found]) = replies history := by
    rw [replies_append]
    exact List.append_nil _
  have split : dispatches history ++ [request] ++ rest = (parse terms.limit received).frames := by
    rw [← frames, List.append_assoc]
    rfl
  -- The reader was reading, so only jobs were under way; the new request is under way at the
  -- reader.
  have before : connection.underway = connection.jobs.filterMap Job.underway? := by
    unfold Connection.underway
    rw [reading]
    rfl
  -- In the order of the fields: the stream, the backlog, the requests of the peer, the
  -- registrations, what has begun, the count of each transaction ID, and the replies.
  refine ⟨?_, fun _ => ⟨kept, ?_⟩, ?_, ?_, ?_, ?_, fun handling => sound.handled_append rfl, ?_⟩
  · rw [replies_eq]
    exact sound.streams
  · rw [dispatches_eq]
    exact split
  · rw [dispatches_eq, requests_eq]
    exact List.IsPrefix.trans ⟨rest, split⟩ (prefix_frames_parse fit sent)
  · intro frame registration shown
    rcases List.mem_append.mp shown with old | new
    · exact sound.looked frame registration old
    · cases List.mem_singleton.mp new
      exact agreed registration rfl
  · intro entry present
    rcases List.mem_append.mp present with reader | job
    · rw [underway] at reader
      cases found with
      | none => cases reader
      | some registration =>
        cases List.mem_singleton.mp reader
        exact List.mem_append_right _ (List.mem_singleton_self _)
    · exact List.mem_append_left _ (sound.begun entry (before ▸ job))
  · intro xid
    have old := sound.counted xid
    rw [before] at old
    have one : reader.underway.countP (·.2.xid = xid) ≤ [request].countP (·.xid = xid) := by
      rw [underway]
      cases found with
      | none => exact Nat.zero_le _
      | some registration => exact Nat.le_refl _
    rw [handlings_eq, dispatches_eq]
    unfold Connection.underway
    rw [List.countP_append, List.countP_append]
    dsimp only
    omega
  · intro reply present
    rw [replies_eq] at present
    refine Justified.mono ?_ _
    rcases List.mem_append.mp present with unsent | others
    · rcases List.mem_append.mp unsent with reader | job
      · exact answers reply reader
      · exact sound.justified reply
          (List.mem_append_left _ (List.mem_append_right _ job))
    · exact sound.justified reply (List.mem_append_right _ others)

lemma Sound.lookUp {functions : Functions η} {request : Frame}
    {found : Option (Registration η)} (sound : Sound terms history received written connection)
    (fit : ∀ frame ∈ requests history, Fits Header.protocolLimit frame)
    (sent : received <+: Writer.content (requests history))
    (agreed : ∀ id registration, functions.get? id = some registration →
      registration.callId = id ∧ terms.Has registration)
    (looked : connection.lookUp functions = some (request, found, next)) :
    Sound terms (history ++ [.dispatched request found]) received written next := by
  unfold Connection.lookUp at looked
  split at looked
  · rename_i reading backlog
    split at looked
    · cases looked
      refine sound.dispatch fit sent reading backlog nofun rfl ?_
      intro reply answers
      rw [List.mem_singleton.mp answers]
      exact justified_errorReply _ (by decide)
    · rename_i registration known
      cases looked
      refine sound.dispatch fit sent reading backlog ?_ rfl nofun
      rintro _ ⟨⟩
      exact agreed _ _ known
  · cases looked

/-- A request that waited for a slot becomes a job. -/
lemma Sound.startJob {id : Nat} (sound : Sound terms history received written connection)
    (started : connection.startJob id = some next) :
    Sound terms history received written next := by
  unfold Connection.startJob at started
  split at started
  · rename_i registration request awaits
    cases started
    have served : connection.isServed = true := by
      unfold isServed
      rw [awaits]
    have before : connection.underway =
        (registration, request) :: connection.jobs.filterMap Job.underway? := by
      unfold underway
      rw [awaits]
      rfl
    let job : Job η := ⟨id, registration, request, .executing⟩
    have jobs : (connection.jobs ++ [job]).filterMap Job.underway? =
        connection.jobs.filterMap Job.underway? ++ [(registration, request)] :=
      List.filterMap_append
    -- the request was the first one under way, and becomes the last; all clauses are about the list
    -- up to its order
    have perm : List.Perm
        (underway { connection with reader := .reading, jobs := connection.jobs ++ [job] })
        connection.underway := by
      rw [before]
      show List.Perm ((connection.jobs ++ [job]).filterMap Job.underway?) _
      rw [jobs]
      exact List.perm_append_singleton _ _
    refine ⟨sound.streams, fun _ => sound.reading served, sound.dispatched, sound.looked, ?_, ?_,
      sound.handled, ?_⟩
    · intro entry present
      exact sound.begun entry (perm.mem_iff.mp present)
    · intro xid
      rw [perm.countP_eq]
      exact sound.counted xid
    · intro reply present
      apply sound.justified
      rcases List.mem_append.mp present with unsent | others
      · apply List.mem_append_left
        apply List.mem_append_right
        obtain ⟨job, among, shows⟩ := List.mem_filterMap.mp unsent
        rcases List.mem_append.mp among with old | new
        · exact List.mem_filterMap.mpr ⟨job, old, shows⟩
        · rw [List.mem_singleton.mp new] at shows
          cases shows
      · exact List.mem_append_right _ others
  · cases started

/-! ## Handling -/

/-- What the call of a handler adds to the history of its connection. -/
def handledWith (respond : η → List Value → Outcome) (registration : Registration η)
    (request : Frame) : Option (List Value) → List (Happening η)
  | none => []
  | some args => [.handled ⟨request, registration, args, respond registration.handler args⟩]

lemma fits_of_encodeResults {registration : Registration η} {results : List Value}
    {payload : Bytes} (xid : Int64) (status : Status)
    (encoded : registration.encodeResults? terms.registry terms.limit results = some payload) :
    Fits Header.protocolLimit (.reply xid status payload) := by
  have bound := UInt32.le_iff_toNat_le.mp terms.onWire
  unfold Registration.encodeResults? at encoded
  dsimp only at encoded
  split at encoded
  · cases encoded
  · split at encoded
    · cases encoded
    · rename_i within
      rw [Option.some.injEq] at encoded
      subst encoded
      exact fits_ofPayload _ _ (by omega) (by omega)

/-- What a handler came to justifies the reply. -/
lemma justified_replyTo {handling : Handling η} (called : handling ∈ handlings history) :
    Justified terms history (handling.registration.replyTo terms.registry terms.limit
      handling.request.xid handling.outcome) := by
  unfold Registration.replyTo
  cases outcome : handling.outcome with
  | failed text => exact justified_errorReply _ (by decide)
  | panicked => exact justified_errorReply _ (by decide)
  | returned results =>
    dsimp only
    cases encoded : handling.registration.encodeResults? terms.registry terms.limit results with
    | none => exact justified_errorReply _ (by decide)
    | some payload =>
      exact ⟨fits_of_encodeResults _ _ encoded,
        fun _ => ⟨handling, called, rfl, results, outcome, encoded⟩⟩

/-- A job has its reply, after its handler was called at most once. -/
lemma Sound.conclude {id : Nat} {job : Job η} {reply : Frame} {seen : List (Happening η)}
    (sound : Sound terms history received written connection)
    (found : connection.job? id = some job) (executing : job.stage = .executing)
    (calls : seen = [] ∨ ∃ args outcome,
      seen = [.handled ⟨job.request, job.registration, args, outcome⟩] ∧
        job.registration.arguments? terms.registry job.request.payload = some args)
    (justified : Justified terms (history ++ seen) reply) :
    Sound terms (history ++ seen) received written
      (connection.setStage id (.replying reply)) := by
  have entry : job.underway? = some (job.registration, job.request) := by
    unfold Job.underway?
    rw [executing]
  have ready : (Stage.replying reply).reply? = some reply := rfl
  obtain ⟨before, after, split, fewer⟩ := underway_setStages_of_find ready found entry
  have begun : .dispatched job.request (some job.registration) ∈ history :=
    sound.begun (job.registration, job.request) (List.mem_append_right _
      (List.mem_filterMap.mpr ⟨job, List.mem_of_find?_eq_some found, entry⟩))
  -- The job is not under way any more, so its request may be counted among the handled ones.
  have left : List.Sublist (connection.setStage id (.replying reply)).underway
      connection.underway := (underway_setStages rfl connection.jobs).append_left _
  have views : dispatches seen = [] ∧ requests seen = [] ∧ replies seen = [] := by
    rcases calls with rfl | ⟨args, outcome, rfl, -⟩ <;> exact ⟨rfl, rfl, rfl⟩
  have dispatches_eq : dispatches (history ++ seen) = dispatches history := by
    rw [dispatches_append, views.1, List.append_nil]
  refine ⟨?_, ?_, ?_, sound.looked_append views.1, ?_, ?_, ?_, ?_⟩
  · rw [replies_append, views.2.2, List.append_nil]
    exact sound.streams
  · rw [dispatches_eq]
    exact sound.reading
  · rw [dispatches_eq, requests_append, views.2.1, List.append_nil]
    exact sound.dispatched
  · intro entry present
    exact List.mem_append_left _ (sound.begun entry (left.subset present))
  · intro xid
    have old := sound.counted xid
    have now : (connection.setStage id (.replying reply)).underway.countP (·.2.xid = xid) ≤
        (connection.reader.underway ++ (before ++ after)).countP (·.2.xid = xid) :=
      (fewer.append_left connection.reader.underway).countP_le
    have called : (handlings seen).countP (·.request.xid = xid) ≤
        [job.request].countP (·.xid = xid) := by
      rcases calls with rfl | ⟨args, outcome, rfl, -⟩
      · exact Nat.zero_le _
      · exact Nat.le_refl _
    have held : connection.underway.countP (·.2.xid = xid) =
        (connection.reader.underway ++ (before ++ after)).countP (·.2.xid = xid) +
          [job.request].countP (·.xid = xid) := by
      unfold Connection.underway
      rw [split]
      simp only [List.countP_append, List.countP_cons, List.countP_nil]
      omega
    rw [dispatches_eq, handlings_append, List.countP_append]
    omega
  · intro handling called
    rw [handlings_append] at called
    rcases List.mem_append.mp called with old | new
    · obtain ⟨shown, decoded⟩ := sound.handled handling old
      exact ⟨List.mem_append_left _ shown, decoded⟩
    · rcases calls with rfl | ⟨args, outcome, rfl, decoded⟩
      · cases new
      · cases List.mem_singleton.mp new
        exact ⟨List.mem_append_left _ begun, decoded⟩
  · intro reply' present
    rw [replies_append, views.2.2, List.append_nil] at present
    rcases List.mem_append.mp present with unsent | others
    · rcases List.mem_append.mp unsent with reader | replying
      · exact (sound.justified reply'
          (List.mem_append_left _ (List.mem_append_left _ reader))).mono seen
      · rcases mem_replies_setStages rfl replying with rfl | old
        · exact justified
        · exact (sound.justified reply'
            (List.mem_append_left _ (List.mem_append_right _ old))).mono seen
    · exact (sound.justified reply' (List.mem_append_right _ others)).mono seen

/-- A handler is called at most once for a request, and what it comes to justifies the reply. -/
lemma Sound.finish {id : Nat} {job : Job η} (respond : η → List Value → Outcome)
    (sound : Sound terms history received written connection)
    (found : connection.job? id = some job) (executing : job.stage = .executing) :
    Sound terms
      (history ++ handledWith respond job.registration job.request
        (@Registration.answer η ⟨respond⟩ job.registration terms.registry terms.limit
          job.request.xid job.request.payload).2)
      received written
      (connection.setStage id (.replying
        (@Registration.answer η ⟨respond⟩ job.registration terms.registry terms.limit
          job.request.xid job.request.payload).1)) := by
  unfold Registration.answer
  cases decoded : job.registration.arguments? terms.registry job.request.payload with
  | none =>
    exact sound.conclude found executing (Or.inl rfl) (justified_errorReply _ (by decide))
  | some args =>
    refine sound.conclude found executing (Or.inr ⟨args, _, rfl, decoded⟩) ?_
    have called : ⟨job.request, job.registration, args,
        respond job.registration.handler args⟩ ∈ handlings (history ++
          [.handled ⟨job.request, job.registration, args,
            respond job.registration.handler args⟩]) :=
      mem_handlings.mpr (List.mem_append_right _ (List.mem_singleton_self _))
    exact justified_replyTo called

end

end Connection

end RemoteCall
