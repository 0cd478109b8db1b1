import RemoteCall.Proofs.Server.Order

/-!
# What becomes of a slot

A job occupies a handler slot from its start to its end.  `Turn` says of an action on a connection
what it does to the slots: either all jobs go on, or one job ends, and this is the job whose reply
was queued or dropped just now (`Acts.turn`).

A reader that waits for a slot goes on waiting for it, for the same request, unless it ends; and
only a reader that looks up a registered request starts to wait (`Acts.waits`).

An occupant is told by its connection and its job, together with the registration and the request.
Stages do not matter: a job that executes, one that has a reply and one that waits for room occupy a
slot all the same.  So an action that moves a job from one stage to the next leaves the slots as
they are, and only `endJob` gives one back.  Who ends with which reply is known from `Orderly`, as
for replies that are owed.

## Main statements

* `Acts.turn` — what happens on a connection keeps all its jobs or ends one with its reply.
* `Acts.waits` — who waits for a slot goes on waiting.
-/

namespace RemoteCall

open Racing

variable {η : Type}

/-- Who occupies a slot: a job of a connection, with the request that it runs. -/
structure Occupant (η : Type) where
  connection : Nat
  job : Nat
  registration : Registration η
  request : Frame

/-- The slot that a job occupies. -/
def Job.occupant (c : Nat) (job : Job η) : Occupant η := ⟨c, job.id, job.registration, job.request⟩

/-- The replies that were queued or dropped, in order. -/
def Racing.settled (entries : List (Entry η)) : List Frame :=
  entries.filterMap fun
    | .queued reply | .refused reply | .expired reply => some reply
    | _ => none

namespace Connection

/-- The slots that a connection occupies. -/
def occupants (c : Nat) (connection : Connection η) : List (Occupant η) :=
  connection.jobs.map (Job.occupant c)

/-- A party has its reply to hand over: it has not offered it yet, or it is the first that waits for
room. -/
def Sends (connection : Connection η) (party : Party) (reply : Frame) : Prop :=
  connection.outgoing? party = some reply ∨
    ∃ parties frames, connection.queueing = party :: parties ∧
      connection.writer.waiting = reply :: frames

/-- What becomes of the slots of a connection. -/
inductive Turn (old new : Connection η) (entries : List (Entry η)) : Prop
  /-- All jobs go on.  If a reply was queued or dropped, it was the reader's. -/
  | keeps (occupants : ∀ c, new.occupants c = old.occupants c)
      (readers : ∀ reply ∈ settled entries, old.Sends .reader reply)
  /-- A job has ended, because its reply was queued or dropped. -/
  | ends {job : Job η} {reply : Frame} (found : old.job? job.id = some job)
      (ready : job.stage.reply? = some reply) (sends : old.Sends (.job job.id) reply)
      (jobs : new.jobs = old.jobs.filter (·.id ≠ job.id)) (settles : settled entries = [reply])

section

variable {old new : Connection η} {party : Party} {id : Nat} {reply : Frame}
  {entries : List (Entry η)}

lemma occupants_of_jobs (same : new.jobs = old.jobs) (c : Nat) :
    new.occupants c = old.occupants c := congrArg (List.map (Job.occupant c)) same

lemma occupants_setStage (connection : Connection η) (id : Nat) (stage : Stage) (c : Nat) :
    (connection.setStage id stage).occupants c = connection.occupants c := by
  unfold occupants setStage
  rw [List.map_map]
  refine List.map_congr_left fun job _ => ?_
  dsimp only [Function.comp]
  split <;> rfl

/-- Whoever has a reply to hand over holds it, unless it is a reader that was stopped. -/
lemma holds_of_sends (orderly : Orderly old) (sends : old.Sends party reply) :
    old.Holds party reply ∨ party = .reader ∧ old.reader = .ended := by
  rcases sends with outgoing | ⟨parties, frames, first, waiting⟩
  · exact Or.inl (holds_of_outgoing outgoing)
  · have lined := orderly.lined
    rw [first, waiting] at lined
    have waits := (List.forall₂_cons.mp lined).1
    rcases holds_of_waits orderly waits with holds | ⟨reader, ended, -⟩
    · exact Or.inl holds
    · exact Or.inr ⟨reader, ended⟩

/-! ## Jobs -/

/-- A party that is done with its reply leaves its slot if it is a job. -/
lemma turn_of_sends (orderly : Orderly old) (sends : old.Sends party reply)
    (settles : settled entries = [reply]) (reader : party = .reader → new.jobs = old.jobs)
    (job : ∀ id, party = .job id → new.jobs = old.jobs.filter (·.id ≠ id)) :
    Turn old new entries := by
  cases party with
  | reader =>
    refine .keeps (occupants_of_jobs (reader rfl)) fun other among => ?_
    rw [settles, List.mem_singleton] at among
    rw [among]
    exact sends
  | job id =>
    rcases holds_of_sends orderly sends with ⟨held, found, ready⟩ | ⟨other, -⟩
    · obtain ⟨-, rfl⟩ := orderly.job?_eq_some.mp found
      exact .ends found ready sends (job _ rfl) settles
    · cases other

lemma jobs_sent (connection : Connection η) (party : Party) :
    (party = .reader → (connection.sent party).jobs = connection.jobs) ∧
      ∀ id, party = .job id →
        (connection.sent party).jobs = connection.jobs.filter (·.id ≠ id) := by
  refine ⟨?_, ?_⟩
  · rintro rfl
    unfold sent
    dsimp only
    split <;> rfl
  · rintro id rfl
    exact jobs_settle _

lemma jobs_unsent (connection : Connection η) (party : Party) :
    (party = .reader → (connection.unsent party).jobs = connection.jobs) ∧
      ∀ id, party = .job id →
        (connection.unsent party).jobs = connection.jobs.filter (·.id ≠ id) := by
  refine ⟨?_, ?_⟩
  · rintro rfl
    exact jobs_settle _
  · rintro id rfl
    exact jobs_settle _

lemma occupants_wait (connection : Connection η) (party : Party) (reply : Frame) (c : Nat) :
    (connection.wait reply party).occupants c = connection.occupants c := by
  cases party with
  | reader => rfl
  | job id => exact occupants_setStage _ id _ c

lemma turn_pass (orderly : Orderly old) {delivery : Delivery}
    (passed : old.pass party = some (delivery, new)) :
    Turn old new (delivery.entries false) := by
  obtain ⟨reply, outgoing, ⟨writer, rfl, rfl, -⟩ | ⟨writer, rfl, rfl, -⟩ | ⟨rfl, rfl, -⟩⟩ :=
    pass_cases passed
  · obtain ⟨reader, job⟩ := jobs_sent { old with writer } party
    exact turn_of_sends orderly (Or.inl outgoing) rfl reader job
  · exact .keeps (occupants_wait { old with writer } party reply) nofun
  · obtain ⟨reader, job⟩ := jobs_unsent old party
    exact turn_of_sends orderly (Or.inl outgoing) rfl reader job

lemma turn_resume (orderly : Orderly old) {delivery : Delivery}
    (resumed : old.resume = some (delivery, new)) : Turn old new (delivery.entries false) := by
  obtain ⟨party, rest, reply, others, writer, parties, frames, -, -, ⟨rfl, rfl, -⟩ |
    ⟨rfl, rfl, -⟩⟩ := resume_cases resumed
  · obtain ⟨reader, job⟩ := jobs_sent { old with writer, queueing := rest } party
    exact turn_of_sends orderly (Or.inr ⟨rest, others, parties, frames⟩) rfl reader job
  · obtain ⟨reader, job⟩ := jobs_unsent { old with writer, queueing := rest } party
    exact turn_of_sends orderly (Or.inr ⟨rest, others, parties, frames⟩) rfl reader job

lemma turn_reads {functions : Functions η} (reads : old.Reads functions entries new) :
    Turn old new entries := by
  cases reads with
  | receive received =>
    obtain ⟨-, -, ⟨frames, -, rfl⟩ | ⟨-, rfl⟩⟩ := receive_cases received
    · exact .keeps (fun _ => rfl) nofun
    · exact .keeps (occupants_of_jobs (jobs_settle _)) nofun
  | streamEnded ended =>
    obtain ⟨-, -, rfl⟩ := streamEnded_cases ended
    exact .keeps (occupants_of_jobs (jobs_settle _)) nofun
  | lookUp looked =>
    obtain ⟨-, rest, -, -, rfl⟩ := lookUp_cases looked
    exact .keeps (fun _ => rfl) nofun

/-- Whatever happens on a connection, its jobs go on or one of them ends with its reply. -/
theorem Acts.turn [Handles η] {registry : Registry} {limit : UInt32} {functions : Functions η}
    (acts : old.Acts registry limit functions entries new) (orderly : Orderly old) :
    Turn old new entries := by
  cases acts with
  | read reads => exact turn_reads reads
  | finish found executing => exact .keeps (occupants_setStage old _ _) nofun
  | pass passed => exact turn_pass orderly passed
  | @expire party reply outgoing =>
    obtain ⟨reader, job⟩ := jobs_unsent old party
    exact turn_of_sends orderly (Or.inl outgoing) rfl reader job
  | resume resumed => exact turn_resume orderly resumed
  | collect | accept | fail | flushed => exact .keeps (fun _ => rfl) nofun
  | stop =>
    refine .keeps (occupants_of_jobs ?_) nofun
    unfold Connection.stop
    split
    · exact jobs_settle _
    · rfl

/-! ## The reader -/

/-- The reader waits for what it has waited for, unless it ends; and it has not ended before. -/
def Abides (old new : Connection η) : Prop :=
  new.isServed = true → old.isServed = true ∧ new.reader.underway = old.reader.underway

lemma abides_of_reader (same : new.reader = old.reader) : Abides old new := by
  intro served
  unfold isServed at served ⊢
  rw [same] at served ⊢
  exact ⟨served, rfl⟩

lemma abides_of_ended (ended : new.reader = .ended) : Abides old new := by
  intro served
  rw [isServed, ended] at served
  cases served

/-- A reader with a reply to hand over does not wait for a slot. -/
lemma underway_of_unsent {reader : Reader η} (unsent : reader.unsentReplies = [reply]) :
    reader.underway = [] := by
  cases reader with
  | answering | queueing => rfl
  | reading | awaitingSlot | ended => cases unsent

lemma served_of_unsent (unsent : old.reader.unsentReplies = [reply]) : old.isServed = true := by
  unfold isServed
  cases state : old.reader with
  | ended =>
    rw [state] at unsent
    cases unsent
  | reading | awaitingSlot | answering | queueing => rfl

lemma abides_sent (orderly : Orderly old) (sends : old.Sends party reply)
    (same : new.reader = old.reader) : Abides old (new.sent party) := by
  cases party with
  | job id => exact abides_of_reader ((reader_settle _).trans same)
  | reader =>
    unfold sent
    dsimp only
    split
    · exact abides_of_reader same
    · rename_i going
      rcases holds_of_sends orderly sends with unsent | ⟨-, ended⟩
      · intro _
        exact ⟨served_of_unsent unsent, (underway_of_unsent unsent).symm⟩
      · exact absurd (same.trans ended) going

lemma abides_unsent (same : new.reader = old.reader) : Abides old (new.unsent party) := by
  cases party with
  | job id => exact abides_of_reader ((reader_settle _).trans same)
  | reader => exact abides_of_ended (reader_settle _)

lemma abides_wait (outgoing : old.outgoing? party = some reply)
    (same : new.reader = old.reader) : Abides old (new.wait reply party) := by
  cases party with
  | job id => exact abides_of_reader same
  | reader =>
    have answers := reader_of_outgoing outgoing
    intro _
    refine ⟨by rw [isServed, answers], ?_⟩
    rw [answers]
    rfl

lemma abides_pass (orderly : Orderly old) {delivery : Delivery}
    (passed : old.pass party = some (delivery, new)) : Abides old new := by
  obtain ⟨reply, outgoing, ⟨writer, -, rfl, -⟩ | ⟨writer, -, rfl, -⟩ | ⟨-, rfl, -⟩⟩ :=
    pass_cases passed
  · exact abides_sent orderly (Or.inl outgoing) rfl
  · exact abides_wait outgoing rfl
  · exact abides_unsent rfl

lemma abides_resume (orderly : Orderly old) {delivery : Delivery}
    (resumed : old.resume = some (delivery, new)) : Abides old new := by
  obtain ⟨party, rest, reply, others, writer, parties, frames, -, -, ⟨-, rfl, -⟩ |
    ⟨-, rfl, -⟩⟩ := resume_cases resumed
  · exact abides_sent orderly (Or.inr ⟨rest, others, parties, frames⟩) rfl
  · exact abides_unsent rfl

lemma underway_afterLookUp (request : Frame) (found : Option (Registration η)) :
    (afterLookUp request found).underway = known [(request, found)] := by
  cases found <;> rfl

/-- Whatever happens on a connection, its reader waits for what it has waited for, and for the
request that it has just looked up if it is registered, unless it ends. -/
theorem Acts.waits [Handles η] {registry : Registry} {limit : UInt32} {functions : Functions η}
    (acts : old.Acts registry limit functions entries new) (orderly : Orderly old) :
    (known (looked entries) ≠ [] → new.isServed = true) ∧
      (new.isServed = true → old.isServed = true ∧
        new.reader.underway = old.reader.underway ++ known (looked entries)) := by
  have unlooked : ∀ {entries : List (Entry η)}, looked entries = [] → Abides old new →
      (known (looked entries) ≠ [] → new.isServed = true) ∧
        (new.isServed = true → old.isServed = true ∧
          new.reader.underway = old.reader.underway ++ known (looked entries)) := by
    intro entries nothing abides
    rw [nothing]
    refine ⟨fun some => absurd rfl some, fun served => ?_⟩
    obtain ⟨before, same⟩ := abides served
    exact ⟨before, same.trans (List.append_nil _).symm⟩
  cases acts with
  | read reads =>
    cases reads with
    | receive received =>
      obtain ⟨-, -, ⟨frames, -, rfl⟩ | ⟨-, rfl⟩⟩ := receive_cases received
      · exact unlooked rfl (abides_of_reader rfl)
      · exact unlooked rfl (abides_of_ended (reader_settle _))
    | streamEnded ended =>
      obtain ⟨-, -, rfl⟩ := streamEnded_cases ended
      exact unlooked rfl (abides_of_ended (reader_settle _))
    | @lookUp request found _ looked =>
      obtain ⟨reading, rest, -, -, rfl⟩ := lookUp_cases looked
      refine ⟨fun _ => by cases found <;> rfl, fun _ => ⟨by rw [isServed, reading], ?_⟩⟩
      rw [reading]
      exact underway_afterLookUp request found
  | finish found executing => exact unlooked rfl (abides_of_reader rfl)
  | @pass _ delivery _ passed =>
    exact unlooked (looked_entries_delivery false delivery) (abides_pass orderly passed)
  | expire outgoing => exact unlooked rfl (abides_unsent rfl)
  | @resume delivery _ resumed =>
    exact unlooked (looked_entries_delivery false delivery) (abides_resume orderly resumed)
  | collect | accept | fail | flushed => exact unlooked rfl (abides_of_reader rfl)
  | stop =>
    refine unlooked rfl ?_
    unfold Connection.stop
    split
    · exact abides_of_ended (reader_settle _)
    · exact abides_of_reader rfl

end

end Connection

end RemoteCall
