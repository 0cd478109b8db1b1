import Mathlib.Data.List.Forall2
import Mathlib.Data.List.Nodup
import RemoteCall.Proofs.Server.Connection
import RemoteCall.Proofs.Server.Racing

/-!
# Who waits for room

The writer of a connection keeps the frames that wait for room, the connection the parties that wait
with them.  `Orderly` says that the two agree, so that a frame leaves together with its own party;
that the jobs have distinct IDs; and that a reader that has ended has left no request.  Every action
keeps this (`Acts.orderly`).

There is one exception in the agreement.  A reader that is stopped while its frame waits for room
does not take the frame back, so its party stays in the line.  It does so in vain, since the task of
the writer was cancelled with it: `Waits` allows a reader that has ended to be in the line only if
that task is over.

On the way, what a sender or the reader can do is taken apart once for each action (`pass_cases`,
`resume_cases`, `receive_cases`, `lookUp_cases`, `streamEnded_cases`, `startJob_cases`).  Later
modules go by these lemmas instead of the definitions.  Each names the state that the action leads
to, so a property is looked up in it field by field.

## Main statements

* `Acts.orderly` — every action keeps the order of those who wait.
-/

namespace RemoteCall

open Racing

variable {η : Type}

/-! ## A task that is over stays over -/

namespace Writer

lemma isOver_abort (writer : Writer) : writer.abort.isOver = true := by
  unfold abort
  split
  · assumption
  · rfl

variable {writer : Writer}

lemma isOver_fail (halted : writer.isOver = true) (e : Error) :
    (writer.fail e).isOver = true := by
  unfold fail
  split
  · rfl
  · rfl
  · exact halted

lemma isOver_accept (halted : writer.isOver = true) (n : Nat) :
    (writer.accept n).isOver = true := by
  unfold accept
  split
  · rename_i writing
    simp [isOver, writing, Task.isOver] at halted
  · exact halted

lemma isOver_flushed (halted : writer.isOver = true) : writer.flushed.isOver = true := by
  unfold flushed
  split
  · rename_i flushing
    simp [isOver, flushing, Task.isOver] at halted
  · exact halted

lemma isOver_collect {next : Writer} (halted : writer.isOver = true)
    (collected : writer.collect = some next) : next.isOver = true := by
  unfold collect at collected
  split at collected
  · rename_i idle _
    simp [isOver, idle, Task.isOver] at halted
  · rename_i idle _
    simp [isOver, idle, Task.isOver] at halted
  · cases collected

end Writer

namespace Connection

/-! ## Nothing but the writer changes once nobody can send -/

section

variable (connection : Connection η)

@[simp] lemma reader_settle : connection.settle.reader = connection.reader := by
  unfold settle
  split <;> rfl

@[simp] lemma jobs_settle : connection.settle.jobs = connection.jobs := by
  unfold settle
  split <;> rfl

@[simp] lemma backlog_settle : connection.settle.backlog = connection.backlog := by
  unfold settle
  split <;> rfl

@[simp] lemma queueing_settle : connection.settle.queueing = connection.queueing := by
  unfold settle
  split <;> rfl

@[simp] lemma waiting_settle : connection.settle.writer.waiting = connection.writer.waiting := by
  unfold settle
  split <;> rfl

@[simp] lemma task_settle : connection.settle.writer.task = connection.writer.task := by
  unfold settle
  split <;> rfl

end

lemma isServed_eq (connection : Connection η) :
    connection.isServed = false ↔ connection.reader = .ended := by
  unfold isServed
  cases connection.reader <;> simp

/-! ## Who waits for room -/

/-- A party waits for room with a frame.  The frame of a reader that was stopped stays behind. -/
def Waits (connection : Connection η) : Party → Frame → Prop
  | .reader, reply => connection.reader = .queueing reply ∨
      connection.reader = .ended ∧ connection.writer.isOver = true
  | .job id, reply => ∃ job ∈ connection.jobs, job.id = id ∧ job.stage = .queueing reply

structure Orderly (connection : Connection η) : Prop where
  ids : (connection.jobs.map Job.id).Nodup
  distinct : connection.queueing.Nodup
  lined : List.Forall₂ connection.Waits connection.queueing connection.writer.waiting
  /-- A reader that has ended has left no request. -/
  idle : connection.isServed = false → connection.backlog = []

lemma orderly_accepted (generation : Nat) (settings : ServerSettings) :
    Orderly (accepted generation settings : Connection η) :=
  ⟨List.nodup_nil, List.nodup_nil, .nil, nofun⟩

section

variable {old new : Connection η} {party : Party} {id : Nat} {reply : Frame}

/-- Parties that waited before still wait. -/
lemma Orderly.keep (old : Connection η) (ids : (new.jobs.map Job.id).Nodup)
    (distinct : new.queueing.Nodup)
    (lined : List.Forall₂ old.Waits new.queueing new.writer.waiting)
    (waits : ∀ party ∈ new.queueing, ∀ reply, old.Waits party reply → new.Waits party reply)
    (idle : new.isServed = false → new.backlog = []) : Orderly new := by
  refine ⟨ids, distinct, ?_, idle⟩
  have both := (List.forall₂_and_left _ _).mpr ⟨waits, lined⟩
  exact both.imp fun party reply h => h.1 reply h.2

lemma Orderly.job?_eq_some (orderly : Orderly old) {job : Job η} :
    old.job? id = some job ↔ job ∈ old.jobs ∧ job.id = id := by
  constructor
  · intro found
    exact ⟨List.mem_of_find?_eq_some found, by simpa using List.find?_some found⟩
  · rintro ⟨present, rfl⟩
    unfold job?
    cases found : old.jobs.find? (·.id = job.id) with
    | none => simpa using List.find?_eq_none.mp found job present
    | some other =>
      have same : other.id = job.id := by simpa using List.find?_some found
      rw [List.inj_on_of_nodup_map orderly.ids (List.mem_of_find?_eq_some found) present same]

lemma Orderly.exists_waits (orderly : Orderly old) (present : party ∈ old.queueing) :
    ∃ reply, old.Waits party reply := by
  have lined := orderly.lined
  generalize old.queueing = parties at present lined
  generalize old.writer.waiting = frames at lined
  induction lined with
  | nil => cases present
  | cons waits _ ih =>
    rcases List.mem_cons.mp present with rfl | later
    · exact ⟨_, waits⟩
    · exact ih later

/-- A job that ends leaves a place among the others. -/
lemma Orderly.exists_place (orderly : Orderly old) {job : Job η} (among : job ∈ old.jobs) :
    ∃ before after, old.jobs = before ++ job :: after ∧
      old.jobs.filter (·.id ≠ job.id) = before ++ after := by
  obtain ⟨before, after, split⟩ := List.append_of_mem among
  have ids := orderly.ids
  rw [split, List.map_append, List.map_cons, List.nodup_middle, ← List.map_append,
    List.nodup_cons] at ids
  have unlike : ∀ other ∈ before ++ after, decide (other.id ≠ job.id) = true := by
    intro other present
    refine decide_eq_true fun same => ids.1 ?_
    exact List.mem_map.mpr ⟨other, present, same⟩
  refine ⟨before, after, split, ?_⟩
  rw [split, List.filter_append, List.filter_cons_of_neg (by simp), ← List.filter_append,
    List.filter_eq_self.mpr unlike]

/-- A reader that is about something else does not wait for room. -/
lemma Orderly.reader_absent (orderly : Orderly old) (going : old.reader ≠ .ended)
    (busy : ∀ reply, old.reader ≠ .queueing reply) : .reader ∉ old.queueing := by
  intro present
  obtain ⟨reply, queueing | ⟨ended, -⟩⟩ := orderly.exists_waits present
  · exact busy reply queueing
  · exact going ended

lemma Orderly.reading_absent (orderly : Orderly old) (reading : old.reader = .reading) :
    .reader ∉ old.queueing :=
  orderly.reader_absent (by simp [reading]) (by simp [reading])

/-- A job that is about something else does not wait for room. -/
lemma Orderly.job_absent (orderly : Orderly old) {job : Job η} (found : old.job? id = some job)
    (busy : ∀ reply, job.stage ≠ .queueing reply) : .job id ∉ old.queueing := by
  intro present
  obtain ⟨reply, other, among, same, waits⟩ := orderly.exists_waits present
  rw [orderly.job?_eq_some.mpr ⟨among, same⟩, Option.some.injEq] at found
  exact busy reply (found ▸ waits)

lemma reader_of_outgoing (outgoing : old.outgoing? .reader = some reply) :
    old.reader = .answering reply := by
  unfold outgoing? at outgoing
  dsimp only at outgoing
  split at outgoing
  · rename_i answers
    cases outgoing
    exact answers
  · cases outgoing

lemma job_of_outgoing (outgoing : old.outgoing? (.job id) = some reply) :
    ∃ job, old.job? id = some job ∧ job.stage = .replying reply := by
  unfold outgoing? at outgoing
  dsimp only at outgoing
  split at outgoing
  · rename_i found
    cases outgoing
    exact ⟨_, found, rfl⟩
  · cases outgoing

/-- A party that has not offered its frame does not wait for room. -/
lemma Orderly.absent (orderly : Orderly old) (outgoing : old.outgoing? party = some reply) :
    party ∉ old.queueing := by
  cases party with
  | reader =>
    have answers := reader_of_outgoing outgoing
    exact orderly.reader_absent (by simp [answers]) (by simp [answers])
  | job id =>
    obtain ⟨job, found, replying⟩ := job_of_outgoing outgoing
    exact orderly.job_absent found (by simp [replying])

/-! ### What keeps the order -/

lemma Waits.write {writer : Writer} (waits : old.Waits party reply)
    (halted : old.writer.isOver = true → writer.isOver = true) :
    ({ old with writer } : Connection η).Waits party reply := by
  cases party with
  | job id => exact waits
  | reader => exact waits.imp id fun ⟨ended, stopped⟩ => ⟨ended, halted stopped⟩

/-- The writer may do what it likes with the frames that it has. -/
lemma Orderly.write (orderly : Orderly old) {writer : Writer}
    (waiting : writer.waiting = old.writer.waiting)
    (halted : old.writer.isOver = true → writer.isOver = true) :
    Orderly { old with writer } := by
  refine .keep old orderly.ids orderly.distinct ?_ ?_ orderly.idle
  · rw [waiting]
    exact orderly.lined
  · intro party _ reply waits
    exact waits.write halted

lemma Orderly.settle (orderly : Orderly old) : Orderly old.settle := by
  unfold Connection.settle
  split
  · exact orderly.write rfl id
  · exact orderly

/-- A reader that does not wait for room may go on to anything. -/
lemma Orderly.read (orderly : Orderly old) (absent : .reader ∉ old.queueing)
    {reader : Reader η} {reassembly : Reassembly} {backlog : List Frame}
    (idle : reader = .ended → backlog = []) :
    Orderly { old with reader, reassembly, backlog } := by
  refine .keep old orderly.ids orderly.distinct orderly.lined ?_ ?_
  · intro party present reply waits
    cases party with
    | job id => exact waits
    | reader => exact absurd present absent
  · intro unserved
    exact idle ((isServed_eq _).mp unserved)

/-- The reader ends.  If its frame waits for room, then it waits in vain. -/
lemma Orderly.endReading (orderly : Orderly old)
    (vain : .reader ∈ old.queueing → old.writer.isOver = true) : Orderly old.endReading := by
  have ended : Orderly { old with reader := .ended, backlog := [] } := by
    refine .keep old orderly.ids orderly.distinct orderly.lined ?_ fun _ => rfl
    intro party present reply waits
    cases party with
    | job id => exact waits
    | reader => exact Or.inr ⟨rfl, vain present⟩
  exact ended.settle

lemma ids_setStage (connection : Connection η) (id : Nat) (stage : Stage) :
    (connection.setStage id stage).jobs.map Job.id = connection.jobs.map Job.id := by
  unfold Connection.setStage
  rw [List.map_map]
  refine List.map_congr_left fun job _ => ?_
  dsimp only [Function.comp]
  split <;> rfl

lemma Waits.setStage {stage : Stage} (waits : old.Waits party reply) (other : party ≠ .job id) :
    (old.setStage id stage).Waits party reply := by
  cases party with
  | reader => exact waits
  | job number =>
    obtain ⟨job, among, rfl, queueing⟩ := waits
    have different : job.id ≠ id := fun same => other (congrArg Party.job same)
    exact ⟨job, List.mem_map.mpr ⟨job, among, if_neg different⟩, rfl, queueing⟩

lemma Orderly.setStage (orderly : Orderly old) (absent : .job id ∉ old.queueing)
    (stage : Stage) : Orderly (old.setStage id stage) := by
  refine .keep old ?_ orderly.distinct orderly.lined ?_ orderly.idle
  · rw [ids_setStage]
    exact orderly.ids
  · intro party present reply waits
    exact waits.setStage fun same => absent (same ▸ present)

lemma Orderly.endJob (orderly : Orderly old) (absent : .job id ∉ old.queueing) :
    Orderly (old.endJob id) := by
  have ended : Orderly { old with jobs := old.jobs.filter (·.id ≠ id) } := by
    refine .keep old (orderly.ids.sublist (List.filter_sublist.map _)) orderly.distinct
      orderly.lined ?_ orderly.idle
    intro party present reply waits
    cases party with
    | reader => exact waits
    | job other =>
      obtain ⟨job, among, rfl, queueing⟩ := waits
      have different : job.id ≠ id := fun same => absent (same ▸ present)
      exact ⟨job, List.mem_filter.mpr ⟨among, by simpa using different⟩, rfl, queueing⟩
  exact ended.settle

lemma Orderly.sent (orderly : Orderly old) (absent : party ∉ old.queueing) :
    Orderly (old.sent party) := by
  cases party with
  | job id => exact orderly.endJob absent
  | reader =>
    unfold Connection.sent
    dsimp only
    split
    · exact orderly
    · exact orderly.read absent nofun

lemma Orderly.unsent (orderly : Orderly old) (absent : party ∉ old.queueing) :
    Orderly (old.unsent party) := by
  cases party with
  | job id => exact orderly.endJob absent
  | reader => exact orderly.endReading fun present => absurd present absent

/-- A party takes its place behind those that wait for room. -/
lemma Orderly.wait (orderly : Orderly old) (outgoing : old.outgoing? party = some reply)
    {writer : Writer} (waiting : writer.waiting = old.writer.waiting ++ [reply])
    (halted : writer.isOver = old.writer.isOver) :
    Orderly ({ old with writer }.wait reply party) := by
  have absent := orderly.absent outgoing
  have distinct : (old.queueing ++ [party]).Nodup := by
    rw [List.nodup_append_comm]
    exact List.nodup_cons.mpr ⟨absent, orderly.distinct⟩
  have behind : ∀ {waits : Party → Frame → Prop},
      (∀ other ∈ old.queueing, ∀ reply, old.Waits other reply → waits other reply) →
      waits party reply → List.Forall₂ waits (old.queueing ++ [party]) writer.waiting := by
    intro waits others last
    rw [waiting]
    refine List.rel_append ?_ (.cons last .nil)
    exact ((List.forall₂_and_left _ _).mpr ⟨others, orderly.lined⟩).imp
      fun _ reply h => h.1 reply h.2
  cases party with
  | reader =>
    have answers := reader_of_outgoing outgoing
    refine ⟨orderly.ids, distinct, behind ?_ (Or.inl rfl), nofun⟩
    intro other present reply waits
    cases other with
    | job id => exact waits
    | reader => exact absurd present absent
  | job id =>
    obtain ⟨job, found, replying⟩ := job_of_outgoing outgoing
    obtain ⟨among, rfl⟩ := orderly.job?_eq_some.mp found
    refine ⟨?_, distinct, behind ?_ ?_, orderly.idle⟩
    · exact (ids_setStage old job.id (.queueing reply)).symm ▸ orderly.ids
    · intro other present reply' waits
      have kept : (old.setStage job.id (.queueing reply)).Waits other reply' :=
        waits.setStage fun same => absent (same ▸ present)
      exact kept.write fun stopped => halted ▸ stopped
    · exact ⟨_, List.mem_map.mpr ⟨job, among, if_pos rfl⟩, rfl, rfl⟩

/-- The first party that waits for room leaves, with its frame. -/
lemma Orderly.leave (orderly : Orderly old) {rest : List Party} {others : List Frame}
    (parties : old.queueing = party :: rest) (frames : old.writer.waiting = reply :: others)
    {writer : Writer} (waiting : writer.waiting = others)
    (halted : writer.isOver = old.writer.isOver) :
    old.Waits party reply ∧ party ∉ rest ∧ Orderly { old with writer, queueing := rest } := by
  have lined := orderly.lined
  have distinct := orderly.distinct
  rw [parties, frames] at lined
  rw [parties, List.nodup_cons] at distinct
  obtain ⟨first, others⟩ := List.forall₂_cons.mp lined
  refine ⟨first, distinct.1, .keep old orderly.ids distinct.2 ?_ ?_ orderly.idle⟩
  · rw [waiting]
    exact others
  · intro other _ reply waits
    exact waits.write fun stopped => halted ▸ stopped

/-! ## How a party hands its frame over -/

/-- A party goes on: its frame is in the queue, or waits for room, or finds the task over. -/
theorem pass_cases {delivery : Delivery} (passed : old.pass party = some (delivery, new)) :
    ∃ reply, old.outgoing? party = some reply ∧
      ((∃ writer : Writer, delivery = .queued reply ∧ new = { old with writer }.sent party ∧
          writer.task = old.writer.task ∧ writer.waiting = old.writer.waiting ∧
          ∀ before written, old.writer.Streams before written →
            writer.Streams (before ++ [reply]) written) ∨
        (∃ writer : Writer, delivery = .pending ∧ new = { old with writer }.wait reply party ∧
          writer.task = old.writer.task ∧ writer.waiting = old.writer.waiting ++ [reply] ∧
          writer.queue = old.writer.queue) ∨
        delivery = .dropped reply ∧ new = old.unsent party ∧ old.writer.isOver = true) := by
  unfold pass at passed
  cases outgoing : old.outgoing? party with
  | none => simp [outgoing] at passed
  | some reply =>
    refine ⟨reply, rfl, ?_⟩
    simp only [outgoing] at passed
    unfold Writer.pass at passed
    by_cases halted : old.writer.isOver = true
    · simp only [if_pos halted, Option.some.injEq, Prod.mk.injEq] at passed
      exact Or.inr (Or.inr ⟨passed.1.symm, passed.2.symm, halted⟩)
    · have going : old.writer.isOver = false := by simpa using halted
      by_cases room : old.writer.hasRoom = true
      · simp only [if_neg halted, if_pos room, Option.some.injEq, Prod.mk.injEq] at passed
        exact Or.inl ⟨_, passed.1.symm, passed.2.symm, rfl, rfl,
          fun _ _ streams => streams.enqueue going rfl rfl⟩
      · simp only [if_neg halted, if_neg room, Option.some.injEq, Prod.mk.injEq] at passed
        exact Or.inr (Or.inl ⟨_, passed.1.symm, passed.2.symm, rfl, rfl, rfl⟩)

/-- The first party that waits for room goes on: its frame is in the queue, or finds the task
over. -/
theorem resume_cases {delivery : Delivery} (resumed : old.resume = some (delivery, new)) :
    ∃ party rest reply others, ∃ writer : Writer, old.queueing = party :: rest ∧
      old.writer.waiting = reply :: others ∧ writer.waiting = others ∧
      writer.task = old.writer.task ∧
      (delivery = .queued reply ∧ new = { old with writer, queueing := rest }.sent party ∧
          old.writer.isOver = false ∧
          (∀ before written, old.writer.Streams before written →
            writer.Streams (before ++ [reply]) written) ∨
        delivery = .dropped reply ∧ new = { old with writer, queueing := rest }.unsent party ∧
          old.writer.isOver = true ∧ writer.queue = old.writer.queue) := by
  unfold resume at resumed
  split at resumed
  · rename_i party rest reply others writer parties frames result
    cases resumed
    obtain ⟨hands, waiting, -⟩ := Batching.hands_resume frames result
    have going := hands.going rfl
    exact ⟨party, rest, reply, others, writer, parties, frames, waiting, hands.task, Or.inl ⟨rfl,
      rfl, going, fun _ _ streams => streams.enqueue going hands.task hands.queue⟩⟩
  · rename_i party rest reply others e writer parties frames result
    cases resumed
    obtain ⟨hands, waiting, -⟩ := Batching.hands_resume frames result
    have halted : old.writer.isOver = true := by
      unfold Writer.resume at result
      simp only [frames] at result
      by_cases halted : old.writer.isOver = true
      · exact halted
      · rw [if_neg halted] at result
        split at result <;> cases result
    refine ⟨party, rest, reply, others, writer, parties, frames, waiting, hands.task, Or.inr ⟨rfl,
      rfl, halted, ?_⟩⟩
    rw [hands.queue]
    exact List.append_nil _
  · cases resumed

/-! ## What a party holds -/

/-- A party has a reply to send or to have sent. -/
def Holds (connection : Connection η) : Party → Frame → Prop
  | .reader, reply => connection.reader.unsentReplies = [reply]
  | .job id, reply => ∃ job, connection.job? id = some job ∧ job.stage.reply? = some reply

lemma holds_of_outgoing (outgoing : old.outgoing? party = some reply) :
    old.Holds party reply := by
  cases party with
  | reader =>
    have answers := reader_of_outgoing outgoing
    show old.reader.unsentReplies = [reply]
    rw [answers]
    rfl
  | job id =>
    obtain ⟨job, found, replying⟩ := job_of_outgoing outgoing
    exact ⟨job, found, by rw [replying]; rfl⟩

/-- A party that waits has its reply, unless it is a reader that was stopped. -/
lemma holds_of_waits (orderly : Orderly old) (waits : old.Waits party reply) :
    old.Holds party reply ∨ party = .reader ∧ old.reader = .ended ∧ old.writer.isOver = true := by
  cases party with
  | reader =>
    rcases waits with queueing | ⟨ended, halted⟩
    · refine Or.inl ?_
      show old.reader.unsentReplies = [reply]
      rw [queueing]
      rfl
    · exact Or.inr ⟨rfl, ended, halted⟩
  | job id =>
    obtain ⟨job, among, same, queueing⟩ := waits
    refine Or.inl ⟨job, orderly.job?_eq_some.mpr ⟨among, same⟩, ?_⟩
    rw [queueing]
    rfl

/-! ## What the reader does -/

theorem startJob_cases (started : old.startJob id = some new) :
    ∃ registration request, old.reader = .awaitingSlot registration request ∧
      new = { old with
        reader := .reading
        jobs := old.jobs ++ [⟨id, registration, request, .executing⟩] } := by
  unfold Connection.startJob at started
  split at started
  · rename_i registration request awaits
    exact ⟨registration, request, awaits, (Option.some.inj started).symm⟩
  · cases started

theorem receive_cases {bytes : Bytes} (received : old.receive bytes = some new) :
    old.reader = .reading ∧ old.backlog = [] ∧
      ((∃ frames, (old.reassembly.push bytes).1 = .ok frames ∧ new = { old with
          reassembly := (old.reassembly.push bytes).2
          backlog := frames }) ∨
        (∃ fault, (old.reassembly.push bytes).1 = .error fault) ∧
          new = { old with reassembly := (old.reassembly.push bytes).2 }.endReading) := by
  unfold Connection.receive at received
  split at received
  · rename_i reads empty
    refine ⟨reads, empty, ?_⟩
    generalize old.reassembly.push bytes = pushed at received
    obtain ⟨frames | fault, reassembly⟩ := pushed
    · exact Or.inr ⟨⟨_, rfl⟩, (Option.some.inj received).symm⟩
    · exact Or.inl ⟨_, rfl, (Option.some.inj received).symm⟩
  · cases received

theorem streamEnded_cases (ended : old.streamEnded = some new) :
    old.reader = .reading ∧ old.backlog = [] ∧ new = old.endReading := by
  unfold Connection.streamEnded at ended
  split at ended
  · rename_i reads empty
    exact ⟨reads, empty, (Option.some.inj ended).symm⟩
  · cases ended

/-- What the reader does about a request. -/
def afterLookUp (request : Frame) : Option (Registration η) → Reader η
  | none => .answering (.errorReply request.xid Status.noHandler)
  | some registration => .awaitingSlot registration request

theorem lookUp_cases {functions : Functions η} {request : Frame}
    {found : Option (Registration η)} (looked : old.lookUp functions = some (request, found, new)) :
    old.reader = .reading ∧ ∃ rest, old.backlog = request :: rest ∧
      found = functions.get? request.callId ∧
      new = { old with backlog := rest, reader := afterLookUp request found } := by
  unfold Connection.lookUp at looked
  split at looked
  · rename_i first rest reads next
    refine ⟨reads, rest, ?_⟩
    split at looked
    · rename_i missing
      cases looked
      exact ⟨next, missing.symm, rfl⟩
    · rename_i registration present
      cases looked
      exact ⟨next, present.symm, rfl⟩
  · cases looked

/-! ## Every action keeps the order -/

lemma orderly_startJob (orderly : Orderly old) (fresh : ∀ job ∈ old.jobs, job.id ≠ id)
    (started : old.startJob id = some new) : Orderly new := by
  obtain ⟨registration, request, awaits, rfl⟩ := startJob_cases started
  have absent := orderly.reader_absent (by simp [awaits]) (by simp [awaits])
  refine .keep old ?_ orderly.distinct orderly.lined ?_ nofun
  · rw [List.map_append, List.nodup_append_comm]
    refine List.nodup_cons.mpr ⟨?_, orderly.ids⟩
    rintro present
    obtain ⟨job, among, same⟩ := List.mem_map.mp present
    exact fresh job among same
  · intro party present reply waits
    cases party with
    | reader => exact absurd present absent
    | job other =>
      obtain ⟨job, among, same, queueing⟩ := waits
      exact ⟨job, List.mem_append_left _ among, same, queueing⟩

lemma orderly_pass (orderly : Orderly old) {delivery : Delivery}
    (passed : old.pass party = some (delivery, new)) : Orderly new := by
  obtain ⟨reply, outgoing, ⟨writer, rfl, rfl, task, waiting, streams⟩ |
    ⟨writer, rfl, rfl, task, waiting, queue⟩ | ⟨rfl, rfl, halted⟩⟩ := pass_cases passed
  · have same : writer.isOver = old.writer.isOver := congrArg Writer.Task.isOver task
    exact Orderly.sent (orderly.write waiting fun halted => same ▸ halted) (orderly.absent outgoing)
  · exact orderly.wait outgoing waiting (congrArg Writer.Task.isOver task)
  · exact orderly.unsent (orderly.absent outgoing)

lemma orderly_resume (orderly : Orderly old) {delivery : Delivery}
    (resumed : old.resume = some (delivery, new)) : Orderly new := by
  obtain ⟨party, rest, reply, others, writer, parties, frames, waiting, task, outcome⟩ :=
    resume_cases resumed
  obtain ⟨-, absent, between⟩ := orderly.leave parties frames waiting
    (congrArg Writer.Task.isOver task)
  rcases outcome with ⟨-, rfl, -⟩ | ⟨-, rfl, -⟩
  · exact between.sent absent
  · exact between.unsent absent

lemma orderly_receive (orderly : Orderly old) {bytes : Bytes}
    (received : old.receive bytes = some new) : Orderly new := by
  obtain ⟨reads, empty, ⟨frames, -, rfl⟩ | ⟨-, rfl⟩⟩ := receive_cases received
  · exact orderly.read (orderly.reading_absent reads) fun ended => by simp [reads] at ended
  · have absent := orderly.reading_absent reads
    have between : Orderly { old with reassembly := (old.reassembly.push bytes).2 } :=
      orderly.read absent fun _ => empty
    exact between.endReading fun present => absurd present absent

lemma orderly_streamEnded (orderly : Orderly old) (ended : old.streamEnded = some new) :
    Orderly new := by
  obtain ⟨reads, -, rfl⟩ := streamEnded_cases ended
  exact orderly.endReading fun present => absurd present (orderly.reading_absent reads)

lemma orderly_lookUp (orderly : Orderly old) {functions : Functions η} {request : Frame}
    {found : Option (Registration η)} (looked : old.lookUp functions = some (request, found, new)) :
    Orderly new := by
  obtain ⟨reads, rest, -, -, rfl⟩ := lookUp_cases looked
  refine orderly.read (orderly.reading_absent reads) ?_
  cases found <;> nofun

lemma orderly_stop (orderly : Orderly old) : Orderly old.stop := by
  unfold Connection.stop
  split
  · have aborted : Orderly (old.updateWriter Writer.abort) :=
      orderly.write (Writer.waiting_abort _) fun _ => Writer.isOver_abort _
    exact aborted.endReading fun _ => Writer.isOver_abort _
  · exact orderly

theorem Acts.orderly [Handles η] {registry : Registry} {limit : UInt32} {functions : Functions η}
    {entries : List (Entry η)} (acts : old.Acts registry limit functions entries new)
    (orderly : Orderly old) : Orderly new := by
  cases acts with
  | read reads =>
    cases reads with
    | receive received => exact orderly_receive orderly received
    | streamEnded ended => exact orderly_streamEnded orderly ended
    | lookUp looked => exact orderly_lookUp orderly looked
  | finish found executing =>
    exact orderly.setStage (orderly.job_absent found (by simp [executing])) _
  | pass passed => exact orderly_pass orderly passed
  | expire outgoing => exact orderly.unsent (orderly.absent outgoing)
  | resume resumed => exact orderly_resume orderly resumed
  | collect collected =>
    exact orderly.write (Writer.waiting_collect collected) (Writer.isOver_collect · collected)
  | accept n => exact orderly.write (Writer.waiting_accept _ n) (Writer.isOver_accept · n)
  | fail e => exact orderly.write (Writer.waiting_fail _ e) (Writer.isOver_fail · e)
  | flushed => exact orderly.write (Writer.waiting_flushed _) Writer.isOver_flushed
  | stop => exact orderly_stop orderly

/-! ## No action but the start of a job gives an ID -/

lemma ids_endJob (connection : Connection η) (id : Nat) :
    (connection.endJob id).jobs.map Job.id ⊆ connection.jobs.map Job.id := by
  unfold endJob
  rw [jobs_settle]
  exact (List.filter_sublist.map _).subset

lemma ids_sent (connection : Connection η) (party : Party) :
    (connection.sent party).jobs.map Job.id ⊆ connection.jobs.map Job.id := by
  cases party with
  | job id => exact ids_endJob connection id
  | reader =>
    unfold sent
    dsimp only
    split <;> exact List.Subset.refl _

lemma ids_endReading (connection : Connection η) :
    connection.endReading.jobs.map Job.id ⊆ connection.jobs.map Job.id := by
  unfold endReading
  rw [jobs_settle]
  exact List.Subset.refl _

lemma ids_unsent (connection : Connection η) (party : Party) :
    (connection.unsent party).jobs.map Job.id ⊆ connection.jobs.map Job.id := by
  cases party with
  | job id => exact ids_endJob connection id
  | reader => exact ids_endReading connection

lemma ids_wait (connection : Connection η) (party : Party) (reply : Frame) :
    (connection.wait reply party).jobs.map Job.id = connection.jobs.map Job.id := by
  cases party with
  | job id => exact ids_setStage connection id (.queueing reply)
  | reader => rfl

lemma Acts.ids [Handles η] {registry : Registry} {limit : UInt32} {functions : Functions η}
    {entries : List (Entry η)} (acts : old.Acts registry limit functions entries new) :
    new.jobs.map Job.id ⊆ old.jobs.map Job.id := by
  cases acts with
  | read reads =>
    cases reads with
    | receive received =>
      obtain ⟨-, -, ⟨frames, -, rfl⟩ | ⟨-, rfl⟩⟩ := receive_cases received
      · exact List.Subset.refl _
      · exact ids_endReading _
    | streamEnded ended =>
      obtain ⟨-, -, rfl⟩ := streamEnded_cases ended
      exact ids_endReading _
    | lookUp looked =>
      obtain ⟨-, rest, -, -, rfl⟩ := lookUp_cases looked
      exact List.Subset.refl _
  | finish found executing => exact ids_setStage old _ _ ▸ List.Subset.refl _
  | pass passed =>
    obtain ⟨reply, -, ⟨writer, -, rfl, -⟩ | ⟨writer, -, rfl, -⟩ | ⟨-, rfl, -⟩⟩ := pass_cases passed
    · exact ids_sent _ _
    · exact ids_wait { old with writer } _ reply ▸ List.Subset.refl _
    · exact ids_unsent _ _
  | expire outgoing => exact ids_unsent _ _
  | resume resumed =>
    obtain ⟨party, rest, reply, others, writer, -, -, -, -, ⟨-, rfl, -⟩ | ⟨-, rfl, -⟩⟩ :=
      resume_cases resumed
    · exact ids_sent _ _
    · exact ids_unsent _ _
  | collect | accept | fail | flushed => exact List.Subset.refl _
  | stop =>
    unfold Connection.stop
    split
    · exact ids_endReading _
    · exact List.Subset.refl _

end

end Connection

end RemoteCall
