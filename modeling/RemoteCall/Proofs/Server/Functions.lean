import RemoteCall.Proofs.Schema.Attempts
import RemoteCall.Proofs.Server.Basic

/-!
# Registrations as a partial map

A table of functions is seen through its look-ups, as a partial map from call IDs to registrations.
A registration extends the map at one free ID, and a batch extends it at as many IDs as it has
members, all free and all different; a removal takes one ID out.  Each lemma below says when an
operation succeeds and what it makes of the table.

A batch is checked as a whole before any of it is registered, and what is checked is what decides
about each of its members later on (`registerEach_of_fresh`): once the check has passed, no member
is refused.  So a batch may as well be registered in place, one member after the other
(`insertService_eq`), although a refusal half way would leave the members before it behind.

The types of a registration are checked against the registry of the server first.  They are known
for good: a registry does not change while a server uses it.

## Main statements

* `registerEach_of_fresh` — a batch that passes the check is registered as a whole.
* `insertService_eq` — a service that is refused leaves no method behind.
-/

namespace RemoteCall

variable {η : Type}

/-- All types under which a function is called are known. -/
def Registration.Resolves (registration : Registration η) (registry : Registry) : Prop :=
  ∀ type ∈ registration.argTypes ++ registration.resultTypes, registry.check type = .ok ()

lemma Registry.checkTypes_eq_ok_iff {registry : Registry} {registration : Registration η} :
    registry.checkTypes registration.argTypes registration.resultTypes = .ok () ↔
      registration.Resolves registry := by
  unfold checkTypes Registration.Resolves
  rw [List.forall_mem_append, ← checkAll_eq_ok_iff, ← checkAll_eq_ok_iff]
  cases registry.checkAll registration.argTypes with
  | ok => exact ⟨fun results => ⟨rfl, results⟩, fun both => both.2⟩
  | error e => exact ⟨nofun, fun both => nomatch both.1⟩

lemma Registry.checkBatch_eq_ok_iff {registry : Registry} {batch : List (Registration η)} :
    registry.checkBatch batch = .ok () ↔
      ∀ registration ∈ batch, registration.Resolves registry := by
  induction batch with
  | nil => exact ⟨fun _ => nofun, fun _ => rfl⟩
  | cons registration rest ih =>
    rw [checkBatch, List.forall_mem_cons, ← ih, ← checkTypes_eq_ok_iff]
    cases registry.checkTypes registration.argTypes registration.resultTypes with
    | ok => exact ⟨fun others => ⟨rfl, others⟩, fun both => both.2⟩
    | error e => exact ⟨nofun, fun both => nomatch both.1⟩

namespace Functions

section

variable {functions next : Functions η} {registration : Registration η}

lemma contains_eq_false_iff {id : CallId} :
    functions.contains id = false ↔ functions.get? id = none := by
  unfold contains
  rw [Option.isSome_eq_false_iff, Option.isNone_iff_eq_none]

/-! ## One function -/

lemma get?_cons (entries : List (Registration η)) (registration : Registration η)
    (id : CallId) : get? ⟨registration :: entries⟩ id =
      if registration.callId = id then some registration else get? ⟨entries⟩ id := by
  unfold get?
  rw [List.find?_cons]
  by_cases same : registration.callId = id <;> simp [same]

lemma register_eq_ok_iff : functions.register registration = .ok next ↔
    functions.get? registration.callId = none ∧ next = ⟨registration :: functions.entries⟩ := by
  unfold register
  rw [← contains_eq_false_iff]
  cases functions.contains registration.callId with
  | true => exact ⟨nofun, fun both => nomatch both.1⟩
  | false =>
    simp only [Bool.false_eq_true, if_false, Except.ok.injEq, true_and]
    exact eq_comm

lemma registerTyped_eq_ok_iff {registry : Registry} :
    functions.registerTyped registry registration = .ok next ↔
      registration.Resolves registry ∧ functions.get? registration.callId = none ∧
        next = ⟨registration :: functions.entries⟩ := by
  unfold registerTyped
  rw [← register_eq_ok_iff, ← Registry.checkTypes_eq_ok_iff]
  cases registry.checkTypes registration.argTypes registration.resultTypes with
  | ok => exact ⟨fun registered => ⟨rfl, registered⟩, fun both => both.2⟩
  | error e => exact ⟨nofun, fun both => nomatch both.1⟩

lemma get?_remove (functions : Functions η) (id other : CallId) :
    (functions.remove id).2.get? other = if other = id then none else functions.get? other := by
  unfold remove get?
  dsimp only
  rw [List.find?_filter]
  by_cases same : other = id
  · rw [if_pos same, List.find?_eq_none]
    simp [same]
  · rw [if_neg same]
    congr 1
    funext registration
    by_cases hit : registration.callId = other <;> simp [hit, same]

/-! ## A batch -/

/-- No member of a batch has the ID of another one, or one that is taken. -/
structure Fresh (functions : Functions η) (batch : List (Registration η)) : Prop where
  free : ∀ registration ∈ batch, functions.get? registration.callId = none
  distinct : (batch.map Registration.callId).Nodup

lemma checkBatch_eq_ok_iff {seen : List CallId} {batch : List (Registration η)} :
    functions.checkBatch seen batch = .ok () ↔
      functions.Fresh batch ∧ ∀ registration ∈ batch, registration.callId ∉ seen := by
  induction batch generalizing seen with
  | nil => exact ⟨fun _ => ⟨⟨nofun, List.nodup_nil⟩, nofun⟩, fun _ => rfl⟩
  | cons registration rest ih =>
    rw [checkBatch]
    by_cases clash : functions.contains registration.callId = true ∨ registration.callId ∈ seen
    · rw [if_pos clash]
      refine ⟨nofun, fun ⟨fresh, unseen⟩ => ?_⟩
      have free := contains_eq_false_iff.mpr (fresh.free registration List.mem_cons_self)
      rcases clash with taken | again
      · rw [free] at taken
        cases taken
      · exact absurd again (unseen registration List.mem_cons_self)
    · rw [if_neg clash, ih]
      obtain ⟨free, unseen⟩ := not_or.mp clash
      rw [Bool.not_eq_true, contains_eq_false_iff] at free
      constructor
      · rintro ⟨fresh, later⟩
        refine ⟨⟨List.forall_mem_cons.mpr ⟨free, fresh.free⟩, ?_⟩,
          List.forall_mem_cons.mpr ⟨unseen, fun other among => ?_⟩⟩
        · rw [List.map_cons, List.nodup_cons]
          refine ⟨fun again => ?_, fresh.distinct⟩
          obtain ⟨other, among, same⟩ := List.mem_map.mp again
          exact later other among (same ▸ List.mem_cons_self)
        · exact fun before => later other among (List.mem_cons_of_mem _ before)
      · rintro ⟨fresh, before⟩
        obtain ⟨first, distinct⟩ := List.nodup_cons.mp fresh.distinct
        refine ⟨⟨(List.forall_mem_cons.mp fresh.free).2, distinct⟩, fun other among again => ?_⟩
        rcases List.mem_cons.mp again with same | earlier
        · exact first (same ▸ List.mem_map_of_mem among)
        · exact (List.forall_mem_cons.mp before).2 other among earlier

/-- No member of a fresh batch is refused. -/
theorem registerEach_of_fresh {batch : List (Registration η)} (fresh : functions.Fresh batch) :
    functions.registerEach batch = .ok ⟨batch.reverse ++ functions.entries⟩ := by
  induction batch generalizing functions with
  | nil => rfl
  | cons registration rest ih =>
    obtain ⟨free, others⟩ := List.forall_mem_cons.mp fresh.free
    obtain ⟨first, distinct⟩ := List.nodup_cons.mp fresh.distinct
    have still : Fresh ⟨registration :: functions.entries⟩ rest := by
      refine ⟨fun other among => ?_, distinct⟩
      have differ : registration.callId ≠ other.callId :=
        fun same => first (same ▸ List.mem_map_of_mem among)
      rw [get?_cons, if_neg differ]
      exact others other among
    rw [registerEach, register_eq_ok_iff.mpr ⟨free, rfl⟩]
    dsimp only
    rw [ih still, List.reverse_cons, List.append_assoc]
    rfl

lemma registerAll_eq_ok_iff {batch : List (Registration η)} :
    functions.registerAll batch = .ok next ↔
      functions.Fresh batch ∧ next = ⟨batch.reverse ++ functions.entries⟩ := by
  have checked : functions.checkBatch [] batch = .ok () ↔ functions.Fresh batch := by
    rw [checkBatch_eq_ok_iff]
    exact ⟨And.left, fun fresh => ⟨fresh, fun _ _ => List.not_mem_nil⟩⟩
  unfold registerAll
  rw [← checked]
  cases outcome : functions.checkBatch [] batch with
  | ok =>
    dsimp only
    rw [registerEach_of_fresh (checked.mp outcome), Except.ok.injEq]
    exact ⟨fun same => ⟨rfl, same.symm⟩, fun both => both.2.symm⟩
  | error e => exact ⟨nofun, fun both => nomatch both.1⟩

/-- The methods of a service are a batch. -/
def batchOf (service : Service η) : List (Registration η) :=
  service.methods.map (.ofMethod service.name)

lemma registerService_eq_ok_iff {registry : Registry} {service : Service η} :
    functions.registerService registry service = .ok next ↔
      (∀ registration ∈ batchOf service, registration.Resolves registry) ∧
        functions.Fresh (batchOf service) ∧
        next = ⟨(batchOf service).reverse ++ functions.entries⟩ := by
  rw [← registerAll_eq_ok_iff, ← Registry.checkBatch_eq_ok_iff, batchOf]
  unfold registerService
  dsimp only
  generalize service.methods.map (Registration.ofMethod service.name) = batch
  cases registry.checkBatch batch with
  | ok => exact ⟨fun registered => ⟨rfl, registered⟩, fun both => both.2⟩
  | error e => exact ⟨nofun, fun both => nomatch both.1⟩

/-! ## A batch in place -/

/-- Register functions in a table that is changed in place: a refusal leaves those before it
registered. -/
def insertEach (functions : Functions η) :
    List (Registration η) → Functions η × Except Error Unit
  | [] => (functions, .ok ())
  | registration :: rest =>
    match functions.register registration with
    | .ok next => next.insertEach rest
    | .error e => (functions, .error e)

/-- Register a service in a table that is changed in place. -/
def insertService (functions : Functions η) (registry : Registry) (service : Service η) :
    Functions η × Except Error Unit :=
  match registry.checkBatch (batchOf service) with
  | .error e => (functions, .error e)
  | .ok () =>
    match functions.checkBatch [] (batchOf service) with
    | .error e => (functions, .error e)
    | .ok () => functions.insertEach (batchOf service)

/-- The table that an attempt to change it leaves, and what it reports. -/
def settled (functions : Functions η) :
    Except Error (Functions η) → Functions η × Except Error Unit
  | .ok next => (next, .ok ())
  | .error e => (functions, .error e)

lemma insertEach_of_ok {batch : List (Registration η)}
    (registered : functions.registerEach batch = .ok next) :
    functions.insertEach batch = (next, .ok ()) := by
  induction batch generalizing functions with
  | nil =>
    cases registered
    rfl
  | cons registration rest ih =>
    rw [registerEach] at registered
    rw [insertEach]
    cases first : functions.register registration with
    | error e =>
      rw [first] at registered
      cases registered
    | ok between =>
      rw [first] at registered
      exact ih registered

/-- A refused service leaves the table as it was. -/
theorem insertService_eq (functions : Functions η) (registry : Registry) (service : Service η) :
    functions.insertService registry service =
      functions.settled (functions.registerService registry service) := by
  unfold insertService registerService registerAll batchOf
  dsimp only
  generalize service.methods.map (Registration.ofMethod service.name) = batch
  cases registry.checkBatch batch with
  | error e => rfl
  | ok =>
    dsimp only
    cases checked : functions.checkBatch [] batch with
    | error e => rfl
    | ok =>
      have inserted := registerEach_of_fresh (checkBatch_eq_ok_iff.mp checked).1
      dsimp only
      rw [insertEach_of_ok inserted, inserted]
      rfl

/-! ## Look-ups -/

/-- Among entries of distinct IDs each one is found under its own. -/
lemma get?_eq_some_iff {entries : List (Registration η)}
    (distinct : (entries.map Registration.callId).Nodup) {id : CallId} :
    get? ⟨entries⟩ id = some registration ↔ registration ∈ entries ∧ registration.callId = id := by
  refine ⟨eq_of_get?, ?_⟩
  rintro ⟨present, rfl⟩
  induction entries with
  | nil => cases present
  | cons entry rest ih =>
    obtain ⟨first, distinct⟩ := List.nodup_cons.mp distinct
    rw [get?_cons]
    rcases List.mem_cons.mp present with rfl | later
    · rw [if_pos rfl]
    · have differ : entry.callId ≠ registration.callId :=
        fun same => first (same ▸ List.mem_map_of_mem later)
      rw [if_neg differ]
      exact ih distinct later

/-- After a batch was registered, its members are found under their IDs and all else is as it
was. -/
lemma get?_registered {batch : List (Registration η)} (fresh : functions.Fresh batch)
    (id : CallId) : get? ⟨batch.reverse ++ functions.entries⟩ id =
      (batch.find? (·.callId = id)).or (functions.get? id) := by
  have reversed : get? ⟨batch.reverse⟩ id = get? ⟨batch⟩ id := by
    have distinct' : (batch.reverse.map Registration.callId).Nodup := by
      rw [List.map_reverse, (List.reverse_perm _).nodup_iff]
      exact fresh.distinct
    ext registration
    rw [get?_eq_some_iff distinct', get?_eq_some_iff fresh.distinct, List.mem_reverse]
  unfold get? at reversed ⊢
  rw [List.find?_append, reversed]

/-- A batch takes no binding away. -/
lemma get?_registered_of_some {batch : List (Registration η)} (fresh : functions.Fresh batch)
    {id : CallId} (bound : functions.get? id = some registration) :
    get? ⟨batch.reverse ++ functions.entries⟩ id = some registration := by
  have absent : batch.find? (·.callId = id) = none := by
    rw [List.find?_eq_none]
    intro other among same
    have free := fresh.free other among
    rw [of_decide_eq_true same, bound] at free
    cases free
  rw [get?_registered fresh, absent]
  exact bound

lemma fresh_singleton (free : functions.get? registration.callId = none) :
    functions.Fresh [registration] :=
  ⟨List.forall_mem_singleton.mpr free, List.nodup_cons.mpr ⟨List.not_mem_nil, List.nodup_nil⟩⟩

/-- A batch of methods is fresh if their call IDs are free and different. -/
lemma fresh_batchOf {service : Service η} : functions.Fresh (batchOf service) ↔
    (∀ method ∈ service.methods, functions.get? method.signature.callId = none) ∧
      (service.methods.map (·.signature.callId)).Nodup := by
  have ids : (batchOf service).map Registration.callId =
      service.methods.map (·.signature.callId) := by
    unfold batchOf
    rw [List.map_map]
    rfl
  have free : (∀ registration ∈ batchOf service, functions.get? registration.callId = none) ↔
      ∀ method ∈ service.methods, functions.get? method.signature.callId = none :=
    List.forall_mem_map
  exact ⟨fun fresh => ⟨free.mp fresh.free, ids ▸ fresh.distinct⟩,
    fun both => ⟨free.mpr both.1, ids.symm ▸ both.2⟩⟩

lemma find?_batchOf (service : Service η) (id : CallId) :
    (batchOf service).find? (·.callId = id) =
      (service.methods.find? (·.signature.callId = id)).map (.ofMethod service.name) := by
  unfold batchOf
  rw [List.find?_map]
  rfl

/-- Among the methods of a service that was registered, each is found under its own call ID. -/
lemma get?_method {service : Service η} (fresh : functions.Fresh (batchOf service))
    {method : Method η} (declared : method ∈ service.methods) :
    get? ⟨(batchOf service).reverse ++ functions.entries⟩ method.signature.callId =
      some (.ofMethod service.name method) := by
  have among : get? ⟨batchOf service⟩ method.signature.callId =
      some (.ofMethod service.name method) :=
    (get?_eq_some_iff fresh.distinct).mpr ⟨List.mem_map_of_mem declared, rfl⟩
  unfold get? at among
  rw [get?_registered fresh, among]
  rfl

end

end Functions

end RemoteCall
