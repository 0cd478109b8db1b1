import RemoteCall.Proofs.Server.Functions
import RemoteCall.Proofs.Server.Replies

/-!
# What a call ID is bound to

While a server runs, its functions are changed by registrations and removals only, whatever its
connections do meanwhile (`functions_step`).  In every state of a run the functions are a partial
map from call IDs to registrations with known types (`Sound`), and `Server.Bindings` says what the
operations of the server are on this map.

A binding lasts until its call ID is unregistered (`get?_run`), so every request that is looked up
in the meantime is run under it.  For a service that was registered this is the method whose
signature callers are given: the methods of a service have different call IDs, although several of
them may have one name.  Callers and the server both take the first method of a name, so they agree.

A service is registered as a whole or not at all.  That the table is changed in place makes no
difference (`insertService_of_error`): the error that would leave half of a service behind cannot
occur, since the check before it has looked at all members.

## Main statements

* `functions_step` — nothing that happens on a connection concerns the functions.
* `get?_run` — a call ID stays bound to what it is bound to until it is unregistered.
* `bindings_run` — in every state of a run the functions of a server are bound as `Bindings` says.
-/

namespace RemoteCall

variable {η : Type}

/-! ## Tables of functions -/

namespace Functions

/-- No call ID is bound twice, and all types are known. -/
structure Sound (registry : Registry) (functions : Functions η) : Prop where
  distinct : (functions.entries.map Registration.callId).Nodup
  resolves : ∀ registration ∈ functions.entries, registration.Resolves registry

variable {registry : Registry} {functions : Functions η}

lemma Sound.empty : Sound registry (.empty : Functions η) := ⟨List.nodup_nil, nofun⟩

lemma not_mem_callIds {id : CallId} (free : functions.get? id = none) :
    id ∉ functions.entries.map Registration.callId := by
  intro bound
  obtain ⟨registration, present, same⟩ := List.mem_map.mp bound
  have differs := List.find?_eq_none.mp free registration present
  exact differs (decide_eq_true same)

/-- A batch that may be registered leaves a sound table sound. -/
lemma Sound.batch (sound : functions.Sound registry) {batch : List (Registration η)}
    (fresh : functions.Fresh batch)
    (known : ∀ registration ∈ batch, registration.Resolves registry) :
    Sound registry ⟨batch.reverse ++ functions.entries⟩ := by
  have reversed : (batch.reverse.map Registration.callId).Perm (batch.map Registration.callId) :=
    (List.reverse_perm batch).map _
  constructor
  · rw [List.map_append, List.nodup_append']
    refine ⟨reversed.nodup_iff.mpr fresh.distinct, sound.distinct, fun id new old => ?_⟩
    obtain ⟨registration, among, rfl⟩ := List.mem_map.mp (reversed.mem_iff.mp new)
    exact not_mem_callIds (fresh.free registration among) old
  · intro registration present
    rcases List.mem_append.mp present with new | old
    · exact known registration (List.mem_reverse.mp new)
    · exact sound.resolves registration old

lemma Sound.remove (sound : functions.Sound registry) (id : CallId) :
    (functions.remove id).2.Sound registry := by
  have fewer := List.filter_sublist (p := (·.callId ≠ id)) (l := functions.entries)
  exact ⟨sound.distinct.sublist (fewer.map _),
    fun registration present => sound.resolves registration (fewer.subset present)⟩

end Functions

/-! ## Runs -/

namespace Racing

/-- What an action makes of the functions of a server. -/
def rebound (registry : Registry) (functions : Functions η) : Event η → Functions η
  | .act (.register registration) =>
    (functions.settled (functions.registerTyped registry registration)).1
  | .act (.registerService service) =>
    (functions.settled (functions.registerService registry service)).1
  | .act (.unregister id) => (functions.remove id).2
  | _ => functions

/-- Every action keeps a sound table sound. -/
lemma sound_rebound {registry : Registry} {functions : Functions η}
    (sound : functions.Sound registry) (event : Event η) :
    (rebound registry functions event).Sound registry := by
  unfold rebound
  split
  · rename_i registration
    cases outcome : functions.registerTyped registry registration with
    | error e => exact sound
    | ok next =>
      obtain ⟨known, free, rfl⟩ := Functions.registerTyped_eq_ok_iff.mp outcome
      exact sound.batch (Functions.fresh_singleton free) (List.forall_mem_singleton.mpr known)
  · rename_i service
    cases outcome : functions.registerService registry service with
    | error e => exact sound
    | ok next =>
      obtain ⟨known, fresh, rfl⟩ := Functions.registerService_eq_ok_iff.mp outcome
      exact sound.batch fresh known
  · exact sound.remove _
  · exact sound

/-- A binding is not replaced, and only the removal of its call ID takes it away. -/
lemma get?_rebound {registry : Registry} {functions : Functions η} {id : CallId}
    {registration : Registration η} (bound : functions.get? id = some registration)
    {event : Event η} (kept : event ≠ .act (.unregister id)) :
    (rebound registry functions event).get? id = some registration := by
  unfold rebound
  split
  · rename_i other
    cases outcome : functions.registerTyped registry other with
    | error e => exact bound
    | ok next =>
      obtain ⟨-, free, rfl⟩ := Functions.registerTyped_eq_ok_iff.mp outcome
      exact Functions.get?_registered_of_some (Functions.fresh_singleton free) bound
  · rename_i service
    cases outcome : functions.registerService registry service with
    | error e => exact bound
    | ok next =>
      obtain ⟨-, fresh, rfl⟩ := Functions.registerService_eq_ok_iff.mp outcome
      exact Functions.get?_registered_of_some fresh bound
  · rename_i other
    have differ : id ≠ other := by
      rintro rfl
      exact kept rfl
    rw [Functions.get?_remove, if_neg differ]
    exact bound
  · exact bound

lemma functions_delivering (server : Server η) (c : Nat)
    (act : Connection η → Option (Connection.Delivery × Connection η)) :
    (server.delivering c act).1.functions = server.functions := by
  rcases Server.touches_delivering server c act with idle | ⟨_, _, _, _, touches, _⟩
  · rw [idle]
  · exact touches.functions

lemma functions_silently (server : Server η) (c : Nat)
    (act : Connection η → Option (Connection η)) :
    (server.silently c act).1.functions = server.functions := by
  rcases Server.touches_silently server c act with idle | ⟨_, _, _, touches, _⟩
  · rw [idle]
  · exact touches.functions

variable [Handles η]

lemma registry_step (server : Server η) (event : Event η) :
    (step server event).1.registry = server.registry := by
  have steps := steps_step server event
  generalize (step server event).1 = next at steps
  generalize (step server event).2 = entries at steps
  cases steps with
  | aside _ registry => exact registry
  | accepted accepted => exact (Server.fields_accept accepted).1
  | starts _ touches => exact touches.registry
  | acts _ touches => exact touches.registry

/-- Nothing that happens on a connection concerns the functions. -/
theorem functions_step (server : Server η) (event : Event η) :
    (step server event).1.functions = rebound server.registry server.functions event := by
  -- Three actions change the functions, and for them both sides are the same computation. All
  -- others touch a connection or the listener.
  cases event with
  | pass c party => exact functions_delivering server c _
  | expire c party => exact functions_delivering server c _
  | act event =>
    unfold step serve Server.step rebound
    cases event with
    | register registration =>
      dsimp only [Server.register]
      cases server.functions.registerTyped server.registry registration <;> rfl
    | registerService service =>
      dsimp only [Server.registerService]
      cases server.functions.registerService server.registry service <;> rfl
    | unregister id => rfl
    | start address =>
      dsimp only [Server.start]
      cases server.listening <;> rfl
    | stop => rfl
    | accept generation =>
      dsimp only
      cases outcome : server.accept generation with
      | none => rfl
      | some next => exact (Server.fields_accept outcome).2.2.1
    | endAccepting generation =>
      dsimp only [Server.endAccepting]
      cases server.isStopped generation <;> rfl
    | lookUp c =>
      dsimp only
      cases outcome : server.lookUp c with
      | none => rfl
      | some result =>
        obtain ⟨_, _, _, _, _, touches, _⟩ := Server.touches_lookUp outcome
        exact touches.functions
    | grant =>
      dsimp only
      cases outcome : server.grant with
      | none => rfl
      | some next =>
        obtain ⟨_, _, _, _, touches, _⟩ := Server.touches_grant outcome
        exact touches.functions
    | finish c id =>
      dsimp only
      cases outcome : server.finish c id with
      | none => rfl
      | some result =>
        obtain ⟨_, _, _, _, touches, _⟩ := Server.touches_finish outcome
        exact touches.functions
    | offer c party => exact functions_delivering server c _
    | giveUp c party => exact functions_delivering server c _
    | resume c => exact functions_delivering server c _
    | receive c bytes => exact functions_silently server c _
    | streamEnded c => exact functions_silently server c _
    | collect c => exact functions_silently server c _
    | sinkAccepts c n =>
      dsimp only
      cases server.connection? c with
      | none => rfl
      | some connection => exact functions_silently server c _
    | sinkFails c e => exact functions_silently server c _
    | flushed c => exact functions_silently server c _
    | observeStop c => exact functions_silently server c _

lemma registry_run (server : Server η) (events : List (Event η)) :
    (run server events).1.registry = server.registry := by
  induction events generalizing server with
  | nil => rfl
  | cons event rest ih => exact (ih _).trans (registry_step server event)

/-- In every state of a run the functions are a map. -/
lemma sound_run {server : Server η} (sound : server.functions.Sound server.registry)
    (events : List (Event η)) : (run server events).1.functions.Sound server.registry := by
  induction events generalizing server with
  | nil => exact sound
  | cons event rest ih =>
    have first : (step server event).1.functions.Sound (step server event).1.registry := by
      rw [functions_step, registry_step]
      exact sound_rebound sound event
    have later := ih first
    rw [registry_step] at later
    exact later

/-- A call ID stays bound to what it is bound to until it is unregistered. -/
theorem get?_run {server : Server η} {id : CallId} {registration : Registration η}
    (bound : server.functions.get? id = some registration) {events : List (Event η)}
    (kept : .act (.unregister id) ∉ events) :
    (run server events).1.functions.get? id = some registration := by
  induction events generalizing server with
  | nil => exact bound
  | cons event rest ih =>
    obtain ⟨now, later⟩ := not_or.mp (mt List.mem_cons.mpr kept)
    have first : (step server event).1.functions.get? id = some registration := by
      rw [functions_step]
      exact get?_rebound bound (Ne.symm now)
    exact ih first later

/-- Until then every request for it is run under this registration. -/
lemma found_of_bound {server : Server η} {registration : Registration η} {request : Frame}
    (bound : server.functions.get? request.callId = some registration) {events : List (Event η)}
    (kept : .act (.unregister request.callId) ∉ events) {c : Nat}
    {found : Option (Registration η)}
    (looked : (request, found) ∈ looked (on c (run server events).2)) :
    found = some registration := by
  obtain ⟨k, within, here⟩ := List.getElem_of_mem looked
  obtain ⟨before, event, after, rfl, _, _, result⟩ :=
    exists_lookUp ((List.getElem?_eq_getElem within).trans (congrArg some here))
  rw [result]
  exact get?_run bound fun earlier => kept (List.mem_append_left _ earlier)

/-! ## The operations -/

/-- What the operations on the functions of a server do, as operations on a partial map from call
IDs to registrations, and what the map is good for. -/
structure Bindings [Handles η] (server : Server η) : Prop where
  /-- A function is registered iff its types are known and its call ID is free. -/
  registers (registration : Registration η) : (∃ next, server.register registration = .ok next) ↔
    registration.Resolves server.registry ∧ server.functions.get? registration.callId = none
  /-- The call ID of the function is bound to it, and no other binding changes. -/
  registered (registration : Registration η) (next : Server η) :
    server.register registration = .ok next → ∀ id, next.functions.get? id =
      if registration.callId = id then some registration else server.functions.get? id
  /-- A service is registered iff all types of its methods are known, and their call IDs are free
  and different from each other. -/
  registersService (service : Service η) :
    (∃ next, server.registerService service = .ok next) ↔
      (∀ method ∈ service.methods,
        (Registration.ofMethod service.name method).Resolves server.registry) ∧
      (∀ method ∈ service.methods, server.functions.get? method.signature.callId = none) ∧
      (service.methods.map (·.signature.callId)).Nodup
  /-- The call IDs of its methods are bound to them, and no other binding changes. -/
  registeredService (service : Service η) (next : Server η) :
    server.registerService service = .ok next → ∀ id, next.functions.get? id =
      ((service.methods.find? (·.signature.callId = id)).map (.ofMethod service.name)).or
        (server.functions.get? id)
  /-- Whoever is refused changes nothing. -/
  refused (registration : Registration η) (e : Error) : server.register registration = .error e →
    step server (.act (.register registration)) = (server, [])
  refusedService (service : Service η) (e : Error) : server.registerService service = .error e →
    step server (.act (.registerService service)) = (server, []) ∧
      (server.functions.insertService server.registry service).1 = server.functions
  /-- No member of a batch is refused after the check of the batch. -/
  checked (batch : List (Registration η)) : server.functions.checkBatch [] batch = .ok () →
    (server.functions.insertEach batch).2 = .ok ()
  /-- A removal says whether the call ID was bound, and takes this binding away only. -/
  unregistered (id : CallId) :
    (server.unregister id).1 = (server.functions.get? id).isSome ∧
      ∀ other, (server.unregister id).2.functions.get? other =
        if other = id then none else server.functions.get? other
  /-- There is one registration for each call ID that is bound, and its types are known. -/
  distinct : (server.functions.entries.map Registration.callId).Nodup
  resolves (registration : Registration η) : registration ∈ server.functions.entries →
    server.functions.get? registration.callId = some registration ∧
      registration.Resolves server.registry
  /-- A call ID is not bound anew before it was unregistered. -/
  kept (id : CallId) (registration : Registration η) (events : List (Event η)) :
    server.functions.get? id = some registration → .act (.unregister id) ∉ events →
      (run server events).1.functions.get? id = some registration
  /-- As long as the call ID of a signature of a registered service is not unregistered, requests
  for it are run as the first method of that name. -/
  dispatches (service : Service η) (next : Server η) (name : String) (signature : Signature)
    (events : List (Event η)) : server.registerService service = .ok next →
    service.signature? name = some signature → .act (.unregister signature.callId) ∉ events →
    ∃ method, service.methods.find? (·.name = name) = some method ∧
      method.signature = signature ∧
      (run next events).1.functions.get? signature.callId = some (.ofMethod service.name method) ∧
      ∀ c request found, (request, found) ∈ looked (on c (run next events).2) →
        request.callId = signature.callId → found = some (.ofMethod service.name method)

omit [Handles η] in
lemma register_eq_ok_iff {server next : Server η} {registration : Registration η} :
    server.register registration = .ok next ↔
      (registration.Resolves server.registry ∧
        server.functions.get? registration.callId = none) ∧
      next = { server with functions := ⟨registration :: server.functions.entries⟩ } := by
  unfold Server.register
  constructor
  · intro registered
    cases outcome : server.functions.registerTyped server.registry registration with
    | error e =>
      rw [outcome] at registered
      cases registered
    | ok functions =>
      obtain ⟨known, free, rfl⟩ := Functions.registerTyped_eq_ok_iff.mp outcome
      rw [outcome] at registered
      cases registered
      exact ⟨⟨known, free⟩, rfl⟩
  · rintro ⟨⟨known, free⟩, rfl⟩
    rw [Functions.registerTyped_eq_ok_iff.mpr ⟨known, free, rfl⟩]
    rfl

omit [Handles η] in
lemma registerService_eq_ok_iff {server next : Server η} {service : Service η} :
    server.registerService service = .ok next ↔
      ((∀ registration ∈ Functions.batchOf service, registration.Resolves server.registry) ∧
        server.functions.Fresh (Functions.batchOf service)) ∧
      next = { server with
        functions := ⟨(Functions.batchOf service).reverse ++ server.functions.entries⟩ } := by
  unfold Server.registerService
  constructor
  · intro registered
    cases outcome : server.functions.registerService server.registry service with
    | error e =>
      rw [outcome] at registered
      cases registered
    | ok functions =>
      obtain ⟨known, fresh, rfl⟩ := Functions.registerService_eq_ok_iff.mp outcome
      rw [outcome] at registered
      cases registered
      exact ⟨⟨known, fresh⟩, rfl⟩
  · rintro ⟨⟨known, fresh⟩, rfl⟩
    rw [Functions.registerService_eq_ok_iff.mpr ⟨known, fresh, rfl⟩]
    rfl

omit [Handles η] in
/-- In place, too, a service that is refused leaves the functions as they were. -/
lemma insertService_of_error {server : Server η} {service : Service η} {e : Error}
    (refused : server.registerService service = .error e) :
    (server.functions.insertService server.registry service).1 = server.functions := by
  rw [Functions.insertService_eq]
  unfold Server.registerService at refused
  cases outcome : server.functions.registerService server.registry service with
  | error e => rfl
  | ok functions =>
    rw [outcome] at refused
    cases refused

/-- The first method of a name is run for the requests that its signature is for. -/
lemma dispatched_run {server next : Server η} {service : Service η} {name : String}
    {signature : Signature} {events : List (Event η)}
    (registered : server.registerService service = .ok next)
    (declared : service.signature? name = some signature)
    (kept : .act (.unregister signature.callId) ∉ events) :
    ∃ method, service.methods.find? (·.name = name) = some method ∧
      method.signature = signature ∧
      (run next events).1.functions.get? signature.callId = some (.ofMethod service.name method) ∧
      ∀ c request found, (request, found) ∈ looked (on c (run next events).2) →
        request.callId = signature.callId → found = some (.ofMethod service.name method) := by
  obtain ⟨method, first, rfl⟩ := Option.map_eq_some_iff.mp declared
  obtain ⟨⟨-, fresh⟩, rfl⟩ := registerService_eq_ok_iff.mp registered
  have bound := Functions.get?_method fresh (List.mem_of_find?_eq_some first)
  refine ⟨method, first, rfl, get?_run bound kept, fun c request found looked same => ?_⟩
  rw [← same] at bound kept
  exact found_of_bound bound kept looked

/-- In every state of a run the functions of a server are bound as `Bindings` says. -/
theorem bindings_run {registry : Registry} {settings : ServerSettings} {server : Server η}
    (created : Server.create registry settings = .ok server) (events : List (Event η)) :
    Bindings (run server events).1 := by
  have empty : server.functions = .empty := by
    unfold Server.create at created
    split at created
    · cases created
    · cases created
      rfl
  -- From here on only the invariant of the functions counts, not how the state was reached.
  have sound : (run server events).1.functions.Sound (run server events).1.registry := by
    rw [registry_run]
    exact sound_run (empty ▸ .empty) events
  generalize (run server events).1 = state at sound
  constructor
  case registers =>
    intro registration
    simp only [register_eq_ok_iff, exists_and_left, exists_eq, and_true]
  case registered =>
    intro registration next registered id
    obtain ⟨-, rfl⟩ := register_eq_ok_iff.mp registered
    exact Functions.get?_cons state.functions.entries registration id
  case registersService =>
    intro service
    simp only [registerService_eq_ok_iff, exists_and_left, exists_eq, and_true,
      Functions.fresh_batchOf]
    exact and_congr_left fun _ => List.forall_mem_map
  case registeredService =>
    intro service next registered id
    obtain ⟨⟨-, fresh⟩, rfl⟩ := registerService_eq_ok_iff.mp registered
    exact (Functions.get?_registered fresh id).trans (by rw [Functions.find?_batchOf])
  case refused =>
    intro registration e refused
    unfold step serve Server.step
    dsimp only
    rw [refused]
    rfl
  case refusedService =>
    intro service e refused
    refine ⟨?_, insertService_of_error refused⟩
    unfold step serve Server.step
    dsimp only
    rw [refused]
    rfl
  -- The first loop of the service has seen that no method is bound, so the second cannot fail.
  case checked =>
    intro batch checked
    have inserted := Functions.registerEach_of_fresh (Functions.checkBatch_eq_ok_iff.mp checked).1
    rw [Functions.insertEach_of_ok inserted]
  case unregistered => exact fun id => ⟨rfl, Functions.get?_remove state.functions id⟩
  case distinct => exact sound.distinct
  case resolves =>
    intro registration present
    exact ⟨(Functions.get?_eq_some_iff sound.distinct).mpr ⟨present, rfl⟩,
      sound.resolves registration present⟩
  case kept => exact fun id registration events bound kept => get?_run bound kept
  case dispatches =>
    exact fun service next name signature events registered declared kept =>
      dispatched_run registered declared kept

/-- A service with two methods of one name. -/
def overloaded : Service Trial :=
  ((Service.empty "Calc").withMethodId "add" 7 [] [] .returns).withMethodId "add" 8 [] [] .panics

/-- The service is registered while a connection is served, and a request for the first of its
methods is run as this method. -/
theorem bindings_run_overloaded : ∃ server next : Server Trial,
    Server.create .empty {} = .ok server ∧
      (run server [.act (.start "here"), .act (.accept 0)]).1.registerService overloaded =
        .ok next ∧
      overloaded.signature? "add" = some ⟨7, [], []⟩ ∧
      looked (on 0 (run next
        [.act (.receive 0 (Frame.request 1 7 []).encode), .act (.lookUp 0)]).2) =
          [(Frame.request 1 7 [], some (.ofMethod "Calc" ⟨"add", ⟨7, [], []⟩, .returns⟩))] := by
  obtain ⟨server, created⟩ : ∃ server : Server Trial, Server.create .empty {} = .ok server :=
    ⟨_, rfl⟩
  obtain ⟨next, registered⟩ : ∃ next, (run server [.act (.start "here"),
      .act (.accept 0)]).1.registerService overloaded = .ok next := by
    cases created
    exact ⟨_, rfl⟩
  obtain ⟨found, requests⟩ : ∃ found, looked (on 0 (run next
      [.act (.receive 0 (Frame.request 1 7 []).encode), .act (.lookUp 0)]).2) =
        [(Frame.request 1 7 [], found)] := by
    cases created
    cases registered
    exact ⟨_, by cbv⟩
  obtain ⟨method, first, -, -, dispatched⟩ :=
    (bindings_run created [.act (.start "here"), .act (.accept 0)]).dispatches overloaded next "add"
      ⟨7, [], []⟩ [.act (.receive 0 (Frame.request 1 7 []).encode), .act (.lookUp 0)] registered rfl
      (by simp)
  cases first
  refine ⟨server, next, created, registered, rfl, ?_⟩
  rw [requests, dispatched 0 _ found (requests ▸ List.mem_singleton_self _) rfl]
  rfl

end Racing

end RemoteCall
