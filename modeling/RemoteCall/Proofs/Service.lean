import RemoteCall.Proofs.Bytes.Fnv
import RemoteCall.Proofs.Server.Functions

/-!
# Collisions of call IDs

Call IDs are hashes of full method names, so different names may have one ID. A common end of two
names decides nothing about that (`CallId.ofName_append_eq_iff`), and a full name ends with the
method.  So services collide in all their method names or in none
(`Service.ofName_fullName_eq_iff`).  Names of one length that differ in one byte never collide
(`CallId.ofName_ne_of_oneApart`).

A server refuses a service with a call ID that is taken.  Services whose names collide therefore
cannot be registered together once they share a method name
(`Functions.registerService_of_collision`).  A service whose method names are pairwise one byte
apart is never in its own way (`Functions.registerService_of_oneApart`).

Names are hashed as their bytes, so it is bytes that are counted where names differ, and a letter
outside of the first range is more than one of them.  Two letters may differ in one byte all the
same.

Call IDs are all that travels of a name.  So collisions are not found by a peer; the server finds
them when it registers, and that is the one place where a name and its ID are both known.

## Main statements

* `CallId.fronts_decide_collisions` — what decides a collision of names.
* `Functions.registerService_of_collision` — services whose names collide are not registered
  together if they share a method name.
* `Functions.registerService_of_oneApart` — a service that is never in its own way.
-/

namespace RemoteCall

/-! ## Names -/

namespace CallId

lemma ofName_eq_iff {p q : String} :
    ofName p = ofName q ↔ Fnv.hash (Utf8.encode p) = Fnv.hash (Utf8.encode q) :=
  ⟨fun same => congrArg Int32.toUInt32 same, fun same => congrArg UInt32.toInt32 same⟩

/-- A common end of two names decides nothing about a collision. -/
theorem ofName_append_eq_iff {p q : String} (s : String) :
    ofName (p ++ s) = ofName (q ++ s) ↔ ofName p = ofName q := by
  rw [ofName_eq_iff, ofName_eq_iff, Utf8.encode_append, Utf8.encode_append,
    Fnv.hash_append_eq_iff]

/-- A common front may decide about it. -/
example : ofName "liquid" = ofName "costarring" ∧ ofName "A.liquid" ≠ ofName "A.costarring" := by
  decide

/-- Names of one length that differ in one byte never collide. -/
theorem ofName_ne_of_oneApart {p q : String}
    (apart : Bytes.OneApart (Utf8.encode p) (Utf8.encode q)) : ofName p ≠ ofName q :=
  fun same => Fnv.hash_ne_of_oneApart apart (ofName_eq_iff.mp same)

end CallId

/-! ## Methods of services -/

namespace Service

/-- A method name decides nothing about a collision between services. -/
theorem ofName_fullName_eq_iff {service other : String} (method : String) :
    CallId.ofName (fullName service method) = CallId.ofName (fullName other method) ↔
      CallId.ofName service = CallId.ofName other :=
  (CallId.ofName_append_eq_iff method).trans (CallId.ofName_append_eq_iff ".")

lemma encode_fullName (service method : String) :
    Utf8.encode (fullName service method) = Utf8.encode (service ++ ".") ++ Utf8.encode method :=
  Utf8.encode_append (service ++ ".") method

lemma oneApart_fullName {p q : String}
    (apart : Bytes.OneApart (Utf8.encode p) (Utf8.encode q)) (service : String) :
    Bytes.OneApart (Utf8.encode (fullName service p)) (Utf8.encode (fullName service q)) := by
  rw [encode_fullName, encode_fullName]
  exact apart.append_left (Utf8.encode (service ++ "."))

end Service

/-- **Collisions of call IDs are decided in front of a common end.**  So names of one length that
differ in one byte never collide, alone or as method names of one service, and two services that
collide in one method name collide in every one. -/
theorem CallId.fronts_decide_collisions :
    (∀ p q s : String, ofName (p ++ s) = ofName (q ++ s) ↔ ofName p = ofName q) ∧
    (∀ p q : String, Bytes.OneApart (Utf8.encode p) (Utf8.encode q) →
      ofName p ≠ ofName q ∧ ∀ service : String,
        ofName (Service.fullName service p) ≠ ofName (Service.fullName service q)) ∧
    ∀ service other : String,
      (∃ method, ofName (Service.fullName service method) =
        ofName (Service.fullName other method)) ↔
      ∀ method, ofName (Service.fullName service method) =
        ofName (Service.fullName other method) := by
  refine ⟨fun p q s => ofName_append_eq_iff s, fun p q apart => ⟨ofName_ne_of_oneApart apart, ?_⟩,
    fun service other => ⟨?_, ?_⟩⟩
  · intro service
    exact ofName_ne_of_oneApart (Service.oneApart_fullName apart service)
  · rintro ⟨method, same⟩ another
    have services := (Service.ofName_fullName_eq_iff method).mp same
    exact (Service.ofName_fullName_eq_iff another).mpr services
  · intro always
    exact ⟨"", always ""⟩

/-- Two letters that differ in the second of their two bytes, and two services that collide. -/
theorem CallId.fronts_decide_collisions_accented :
    (Bytes.OneApart (Utf8.encode "caf\u00e9") (Utf8.encode "caf\u00e8") ∧
      ofName "Menu.caf\u00e9" ≠ ofName "Menu.caf\u00e8") ∧
    (ofName "liquid.pour" = ofName "costarring.pour" ∧
      ∀ method, ofName (Service.fullName "liquid" method) =
        ofName (Service.fullName "costarring" method)) := by
  obtain ⟨-, apart, services⟩ := fronts_decide_collisions
  have accents : Bytes.OneApart (Utf8.encode "caf\u00e9") (Utf8.encode "caf\u00e8") :=
    Bytes.oneApart_append_cons (by decide : (0xa9 : UInt8) ≠ 0xa8) [0x63, 0x61, 0x66, 0xc3] []
  have pour : ofName "liquid.pour" = ofName "costarring.pour" := by decide
  exact ⟨⟨accents, (apart _ _ accents).2 "Menu"⟩, pour, (services _ _).mp ⟨"pour", pour⟩⟩

/-! ## Services under the names of their methods -/

variable {η : Type} {service other : Service η}

namespace Service

/-- Every method has the call ID of its full name. -/
def ByName (service : Service η) : Prop :=
  ∀ method ∈ service.methods,
    method.signature.callId = CallId.ofName (fullName service.name method.name)

lemma byName_empty (name : String) : (empty name : Service η).ByName := nofun

lemma ByName.withMethod (byName : service.ByName) (name : String)
    (argTypes resultTypes : List Ty) (handler : η) :
    (service.withMethod name argTypes resultTypes handler).ByName := by
  intro method among
  rcases List.mem_append.mp among with before | added
  · exact byName method before
  · rw [List.mem_singleton.mp added]
    rfl

/-- Methods of one name have one call ID in both services if the names of the services collide, and
different ones if not. -/
lemma ByName.callId_eq_iff (byName : service.ByName) (byName' : other.ByName)
    {method method' : Method η} (declared : method ∈ service.methods)
    (declared' : method' ∈ other.methods) (same : method.name = method'.name) :
    method.signature.callId = method'.signature.callId ↔
      CallId.ofName service.name = CallId.ofName other.name := by
  rw [byName method declared, byName' method' declared', same, ofName_fullName_eq_iff]

/-- Method names that are pairwise one byte apart give different call IDs. -/
lemma ByName.nodup_callIds (byName : service.ByName)
    (apart : service.methods.Pairwise fun method method' =>
      Bytes.OneApart (Utf8.encode method.name) (Utf8.encode method'.name)) :
    (service.methods.map (·.signature.callId)).Nodup := by
  refine List.pairwise_map.mpr (apart.imp_of_mem fun declared declared' apart => ?_)
  rw [byName _ declared, byName _ declared']
  exact CallId.ofName_ne_of_oneApart (oneApart_fullName apart service.name)

end Service

/-! ## Registration -/

namespace Functions

/-- Services whose names collide are not registered together if they share a method name. -/
theorem registerService_of_collision {functions next : Functions η} {registry known : Registry}
    (byName : service.ByName) (byName' : other.ByName)
    (collide : CallId.ofName service.name = CallId.ofName other.name)
    {method method' : Method η} (declared : method ∈ service.methods)
    (declared' : method' ∈ other.methods) (same : method.name = method'.name)
    (registered : functions.registerService registry service = .ok next) :
    ∃ e, next.registerService known other = .error e := by
  obtain ⟨-, fresh, rfl⟩ := registerService_eq_ok_iff.mp registered
  cases outcome : Functions.registerService _ known other with
  | error e => exact ⟨e, rfl⟩
  | ok last =>
    obtain ⟨-, fresh', -⟩ := registerService_eq_ok_iff.mp outcome
    have free := (fresh_batchOf.mp fresh').1 method' declared'
    have ids := (byName.callId_eq_iff byName' declared declared' same).mpr collide
    rw [← ids, get?_method fresh declared] at free
    cases free

/-- A service whose method names are pairwise one byte apart is registered where nothing else is,
provided that its types are known. -/
theorem registerService_of_oneApart {registry : Registry} (byName : service.ByName)
    (apart : service.methods.Pairwise fun method method' =>
      Bytes.OneApart (Utf8.encode method.name) (Utf8.encode method'.name))
    (known : ∀ registration ∈ batchOf service, registration.Resolves registry) :
    empty.registerService registry service = .ok ⟨(batchOf service).reverse⟩ := by
  have fresh : (empty : Functions η).Fresh (batchOf service) :=
    fresh_batchOf.mpr ⟨fun _ _ => rfl, byName.nodup_callIds apart⟩
  refine registerService_eq_ok_iff.mpr ⟨known, fresh, ?_⟩
  rw [empty, List.append_nil]

end Functions

end RemoteCall
