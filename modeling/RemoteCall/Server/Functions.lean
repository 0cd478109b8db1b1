import RemoteCall.Schema.Registry
import RemoteCall.Service

/-!
# Registered functions

A server maps call IDs to registrations.  A registration is refused if its call ID is taken, and a
batch of registrations is taken as a whole or not at all.

The types of a registration have to be known to the registry of the server; this is checked first
(`registerTyped`).  The error of a refusal names the function by its full method name if it belongs
to a service, and by its call ID if not.
-/

namespace RemoteCall

/-- A handler of type `η` with the types under which it is called. -/
structure Registration (η : Type) where
  callId : CallId
  /-- The full method name, if the call belongs to a service. -/
  name : Option String
  argTypes : List Ty
  resultTypes : List Ty
  handler : η
  deriving Repr

namespace Registration

variable {η : Type}

/-- How a registration is named in messages. -/
def label (registration : Registration η) : String :=
  registration.name.getD (Error.callLabel registration.callId)

/-- The registration of a method. -/
def ofMethod (service : String) (method : Method η) : Registration η where
  callId := method.signature.callId
  name := some (Service.fullName service method.name)
  argTypes := method.signature.argTypes
  resultTypes := method.signature.resultTypes
  handler := method.handler

/-- The refusal of a registration whose call ID is taken. -/
def taken (registration : Registration η) : Error := .config (.callTaken registration.label)

end Registration

/-- The registrations of a server, last one first. -/
structure Functions (η : Type) where
  entries : List (Registration η)
  deriving Repr

namespace Functions

variable {η : Type}

/-- No function is registered. -/
def empty : Functions η := ⟨[]⟩

/-- The registration under a call ID. -/
def get? (functions : Functions η) (id : CallId) : Option (Registration η) :=
  functions.entries.find? (·.callId = id)

/-- Whether a call ID is taken. -/
def contains (functions : Functions η) (id : CallId) : Bool := (functions.get? id).isSome

/-- The number of registered call IDs. -/
def size (functions : Functions η) : Nat := functions.entries.length

/-- Register one function. -/
def register (functions : Functions η) (registration : Registration η) :
    Except Error (Functions η) :=
  if functions.contains registration.callId then .error registration.taken
  else .ok ⟨registration :: functions.entries⟩

/-- No call ID of a batch is taken, and none is among those that were `seen` before in the batch. -/
def checkBatch (functions : Functions η) :
    (seen : List CallId) → List (Registration η) → Except Error Unit
  | _, [] => .ok ()
  | seen, registration :: rest =>
    if functions.contains registration.callId ∨ registration.callId ∈ seen then
      .error registration.taken
    else functions.checkBatch (registration.callId :: seen) rest

/-- Register functions one after the other. -/
def registerEach (functions : Functions η) :
    List (Registration η) → Except Error (Functions η)
  | [] => .ok functions
  | registration :: rest =>
    match functions.register registration with
    | .ok next => next.registerEach rest
    | .error e => .error e

/-- Register a batch as a whole. -/
def registerAll (functions : Functions η) (batch : List (Registration η)) :
    Except Error (Functions η) :=
  match functions.checkBatch [] batch with
  | .ok () => functions.registerEach batch
  | .error e => .error e

/-- Remove a registration; says whether there was one. -/
def remove (functions : Functions η) (id : CallId) : Bool × Functions η :=
  (functions.contains id, ⟨functions.entries.filter (·.callId ≠ id)⟩)

end Functions

/-- Both type lists of a registration are known. -/
def Registry.checkTypes (registry : Registry) (argTypes resultTypes : List Ty) :
    Except Error Unit :=
  match registry.checkAll argTypes with
  | .ok () => registry.checkAll resultTypes
  | .error e => .error e

/-- The types of every registration of a batch are known. -/
def Registry.checkBatch {η : Type} (registry : Registry) :
    List (Registration η) → Except Error Unit
  | [] => .ok ()
  | registration :: rest =>
    match registry.checkTypes registration.argTypes registration.resultTypes with
    | .ok () => registry.checkBatch rest
    | .error e => .error e

namespace Functions

variable {η : Type}

/-- Register a function whose types have to be known. -/
def registerTyped (functions : Functions η) (registry : Registry)
    (registration : Registration η) : Except Error (Functions η) :=
  match registry.checkTypes registration.argTypes registration.resultTypes with
  | .ok () => functions.register registration
  | .error e => .error e

/-- Register all methods of a service, whose types have to be known, or none. -/
def registerService (functions : Functions η) (registry : Registry) (service : Service η) :
    Except Error (Functions η) :=
  let batch := service.methods.map (Registration.ofMethod service.name)
  match registry.checkBatch batch with
  | .ok () => functions.registerAll batch
  | .error e => .error e

end Functions

end RemoteCall
