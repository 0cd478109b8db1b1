import RemoteCall.Bytes.Fnv
import RemoteCall.Schema.Ty
import RemoteCall.Text.Utf8

/-!
# Services

A service is a named list of methods. A method's call ID is the hash of `"Service.method"` unless
the service gives it another one, so two programs built from the same description agree on the IDs
without exchanging anything.
-/

namespace RemoteCall

/-- The number under which a call travels. -/
abbrev CallId := Int32

/-- The call ID of a full method name: its FNV-1a hash, as a signed word. -/
def CallId.ofName (name : String) : CallId := (Fnv.hash (Utf8.encode name)).toInt32

/-- A call ID with the types of its arguments and results. -/
structure Signature where
  callId : CallId
  argTypes : List Ty
  resultTypes : List Ty
  deriving DecidableEq, Repr, Inhabited

/-- The signature of a method that is known by its full name. -/
def Signature.named (name : String) (argTypes resultTypes : List Ty) : Signature :=
  ⟨CallId.ofName name, argTypes, resultTypes⟩

/-- One method of a service, with handlers of type `η`. -/
structure Method (η : Type) where
  name : String
  signature : Signature
  handler : η
  deriving Repr

/-- A named list of methods. -/
structure Service (η : Type) where
  name : String
  methods : List (Method η)
  deriving Repr

namespace Service

variable {η : Type}

/-- A service without methods. -/
def empty (name : String) : Service η := ⟨name, []⟩

/-- The full name of a method of a service. -/
def fullName (service method : String) : String := s!"{service}.{method}"

/-- Add a method under a call ID of its own. -/
def withMethodId (service : Service η) (method : String) (callId : CallId)
    (argTypes resultTypes : List Ty) (handler : η) : Service η :=
  { service with
    methods := service.methods ++ [⟨method, ⟨callId, argTypes, resultTypes⟩, handler⟩] }

/-- Add a method under the call ID of its full name. -/
def withMethod (service : Service η) (method : String) (argTypes resultTypes : List Ty)
    (handler : η) : Service η :=
  service.withMethodId method (CallId.ofName (fullName service.name method)) argTypes resultTypes
    handler

/-- The signature of the first method of a name. -/
def signature? (service : Service η) (method : String) : Option Signature :=
  (service.methods.find? (·.name = method)).map Method.signature

end Service

end RemoteCall
