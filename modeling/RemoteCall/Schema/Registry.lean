import RemoteCall.Error
import RemoteCall.Schema.Ty

/-!
# The registry of struct layouts

Both ends of a connection register the same layouts before they exchange a struct. A layout may
only refer to primitives and to structs registered before it, so a registry is a list in which
every entry speaks about the entries behind it, and a layout can be followed by recursion on that
list: there is no way to write a struct that contains itself.

## Main definitions

* `Registry.register` adds a layout or says what is wrong with it.
* `Registry.check`, `Registry.checkAll` say whether the types that a call declares are known.
* `Registry.Built` describes the registries that registrations lead to.
-/

namespace RemoteCall

/-- One field of a struct layout. -/
structure Field where
  name : String
  type : Ty
  deriving DecidableEq, Repr

/-- A struct type: its name and its fields in wire order. -/
structure Layout where
  name : String
  fields : List Field
  deriving DecidableEq, Repr

/-- The known struct layouts, last registered first. -/
structure Registry where
  layouts : List Layout
  deriving DecidableEq, Repr

namespace Registry

/-- The registry without structs. -/
def empty : Registry := ⟨[]⟩

instance : Inhabited Registry := ⟨empty⟩

/-- The layout of a name. -/
def layout? (registry : Registry) (name : String) : Option Layout :=
  registry.layouts.find? (·.name = name)

/-- The fields of the struct of a name, in wire order. -/
def fields? (registry : Registry) (name : String) : Option (List Field) :=
  (registry.layout? name).map Layout.fields

/-- Whether a struct of the name is known. -/
def contains (registry : Registry) (name : String) : Bool := (registry.layout? name).isSome

/-- The number of known structs. -/
def size (registry : Registry) : Nat := registry.layouts.length

/-- Whether no struct is known. -/
def isEmpty (registry : Registry) : Bool := registry.layouts.isEmpty

/-- A type is known if it is a primitive or a registered struct. -/
def check (registry : Registry) : Ty → Except Error Unit
  | .struct name =>
    if registry.contains name then .ok () else .error (.config (.unknownStruct name))
  | _ => .ok ()

/-- Every type of a list is known; the first that is not is the error. -/
def checkAll (registry : Registry) : List Ty → Except Error Unit
  | [] => .ok ()
  | type :: rest =>
    match registry.check type with
    | .ok () => registry.checkAll rest
    | .error e => .error e

/-- The fields of a new struct `struct` are acceptable after those of the names `seen`: no name
comes twice and every type is known. Faults are found field by field. -/
def checkFields (registry : Registry) (struct : String) :
    (seen : List String) → List Field → Except Error Unit
  | _, [] => .ok ()
  | seen, field :: rest =>
    if field.name ∈ seen then .error (.config (.repeatedField struct field.name))
    else
      match registry.check field.type with
      | .ok () => registry.checkFields struct (field.name :: seen) rest
      | .error e => .error e

/-- Add a struct. It is refused if its name is empty, means a primitive or is taken, or if its
fields are not acceptable; a refused struct leaves no trace, since there is no new registry. -/
def register (registry : Registry) (name : String) (fields : List Field) :
    Except Error Registry :=
  if name = "" then .error (.config .emptyStructName)
  else if (Ty.ofName name).isPrimitive then .error (.config (.shadowsPrimitive name))
  else if registry.contains name then .error (.config (.structExists name))
  else
    match registry.checkFields name [] fields with
    | .ok () => .ok ⟨⟨name, fields⟩ :: registry.layouts⟩
    | .error e => .error e

/-- The registries that registrations lead to, starting from the empty one. -/
inductive Built : Registry → Prop where
  | empty : Built empty
  | register {registry next : Registry} {name : String} {fields : List Field} :
      Built registry → registry.register name fields = .ok next → Built next

@[simp] theorem layout?_empty (name : String) : empty.layout? name = none := rfl

@[simp] theorem contains_empty (name : String) : empty.contains name = false := rfl

theorem check_struct (registry : Registry) (name : String) :
    registry.check (.struct name) =
      if registry.contains name then .ok () else .error (.config (.unknownStruct name)) := rfl

end Registry

end RemoteCall
