/-!
# Wire types

A value travels under a type that both ends declare: one of four primitives, or a struct known by
its name. The name is looked up in a `Registry`; nothing about a type travels with the value.
-/

namespace RemoteCall

/-- How a value is laid out on the wire. -/
inductive Ty where
  /-- Signed, four bytes. -/
  | int32
  /-- Signed, eight bytes. -/
  | int64
  /-- An IEEE 754 double, eight bytes. -/
  | double
  /-- UTF-8 behind its length in bytes. -/
  | string
  /-- The fields of the layout registered under the name. -/
  | struct (name : String)
  deriving DecidableEq, Repr, Inhabited

namespace Ty

/-- The type that a service description means by a name: a primitive under one of its spellings,
and otherwise the struct of that name. -/
def ofName : String → Ty
  | "i32" | "rpc::i32" => int32
  | "i64" | "rpc::i64" => int64
  | "double" => double
  | "string" | "std::string" => string
  | other => struct other

/-- The canonical name of a type. -/
def name : Ty → String
  | int32 => "i32"
  | int64 => "i64"
  | double => "double"
  | string => "string"
  | struct name => name

/-- Whether a type is one of the four primitives. -/
def isPrimitive : Ty → Bool
  | struct _ => false
  | _ => true

end Ty

end RemoteCall
