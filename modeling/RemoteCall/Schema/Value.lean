import RemoteCall.Schema.Ty

/-!
# Values

A `Value` carries its own kind. A struct value names its type and lists field values by name; the
list may hold fields that no layout asks for, or several under one name, of which only the first
counts.

Doubles are kept as their 64 bits, so that every NaN stays the one it was. Equality of values is
the one that programs mean by `==`: on doubles it is IEEE 754 equality, under which zeros are equal
and a NaN differs from itself.
-/

namespace RemoteCall

/-! ## Equality of doubles -/

namespace Double

/-- The magnitude bits of a double: all but the sign. -/
def magnitude (bits : UInt64) : UInt64 := bits &&& 0x7fffffffffffffff

/-- Whether the bits are a NaN: the exponent is full and the fraction is not zero. -/
def isNaN (bits : UInt64) : Bool := 0x7ff0000000000000 < magnitude bits

/-- IEEE 754 equality of two doubles given by their bits. -/
def equal (a b : UInt64) : Bool :=
  !isNaN a && !isNaN b && (a == b || (magnitude a == 0 && magnitude b == 0))

end Double

/-! ## Values -/

/-- A value of any wire type. -/
inductive Value where
  | int32 (v : Int32)
  | int64 (v : Int64)
  | double (bits : UInt64)
  | string (text : String)
  | struct (typeName : String) (fields : List (String × Value))
  deriving Repr, Inhabited

namespace Value

/-- The name of the type that the value is of, for messages. -/
def kind : Value → String
  | int32 _ => "i32"
  | int64 _ => "i64"
  | double _ => "double"
  | string _ => "string"
  | struct typeName _ => typeName

/-- The integer, if the value is a 32-bit one. -/
def int32? : Value → Option Int32
  | int32 v => some v
  | _ => none

/-- The integer, if the value is a 64-bit one. -/
def int64? : Value → Option Int64
  | int64 v => some v
  | _ => none

/-- The bits of the double, if the value is one. -/
def double? : Value → Option UInt64
  | double bits => some bits
  | _ => none

/-- The text, if the value is a string. -/
def string? : Value → Option String
  | string text => some text
  | _ => none

/-- The type name and the fields, if the value is a struct. -/
def struct? : Value → Option (String × List (String × Value))
  | struct typeName fields => some (typeName, fields)
  | _ => none

mutual

/-- Equality of values: of one kind, doubles by IEEE 754, fields pairwise and in order. -/
def equal : Value → Value → Bool
  | int32 a, int32 b => a == b
  | int64 a, int64 b => a == b
  | double a, double b => Double.equal a b
  | string a, string b => a == b
  | struct s as, struct t bs => s == t && equalFields as bs
  | _, _ => false

/-- Two field lists have the same names and equal values, pairwise and in order. -/
def equalFields : List (String × Value) → List (String × Value) → Bool
  | [], [] => true
  | (m, a) :: as, (n, b) :: bs => m == n && equal a b && equalFields as bs
  | _, _ => false

end

instance : BEq Value := ⟨equal⟩

end Value

/-! ## Field lists -/

/-- The named values of a struct, in the order in which they were given. -/
abbrev FieldValues := List (String × Value)

namespace FieldValues

/-- The value of the first field of a name. -/
def get? (fields : FieldValues) (name : String) : Option Value := List.lookup name fields

/-- Give a field a value: the first of that name is replaced, or a new one is appended. -/
def set : FieldValues → String → Value → FieldValues
  | [], name, value => [(name, value)]
  | (n, old) :: rest, name, value =>
    if n = name then (n, value) :: rest else (n, old) :: set rest name value

@[simp] theorem get?_nil (name : String) : get? [] name = none := rfl

theorem get?_cons (n : String) (v : Value) (rest : FieldValues) (name : String) :
    get? ((n, v) :: rest) name = if n = name then some v else get? rest name := by
  by_cases h : n = name
  · simp [get?, h]
  · have : (name == n) = false := by simpa using fun e => h e.symm
    simp [get?, List.lookup_cons, h, this]

/-- After a field was set it has the new value, and no other field has changed. -/
theorem get?_set (fields : FieldValues) (name other : String) (value : Value) :
    get? (set fields name value) other =
      if name = other then some value else get? fields other := by
  induction fields with
  | nil => simp [set, get?_cons]
  | cons field rest ih =>
    obtain ⟨n, old⟩ := field
    rw [set]
    split
    · next h =>
      subst h
      rw [get?_cons, get?_cons]
      split <;> rfl
    · next h =>
      rw [get?_cons, get?_cons, ih]
      by_cases ho : n = other
      · subst ho
        simp [Ne.symm h]
      · simp [ho]

end FieldValues

end RemoteCall
