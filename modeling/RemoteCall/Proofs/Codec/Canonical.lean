import Mathlib.Tactic.Lemma
import RemoteCall.Codec.Values

/-!
# Canonical form

What a value keeps when it travels under a type: primitives and strings are kept as they are, and of
a struct only the registered fields, in registered order, each with the first value given under its
name.  A value that does not conform to the type has no canonical form: it is of another kind, a
string too long for its prefix, a struct of another name or of an unknown one, or a struct without
one of the fields.

Layouts are looked up by name in the whole registry, and the recursion goes into the values; the
codec goes into the layouts.  So the canonical form is a specification of the codec that shares no
recursion with it.  It ends because a value of a field is a part of the struct
(`FieldValues.sizeOf_lt_of_get?`), whatever the registry is.

`canonicals` is the same for a list of values, each under its own type; there have to be as many
values as types.
-/

namespace RemoteCall

/-- The value of a field is a part of the field list. -/
lemma FieldValues.sizeOf_lt_of_get? {fields : FieldValues} {name : String} {value : Value}
    (h : fields.get? name = some value) : sizeOf value < sizeOf fields := by
  induction fields with
  | nil => simp at h
  | cons field rest ih =>
    obtain ⟨n, v⟩ := field
    rw [get?_cons] at h
    split at h
    · simp only [Option.some.injEq] at h
      subst h
      simp
      omega
    · have := ih h
      simp
      omega

namespace Codec

mutual

/-- The canonical form of a value under a type, if the value conforms to the type. -/
def canonical (registry : Registry) : Ty → Value → Option Value
  | .int32, .int32 v => some (.int32 v)
  | .int64, .int64 v => some (.int64 v)
  | .double, .double bits => some (.double bits)
  | .string, .string text =>
    if (Utf8.encode text).length ≤ maxStringSize then some (.string text) else none
  | .struct name, .struct typeName given =>
    if typeName = name then
      (registry.fields? name).bind fun fields =>
        (canonicalFields registry given fields).map (.struct name)
    else none
  | _, _ => none
termination_by _ value => (sizeOf value, 0)

/-- The fields of a layout, each with the canonical form of the first value given under its
name. -/
def canonicalFields (registry : Registry) (given : FieldValues) :
    List Field → Option FieldValues
  | [] => some []
  | field :: rest =>
    match _h : given.get? field.name with
    | none => none
    | some value =>
      (canonical registry field.type value).bind fun form =>
        (canonicalFields registry given rest).map fun forms => (field.name, form) :: forms
termination_by fields => (sizeOf given, fields.length + 1)
decreasing_by
  · exact Prod.Lex.left _ _ (FieldValues.sizeOf_lt_of_get? _h)
  · exact Prod.Lex.right _ (by simp)

end

lemma canonical_struct (registry : Registry) (name : String) (given : FieldValues) :
    canonical registry (.struct name) (.struct name given) =
      (registry.fields? name).bind fun fields =>
        (canonicalFields registry given fields).map (.struct name) := by
  rw [canonical, if_pos rfl]

@[simp] lemma canonicalFields_nil (registry : Registry) (given : FieldValues) :
    canonicalFields registry given [] = some [] := by
  rw [canonicalFields]

lemma canonicalFields_cons (registry : Registry) (given : FieldValues) (field : Field)
    (rest : List Field) :
    canonicalFields registry given (field :: rest) =
      (given.get? field.name).bind fun value =>
        (canonical registry field.type value).bind fun form =>
          (canonicalFields registry given rest).map fun forms => (field.name, form) :: forms := by
  rw [canonicalFields]
  split
  · next missing => simp [missing]
  · next value found => simp [found]

/-- The canonical forms of values, each under its own type, if there are as many as types. -/
def canonicals (registry : Registry) : List Ty → List Value → Option (List Value)
  | [], [] => some []
  | type :: types, value :: values =>
    (canonical registry type value).bind fun form =>
      (canonicals registry types values).map fun forms => form :: forms
  | _, _ => none

end Codec

end RemoteCall
