import Mathlib.Data.List.Forall2
import RemoteCall.Proofs.Codec.RoundTrip

/-!
# Conforming values

`Conforms` says what a type asks of a value, without a word about bytes: a primitive of the same
kind, a string that a length prefix can announce, or a struct of the same name with a conforming
value for every registered field.  Of several values under one name only the first counts, and
nothing is asked of a value under a name that is not registered.

These are the values that have a canonical form (`isSome_canonical_iff`), and they are the ones that
are written (`writeValue_ok_iff`).  So a caller can tell whether a request is going to be refused
without knowing how values are encoded, and a handler whether its results can be sent.

The relation is inductive, with one rule for each kind of type; the rule for structs looks the
layout up in the registry and asks for the values of its fields by name.  A value of a struct that
is not known conforms to nothing.  The length of a string is that of its bytes.

## Main statements

* `isSome_canonical_iff` — the conforming values are those that have a canonical form.
* `writeValue_ok_iff` — a value is written exactly if it conforms to its type.
-/

namespace RemoteCall

namespace Codec

/-- A value is what a type asks for. -/
inductive Conforms (registry : Registry) : Ty → Value → Prop where
  | int32 (v : Int32) : Conforms registry .int32 (.int32 v)
  | int64 (v : Int64) : Conforms registry .int64 (.int64 v)
  | double (bits : UInt64) : Conforms registry .double (.double bits)
  | string {text : String} (short : (Utf8.encode text).length ≤ maxStringSize) :
      Conforms registry .string (.string text)
  | struct {name : String} {fields : List Field} {given : FieldValues}
      (known : registry.fields? name = some fields)
      (present : ∀ field ∈ fields, (given.get? field.name).isSome = true)
      (each : ∀ field ∈ fields, ∀ value, given.get? field.name = some value →
        Conforms registry field.type value) :
      Conforms registry (.struct name) (.struct name given)

variable {registry : Registry}

/-! ## The canonical form -/

/-- The fields of a layout have canonical forms if there is a value with one for each of them. -/
lemma isSome_canonicalFields_iff {given : FieldValues} {fields : List Field} :
    (canonicalFields registry given fields).isSome = true ↔
      ∀ field ∈ fields, (given.get? field.name).isSome = true ∧
        ∀ value, given.get? field.name = some value →
          (canonical registry field.type value).isSome = true := by
  induction fields with
  | nil => simp
  | cons field rest ih =>
    rw [canonicalFields_cons, List.forall_mem_cons, ← ih]
    cases found : given.get? field.name with
    | none => simp
    | some value =>
      simp only [Option.bind_some, Option.isSome_some, true_and, Option.some.injEq, forall_eq']
      cases canonical registry field.type value with
      | none => simp
      | some form => simp

lemma conforms_of_canonical {type : Ty} {value form : Value}
    (canon : canonical registry type value = some form) : Conforms registry type value := by
  -- the values of the fields are smaller than their struct
  induction size : sizeOf value using Nat.strongRecOn generalizing type value form with
  | ind n ih =>
    unfold canonical at canon
    split at canon
    · exact .int32 _
    · exact .int64 _
    · exact .double _
    · split at canon
      · next short => exact .string short
      · cases canon
    · next name typeName given =>
      split at canon
      · next same =>
        subst same
        obtain ⟨fields, known, more⟩ := Option.bind_eq_some_iff.mp canon
        obtain ⟨forms, canon, -⟩ := Option.map_eq_some_iff.mp more
        have each := isSome_canonicalFields_iff.mp (Option.isSome_iff_exists.mpr ⟨forms, canon⟩)
        refine .struct known (fun field among => (each field among).1) ?_
        intro field among value found
        obtain ⟨form, canon⟩ := Option.isSome_iff_exists.mp ((each field among).2 value found)
        have smaller := FieldValues.sizeOf_lt_of_get? found
        exact ih (sizeOf value) (by simp at size; omega) canon rfl
      · cases canon
    · cases canon

/-- The conforming values are those that have a canonical form. -/
theorem isSome_canonical_iff {type : Ty} {value : Value} :
    (canonical registry type value).isSome = true ↔ Conforms registry type value := by
  constructor
  · intro canon
    obtain ⟨form, canon⟩ := Option.isSome_iff_exists.mp canon
    exact conforms_of_canonical canon
  · intro conforms
    induction conforms with
    | int32 | int64 | double => simp [canonical]
    | string short => simp [canonical, short]
    | struct known present each ih =>
      have fields := isSome_canonicalFields_iff.mpr fun field among =>
        ⟨present field among, ih field among⟩
      rw [canonical_struct, known, Option.bind_some, Option.isSome_map]
      exact fields

/-- Values have canonical forms if they are as many as their types and each conforms to its own. -/
lemma isSome_canonicals_iff {types : List Ty} {values : List Value} :
    (canonicals registry types values).isSome = true ↔
      List.Forall₂ (Conforms registry) types values := by
  induction types generalizing values with
  | nil =>
    cases values with
    | nil => simp [canonicals]
    | cons => simp [canonicals]
  | cons type types ih =>
    cases values with
    | nil => simp [canonicals]
    | cons value values =>
      rw [canonicals, List.forall₂_cons, ← ih, ← isSome_canonical_iff]
      cases canonical registry type value with
      | none => simp
      | some form => simp

/-! ## Writing -/

/-- A value is written exactly if it conforms to its type. -/
theorem writeValue_ok_iff (built : registry.Built) {type : Ty} {value : Value} :
    (writeValue registry type value).result = .ok () ↔ Conforms registry type value := by
  constructor
  · intro written
    obtain ⟨form, -, canon, -⟩ := readBack_of_write built written
    exact conforms_of_canonical canon
  · intro conforms
    obtain ⟨form, canon⟩ := Option.isSome_iff_exists.mp (isSome_canonical_iff.mpr conforms)
    exact write_of_canonical built canon

/-- Values are written exactly if they are as many as their types and each conforms to its own. -/
lemma writeValues_ok_iff (built : registry.Built) {types : List Ty} {values : List Value} :
    (writeValues registry types values).result = .ok () ↔
      List.Forall₂ (Conforms registry) types values := by
  rw [← isSome_canonicals_iff]
  constructor
  · intro written
    obtain ⟨forms, -, canon, -⟩ := readValues_append built written
    rw [canon]
    rfl
  · intro canon
    obtain ⟨forms, canon⟩ := Option.isSome_iff_exists.mp canon
    exact writeValues_of_canonicals built canon

end Codec

end RemoteCall
