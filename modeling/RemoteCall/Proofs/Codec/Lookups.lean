import Mathlib.Data.List.Nodup
import RemoteCall.Proofs.Codec.Buffer
import RemoteCall.Proofs.Codec.Conforming

/-!
# Structs are written by look-up

The writer asks a struct value for one field after the other, by name.  So what it writes depends on
the answers alone (`writeValue_of_lookups`): not on the order in which the fields were given, nor on
fields that the layout does not have, nor on values behind the first one of a name.  `Varied` is the
relation of values that differ in one such respect, at any depth.

A struct that was built by setting fields one after the other holds every name once, with the value
that was set last (`get?_ofSets`, `nodup_ofSets`).  Two such structs with the same values are
therefore the same up to order (`perm_ofSets`).

Two values are written alike if the bytes that they append are the same and the write ends in the
same way, also where it fails.  So a struct that lacks a field fails at the same field as every
variation of it, with the same bytes before it.  Success is a matter of conforming, and a value that
conforms is written as its canonical form (`writeValue_of_canonical`).

## Main statements

* `writeValue_of_lookups` — a struct is written as its look-ups say.
* `perm_ofSets` — what was set to the same values in the end is the same up to order.
* `encoded_by_lookup` — what a value is encoded by depends on the answers to look-ups by name.
-/

namespace RemoteCall

/-! ## Field lists -/

namespace FieldValues

lemma get?_append (front back : FieldValues) (name : String) :
    get? (front ++ back) name = (get? front name).or (get? back name) := by
  induction front with
  | nil => simp
  | cons field rest ih =>
    obtain ⟨n, value⟩ := field
    rw [List.cons_append, get?_cons, get?_cons, ih]
    split <;> rfl

lemma mem_of_get? {fields : FieldValues} {name : String} {value : Value}
    (found : fields.get? name = some value) : (name, value) ∈ fields := by
  induction fields with
  | nil => cases found
  | cons field rest ih =>
    obtain ⟨n, v⟩ := field
    rw [get?_cons] at found
    split at found
    · next same =>
      cases found
      exact same ▸ List.mem_cons_self
    · exact List.mem_cons_of_mem _ (ih found)

lemma isSome_get?_iff {fields : FieldValues} {name : String} :
    (fields.get? name).isSome = true ↔ name ∈ fields.map Prod.fst := by
  induction fields with
  | nil => simp
  | cons field rest ih =>
    obtain ⟨n, value⟩ := field
    rw [get?_cons, List.map_cons, List.mem_cons, ← ih]
    by_cases same : n = name
    · simp [same]
    · simp [same, Ne.symm same]

/-- Among distinct names, a field is found exactly if it is there. -/
lemma get?_eq_some_iff {fields : FieldValues} (distinct : (fields.map Prod.fst).Nodup)
    {name : String} {value : Value} :
    fields.get? name = some value ↔ (name, value) ∈ fields :=
  ⟨mem_of_get?, get?_of_mem distinct⟩

/-- The order of fields of distinct names does not matter for a look-up. -/
lemma get?_perm {fields fields' : FieldValues} (distinct : (fields.map Prod.fst).Nodup)
    (same : fields.Perm fields') (name : String) : fields.get? name = fields'.get? name := by
  have distinct' : (fields'.map Prod.fst).Nodup := (same.map Prod.fst).nodup_iff.mp distinct
  ext value
  rw [get?_eq_some_iff distinct, get?_eq_some_iff distinct', same.mem_iff]

/-! ### Setting fields -/

/-- The fields of a struct that were set one after the other. -/
def ofSets (sets : List (String × Value)) : FieldValues :=
  sets.foldl (fun fields field => fields.set field.1 field.2) []

/-- The value that a name was set to last. -/
def last? (sets : List (String × Value)) (name : String) : Option Value := get? sets.reverse name

lemma get?_foldl_set (sets : List (String × Value)) (fields : FieldValues) (name : String) :
    get? (sets.foldl (fun fields field => fields.set field.1 field.2) fields) name =
      (last? sets name).or (get? fields name) := by
  induction sets generalizing fields with
  | nil => rfl
  | cons field rest ih =>
    obtain ⟨n, value⟩ := field
    have one : get? [(n, value)] name = if n = name then some value else none := get?_cons _ _ _ _
    rw [List.foldl_cons, ih, get?_set, last?, last?, List.reverse_cons, get?_append, one,
      Option.or_assoc]
    split <;> rfl

theorem get?_ofSets (sets : List (String × Value)) (name : String) :
    get? (ofSets sets) name = last? sets name := by
  rw [ofSets, get?_foldl_set, get?_nil, Option.or_none]

/-- Setting a field adds its name, unless it is there. -/
lemma names_set (fields : FieldValues) (name : String) (value : Value) :
    (fields.set name value).map Prod.fst =
      if name ∈ fields.map Prod.fst then fields.map Prod.fst
      else fields.map Prod.fst ++ [name] := by
  induction fields with
  | nil => rfl
  | cons field rest ih =>
    obtain ⟨n, old⟩ := field
    rw [set]
    by_cases same : n = name
    · simp [same]
    · rw [if_neg same, List.map_cons, ih]
      by_cases among : name ∈ rest.map Prod.fst
      · simp [among]
      · simp [among, Ne.symm same]

lemma nodup_set {fields : FieldValues} (distinct : (fields.map Prod.fst).Nodup) (name : String)
    (value : Value) : ((fields.set name value).map Prod.fst).Nodup := by
  rw [names_set]
  split
  · exact distinct
  · next absent =>
    rw [← List.concat_eq_append]
    exact distinct.concat absent

/-- Fields that were set have distinct names. -/
theorem nodup_ofSets (sets : List (String × Value)) : ((ofSets sets).map Prod.fst).Nodup := by
  have keeps : ∀ fields : FieldValues, (fields.map Prod.fst).Nodup →
      ((sets.foldl (fun fields field => fields.set field.1 field.2) fields).map
        Prod.fst).Nodup := by
    induction sets with
    | nil => exact fun _ distinct => distinct
    | cons field rest ih => exact fun fields distinct => ih _ (nodup_set distinct _ _)
  exact keeps [] List.nodup_nil

/-- What was set to the same values in the end is the same up to order. -/
theorem perm_ofSets {sets sets' : List (String × Value)}
    (same : ∀ name, last? sets name = last? sets' name) :
    (ofSets sets).Perm (ofSets sets') := by
  have distinct := nodup_ofSets sets
  have distinct' := nodup_ofSets sets'
  rw [List.perm_ext_iff_of_nodup distinct.of_map distinct'.of_map]
  rintro ⟨name, value⟩
  rw [← get?_eq_some_iff distinct, ← get?_eq_some_iff distinct', get?_ofSets, get?_ofSets, same]

end FieldValues

namespace Codec

variable {registry : Registry}

/-! ## What a struct is asked for -/

/-- Fields are written alike from two lists that have, under every name of the layout, values that
are written alike. -/
lemma writeFields_of_lookups {write : Ty → Value → Written} {struct : String}
    {given given' : FieldValues} {fields : List Field}
    (alike : ∀ field ∈ fields, (given.get? field.name).map (write field.type) =
      (given'.get? field.name).map (write field.type)) :
    writeFields write struct given fields = writeFields write struct given' fields := by
  induction fields with
  | nil => rfl
  | cons field rest ih =>
    obtain ⟨first, others⟩ := List.forall_mem_cons.mp alike
    rw [writeFields, writeFields, ih others]
    cases found : given.get? field.name with
    | none =>
      rw [found, Option.map_none, eq_comm, Option.map_eq_none_iff] at first
      rw [first]
    | some value =>
      rw [found, Option.map_some, eq_comm, Option.map_eq_some_iff] at first
      obtain ⟨value', found', same⟩ := first
      rw [found']
      dsimp only
      rw [same]

/-- A struct is written as its look-ups say, under every type. -/
theorem writeValue_of_lookups (built : registry.Built) {name : String}
    {given given' : FieldValues}
    (alike : ∀ fields, registry.fields? name = some fields → ∀ field ∈ fields,
      (given.get? field.name).map (writeValue registry field.type) =
        (given'.get? field.name).map (writeValue registry field.type))
    (type : Ty) :
    writeValue registry type (.struct name given) =
      writeValue registry type (.struct name given') := by
  cases type with
  | int32 | int64 | double | string =>
    rw [writeValue_primitive rfl, writeValue_primitive rfl]
    rfl
  | struct asked =>
    by_cases same : name = asked
    · subst same
      cases found : registry.fields? name with
      | none => rw [writeValue_struct_unknown found, writeValue_struct_unknown found]
      | some fields =>
        rw [writeValue_struct built found, writeValue_struct built found]
        exact writeFields_of_lookups (alike fields found)
    · have other : ∀ given : FieldValues, ∀ given',
          Value.struct name given ≠ .struct asked given' := fun _ _ equal =>
        same (Value.struct.inj equal).1
      rw [writeValue_struct_of_ne (other given), writeValue_struct_of_ne (other given')]
      rfl

/-! ## Variations -/

/-- One value differs from another in what no look-up finds, at one place at any depth. -/
inductive Varied (registry : Registry) : Value → Value → Prop where
  /-- Fields of distinct names come in another order. -/
  | permuted {name : String} {given given' : FieldValues}
      (distinct : (given.map Prod.fst).Nodup) (same : given.Perm given') :
      Varied registry (.struct name given) (.struct name given')
  /-- There is a field more, which the layout of the struct does not list. -/
  | unlisted {name field : String} {value : Value} {front back : FieldValues}
      (other : ∀ fields, registry.fields? name = some fields → field ∉ fields.map Field.name) :
      Varied registry (.struct name (front ++ back))
        (.struct name (front ++ (field, value) :: back))
  /-- There is a value more, somewhere behind another one of its name. -/
  | later {name field : String} {value : Value} {front back : FieldValues}
      (earlier : field ∈ front.map Prod.fst) :
      Varied registry (.struct name (front ++ back))
        (.struct name (front ++ (field, value) :: back))
  /-- The value of a field is varied. -/
  | within {name field : String} {value value' : Value} {front back : FieldValues}
      (inner : Varied registry value value') :
      Varied registry (.struct name (front ++ (field, value) :: back))
        (.struct name (front ++ (field, value') :: back))

/-- Varied values are written alike: what is appended is the same, and so is how it ends. -/
lemma Varied.writeValue_eq (built : registry.Built) {value value' : Value}
    (varied : Varied registry value value') (type : Ty) :
    writeValue registry type value = writeValue registry type value' := by
  induction varied generalizing type with
  | permuted distinct same =>
    refine writeValue_of_lookups built (fun fields _ field _ => ?_) type
    rw [FieldValues.get?_perm distinct same]
  | @unlisted name extra value front back other =>
    refine writeValue_of_lookups built (fun fields found field among => ?_) type
    have differ : extra ≠ field.name := by
      rintro rfl
      exact other fields found (List.mem_map_of_mem among)
    rw [FieldValues.get?_append, FieldValues.get?_append, FieldValues.get?_cons, if_neg differ]
  | @later name extra value front back earlier =>
    refine writeValue_of_lookups built (fun fields _ field _ => ?_) type
    rw [FieldValues.get?_append, FieldValues.get?_append, FieldValues.get?_cons]
    by_cases same : extra = field.name
    · obtain ⟨first, found⟩ :=
        Option.isSome_iff_exists.mp (FieldValues.isSome_get?_iff.mpr (same ▸ earlier))
      rw [found, Option.some_or, Option.some_or]
    · rw [if_neg same]
  | @within name inside value value' front back _ ih =>
    refine writeValue_of_lookups built (fun fields _ field _ => ?_) type
    rw [FieldValues.get?_append, FieldValues.get?_append, FieldValues.get?_cons,
      FieldValues.get?_cons]
    cases FieldValues.get? front field.name with
    | some first => rfl
    | none =>
      rw [Option.none_or, Option.none_or]
      split
      · rw [Option.map_some, Option.map_some, ih]
      · rfl

/-! ## Canonical forms -/

/-- A value is written as its canonical form. -/
lemma writeValue_of_canonical (built : registry.Built) {type : Ty} {value form : Value}
    (canon : canonical registry type value = some form) :
    writeValue registry type value = writeValue registry type form := by
  obtain ⟨form', bytes, canon', written, read⟩ :=
    readBack_of_write built (write_of_canonical built canon)
  obtain rfl := Option.some.inj (canon.symm.trans canon')
  obtain ⟨taken, split, written'⟩ := writeValue_of_readValue built (read [])
  rw [List.append_nil, List.append_nil] at split
  rw [written, written', split]

/-! ## On buffers -/

/-- Values are written by look-up. -/
structure ByLookup (registry : Registry) : Prop where
  /-- A value is written exactly if it conforms. -/
  succeeds : ∀ (buffer : Buffer) type value,
    (buffer.writeValue registry type value).1 = .ok () ↔ Conforms registry type value
  /-- Values of one canonical form are encoded by the same bytes. -/
  sameForm : ∀ type value value' form, canonical registry type value = some form →
    canonical registry type value' = some form → ∃ encoding, ∀ before,
      Buffer.writeValue ⟨before⟩ registry type value = (.ok (), ⟨before ++ encoding⟩) ∧
      Buffer.writeValue ⟨before⟩ registry type value' = (.ok (), ⟨before ++ encoding⟩)
  /-- A variation changes neither the bytes nor the outcome. -/
  varied : ∀ (buffer : Buffer) type value value', Varied registry value value' →
    buffer.writeValue registry type value = buffer.writeValue registry type value'
  /-- The order in which fields were set is a variation, and so are values that were replaced. -/
  sets : ∀ name sets sets',
    (∀ field, FieldValues.last? sets field = FieldValues.last? sets' field) →
      Varied registry (.struct name (FieldValues.ofSets sets))
        (.struct name (FieldValues.ofSets sets'))

/-- What a value is encoded by depends on the answers to look-ups by name, in any registry that
registrations have built. -/
theorem encoded_by_lookup (built : registry.Built) : ByLookup registry := by
  constructor
  case succeeds => exact fun _ _ _ => writeValue_ok_iff built
  case sameForm =>
    intro type value value' form canon canon'
    have written := Written.eq_done_of_result (write_of_canonical built canon)
    have same := (writeValue_of_canonical built canon).trans
      (writeValue_of_canonical built canon').symm
    refine ⟨(writeValue registry type value).bytes, fun before => ⟨?_, ?_⟩⟩
    · unfold Buffer.writeValue
      rw [written]
      rfl
    · unfold Buffer.writeValue
      rw [← same, written]
      rfl
  case varied =>
    intro buffer type value value' varied
    unfold Buffer.writeValue
    rw [varied.writeValue_eq built]
  case sets =>
    intro name sets sets' same
    exact .permuted (FieldValues.nodup_ofSets sets) (FieldValues.perm_ofSets same)

/-- A point whose fields were set in the other order, one of them twice, inside a struct: the bytes
are those of the point whose fields were set in order, and then the label. -/
theorem encoded_by_lookup_nested :
    let inOrder : Value := .struct "pin" [("label", .string "a"), ("at", .struct "point"
      (FieldValues.ofSets [("x", .double 1), ("y", .double 2)]))]
    let outOfOrder : Value := .struct "pin" [("label", .string "a"), ("at", .struct "point"
      (FieldValues.ofSets [("y", .double 5), ("x", .double 1), ("y", .double 2)]))]
    Buffer.nestedRegistry.Built ∧
      ∀ buffer : Buffer,
        buffer.writeValue Buffer.nestedRegistry (.struct "pin") outOfOrder =
          buffer.writeValue Buffer.nestedRegistry (.struct "pin") inOrder ∧
        buffer.writeValue Buffer.nestedRegistry (.struct "pin") outOfOrder =
          (.ok (), ⟨buffer.unread ++ ([1, 0, 0, 0, 0, 0, 0, 0] ++ [2, 0, 0, 0, 0, 0, 0, 0] ++
            [1, 0, 0, 0, 97])⟩) := by
  intro inOrder outOfOrder
  have lookup := encoded_by_lookup Buffer.nestedRegistry_built
  have same : ∀ field,
      FieldValues.last? [("y", .double 5), ("x", .double 1), ("y", .double 2)] field =
        FieldValues.last? [("x", .double 1), ("y", .double 2)] field := by
    intro field
    simp only [FieldValues.last?, List.reverse_cons, List.reverse_nil, List.nil_append,
      List.cons_append, FieldValues.get?_cons, FieldValues.get?_nil]
    split <;> rfl
  have within := @Varied.within _ "pin" "at" _ _ [("label", .string "a")] []
    (lookup.sets "point" _ _ same)
  refine ⟨Buffer.nestedRegistry_built, fun buffer => ?_⟩
  have alike : buffer.writeValue Buffer.nestedRegistry (.struct "pin") outOfOrder =
      buffer.writeValue Buffer.nestedRegistry (.struct "pin") inOrder :=
    lookup.varied buffer _ _ _ within
  refine ⟨alike, alike.trans ?_⟩
  have written : writeValue Buffer.nestedRegistry (.struct "pin") inOrder =
      .done ([1, 0, 0, 0, 0, 0, 0, 0] ++ [2, 0, 0, 0, 0, 0, 0, 0] ++ [1, 0, 0, 0, 97]) := rfl
  unfold Buffer.writeValue
  rw [written]
  rfl

end Codec

end RemoteCall
