import Mathlib.Data.List.Basic
import RemoteCall.Proofs.Codec.Buffer
import RemoteCall.Proofs.Codec.Descent

/-!
# Where the codec stops

Reader and writer recurse through the structs.  Here the recursion is laid out flat: `Expands` is a
walk along a list, depth first and in registered order, in which a struct is followed by what is in
its fields.  The primitives on the walk are the leaves of the types.

## Reading

The reader goes along the leaves.  What it has taken are the encodings of those before the first one
that it cannot read (`consume_leaves`), and the bytes from this leaf on are left as they are.

## Writing

The writer also stops between leaves: at a struct, if the value there is no such struct, and at a
field for which no value is given.  It goes along `Place`s, each of which holds a type and the value
that look-ups by name have found for it, or the reason why there is none.  What the writer has
appended are the encodings of the leaves before the first place with a fault (`exists_writesTo`),
so the list of places says all about a write that there is to know.

## Walks

Leaves and places are two walks of the same kind, one along types and one along types with values;
so `walk` has the nodes as a parameter, with the type of a node and the node inside it for each
field.  That the walk ends is because of the layouts, as for the codec.  That it is the only
expansion of its start (`expands_iff`) shows that this recursion is no more than a way to compute
it.

## Main statements

* `consume_leaves` — where the reader stops.
* `exists_writesTo` — where the writer stops.
* `stops_between_leaves` — both, for values of known types.
-/

namespace RemoteCall

namespace Codec

open Registry

/-! ## The walk -/

section Walk

variable {α : Type} (type : α → Ty) (inside : α → Field → α)

/-- What is met from a list on: every struct, followed by what is inside it, field by field in
registered order. -/
inductive Expands (registry : Registry) : List α → List α → Prop where
  | nil : Expands registry [] []
  | primitive {node : α} {more met : List α} (leaf : (type node).isPrimitive = true)
      (rest : Expands registry more met) : Expands registry (node :: more) (node :: met)
  | struct {node : α} {more met : List α} {name : String} {fields : List Field}
      (typed : type node = .struct name) (known : registry.fields? name = some fields)
      (rest : Expands registry (fields.map (inside node) ++ more) met) :
      Expands registry (node :: more) (node :: met)

/-- What is met from one node on, following structs in a list of layouts. -/
def walkIn : List Layout → α → List α
  | [], node => [node]
  | layout :: older, node =>
    if type node = .struct layout.name then
      node :: layout.fields.flatMap fun field => walkIn older (inside node field)
    else walkIn older node

/-- What is met from a list on. -/
def walk (registry : Registry) (nodes : List α) : List α :=
  nodes.flatMap (walkIn type inside registry.layouts)

variable {type inside}

/-- What is met from a list on is determined by the list. -/
lemma Expands.unique {registry : Registry} {nodes met met' : List α}
    (expands : Expands type inside registry nodes met)
    (expands' : Expands type inside registry nodes met') : met = met' := by
  induction expands generalizing met' with
  | nil =>
    cases expands'
    rfl
  | primitive leaf rest ih =>
    cases expands' with
    | primitive leaf' rest' => rw [ih rest']
    | struct typed known rest' =>
      rw [typed] at leaf
      cases leaf
  | struct typed known rest ih =>
    cases expands' with
    | primitive leaf rest' =>
      rw [typed] at leaf
      cases leaf
    | struct typed' known' rest' =>
      cases typed.symm.trans typed'
      cases known.symm.trans known'
      rw [ih rest']

/-- A walk begins where it starts from. -/
lemma exists_walkIn_eq_cons (layouts : List Layout) (node : α) :
    ∃ deeper, walkIn type inside layouts node = node :: deeper := by
  induction layouts with
  | nil => exact ⟨[], rfl⟩
  | cons layout older ih =>
    rw [walkIn]
    split
    · exact ⟨_, rfl⟩
    · exact ih

lemma walkIn_primitive {node : α} (leaf : (type node).isPrimitive = true)
    (layouts : List Layout) : walkIn type inside layouts node = [node] := by
  induction layouts with
  | nil => rfl
  | cons layout older ih =>
    have other : type node ≠ .struct layout.name := by
      intro typed
      rw [typed] at leaf
      cases leaf
    rw [walkIn, if_neg other, ih]

/-- Nothing new is met from a known type on when a layout is added. -/
lemma walkIn_cons {layout : Layout} {older : List Layout} (h : Layered (layout :: older))
    {node : α} (known : check ⟨older⟩ (type node) = .ok ()) :
    walkIn type inside (layout :: older) node = walkIn type inside older node := by
  refine if_neg fun typed => ?_
  exact h.ne_of_check (typed ▸ known) rfl

/-- From a known struct on, its fields are met. -/
lemma walkIn_struct (fieldTyped : ∀ node field, type (inside node field) = field.type)
    {layouts : List Layout} (h : Layered layouts) {node : α} {name : String}
    {fields : List Field} (typed : type node = .struct name)
    (found : fields? ⟨layouts⟩ name = some fields) :
    walkIn type inside layouts node =
      node :: fields.flatMap fun field => walkIn type inside layouts (inside node field) := by
  induction layouts with
  | nil => simp [fields?, layout?] at found
  | cons layout older ih =>
    have newer : ∀ fields : List Field, (∀ field ∈ fields, check ⟨older⟩ field.type = .ok ()) →
        (fields.flatMap fun field => walkIn type inside older (inside node field)) =
          fields.flatMap fun field => walkIn type inside (layout :: older) (inside node field) :=
      fun fields known => List.flatMap_congr fun field among =>
        (walkIn_cons h (fieldTyped node field ▸ known field among)).symm
    rw [fields?_cons] at found
    split at found
    · next same =>
      obtain rfl := Option.some.inj found
      subst same
      rw [walkIn, if_pos typed]
      cases h with
      | cons _ _ _ _ _ types => rw [newer _ types]
    · next differ =>
      have known : check ⟨older⟩ (type node) = .ok () := by
        rw [typed, check_struct_eq_ok_iff]
        exact ⟨fields, found⟩
      rw [walkIn_cons h known, ih h.tail found, newer _ (h.tail.check_of_fields? found)]

variable {registry : Registry}

/-- What a walk meets is the expansion of where it starts from. -/
lemma expands_walkIn (fieldTyped : ∀ node field, type (inside node field) = field.type)
    (built : registry.Built) {node : α} (known : registry.check (type node) = .ok ())
    {more met : List α} (rest : Expands type inside registry more met) :
    Expands type inside registry (node :: more)
      (walkIn type inside registry.layouts node ++ met) := by
  -- the fields of a struct are of smaller rank
  induction rank : typeRank registry (type node) using Nat.strongRecOn
    generalizing node more met with
  | ind n ih =>
    cases typed : type node with
    | int32 | int64 | double | string =>
      have leaf : (type node).isPrimitive = true := by rw [typed]; rfl
      rw [walkIn_primitive leaf]
      exact .primitive leaf rest
    | struct name =>
      rw [typed] at known rank
      obtain ⟨fields, found⟩ := check_struct_eq_ok_iff.mp known
      change registry.rank name = n at rank
      rw [walkIn_struct fieldTyped built.layered typed found, List.cons_append]
      refine .struct typed found ?_
      have each : ∀ field ∈ fields, ∀ more met, Expands type inside registry more met →
          Expands type inside registry (inside node field :: more)
            (walkIn type inside registry.layouts (inside node field) ++ met) := by
        intro field among more met rest
        have lower := typeRank_lt built found among
        have known := built.layered.check_of_fields? found field among
        rw [← fieldTyped node field] at lower known
        exact ih _ (rank ▸ lower) known rest rfl
      clear found
      induction fields with
      | nil => exact rest
      | cons field others ih =>
        obtain ⟨first, others⟩ := List.forall_mem_cons.mp each
        rw [List.map_cons, List.cons_append, List.flatMap_cons, List.append_assoc]
        exact first _ _ (ih others)

lemma expands_walk (fieldTyped : ∀ node field, type (inside node field) = field.type)
    (built : registry.Built) {nodes : List α}
    (known : ∀ node ∈ nodes, registry.check (type node) = .ok ()) :
    Expands type inside registry nodes (walk type inside registry nodes) := by
  induction nodes with
  | nil => exact .nil
  | cons node others ih =>
    obtain ⟨first, later⟩ := List.forall_mem_cons.mp known
    exact expands_walkIn fieldTyped built first (ih later)

/-- The walk is the only expansion of where it starts from. -/
lemma expands_iff (fieldTyped : ∀ node field, type (inside node field) = field.type)
    (built : registry.Built) {nodes : List α}
    (known : ∀ node ∈ nodes, registry.check (type node) = .ok ()) (met : List α) :
    Expands type inside registry nodes met ↔ met = walk type inside registry nodes := by
  have expands := expands_walk fieldTyped built known
  constructor
  · intro other
    exact other.unique expands
  · rintro rfl
    exact expands

/-- The leaves of a known type are the primitives that a walk meets. -/
lemma filter_walkIn (fieldTyped : ∀ node field, type (inside node field) = field.type)
    {layouts : List Layout} (h : Layered layouts) {node : α}
    (known : check ⟨layouts⟩ (type node) = .ok ()) :
    ((walkIn type inside layouts node).map type).filter Ty.isPrimitive =
      leavesIn layouts (type node) := by
  induction layouts generalizing node with
  | nil =>
    cases typed : type node with
    | int32 | int64 | double | string => simp [walkIn, leavesIn, typed, Ty.isPrimitive]
    | struct name =>
      rw [typed] at known
      cases known
  | cons layout older ih =>
    cases typed : type node with
    | int32 | int64 | double | string =>
      rw [walkIn_primitive (by rw [typed]; rfl)]
      simp [leavesIn, typed, Ty.isPrimitive]
    | struct name =>
      rw [leavesIn]
      split
      · next same =>
        subst same
        have inner : (type node).isPrimitive ≠ true := by
          rw [typed]
          exact Bool.false_ne_true
        rw [walkIn, if_pos typed, List.map_cons, List.filter_cons_of_neg inner, List.map_flatMap,
          List.filter_flatMap]
        cases h with
        | cons tail _ _ _ _ types =>
          refine List.flatMap_congr fun field among => ?_
          have known := types field among
          rw [← fieldTyped node field] at known
          rw [ih tail known, fieldTyped]
      · next differ =>
        have other : type node ≠ .struct layout.name := by
          rw [typed]
          rintro ⟨⟩
          exact differ rfl
        have older : check ⟨older⟩ (type node) = .ok () := by
          rw [typed, check_struct_eq_ok_iff] at known ⊢
          rwa [fields?_cons, if_neg differ] at known
        rw [walkIn, if_neg other, ih h.tail older, typed]

lemma filter_walk (fieldTyped : ∀ node field, type (inside node field) = field.type)
    (built : registry.Built) {nodes : List α}
    (known : ∀ node ∈ nodes, registry.check (type node) = .ok ()) :
    ((walk type inside registry nodes).map type).filter Ty.isPrimitive =
      leaves registry (nodes.map type) := by
  rw [walk, List.map_flatMap, List.filter_flatMap, leaves, List.flatMap_map]
  exact List.flatMap_congr fun node among =>
    filter_walkIn fieldTyped built.layered (known node among)

end Walk

/-! ## Reading -/

/-- Primitives, written one after the other. -/
def writeLeaves (read : List (Ty × Value)) : Written :=
  writeEach writeLeaf (read.map Prod.fst) (read.map Prod.snd)

lemma writeLeaves_cons {type : Ty} {value : Value} {bytes encoding : Bytes}
    {more : List (Ty × Value)} (first : writeLeaf type value = .done bytes)
    (later : writeLeaves more = .done encoding) :
    writeLeaves ((type, value) :: more) = .done (bytes ++ encoding) := by
  unfold writeLeaves at later ⊢
  rw [List.map_cons, List.map_cons, writeEach, first, Written.done_andThen, later]
  rfl

/-- A leaf that cannot be read stays where it is. -/
lemma readLeaf_error {type : Ty} {bytes rest : Bytes} {e : Error}
    (refused : readLeaf type bytes = (.error e, rest)) : rest = bytes := by
  have kept : ∀ {α β : Type} {make : α → β} {read : Except DecodeFault (α × Bytes)},
      Reading.ofPrimitive bytes make read = (.error e, rest) → rest = bytes := by
    intro α β make read refused
    cases read with
    | ok pair => cases refused
    | error fault =>
      cases refused
      rfl
  cases type with
  | int32 | int64 | double | string => exact kept refused
  | struct name =>
    cases refused
    rfl

/-- A read along leaves has come to a stop.  It has got values for some of them and has others
left. -/
structure ReadsTo (leaves : List Ty) (bytes : Bytes) (result : Except Error Unit) (rest : Bytes)
    (read : List (Ty × Value)) (left : List Ty) : Prop where
  leaves_eq : leaves = read.map Prod.fst ++ left
  /-- What was taken are the encodings of the leaves that were read. -/
  taken : ∃ encoding, writeLeaves read = .done encoding ∧ bytes = encoding ++ rest
  /-- Either no leaf is left, or the next one is refused where the read has stopped. -/
  ended : (left = [] ∧ result = .ok ()) ∨
    ∃ leaf later fault, left = leaf :: later ∧
      readLeaf leaf rest = (.error (.decode fault), rest) ∧ result = .error (.decode fault)

theorem consume_leaves {leaves : List Ty} (primitive : ∀ leaf ∈ leaves, leaf.isPrimitive = true)
    (bytes : Bytes) :
    ∃ read left, ReadsTo leaves bytes (consume readLeaf leaves bytes).1
      (consume readLeaf leaves bytes).2 read left := by
  induction leaves generalizing bytes with
  | nil => exact ⟨[], [], rfl, ⟨[], rfl, rfl⟩, .inl ⟨rfl, rfl⟩⟩
  | cons leaf more ih =>
    obtain ⟨first, later⟩ := List.forall_mem_cons.mp primitive
    rw [consume]
    rcases reading : readLeaf leaf bytes with ⟨e | value, rest⟩
    · obtain rfl := readLeaf_error reading
      obtain ⟨fault, rfl⟩ := decodeOnly_readLeaf first rest e (congrArg Prod.fst reading)
      exact ⟨[], leaf :: more, rfl, ⟨[], rfl, rfl⟩, .inr ⟨leaf, more, fault, rfl, reading, rfl⟩⟩
    · obtain ⟨one, rfl, written⟩ := writeLeaf_of_readLeaf reading
      obtain ⟨read, left, leaves_eq, ⟨encoding, encoded, split⟩, ended⟩ := ih later rest
      refine ⟨(leaf, value) :: read, left, congrArg _ leaves_eq, ?_, ended⟩
      refine ⟨one ++ encoding, writeLeaves_cons written encoded, ?_⟩
      rw [List.append_assoc]
      exact congrArg _ split

/-! ## Places -/

/-- A type on the way of the writer, with the value that was found for it. -/
structure Place where
  type : Ty
  /-- The value, or why there is none. -/
  found : Except EncodeFault Value

namespace Place

/-- Where a value is to be written under a type. -/
def start (type : Ty) (value : Value) : Place := ⟨type, .ok value⟩

/-- What keeps the writer from going on: there is no value, it is of another kind or of another
struct, or it is too long a string. -/
def fault? (place : Place) : Option EncodeFault :=
  match place.found with
  | .error fault => some fault
  | .ok value =>
    match place.type, value with
    | .int32, .int32 _ => none
    | .int64, .int64 _ => none
    | .double, .double _ => none
    | .string, .string text =>
      let length := (Utf8.encode text).length
      if length ≤ maxStringSize then none else some (.stringTooLong length)
    | .struct name, .struct typeName _ =>
      if typeName = name then none else some (.mismatch name typeName)
    | type, value => some (.mismatch type.name value.kind)

/-- The place of a field: the first value under its name, if the struct is one that has it. -/
def inside (place : Place) (field : Field) : Place where
  type := field.type
  found :=
    match place.fault?, place.found with
    | none, .ok (.struct name given) =>
      match FieldValues.get? given field.name with
      | some value => .ok value
      | none => .error (.missingField name field.name)
    | some fault, _ => .error fault
    | none, other => other

/-- The primitive that is to be written at a place. -/
def leaf? (place : Place) : Option (Ty × Value) :=
  if place.type.isPrimitive then place.found.toOption.map (place.type, ·) else none

/-- What is written at a place itself: a leaf, or nothing if it is a struct. -/
def write (place : Place) : Written :=
  match place.fault?, place.leaf? with
  | some fault, _ => .failed (.encode fault)
  | none, some (type, value) => writeLeaf type value
  | none, none => .done []

lemma inside_type (place : Place) (field : Field) : (place.inside field).type = field.type := rfl

lemma write_of_fault {place : Place} {fault : EncodeFault} (bad : place.fault? = some fault) :
    place.write = .failed (.encode fault) := by
  unfold write
  rw [bad]

lemma write_leaf {type : Ty} (primitive : type.isPrimitive = true) (value : Value) :
    (start type value).write = writeLeaf type value := by
  cases type with
  | struct name => cases primitive
  | string =>
    cases value with
    | string text =>
      by_cases short : (Utf8.encode text).length ≤ maxStringSize
      · simp [start, write, fault?, leaf?, Ty.isPrimitive, Except.toOption, short]
      · simp [start, write, fault?, writeLeaf, writeString, short]
    | int32 | int64 | double | struct => rfl
  | int32 | int64 | double => cases value <;> rfl

lemma exists_bytes_of_sound {type : Ty} (primitive : type.isPrimitive = true) {value : Value}
    (sound : (start type value).fault? = none) : ∃ bytes, writeLeaf type value = .done bytes := by
  cases type with
  | struct name => cases primitive
  | string =>
    cases value with
    | string text =>
      have short : (Utf8.encode text).length ≤ maxStringSize := by
        by_contra long
        simp [start, fault?, long] at sound
      exact ⟨_, by rw [writeLeaf, writeString, if_pos short]⟩
    | int32 | int64 | double | struct => cases sound
  | int32 | int64 | double => cases value <;> first | exact ⟨_, rfl⟩ | cases sound

lemma write_struct (name : String) (given : FieldValues) :
    (start (.struct name) (.struct name given)).write = .done [] := by
  simp [write, fault?, leaf?, start, Ty.isPrimitive]

/-- A value that is no struct of the type's name is at fault. -/
lemma fault?_of_ne {name : String} {value : Value}
    (other : ∀ given, value ≠ .struct name given) :
    (start (.struct name) value).fault? = some (.mismatch name value.kind) := by
  cases value with
  | struct typeName given =>
    have differ : typeName ≠ name := by
      rintro rfl
      exact other given rfl
    simp only [start, fault?, if_neg differ, Value.kind]
  | int32 | int64 | double | string => rfl

lemma types_of_starts {types : List Ty} {values : List Value}
    (count : values.length = types.length) :
    (List.zipWith start types values).map Place.type = types := by
  induction types generalizing values with
  | nil => rfl
  | cons type types ih =>
    cases values with
    | nil => cases count
    | cons value values =>
      rw [List.zipWith_cons_cons, List.map_cons, ih (Nat.succ.inj count)]
      rfl

/-- Where there is no fault, a leaf is written, or nothing at a struct. -/
lemma write_of_sound {place : Place} (sound : place.fault? = none) :
    (place.type.isPrimitive = false ∧ place.leaf? = none ∧ place.write = .done []) ∨
      ∃ value bytes, place.type.isPrimitive = true ∧ place.leaf? = some (place.type, value) ∧
        writeLeaf place.type value = .done bytes ∧ place.write = .done bytes := by
  obtain ⟨type, found⟩ := place
  cases found with
  | error fault => cases sound
  | ok value =>
    by_cases primitive : type.isPrimitive = true
    · obtain ⟨bytes, written⟩ := exists_bytes_of_sound primitive sound
      have leaf : leaf? ⟨type, .ok value⟩ = some (type, value) := if_pos primitive
      exact .inr
        ⟨value, bytes, primitive, leaf, written, (write_leaf primitive value).trans written⟩
    · have leaf : leaf? ⟨type, .ok value⟩ = none := if_neg primitive
      refine .inl ⟨Bool.eq_false_iff.mpr primitive, leaf, ?_⟩
      unfold write
      rw [sound, leaf]

/-- The place of a field for which the struct has a value. -/
lemma inside_of_get? {name : String} {given : FieldValues} {field : Field} {value : Value}
    (found : FieldValues.get? given field.name = some value) :
    (start (.struct name) (.struct name given)).inside field = start field.type value := by
  simp only [inside, start, fault?, if_true, found]

lemma inside_of_missing {name : String} {given : FieldValues} {field : Field}
    (missing : FieldValues.get? given field.name = none) :
    (start (.struct name) (.struct name given)).inside field =
      ⟨field.type, .error (.missingField name field.name)⟩ := by
  simp only [inside, start, fault?, if_true, missing]

end Place

/-! ## Writing -/

variable {registry : Registry}

namespace Written

lemma failed_andThen (e : Error) (next : Unit → Written) : (failed e).andThen next = failed e :=
  rfl

lemma empty_andThen (next : Unit → Written) : (done []).andThen next = next () := rfl

lemma andThen_empty (first : Written) : (first.andThen fun _ => done []) = first := by
  obtain ⟨bytes, result⟩ := first
  cases result with
  | ok => simp [andThen, done]
  | error e => rfl

lemma andThen_assoc (first : Written) (next later : Unit → Written) :
    (first.andThen next).andThen later = first.andThen fun _ => (next ()).andThen later := by
  obtain ⟨bytes, result⟩ := first
  cases result with
  | error e => rfl
  | ok =>
    unfold andThen
    cases result : (next ()).result with
    | ok => simp [List.append_assoc]
    | error e => simp [result]

end Written

/-- Write at one place after the other. -/
def writePlaces : List Place → Written
  | [] => .done []
  | place :: more => place.write.andThen fun _ => writePlaces more

lemma writePlaces_append (front back : List Place) :
    writePlaces (front ++ back) = (writePlaces front).andThen fun _ => writePlaces back := by
  induction front with
  | nil => rw [List.nil_append, writePlaces, Written.empty_andThen]
  | cons place more ih =>
    rw [List.cons_append, writePlaces, writePlaces, ih, Written.andThen_assoc]

/-- Nothing is written from a place with a fault on. -/
lemma writePlaces_of_fault {place : Place} {fault : EncodeFault}
    (bad : place.fault? = some fault) (layouts : List Layout) :
    writePlaces (walkIn Place.type Place.inside layouts place) = .failed (.encode fault) := by
  obtain ⟨deeper, met⟩ : ∃ deeper, walkIn Place.type Place.inside layouts place = place :: deeper :=
    exists_walkIn_eq_cons layouts place
  rw [met, writePlaces, Place.write_of_fault bad, Written.failed_andThen]

/-- Fields are written at one place after the other. -/
lemma writeFields_eq_writePlaces {write : Ty → Value → Written} {layouts : List Layout}
    {fields : List Field}
    (each : ∀ field ∈ fields, ∀ value, write field.type value =
      writePlaces (walkIn Place.type Place.inside layouts (.start field.type value)))
    (name : String) (given : FieldValues) :
    writeFields write name given fields =
      writePlaces (fields.flatMap fun field => walkIn Place.type Place.inside layouts
        ((Place.start (.struct name) (.struct name given)).inside field)) := by
  induction fields with
  | nil => rfl
  | cons field rest ih =>
    obtain ⟨first, others⟩ := List.forall_mem_cons.mp each
    rw [writeFields, List.flatMap_cons, writePlaces_append]
    cases found : FieldValues.get? given field.name with
    | none =>
      rw [Place.inside_of_missing found, writePlaces_of_fault rfl, Written.failed_andThen]
    | some value =>
      dsimp only
      rw [Place.inside_of_get? found, ← first value, ih others]

/-- A value of a known type is written at one place after the other. -/
lemma writeValue_eq_writePlaces (built : registry.Built) {type : Ty}
    (known : registry.check type = .ok ()) (value : Value) :
    writeValue registry type value =
      writePlaces (walkIn Place.type Place.inside registry.layouts (.start type value)) := by
  -- the fields of a struct are of smaller rank
  induction rank : typeRank registry type using Nat.strongRecOn generalizing type value with
  | ind n ih =>
    cases type with
    | int32 | int64 | double | string =>
      rw [writeValue_primitive rfl, walkIn_primitive rfl, writePlaces, writePlaces,
        Written.andThen_empty, Place.write_leaf rfl]
    | struct name =>
      by_cases same : ∃ given, value = .struct name given
      · obtain ⟨given, rfl⟩ := same
        obtain ⟨fields, found⟩ := check_struct_eq_ok_iff.mp known
        rw [writeValue_struct built found, walkIn_struct Place.inside_type built.layered rfl found,
          writePlaces, Place.write_struct, Written.empty_andThen]
        refine writeFields_eq_writePlaces (fun field among value => ?_) name given
        exact ih _ (rank ▸ typeRank_lt built found among)
          (built.layered.check_of_fields? found field among) value rfl
      · have other : ∀ given, value ≠ .struct name given := fun given e => same ⟨given, e⟩
        rw [writeValue_struct_of_ne other, writePlaces_of_fault (Place.fault?_of_ne other)]

lemma writeEach_eq_writePlaces (built : registry.Built) {types : List Ty}
    (known : ∀ type ∈ types, registry.check type = .ok ()) (values : List Value) :
    writeEach (writeValue registry) types values =
      writePlaces (walk Place.type Place.inside registry
        (List.zipWith Place.start types values)) := by
  induction types generalizing values with
  | nil => rfl
  | cons type types ih =>
    cases values with
    | nil => rfl
    | cons value values =>
      obtain ⟨first, others⟩ := List.forall_mem_cons.mp known
      rw [writeEach, writeValue_eq_writePlaces built first, ih others, List.zipWith_cons_cons, walk,
        walk, List.flatMap_cons, writePlaces_append]

/-- A write at one place after the other has come to a stop. -/
structure WritesTo (places : List Place) (result : Except Error Unit) (appended : Bytes)
    (front back : List Place) : Prop where
  places_eq : places = front ++ back
  sound : ∀ place ∈ front, place.fault? = none
  /-- Every leaf in front of the stop has a value. -/
  leaves_eq : (front.filterMap Place.leaf?).map Prod.fst =
    (front.map Place.type).filter Ty.isPrimitive
  /-- What was appended are the encodings of these leaves. -/
  encoded : writeLeaves (front.filterMap Place.leaf?) = .done appended
  /-- Either no place is left, or the next one has a fault. -/
  ended : (back = [] ∧ result = .ok ()) ∨
    ∃ place later fault, back = place :: later ∧ place.fault? = some fault ∧
      result = .error (.encode fault)

theorem exists_writesTo (places : List Place) :
    ∃ front back, WritesTo places (writePlaces places).result (writePlaces places).bytes
      front back := by
  induction places with
  | nil => exact ⟨[], [], rfl, nofun, rfl, rfl, .inl ⟨rfl, rfl⟩⟩
  | cons place more ih =>
    rw [writePlaces]
    cases bad : place.fault? with
    | some fault =>
      rw [Place.write_of_fault bad, Written.failed_andThen]
      exact ⟨[], place :: more, rfl, nofun, rfl, rfl, .inr ⟨place, more, fault, rfl, bad, rfl⟩⟩
    | none =>
      obtain ⟨front, back, places_eq, sound, leaves_eq, encoded, ended⟩ := ih
      have sound : ∀ other ∈ place :: front, other.fault? = none :=
        List.forall_mem_cons.mpr ⟨bad, sound⟩
      refine ⟨place :: front, back, ?_⟩
      rcases Place.write_of_sound bad with
        ⟨inner, absent, written⟩ | ⟨value, bytes, leaf, present, encodes, written⟩
      · have skipped := List.filterMap_cons_none (l := front) absent
        have inner : ¬ place.type.isPrimitive = true := by rw [inner]; exact Bool.false_ne_true
        rw [written, Written.empty_andThen]
        refine ⟨congrArg _ places_eq, sound, ?_, ?_, ended⟩
        · rw [skipped, List.map_cons, List.filter_cons_of_neg inner]
          exact leaves_eq
        · rw [skipped]
          exact encoded
      · have met := List.filterMap_cons_some (l := front) present
        rw [written, Written.done_andThen]
        refine ⟨congrArg _ places_eq, sound, ?_, ?_, ended⟩
        · rw [met, List.map_cons, List.map_cons, List.filter_cons_of_pos leaf]
          exact congrArg _ leaves_eq
        · rw [met]
          exact writeLeaves_cons encodes encoded

/-! ## On buffers -/

/-- The codec goes leaf by leaf, in both directions. -/
structure LeafByLeaf (registry : Registry) (types : List Ty) : Prop where
  /-- The leaves are the primitives that are met depth first, in registered order. -/
  expanded : ∃ met, (∀ other, Expands id (fun _ field => field.type) registry types other ↔
      other = met) ∧
    met.filter Ty.isPrimitive = leaves registry types
  /-- A read stops in front of the first leaf that cannot be read, and takes the leaves before. -/
  reads : ∀ buffer : Buffer, ∃ read left, ReadsTo (leaves registry types) buffer.unread
    ((buffer.readValues registry types).1.map fun _ => ())
    (buffer.readValues registry types).2.unread read left
  /-- Nothing is written unless there are as many values as types. -/
  miscounted : ∀ (buffer : Buffer) values, values.length ≠ types.length →
    buffer.writeValues registry types values =
      (.error (.encode (.countMismatch values.length types.length)), buffer)
  /-- A write stops at the first place with a fault, and appends the leaves before. -/
  writes : ∀ (buffer : Buffer) values, values.length = types.length →
    ∃ places result appended front back,
      (∀ other, Expands Place.type Place.inside registry
        (List.zipWith Place.start types values) other ↔ other = places) ∧
      (places.map Place.type).filter Ty.isPrimitive = leaves registry types ∧
      WritesTo places result appended front back ∧
      buffer.writeValues registry types values = (result, ⟨buffer.unread ++ appended⟩)

/-- Values of checked types are read and written leaf by leaf in any registry that registrations
have built, and a failure leaves no part of a primitive. -/
theorem stops_between_leaves (built : registry.Built) {types : List Ty}
    (checked : registry.checkAll types = .ok ()) : LeafByLeaf registry types := by
  have known := checkAll_eq_ok_iff.mp checked
  have filtered : (walk id (fun _ field => field.type) registry types).filter Ty.isPrimitive =
      leaves registry types := by
    have filtered := @filter_walk _ id (fun _ field => field.type) _ (fun _ _ => rfl) built _ known
    rwa [List.map_id, List.map_id] at filtered
  constructor
  case expanded =>
    exact ⟨_, @expands_iff _ id (fun _ field => field.type) _ (fun _ _ => rfl) built _ known,
      filtered⟩
  case reads =>
    intro buffer
    have primitive : ∀ leaf ∈ leaves registry types, leaf.isPrimitive = true := by
      rw [← filtered]
      exact fun leaf among => (List.mem_filter.mp among).2
    have stop := consume_leaves primitive buffer.unread
    rwa [← outcome_readValues] at stop
  case miscounted =>
    intro buffer values other
    rw [Buffer.writeValues_eq, Codec.writeValues, if_neg other]
    simp [Written.failed]
  case writes =>
    intro buffer values count
    have typed := Place.types_of_starts count
    have startKnown : ∀ place ∈ List.zipWith Place.start types values,
        registry.check place.type = .ok () := by
      intro place among
      exact known _ (typed ▸ List.mem_map_of_mem among)
    obtain ⟨front, back, stop⟩ := exists_writesTo
      (walk Place.type Place.inside registry (List.zipWith Place.start types values))
    refine ⟨_, _, _, front, back, expands_iff Place.inside_type built startKnown, ?_, stop, ?_⟩
    · rw [filter_walk Place.inside_type built startKnown, typed]
    · rw [Buffer.writeValues_eq, Codec.writeValues, if_pos count,
        writeEach_eq_writePlaces built known]

/-- Bytes that end inside the label of a pin, and a pin whose point has no second coordinate. -/
theorem stops_between_leaves_nested :
    Buffer.nestedRegistry.checkAll [.int32, .struct "pin"] = .ok () ∧
      LeafByLeaf Buffer.nestedRegistry [.int32, .struct "pin"] ∧
      Buffer.readValues ⟨[1, 0, 0, 0, 2, 0, 0, 0, 0, 0, 0, 0, 3, 0, 0, 0, 0, 0, 0, 0, 5, 0, 0, 0, 97]⟩
          Buffer.nestedRegistry [.int32, .struct "pin"] =
        (.error (.decode (.truncatedString 5 1)), ⟨[5, 0, 0, 0, 97]⟩) ∧
      Buffer.writeValues ⟨[7]⟩ Buffer.nestedRegistry [.int32, .struct "pin"]
          [.int32 1, .struct "pin" [("label", .string "a"),
            ("at", .struct "point" [("x", .double 2)])]] =
        (.error (.encode (.missingField "point" "y")), ⟨[7, 1, 0, 0, 0, 2, 0, 0, 0, 0, 0, 0, 0]⟩) :=
  ⟨rfl, stops_between_leaves Buffer.nestedRegistry_built rfl, rfl, rfl⟩

end Codec

end RemoteCall
