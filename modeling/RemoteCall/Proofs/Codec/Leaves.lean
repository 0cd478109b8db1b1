import RemoteCall.Codec.Values
import RemoteCall.Proofs.Codec.Primitive

/-!
# Reading leaf by leaf

A type is made of primitives, its leaves, in the order in which they travel.  As far as the bytes
are concerned a read of values is the same as a read of their leaves one after the other: it stops
at the same place, with the same error (`outcome_readValues`).

A string is the one leaf that can be refused although there are bytes enough for it; `IllFormed`
says when.

Structs have neither a tag nor a length on the wire, so nothing is lost by this view but the shape
of the values, and that is put back by the types.  It is the view in which the errors of the reader
are explained: whatever goes wrong goes wrong at the first leaf that cannot be read, with all leaves
before it taken and the bytes of this one left (`readValues_eq_error_of_leaf`).

A struct that is not in the registry counts as a leaf, which nothing can be read for.  So the leaves
are defined for all types, and the equation holds without a hypothesis.

## Main statements

* `outcome_readValues` — values are consumed leaf by leaf.
-/

namespace RemoteCall

namespace Codec

/-! ## Leaves -/

/-- The leaves of a type, following structs in a list of layouts.  A struct that is not in it counts
as a leaf, which nothing can be read for. -/
def leavesIn : List Layout → Ty → List Ty
  | layout :: older, .struct name =>
    if layout.name = name then layout.fields.flatMap fun field => leavesIn older field.type
    else leavesIn older (.struct name)
  | _, type => [type]

/-- The leaves of types, in wire order. -/
def leaves (registry : Registry) (types : List Ty) : List Ty :=
  types.flatMap (leavesIn registry.layouts)

/-- Consume what one read after the other takes, and forget the values. -/
def consume (read : Ty → Bytes → Reading Value) : List Ty → Bytes → Reading Unit
  | [], bytes => (.ok (), bytes)
  | type :: types, bytes =>
    Reading.andThen (read type bytes) fun _ rest => consume read types rest

/-- How a read ended, without the value. -/
def Reading.outcome {α : Type} (reading : Reading α) : Reading Unit :=
  (reading.1.map fun _ => (), reading.2)

/-! ## Outcomes -/

lemma Reading.outcome_andThen {α β : Type} (first : Reading α) {next : α → Bytes → Reading β}
    {later : Bytes → Reading Unit} (h : ∀ v rest, (next v rest).outcome = later rest) :
    (Reading.andThen first next).outcome = Reading.andThen first fun _ rest => later rest := by
  obtain ⟨result, rest⟩ := first
  cases result with
  | ok v => exact h v rest
  | error e => rfl

lemma Reading.outcome_eq_error_iff {α : Type} {reading : Reading α} {e : Error} {rest : Bytes} :
    reading.outcome = (.error e, rest) ↔ reading = (.error e, rest) := by
  obtain ⟨result, tail⟩ := reading
  cases result <;> simp [Reading.outcome, Except.map]

lemma consume_append (read : Ty → Bytes → Reading Value) (front back : List Ty)
    (bytes : Bytes) :
    consume read (front ++ back) bytes =
      Reading.andThen (consume read front bytes) fun _ rest => consume read back rest := by
  induction front generalizing bytes with
  | nil => rfl
  | cons type types ih =>
    simp only [List.cons_append, consume]
    obtain ⟨result, rest⟩ := read type bytes
    cases result with
    | ok v => exact ih rest
    | error e => rfl

lemma outcome_readEach (read : Ty → Bytes → Reading Value) (types : List Ty) (bytes : Bytes) :
    (readEach read types bytes).outcome = consume read types bytes := by
  induction types generalizing bytes with
  | nil => rfl
  | cons type types ih =>
    rw [readEach, consume]
    refine Reading.outcome_andThen _ fun value rest => ?_
    rw [← ih rest]
    obtain ⟨result, tail⟩ := readEach read types rest
    cases result <;> rfl

lemma outcome_readFields (read : Ty → Bytes → Reading Value) (fields : List Field)
    (bytes : Bytes) :
    (readFields read fields bytes).outcome = consume read (fields.map Field.type) bytes := by
  induction fields generalizing bytes with
  | nil => rfl
  | cons field more ih =>
    rw [readFields, List.map_cons, consume]
    refine Reading.outcome_andThen _ fun value rest => ?_
    rw [← ih rest]
    obtain ⟨result, tail⟩ := readFields read more rest
    cases result <;> rfl

/-- Types can be replaced by parts that consume the same. -/
lemma consume_flatMap {read part : Ty → Bytes → Reading Value} {parts : Ty → List Ty}
    (h : ∀ type bytes, (read type bytes).outcome = consume part (parts type) bytes)
    (types : List Ty) (bytes : Bytes) :
    consume read types bytes = consume part (types.flatMap parts) bytes := by
  induction types generalizing bytes with
  | nil => rfl
  | cons type types ih =>
    rw [List.flatMap_cons, consume_append, ← h, consume]
    obtain ⟨result, rest⟩ := read type bytes
    cases result with
    | ok v => exact ih rest
    | error e => rfl

lemma consume_singleton (read : Ty → Bytes → Reading Value) (type : Ty) (bytes : Bytes) :
    consume read [type] bytes = (read type bytes).outcome := by
  rw [consume]
  obtain ⟨result, rest⟩ := read type bytes
  cases result <;> rfl

lemma outcome_readIn (layouts : List Layout) (type : Ty) (bytes : Bytes) :
    (readIn layouts type bytes).outcome = consume readLeaf (leavesIn layouts type) bytes := by
  induction layouts generalizing type bytes with
  | nil => cases type <;> simp [readIn, leavesIn, consume_singleton]
  | cons layout older ih =>
    cases type with
    | int32 | int64 | double | string => simp [readIn, leavesIn, consume_singleton]
    | struct name =>
      rw [readIn, leavesIn]
      split
      · have fields := consume_flatMap ih (layout.fields.map Field.type) bytes
        rw [List.flatMap_map] at fields
        rw [← fields, ← outcome_readFields]
        obtain ⟨result, rest⟩ := readFields (readIn older) layout.fields bytes
        cases result <;> rfl
      · exact ih _ _

/-- Values are consumed leaf by leaf. -/
theorem outcome_readValues (registry : Registry) (types : List Ty) (bytes : Bytes) :
    (readValues registry types bytes).outcome = consume readLeaf (leaves registry types) bytes := by
  rw [readValues, outcome_readEach, leaves]
  exact consume_flatMap (outcome_readIn registry.layouts) types bytes

/-- A read ends at the first leaf that cannot be read. -/
lemma readValues_eq_error_of_leaf {registry : Registry} {types front back : List Ty} {leaf : Ty}
    {bytes rest left : Bytes} {e : Error} (made : leaves registry types = front ++ leaf :: back)
    (reached : consume readLeaf front bytes = (.ok (), rest))
    (refused : readLeaf leaf rest = (.error e, left)) :
    readValues registry types bytes = (.error e, left) := by
  rw [← Reading.outcome_eq_error_iff, outcome_readValues, made, consume_append, reached]
  simp only [Reading.andThen, consume, refused]

/-! ## Strings -/

/-- The length that the first four bytes announce. -/
def announced (bytes : Bytes) : Int32 := LittleEndian.readInt32 (bytes.take 4)

/-- Bytes that begin with a complete length, but with no string: the length is negative or exceeds
what follows it, or the bytes that it covers are not UTF-8. -/
def IllFormed (bytes : Bytes) : Prop :=
  4 ≤ bytes.length ∧
    (announced bytes < 0 ∨
      bytes.length - 4 < (announced bytes).toNatClampNeg ∨
      ∀ text, Utf8.encode text ≠ (bytes.drop 4).take (announced bytes).toNatClampNeg)

/-- What is no string is refused, and nothing is taken. -/
lemma readLeaf_of_illFormed {bytes : Bytes} (h : IllFormed bytes) :
    ∃ fault, readLeaf .string bytes = (.error (.decode fault), bytes) := by
  obtain ⟨enough, bad⟩ := h
  have taken : takeItem .stringLength bytes = .ok (bytes.take 4, bytes.drop 4) := by
    have width : (bytes.take 4).length = 4 := by
      rw [List.length_take]
      omega
    rw [takeItem, if_pos (by simpa [Item.width] using width)]
    rfl
  cases read : readString bytes with
  | error fault => exact ⟨fault, by rw [readLeaf, read]; rfl⟩
  | ok pair =>
    obtain ⟨text, rest⟩ := pair
    unfold readString at read
    simp only [taken] at read
    split at read
    · simp at read
    next nonneg =>
    split at read
    · simp at read
    next covered =>
    split at read
    · simp at read
    next decoded =>
    rw [List.length_take, List.length_drop] at covered
    rcases bad with negative | long | notText
    · exact absurd negative nonneg
    · unfold announced at long
      omega
    · exact absurd (Utf8.encode_eq_of_decode_eq_ok decoded) (notText _)

end Codec

end RemoteCall
