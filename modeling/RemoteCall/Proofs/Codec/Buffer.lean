import RemoteCall.Codec.Buffer
import RemoteCall.Proofs.Codec.Image
import RemoteCall.Proofs.Codec.Leaves

/-!
# The buffer and its image

The two halves of the codec, put together on buffers.  What is written behind any unread content is
read back in canonical form and leaves what follows it (`readValues_of_written`); and a byte string
can be read under a type list exactly if it begins with an encoding, which then is the only one
(`readValues_exact`).

A buffer adds nothing to the codec but the place where reading and writing meet: a write appends to
the unread content, a read takes from its front.  So the operations of a buffer are those of the
codec on its content (`writeValues_eq`, `readValues_eq`), and the statements are carried over by
these equations.

That a byte string begins with at most one encoding makes the format a prefix code for each list of
types.  It is not one for all lists together, since nothing of a type travels with its values.

## Main statements

* `readValues_of_written` — what was written is read back, with anything before and behind it.
* `readValues_exact` — a byte string is read exactly if it begins with an encoding.
* `readValues_of_written_nested`, `readValues_exact_nested` — the two on a struct inside a struct.
-/

namespace RemoteCall

namespace Buffer

open Codec

variable {registry : Registry}

lemma writeValues_eq (buffer : Buffer) (types : List Ty) (values : List Value) :
    buffer.writeValues registry types values =
      ((Codec.writeValues registry types values).result,
        ⟨buffer.unread ++ (Codec.writeValues registry types values).bytes⟩) := rfl

lemma readValues_eq (buffer : Buffer) (types : List Ty) :
    buffer.readValues registry types =
      ((Codec.readValues registry types buffer.unread).1,
        ⟨(Codec.readValues registry types buffer.unread).2⟩) := rfl

lemma readValues_eq_iff {bytes rest : Bytes} {types : List Ty}
    {result : Except Error (List Value)} :
    readValues ⟨bytes⟩ registry types = (result, ⟨rest⟩) ↔
      Codec.readValues registry types bytes = (result, rest) := by
  rw [readValues_eq]
  obtain ⟨result', rest'⟩ := Codec.readValues registry types bytes
  simp

lemma writeValues_empty_eq_ok_iff {bytes : Bytes} {types : List Ty} {values : List Value} :
    writeValues empty registry types values = (.ok (), ⟨bytes⟩) ↔
      Codec.writeValues registry types values = .done bytes := by
  rw [writeValues_eq]
  obtain ⟨bytes', result⟩ := Codec.writeValues registry types values
  simp [empty, Written.done, and_comm]

/-- A registry with a struct inside a struct. -/
def nestedRegistry : Registry :=
  ⟨[⟨"pin", [⟨"at", .struct "point"⟩, ⟨"label", .string⟩]⟩,
    ⟨"point", [⟨"x", .double⟩, ⟨"y", .double⟩]⟩]⟩

lemma nestedRegistry_built : nestedRegistry.Built := by
  have point : Registry.empty.register "point" [⟨"x", .double⟩, ⟨"y", .double⟩] =
      .ok ⟨[⟨"point", [⟨"x", .double⟩, ⟨"y", .double⟩]⟩]⟩ := rfl
  have pin : Registry.register ⟨[⟨"point", [⟨"x", .double⟩, ⟨"y", .double⟩]⟩]⟩ "pin"
      [⟨"at", .struct "point"⟩, ⟨"label", .string⟩] = .ok nestedRegistry := rfl
  exact .register (.register .empty point) pin

/-- Values that were written behind unread content are read back in canonical form, from in front of
whatever follows them. -/
theorem readValues_of_written (built : registry.Built) (types : List Ty) (values : List Value)
    (before : Bytes) (written : (writeValues ⟨before⟩ registry types values).1 = .ok ()) :
    ∃ encoding forms, (writeValues ⟨before⟩ registry types values).2 = ⟨before ++ encoding⟩ ∧
      canonicals registry types values = some forms ∧
      ∀ after, readValues ⟨encoding ++ after⟩ registry types = (.ok forms, ⟨after⟩) := by
  obtain ⟨forms, encoding, conform, done, read⟩ := readValues_append built written
  refine ⟨encoding, forms, ?_, conform, fun after => readValues_eq_iff.mpr (read after)⟩
  rw [writeValues_eq, done]
  rfl

/-- The fields may come in any order, with others between them and with second values. -/
theorem readValues_of_written_nested :
    (writeValues ⟨[7]⟩ nestedRegistry [.struct "pin"]
      [.struct "pin" [("label", .string "a"), ("note", .int32 1),
        ("at", .struct "point" [("y", .double 0x7ff8000000000001), ("x", .double 0),
          ("x", .double 5)]), ("label", .string "b")]]).1 = .ok () ∧
    ∃ encoding forms,
      (writeValues ⟨[7]⟩ nestedRegistry [.struct "pin"]
        [.struct "pin" [("label", .string "a"), ("note", .int32 1),
          ("at", .struct "point" [("y", .double 0x7ff8000000000001), ("x", .double 0),
            ("x", .double 5)]), ("label", .string "b")]]).2 = ⟨[7] ++ encoding⟩ ∧
      canonicals nestedRegistry [.struct "pin"]
        [.struct "pin" [("label", .string "a"), ("note", .int32 1),
          ("at", .struct "point" [("y", .double 0x7ff8000000000001), ("x", .double 0),
            ("x", .double 5)]), ("label", .string "b")]] = some forms ∧
      ∀ after, readValues ⟨encoding ++ after⟩ nestedRegistry [.struct "pin"] =
        (.ok forms, ⟨after⟩) :=
  ⟨rfl, readValues_of_written nestedRegistry_built _ _ _ rfl⟩

/-- A byte string is read exactly if it begins with the encoding of conforming values; what is read
is written as the bytes that were taken; no byte string begins with two encodings or stands for two
lists of values; and an ill-formed string is refused wherever the types lead to it. -/
theorem readValues_exact (built : registry.Built) (types : List Ty) (bytes : Bytes) :
    ((∃ values rest, readValues ⟨bytes⟩ registry types = (.ok values, ⟨rest⟩)) ↔
      ∃ values encoding, (canonicals registry types values).isSome = true ∧
        writeValues empty registry types values = (.ok (), ⟨encoding⟩) ∧ encoding <+: bytes) ∧
    (∀ values rest, readValues ⟨bytes⟩ registry types = (.ok values, ⟨rest⟩) →
      ∃ encoding, writeValues empty registry types values = (.ok (), ⟨encoding⟩) ∧
        bytes = encoding ++ rest) ∧
    (∀ values values' encoding encoding',
      writeValues empty registry types values = (.ok (), ⟨encoding⟩) →
      writeValues empty registry types values' = (.ok (), ⟨encoding'⟩) →
      encoding <+: bytes → encoding' <+: bytes →
        encoding = encoding' ∧
          canonicals registry types values = canonicals registry types values') ∧
    (∀ front back rest, leaves registry types = front ++ .string :: back →
      consume readLeaf front bytes = (.ok (), rest) → IllFormed rest →
        ∃ fault, readValues ⟨bytes⟩ registry types = (.error (.decode fault), ⟨rest⟩)) := by
  refine ⟨⟨?_, ?_⟩, ?_, ?_, ?_⟩
  · rintro ⟨values, rest, read⟩
    obtain ⟨encoding, rfl, written, conform⟩ :=
      writeValues_of_readValues built (readValues_eq_iff.mp read)
    exact ⟨values, encoding, by rw [conform]; rfl, writeValues_empty_eq_ok_iff.mpr written,
      List.prefix_append _ _⟩
  · rintro ⟨values, encoding, -, written, rest, rfl⟩
    rw [writeValues_empty_eq_ok_iff] at written
    obtain ⟨forms, -, read⟩ := readValues_of_done built written
    exact ⟨forms, rest, readValues_eq_iff.mpr (read rest)⟩
  · intro values rest read
    obtain ⟨encoding, rfl, written, -⟩ :=
      writeValues_of_readValues built (readValues_eq_iff.mp read)
    exact ⟨encoding, writeValues_empty_eq_ok_iff.mpr written, rfl⟩
  · rintro values values' encoding encoding' written written' ⟨rest, split⟩ ⟨rest', split'⟩
    obtain ⟨forms, conform, read⟩ :=
      readValues_of_done built (writeValues_empty_eq_ok_iff.mp written)
    obtain ⟨forms', conform', read'⟩ :=
      readValues_of_done built (writeValues_empty_eq_ok_iff.mp written')
    have both := (read rest).symm.trans ((congrArg _ (split.trans split'.symm)).trans (read' rest'))
    simp only [Prod.mk.injEq, Except.ok.injEq] at both
    obtain ⟨rfl, rfl⟩ := both
    exact ⟨List.append_cancel_right (split.trans split'.symm), conform.trans conform'.symm⟩
  · intro front back rest made reached bad
    obtain ⟨fault, refused⟩ := readLeaf_of_illFormed bad
    exact ⟨fault, readValues_eq_iff.mpr (readValues_eq_error_of_leaf made reached refused)⟩

/-- The last string of a struct announces a negative length. -/
theorem readValues_exact_nested :
    nestedRegistry.Built ∧
      leaves nestedRegistry [.struct "pin"] = [.double, .double] ++ .string :: [] ∧
      IllFormed [0xff, 0xff, 0xff, 0xff] ∧
      ∃ fault, readValues ⟨[0, 0, 0, 0, 0, 0, 0, 0, 1, 0, 0, 0, 0, 0, 0xf8, 0x7f,
          0xff, 0xff, 0xff, 0xff]⟩ nestedRegistry [.struct "pin"] =
        (.error (.decode fault), ⟨[0xff, 0xff, 0xff, 0xff]⟩) := by
  have negative : IllFormed [0xff, 0xff, 0xff, 0xff] := ⟨by simp, Or.inl (by decide)⟩
  exact ⟨nestedRegistry_built, rfl, negative,
    (readValues_exact nestedRegistry_built _ _).2.2.2 [.double, .double] [] _ rfl rfl negative⟩

end Buffer

end RemoteCall
