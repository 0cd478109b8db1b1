import Mathlib.Tactic.Lemma
import RemoteCall.Schema.Registry

/-!
# Registries are layered

A registry that registrations have built is a list in which every layout speaks only about layouts
behind it.  `Registry.Layered` is that invariant of the list, with everything else that a
registration checks, and `Registry.Built.layered` says that every built registry has it.

The consequences for a look-up by name are `Layered.check_of_fields?` (the fields of a known struct
are of known types) and `Layered.nodup_of_fields?` (their names are distinct).

Layouts are never replaced and never removed, so what is known of a layout when it is registered
stays true.  A type that is known stays known (`check_cons`), and its layout is found as before,
because the name of a new layout is no one's name (`ne_of_check`).  Nothing else is needed for that
a codec may follow structs along the list or by look-ups, with the same result.

## Main statements

* `Built.layered` — a registry that was built by registrations is layered.
* `check_of_fields?`, `nodup_of_fields?` — the fields of a known struct are of known types and have
  distinct names.
-/

namespace RemoteCall

namespace Registry

/-! ## The invariant -/

/-- Layouts of which each was registered after all those behind it. -/
inductive Layered : List Layout → Prop where
  | nil : Layered []
  | cons {layout : Layout} {older : List Layout} :
      Layered older →
      layout.name ≠ "" →
      (Ty.ofName layout.name).isPrimitive = false →
      contains ⟨older⟩ layout.name = false →
      (layout.fields.map Field.name).Nodup →
      (∀ field ∈ layout.fields, check ⟨older⟩ field.type = .ok ()) →
      Layered (layout :: older)

/-- The fields of a new struct are accepted exactly if their names are new and distinct and their
types are known. -/
lemma checkFields_eq_ok_iff {registry : Registry} {struct : String} {seen : List String}
    {fields : List Field} :
    registry.checkFields struct seen fields = .ok () ↔
      (fields.map Field.name).Nodup ∧ (∀ field ∈ fields, field.name ∉ seen) ∧
        ∀ field ∈ fields, registry.check field.type = .ok () := by
  induction fields generalizing seen with
  | nil => simp [checkFields]
  | cons field rest ih =>
    rw [checkFields]
    by_cases known : field.name ∈ seen
    · simp [known]
    rw [if_neg known]
    cases checked : registry.check field.type with
    | error e => simp [checked]
    | ok _ =>
      simp only [ih, List.map_cons, List.nodup_cons, List.mem_map, List.mem_cons, not_or,
        forall_eq_or_imp, checked, true_and]
      constructor
      · rintro ⟨distinct, unseen, types⟩
        refine ⟨⟨?_, distinct⟩, ⟨known, fun f hf => (unseen f hf).2⟩, types⟩
        rintro ⟨f, hf, same⟩
        exact (unseen f hf).1 same
      · rintro ⟨⟨fresh, distinct⟩, ⟨_, unseen⟩, types⟩
        exact ⟨distinct, fun f hf => ⟨fun same => fresh ⟨f, hf, same⟩, unseen f hf⟩, types⟩

/-- A registration that succeeds puts a checked layout in front. -/
lemma register_eq_ok {registry next : Registry} {name : String} {fields : List Field}
    (h : registry.register name fields = .ok next) :
    next = ⟨⟨name, fields⟩ :: registry.layouts⟩ ∧ name ≠ "" ∧
      (Ty.ofName name).isPrimitive = false ∧ registry.contains name = false ∧
      registry.checkFields name [] fields = .ok () := by
  unfold register at h
  split at h
  · simp at h
  next named =>
  split at h
  · simp at h
  next own =>
  split at h
  · simp at h
  next fresh =>
  split at h
  · next checked =>
    simp only [Except.ok.injEq] at h
    exact ⟨h.symm, named, by simpa using own, by simpa using fresh, checked⟩
  · simp at h

theorem Built.layered {registry : Registry} (built : Built registry) :
    Layered registry.layouts := by
  induction built with
  | empty => exact .nil
  | register _ registered ih =>
    obtain ⟨rfl, named, own, fresh, checked⟩ := register_eq_ok registered
    obtain ⟨distinct, -, types⟩ := checkFields_eq_ok_iff.mp checked
    exact .cons ih named own fresh distinct types

/-! ## Looking up -/

lemma fields?_cons (layout : Layout) (older : List Layout) (name : String) :
    fields? ⟨layout :: older⟩ name =
      if layout.name = name then some layout.fields else fields? ⟨older⟩ name := by
  unfold fields? layout?
  rw [List.find?_cons]
  by_cases same : layout.name = name <;> simp [same]

lemma contains_eq_isSome_fields? (registry : Registry) (name : String) :
    registry.contains name = (registry.fields? name).isSome := by
  simp [contains, fields?]

lemma check_struct_eq_ok_iff {registry : Registry} {name : String} :
    registry.check (.struct name) = .ok () ↔ ∃ fields, registry.fields? name = some fields := by
  rw [check_struct, contains_eq_isSome_fields?, ← Option.isSome_iff_exists]
  cases registry.fields? name <;> simp

/-- A type that is known stays known when a layout is added. -/
lemma check_cons {layout : Layout} {older : List Layout} {type : Ty}
    (known : check ⟨older⟩ type = .ok ()) : check ⟨layout :: older⟩ type = .ok () := by
  cases type with
  | struct name =>
    obtain ⟨fields, found⟩ := check_struct_eq_ok_iff.mp known
    rw [check_struct_eq_ok_iff, fields?_cons]
    split
    · exact ⟨_, rfl⟩
    · exact ⟨fields, found⟩
  | int32 | int64 | double | string => rfl

namespace Layered

lemma tail {layout : Layout} {older : List Layout} (h : Layered (layout :: older)) :
    Layered older := by
  cases h with
  | cons older _ _ _ _ _ => exact older

/-- The newest layout is no other one's namesake. -/
lemma ne_of_check {layout : Layout} {older : List Layout} (h : Layered (layout :: older))
    {name : String} (known : check ⟨older⟩ (.struct name) = .ok ()) : layout.name ≠ name := by
  cases h with
  | cons _ _ _ fresh _ _ =>
    rintro rfl
    obtain ⟨fields, found⟩ := check_struct_eq_ok_iff.mp known
    simp [contains_eq_isSome_fields?, found] at fresh

/-- The fields of a known struct are of known types. -/
theorem check_of_fields? {layouts : List Layout} (h : Layered layouts) {name : String}
    {fields : List Field} (found : fields? ⟨layouts⟩ name = some fields) :
    ∀ field ∈ fields, check ⟨layouts⟩ field.type = .ok () := by
  induction h with
  | nil => simp [fields?, layout?] at found
  | cons _ _ _ _ _ types ih =>
    rw [fields?_cons] at found
    split at found
    · simp only [Option.some.injEq] at found
      subst found
      exact fun field hf => check_cons (types field hf)
    · exact fun field hf => check_cons (ih found field hf)

/-- The fields of a known struct have distinct names. -/
theorem nodup_of_fields? {layouts : List Layout} (h : Layered layouts) {name : String}
    {fields : List Field} (found : fields? ⟨layouts⟩ name = some fields) :
    (fields.map Field.name).Nodup := by
  induction h with
  | nil => simp [fields?, layout?] at found
  | cons _ _ _ _ distinct _ ih =>
    rw [fields?_cons] at found
    split at found
    · simp only [Option.some.injEq] at found
      exact found ▸ distinct
    · exact ih found

end Layered

end Registry

end RemoteCall
