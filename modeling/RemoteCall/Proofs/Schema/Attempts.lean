import RemoteCall.Machine
import RemoteCall.Proofs.Schema.Layered

/-!
# A registry after any attempts

Structs are registered one after the other, and some attempts are refused.  A refused attempt leaves
the registry as it is; one that is accepted adds its layout under a name that was free, and changes
no other layout (`fields?_of_attempt`).  So every registry that attempts lead to is a built one
(`built_run`).

The rank of a struct counts the layouts that were there when it was registered, with its own.  The
fields of a struct speak only about structs of smaller rank (`Layered.rankIn_lt`), which is why a
type that is known can be followed to its leaves (`Grounded`).

A rank is read off the list of layouts, where older layouts stand behind newer ones.  It is not part
of a registry, and nothing in the codec looks at it: it is the measure by which the descent through
names ends.

A struct may not have the name of a primitive, since a name in a layout means the primitive then
(`Ty.ofName_of_not_primitive`).  Registration checks it, so a known struct can be named in the
layouts of others.

## Main statements

* `fields?_of_attempt` — an accepted attempt adds its layout under a name that was free.
* `built_run` — whatever is attempted, the registry is a built one.
* `Layered.rankIn_lt` — the structs of the fields are older than the struct.
-/

namespace RemoteCall

/-- A name that is not that of a primitive means the struct of that name. -/
lemma Ty.ofName_of_not_primitive {name : String} (own : (Ty.ofName name).isPrimitive = false) :
    Ty.ofName name = .struct name := by
  unfold Ty.ofName at own ⊢
  split at own
  case h_8 => rfl
  all_goals cases own

namespace Registry

/-- The check of a list is the check of each of its types. -/
lemma checkAll_eq_ok_iff {registry : Registry} {types : List Ty} :
    registry.checkAll types = .ok () ↔ ∀ type ∈ types, registry.check type = .ok () := by
  induction types with
  | nil => exact ⟨fun _ => nofun, fun _ => rfl⟩
  | cons type types ih =>
    rw [checkAll, List.forall_mem_cons, ← ih]
    cases registry.check type with
    | ok => exact ⟨fun others => ⟨rfl, others⟩, fun both => both.2⟩
    | error e => exact ⟨nofun, fun both => nomatch both.1⟩

/-! ## Attempts -/

/-- Try to register a struct, and say how that ended. -/
def attempt (registry : Registry) (layout : Layout) : Registry × List (Except Error Unit) :=
  match registry.register layout.name layout.fields with
  | .ok next => (next, [.ok ()])
  | .error e => (registry, [.error e])

/-- Try to register structs one after the other. -/
def run (registry : Registry) (attempts : List Layout) : Registry × List (Except Error Unit) :=
  Machine.run attempt registry attempts

section

variable {registry : Registry} {layout : Layout}

/-- A refused attempt changes nothing. -/
lemma attempt_of_error {e : Error} (refused : (registry.attempt layout).2 = [.error e]) :
    (registry.attempt layout).1 = registry := by
  unfold attempt at refused ⊢
  split
  · rename_i accepted
    rw [accepted] at refused
    cases refused
  · rfl

/-- An attempt that is not refused is a registration. -/
lemma register_of_attempt (accepted : (registry.attempt layout).2 = [.ok ()]) :
    registry.register layout.name layout.fields = .ok (registry.attempt layout).1 := by
  unfold attempt at accepted ⊢
  split
  · assumption
  · rename_i refused
    rw [refused] at accepted
    cases accepted

/-- An accepted attempt adds its layout, under a name that was free. -/
theorem fields?_of_attempt (accepted : (registry.attempt layout).2 = [.ok ()]) :
    registry.fields? layout.name = none ∧ ∀ name, (registry.attempt layout).1.fields? name =
      if layout.name = name then some layout.fields else registry.fields? name := by
  obtain ⟨added, -, -, free, -⟩ := register_eq_ok (register_of_attempt accepted)
  rw [contains_eq_isSome_fields?, Option.isSome_eq_false_iff, Option.isNone_iff_eq_none] at free
  refine ⟨free, fun name => ?_⟩
  rw [added]
  exact fields?_cons _ _ name

lemma Built.attempt (built : registry.Built) (layout : Layout) :
    (registry.attempt layout).1.Built := by
  unfold Registry.attempt
  split
  · rename_i accepted
    exact .register built accepted
  · exact built

end

/-- Whatever is attempted, the registry is a built one. -/
theorem built_run (attempts : List Layout) : (empty.run attempts).1.Built :=
  Machine.run_invariant (fun _ layout built => built.attempt layout) .empty attempts

/-! ## Ranks -/

/-- The number of layouts from that of a name on, back to the oldest. -/
def rankIn : List Layout → String → Nat
  | [], _ => 0
  | layout :: older, name => if layout.name = name then older.length + 1 else rankIn older name

/-- The rank of a struct; it is zero for a name that is not known. -/
def rank (registry : Registry) (name : String) : Nat := rankIn registry.layouts name

lemma rankIn_le (layouts : List Layout) (name : String) :
    rankIn layouts name ≤ layouts.length := by
  induction layouts with
  | nil => exact Nat.le_refl 0
  | cons layout older ih =>
    rw [rankIn, List.length_cons]
    split
    · exact Nat.le_refl _
    · exact Nat.le_succ_of_le ih

lemma rankIn_cons_of_ne {layout : Layout} {name : String} (other : layout.name ≠ name)
    (older : List Layout) : rankIn (layout :: older) name = rankIn older name := if_neg other

/-- A known struct has a rank above that of unknown ones. -/
lemma rankIn_pos {layouts : List Layout} {name : String} {fields : List Field}
    (found : fields? ⟨layouts⟩ name = some fields) : 0 < rankIn layouts name := by
  induction layouts with
  | nil => cases found
  | cons layout older ih =>
    rw [fields?_cons] at found
    rw [rankIn]
    split at found
    · next same =>
      rw [if_pos same]
      exact Nat.succ_pos _
    · next other =>
      rw [if_neg other]
      exact ih found

/-- The structs of the fields are older than the struct. -/
theorem Layered.rankIn_lt {layouts : List Layout} (h : Layered layouts) {name inner : String}
    {fields : List Field} (found : fields? ⟨layouts⟩ name = some fields) {field : Field}
    (among : field ∈ fields) (typed : field.type = .struct inner) :
    rankIn layouts inner < rankIn layouts name := by
  induction layouts with
  | nil => cases found
  | cons layout older ih =>
    have known : check ⟨older⟩ (.struct inner) = .ok () := by
      rw [fields?_cons] at found
      split at found
      · cases found
        cases h with
        | cons _ _ _ _ _ types => exact typed ▸ types field among
      · exact typed ▸ h.tail.check_of_fields? found field among
    rw [rankIn_cons_of_ne (h.ne_of_check known)]
    rw [fields?_cons] at found
    split at found
    · next same =>
      rw [rankIn, if_pos same]
      exact Nat.lt_succ_of_le (rankIn_le older inner)
    · next other =>
      rw [rankIn_cons_of_ne other]
      exact ih h.tail found

/-! ## Grounded registries -/

/-- Every known struct has a name of its own and fields of distinct names, and leads down to
primitives. -/
structure Grounded (registry : Registry) : Prop where
  /-- A struct has a name, and the name means the struct. -/
  named : ∀ name, registry.contains name = true → name ≠ "" ∧ Ty.ofName name = .struct name
  distinct : ∀ name fields, registry.fields? name = some fields →
    (fields.map Field.name).Nodup
  /-- The structs of the fields are known, and lower in some ranking. -/
  ranked : ∃ rank : String → Nat, ∀ name fields, registry.fields? name = some fields →
    ∀ field ∈ fields, ∀ inner, field.type = .struct inner →
      registry.contains inner = true ∧ rank inner < rank name

lemma Layered.named {layouts : List Layout} (h : Layered layouts) {name : String}
    (known : contains ⟨layouts⟩ name = true) : name ≠ "" ∧ Ty.ofName name = .struct name := by
  induction h with
  | nil => cases known
  | @cons layout older _ named own _ _ _ ih =>
    rw [contains_eq_isSome_fields?, fields?_cons] at known
    split at known
    · next same => exact same ▸ ⟨named, Ty.ofName_of_not_primitive own⟩
    · exact ih (by rw [contains_eq_isSome_fields?, known])

lemma Built.grounded {registry : Registry} (built : registry.Built) : Grounded registry := by
  have layered := built.layered
  refine ⟨fun name => layered.named, fun name fields => layered.nodup_of_fields?,
    registry.rank, ?_⟩
  intro name fields found field among inner typed
  refine ⟨?_, layered.rankIn_lt found among typed⟩
  have known : registry.check field.type = .ok () := layered.check_of_fields? found field among
  rw [typed, check_struct_eq_ok_iff] at known
  rw [contains_eq_isSome_fields?, Option.isSome_iff_exists]
  exact known

end Registry

end RemoteCall
