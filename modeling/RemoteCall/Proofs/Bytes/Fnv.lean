import Mathlib.Logic.Function.Basic
import RemoteCall.Bytes.Fnv

/-!
# What decides a collision of hashes

The multiplier of the hash is odd, so it has an inverse modulo `2 ^ 32`, and a step is undone with
the byte that made it (`unstep`).  Mixing in a byte string is therefore a bijection of the state
(`foldl_step_bijective`): what comes behind two byte strings neither makes their hashes equal nor
sets them apart (`hash_append_eq_iff`).

What comes in front does not matter either if the byte strings have one length and differ at one
place only.  The two bytes take one state to two states (`step_eq_iff`), and the rest of the byte
strings is common (`hash_ne_of_oneApart`).

Byte strings that differ at two places may collide, and so may byte strings of different lengths:
there are more of them than hashes.  A common front may decide about a collision, too, because it
changes the state that the rest is mixed into, and the byte that is mixed in is combined with this
state bit by bit before the multiplication.

## Main statements

* `foldl_step_bijective` — mixing in a byte string is a bijection of the state.
* `hash_append_eq_iff` — a common end decides nothing about a collision.
* `hash_ne_of_oneApart` — byte strings that are one byte apart never collide.
-/

namespace RemoteCall

/-! ## Byte strings that are one byte apart -/

namespace Bytes

/-- Byte strings of one length that differ at exactly one place. -/
def OneApart (xs ys : Bytes) : Prop := xs.length = ys.length ∧ ∃! i : Nat, xs[i]? ≠ ys[i]?

/-- Around the place the byte strings have a common front and a common end. -/
lemma OneApart.exists_split {xs ys : Bytes} (apart : OneApart xs ys) :
    ∃ front a b back, a ≠ b ∧ xs = front ++ a :: back ∧ ys = front ++ b :: back := by
  obtain ⟨length, i, differ, only⟩ := apart
  have inside : i < xs.length := by
    by_contra outside
    rw [List.getElem?_eq_none (by omega), List.getElem?_eq_none (by omega)] at differ
    exact differ rfl
  have inside' : i < ys.length := length ▸ inside
  have elsewhere {j : Nat} (away : j ≠ i) : xs[j]? = ys[j]? :=
    not_ne_iff.mp fun other => away (only j other)
  have front : xs.take i = ys.take i := by
    ext1 j
    rw [List.getElem?_take, List.getElem?_take]
    split
    · exact elsewhere (by omega)
    · rfl
  have back : xs.drop (i + 1) = ys.drop (i + 1) := by
    ext1 j
    rw [List.getElem?_drop, List.getElem?_drop]
    exact elsewhere (by omega)
  refine ⟨xs.take i, xs[i], ys[i], xs.drop (i + 1), fun same => differ ?_, ?_, ?_⟩
  · rw [List.getElem?_eq_getElem inside, List.getElem?_eq_getElem inside', same]
  · rw [List.getElem_cons_drop, List.take_append_drop]
  · rw [front, back, List.getElem_cons_drop, List.take_append_drop]

lemma oneApart_append_cons {a b : UInt8} (differ : a ≠ b) (front back : Bytes) :
    OneApart (front ++ a :: back) (front ++ b :: back) := by
  refine ⟨by rw [List.length_append, List.length_append, List.length_cons, List.length_cons],
    front.length, by simpa using differ, fun j other => ?_⟩
  by_contra away
  refine other ?_
  rcases Nat.lt_or_gt_of_ne away with before | after
  · rw [List.getElem?_append_left before, List.getElem?_append_left before]
  · obtain ⟨k, rfl⟩ := Nat.exists_eq_add_of_lt after
    rw [List.getElem?_append_right (by omega), List.getElem?_append_right (by omega)]
    rw [Nat.add_assoc, Nat.add_sub_cancel_left, List.getElem?_cons_succ, List.getElem?_cons_succ]

/-- A common front changes nothing about how far byte strings are apart. -/
lemma OneApart.append_left {xs ys : Bytes} (apart : OneApart xs ys) (front : Bytes) :
    OneApart (front ++ xs) (front ++ ys) := by
  obtain ⟨before, a, b, back, differ, rfl, rfl⟩ := apart.exists_split
  rw [← List.append_assoc, ← List.append_assoc]
  exact oneApart_append_cons differ (front ++ before) back

end Bytes

namespace Fnv

/-! ## One step -/

/-- The inverse of the multiplier modulo `2 ^ 32`. -/
def inverse : UInt32 := 0x359c449b

lemma prime_mul_inverse : prime * inverse = 1 := by decide

lemma inverse_mul_prime : inverse * prime = 1 := by decide

/-- Take a byte out of the state again. -/
def unstep (state : UInt32) (b : UInt8) : UInt32 := (state * inverse) ^^^ b.toUInt32

@[simp] lemma unstep_step (state : UInt32) (b : UInt8) : unstep (step state b) b = state := by
  rw [unstep, step, UInt32.mul_assoc, prime_mul_inverse, UInt32.mul_one, UInt32.xor_assoc,
    UInt32.xor_self, UInt32.xor_zero]

@[simp] lemma step_unstep (state : UInt32) (b : UInt8) : step (unstep state b) b = state := by
  rw [step, unstep, UInt32.xor_assoc, UInt32.xor_self, UInt32.xor_zero, UInt32.mul_assoc,
    inverse_mul_prime, UInt32.mul_one]

/-- From one state, different bytes lead to different states. -/
theorem step_eq_iff {state : UInt32} {a b : UInt8} : step state a = step state b ↔ a = b := by
  refine ⟨fun same => ?_, fun same => same ▸ rfl⟩
  have mixed : state ^^^ a.toUInt32 = state ^^^ b.toUInt32 := by
    have undone := congrArg (· * inverse) same
    simpa only [step, UInt32.mul_assoc, prime_mul_inverse, UInt32.mul_one] using undone
  exact UInt8.toUInt32_inj.mp ((UInt32.xor_right_inj state).mp mixed)

/-! ## A byte string -/

/-- Take a byte string out of the state again, last byte first. -/
def unwind (bytes : Bytes) (state : UInt32) : UInt32 :=
  bytes.foldr (fun b after => unstep after b) state

lemma unwind_foldl (bytes : Bytes) (state : UInt32) :
    unwind bytes (bytes.foldl step state) = state := by
  induction bytes generalizing state with
  | nil => rfl
  | cons b rest ih =>
    calc unwind (b :: rest) ((b :: rest).foldl step state)
        = unstep (unwind rest (rest.foldl step (step state b))) b := rfl
      _ = state := by rw [ih, unstep_step]

lemma foldl_unwind (bytes : Bytes) (state : UInt32) :
    bytes.foldl step (unwind bytes state) = state := by
  induction bytes with
  | nil => rfl
  | cons b rest ih =>
    calc (b :: rest).foldl step (unwind (b :: rest) state)
        = rest.foldl step (step (unstep (unwind rest state) b) b) := rfl
      _ = state := by rw [step_unstep, ih]

/-- Mixing in a byte string is a bijection of the state. -/
theorem foldl_step_bijective (bytes : Bytes) :
    Function.Bijective fun state => bytes.foldl step state :=
  Function.bijective_iff_has_inverse.mpr
    ⟨unwind bytes, unwind_foldl bytes, foldl_unwind bytes⟩

/-! ## Collisions -/

/-- A common end decides nothing about a collision. -/
theorem hash_append_eq_iff {front other : Bytes} (back : Bytes) :
    hash (front ++ back) = hash (other ++ back) ↔ hash front = hash other := by
  rw [hash_append, hash_append]
  exact (foldl_step_bijective back).injective.eq_iff

/-- **Byte strings that are one byte apart never collide.** -/
theorem hash_ne_of_oneApart {xs ys : Bytes} (apart : Bytes.OneApart xs ys) : hash xs ≠ hash ys := by
  obtain ⟨front, a, b, back, differ, rfl, rfl⟩ := apart.exists_split
  rw [List.append_cons front a, List.append_cons front b, Ne, hash_append_eq_iff, hash_append,
    hash_append]
  exact fun same => differ (step_eq_iff.mp same)

end Fnv

end RemoteCall
