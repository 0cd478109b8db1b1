import Mathlib.Tactic.Lemma
import RemoteCall.Proofs.System.Basic

/-!
# Histories grow

What was read off a history is still read off a longer one: every view of a history is a list that
grows at its end.  The lemmas here say by what.

The invariants of a client, of a connection and of the whole system are stated in terms of these
views.  When one action happens, the history becomes longer by what the action shows, and each
clause of an invariant is brought up to date by one of these equations.  They are rewriting rules,
from the view of the longer history to the views of its two parts.  A happening on one connection is
tagged with its number; on all the others nothing is added (`on_tagged_of_ne`).
-/

namespace RemoteCall

variable {η : Type}

lemma on_append (k : Nat) (first second : List (Nat × Happening η)) :
    on k (first ++ second) = on k first ++ on k second := List.filterMap_append

lemma mem_on {k : Nat} {happening : Happening η} {seen : List (Nat × Happening η)} :
    happening ∈ on k seen ↔ (k, happening) ∈ seen := by
  unfold on
  rw [List.mem_filterMap]
  constructor
  · rintro ⟨⟨c, happening'⟩, among, here⟩
    dsimp only at here
    split at here
    · rename_i same
      cases here
      rw [← same]
      exact among
    · cases here
  · intro among
    exact ⟨_, among, if_pos rfl⟩

lemma on_tagged_self (k : Nat) (seen : List (Happening η)) :
    on k (seen.map (k, ·)) = seen := by
  induction seen with
  | nil => rfl
  | cons happening rest ih =>
    have shown : on k ((k, happening) :: rest.map (k, ·)) = happening :: on k (rest.map (k, ·)) :=
      List.filterMap_cons_some (if_pos rfl)
    rw [List.map_cons, shown, ih]

lemma on_tagged_of_ne {k c : Nat} (other : c ≠ k) (seen : List (Happening η)) :
    on k (seen.map (c, ·)) = [] := by
  unfold on
  rw [List.filterMap_map, List.filterMap_eq_nil_iff]
  intro happening _
  exact if_neg other

namespace Happening

lemma calls_append (first second : List (Happening η)) :
    calls (first ++ second) = calls first ++ calls second := List.filterMap_append

lemma callsOf_append (xid : Int64) (first second : List (Happening η)) :
    callsOf xid (first ++ second) = callsOf xid first ++ callsOf xid second := by
  unfold callsOf
  rw [calls_append, List.filter_append, List.map_append]

lemma requests_append (first second : List (Happening η)) :
    requests (first ++ second) = requests first ++ requests second := List.filterMap_append

lemma dispatches_append (first second : List (Happening η)) :
    dispatches (first ++ second) = dispatches first ++ dispatches second := List.filterMap_append

lemma handlings_append (first second : List (Happening η)) :
    handlings (first ++ second) = handlings first ++ handlings second := List.filterMap_append

lemma replies_append (first second : List (Happening η)) :
    replies (first ++ second) = replies first ++ replies second := List.filterMap_append

lemma mem_handlings {handling : Handling η} {history : List (Happening η)} :
    handling ∈ handlings history ↔ .handled handling ∈ history := by
  unfold handlings
  rw [List.mem_filterMap]
  constructor
  · rintro ⟨happening, seen, shows⟩
    cases happening with
    | handled handling' =>
      cases shows
      exact seen
    | issued | requested | dispatched | replied => cases shows
  · intro seen
    exact ⟨_, seen, rfl⟩

lemma mem_dispatches {frame : Frame} {history : List (Happening η)}
    {registration : Option (Registration η)} (seen : .dispatched frame registration ∈ history) :
    frame ∈ dispatches history :=
  List.mem_filterMap.mpr ⟨_, seen, rfl⟩

end Happening

end RemoteCall
