import Mathlib.Tactic.Lemma
import RemoteCall.Machine

/-!
# Runs and their histories

An invariant often relates a state to everything that was seen from outside before it.  Such an
invariant is kept by a run if every action keeps it together with the effects that it adds
(`run_history`).  The other way around, whatever a run has shown was shown by one of its actions, in
the state that the actions before it led to (`exists_step_of_mem`).  Of a view that lists what was
seen in order, the place in the list tells which (`exists_step_of_getElem?`).

A map from one machine to another that every action respects is respected by every run (`run_map`).

All machines of this library are run by `Machine.run`, which goes through a list of actions and
collects the effects.  So the induction on runs is made here, once for each way in which it is used,
and a development about a particular machine consists of lemmas about its steps.  An invariant may
depend on which actions are allowed (`Allowed`); a run that is restricted in some other way is
described by a machine of its own.

## Main statements

* `run_history` — what every action keeps, every run keeps.
* `exists_step_of_mem`, `exists_step_of_getElem?` — what a run has shown, one of its actions has
  shown.
* `run_map` — a map that actions respect is respected by runs.
-/

namespace RemoteCall

namespace Machine

variable {σ ε ω : Type}

theorem run_history {step : σ → ε → σ × List ω} {Inv : σ → List ω → Prop} {Allowed : ε → Prop}
    (keeps : ∀ state history event, Allowed event → Inv state history →
      Inv (step state event).1 (history ++ (step state event).2))
    {state : σ} {history : List ω} {events : List ε} (allowed : ∀ event ∈ events, Allowed event)
    (holds : Inv state history) :
    Inv (run step state events).1 (history ++ (run step state events).2) := by
  induction events generalizing state history with
  | nil => simpa using holds
  | cons event rest ih =>
    have first := keeps state history event (allowed event List.mem_cons_self) holds
    have others := ih (fun event later => allowed event (List.mem_cons_of_mem _ later)) first
    rw [run_cons, ← List.append_assoc]
    exact others

theorem exists_step_of_mem {step : σ → ε → σ × List ω} {state : σ} {events : List ε} {effect : ω}
    (seen : effect ∈ (run step state events).2) :
    ∃ before event after, events = before ++ event :: after ∧
      effect ∈ (step (run step state before).1 event).2 := by
  induction events generalizing state with
  | nil => cases seen
  | cons event rest ih =>
    rw [run_cons] at seen
    rcases List.mem_append.mp seen with now | later
    · exact ⟨[], event, rest, rfl, now⟩
    · obtain ⟨before, event', after, rfl, shown⟩ := ih later
      exact ⟨event :: before, event', after, rfl, shown⟩

theorem exists_step_of_getElem? {step : σ → ε → σ × List ω} {α : Type} {view : List ω → List α}
    (append : ∀ first second, view (first ++ second) = view first ++ view second) {state : σ}
    {events : List ε} {k : Nat} {a : α} (seen : (view (run step state events).2)[k]? = some a) :
    ∃ before event after, events = before ++ event :: after ∧
      (view (run step state before).2).length ≤ k ∧
      (view (step (run step state before).1 event).2)[k -
        (view (run step state before).2).length]? = some a := by
  have nothing : view [] = [] := List.self_eq_append_right.mp (append [] [])
  induction events generalizing state k with
  | nil =>
    rw [run_nil, nothing] at seen
    cases seen
  | cons event rest ih =>
    rw [run_cons, append] at seen
    by_cases now : k < (view (step state event).2).length
    · rw [List.getElem?_append_left now] at seen
      refine ⟨[], event, rest, rfl, ?_, ?_⟩ <;> rw [run_nil, nothing]
      · exact Nat.zero_le k
      · exact seen
    · have later := Nat.not_lt.mp now
      rw [List.getElem?_append_right later] at seen
      obtain ⟨before, event', after, rfl, within, shown⟩ := ih seen
      refine ⟨event :: before, event', after, rfl, ?_, ?_⟩
      · rw [run_cons, append, List.length_append]
        omega
      · rw [run_cons, append, List.length_append, ← Nat.sub_sub]
        exact shown

theorem run_map {σ' ε' ω' : Type} {step : σ → ε → σ × List ω} {step' : σ' → ε' → σ' × List ω'}
    {states : σ → σ'} {events : ε → ε'} {effects : ω → ω'}
    (respects : ∀ state event, step' (states state) (events event) =
      (states (step state event).1, (step state event).2.map effects))
    (state : σ) (list : List ε) :
    run step' (states state) (list.map events) =
      (states (run step state list).1, (run step state list).2.map effects) := by
  induction list generalizing state with
  | nil => rfl
  | cons event rest ih =>
    rw [List.map_cons, run_cons, run_cons, respects, ih, List.map_append]

end Machine

end RemoteCall
