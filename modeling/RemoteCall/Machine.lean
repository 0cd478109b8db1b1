/-!
# Runs of a machine

The writer, the client and the server are machines: a state, actions on it, and for each action the
effects that are seen from outside. A run is the sequence of actions; its effects are those of the
actions in order.

## Main statements

* `Machine.run_append` — a run can be cut anywhere.
* `Machine.run_invariant` — what every action keeps, every run keeps.
-/

namespace RemoteCall

namespace Machine

variable {σ ε ω : Type}

/-- Run actions one after the other. -/
def run (step : σ → ε → σ × List ω) (state : σ) : List ε → σ × List ω
  | [] => (state, [])
  | event :: rest =>
    let (next, effects) := step state event
    let (last, more) := run step next rest
    (last, effects ++ more)

@[simp] theorem run_nil (step : σ → ε → σ × List ω) (state : σ) :
    run step state [] = (state, []) := rfl

@[simp] theorem run_cons (step : σ → ε → σ × List ω) (state : σ) (event : ε) (rest : List ε) :
    run step state (event :: rest) =
      ((run step (step state event).1 rest).1,
        (step state event).2 ++ (run step (step state event).1 rest).2) := rfl

theorem run_append (step : σ → ε → σ × List ω) (state : σ) (first second : List ε) :
    run step state (first ++ second) =
      ((run step (run step state first).1 second).1,
        (run step state first).2 ++ (run step (run step state first).1 second).2) := by
  induction first generalizing state with
  | nil => simp
  | cons event rest ih => simp [ih, List.append_assoc]

/-- What every action keeps, every run keeps. -/
theorem run_invariant {step : σ → ε → σ × List ω} {Inv : σ → Prop}
    (keeps : ∀ state event, Inv state → Inv (step state event).1) {state : σ}
    (holds : Inv state) (events : List ε) : Inv (run step state events).1 := by
  induction events generalizing state with
  | nil => exact holds
  | cons event rest ih => exact ih (keeps state event holds)

end Machine

end RemoteCall
