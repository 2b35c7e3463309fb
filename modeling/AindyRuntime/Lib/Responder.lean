import Mathlib.Logic.Basic

/-! # Components that answer requests

A component that answers each request and moves to a next state.
-/

structure Responder (State Request Answer : Type) where
  respond : State → Request → Answer × State

namespace Responder

variable {State Request Answer : Type} {component : Responder State Request Answer}

def run (component : Responder State Request Answer) : State → List Request → List Answer × State
  | state, [] => ([], state)
  | state, request :: rest =>
    let answered := component.respond state request
    let later := component.run answered.2 rest
    (answered.1 :: later.1, later.2)

/-- What one answer keeps, a whole run keeps. -/
theorem run_keeps (Holds : List Request → State → Prop)
    (step : ∀ {request rest state}, Holds (request :: rest) state → Holds rest (component.respond state request).2)
    (holds : Holds requests state) : Holds [] (component.run state requests).2 := by
  induction requests generalizing state with
  | nil => exact holds
  | cons request rest ih => exact ih (step holds)

/-- The two-run rule: where related states give the same answer and stay
related, they give the same answers. -/
theorem run_alike (Alike : List Request → State → State → Prop)
    (step : ∀ {request rest state other}, Alike (request :: rest) state other →
      (component.respond state request).1 = (component.respond other request).1 ∧
        Alike rest (component.respond state request).2 (component.respond other request).2)
    (alike : Alike requests state other) :
    (component.run state requests).1 = (component.run other requests).1 := by
  induction requests generalizing state other with
  | nil => rfl
  | cons request rest ih =>
    obtain ⟨same, still⟩ := step alike
    simp [run, same, ih still]

end Responder
