import Mathlib.Logic.Basic

/-! # Labelled step systems

A system is a partial function from a state and an action to the next state.
-/

/-- A system that takes labelled steps; `none` is a step that is not enabled. -/
structure StepSystem (State Action : Type) where
  step : State → Action → Option State

namespace StepSystem

variable {State Action : Type} {system : StepSystem State Action}
variable {before middle after : State} {actions : List Action}

def Leads (Post : State → Prop) : Option State → Prop
  | some next => Post next
  | none => True

section Leads

theorem Leads.of_step (leads : Leads Post outcome) (stepped : outcome = some after) : Post after := by
  rw [stepped] at leads
  exact leads

theorem Leads.map {Part : Type} {part : Option Part} {make : Part → State}
    (each : ∀ value, part = some value → Post (make value)) : Leads Post (part.map make) := by
  cases part with
  | none => trivial
  | some value => exact each value rfl

end Leads

def run (system : StepSystem State Action) : State → List Action → Option State
  | state, [] => some state
  | state, action :: rest => (system.step state action).bind fun next => system.run next rest

/-- Every step of the run from `state` along `actions` meets `condition`, a
condition on the action and on the state before it. -/
def Meets (system : StepSystem State Action) (condition : State → Action → Prop) : State → List Action → Prop
  | _, [] => True
  | state, action :: rest => condition state action ∧
      ∀ next, system.step state action = some next → system.Meets condition next rest

@[simp] theorem run_nil : system.run before [] = some before := rfl

theorem run_cons :
    system.run before (action :: rest) = some after ↔
      ∃ next, system.step before action = some next ∧ system.run next rest = some after := by
  simp [run, Option.bind_eq_some_iff]

theorem run_append :
    system.run before (first ++ second) = some after ↔
      ∃ middle, system.run before first = some middle ∧ system.run middle second = some after := by
  induction first generalizing before with
  | nil => simp
  | cons action rest ih =>
    simp only [List.cons_append, run_cons, ih]
    constructor
    · intro held
      obtain ⟨next, stepped, middle, reached, finished⟩ := held
      exact ⟨middle, ⟨next, stepped, reached⟩, finished⟩
    · intro held
      obtain ⟨middle, ⟨next, stepped, reached⟩, finished⟩ := held
      exact ⟨next, stepped, middle, reached, finished⟩

variable {condition : State → Action → Prop}

theorem Meets.cons (now : condition before action) (stepped : system.step before action = some middle)
    (later : system.Meets condition middle rest) : system.Meets condition before (action :: rest) := by
  refine ⟨now, fun next steppedNext => ?_⟩
  rw [stepped] at steppedNext
  cases steppedNext
  exact later

instance decidableMeets [decidable : ∀ state action, Decidable (condition state action)] :
    ∀ before actions, Decidable (system.Meets condition before actions)
  | _, [] => isTrue trivial
  | before, action :: rest =>
    match stepped : system.step before action with
    | none => decidable_of_iff (condition before action)
        ⟨fun now => ⟨now, fun next steppedNext => by rw [stepped] at steppedNext; cases steppedNext⟩, fun met => met.1⟩
    | some next =>
      have : Decidable (system.Meets condition next rest) := decidableMeets next rest
      decidable_of_iff (condition before action ∧ system.Meets condition next rest)
        ⟨fun held => .cons held.1 stepped held.2, fun met => ⟨met.1, met.2 next stepped⟩⟩

variable {condition : State → Action → Prop}

theorem Meets.of_mem (always : ∀ action ∈ actions, ∀ state, condition state action) :
    system.Meets condition before actions := by
  induction actions generalizing before with
  | nil => trivial
  | cons action rest ih =>
    refine ⟨always action List.mem_cons_self before, fun _ _ => ih fun other member => ?_⟩
    exact always other (List.mem_cons_of_mem action member)

variable {Invariant : State → Prop}

/-- The invariant rule: what every admitted step preserves, every admitted run
preserves. -/
theorem invariant
    (preserved : ∀ {state next action}, condition state action → Invariant state →
      system.step state action = some next → Invariant next)
    (met : system.Meets condition before actions) (holds : Invariant before)
    (ran : system.run before actions = some after) : Invariant after := by
  induction actions generalizing before with
  | nil =>
    cases ran
    exact holds
  | cons action rest ih =>
    obtain ⟨next, stepped, ranRest⟩ := run_cons.mp ran
    exact ih (met.2 next stepped) (preserved met.1 holds stepped) ranRest

theorem invariant_leads
    (preserved : ∀ {state action}, condition state action → Invariant state →
      Leads Invariant (system.step state action))
    (met : system.Meets condition before actions) (holds : Invariant before)
    (ran : system.run before actions = some after) : Invariant after :=
  invariant (fun meets holds stepped => (preserved meets holds).of_step stepped) met holds ran

/-- The exact rule, for the states that an invariant of the admitted actions
describes: a property that a step keeps on exactly one condition is kept by
exactly the runs that meet it. -/
theorem invariant_iff_within {Admitted : Action → Prop} {Within : State → Prop}
    {condition : State → Action → Prop} {Invariant : State → Prop}
    (kept : ∀ {state next action}, Admitted action → Within state →
      system.step state action = some next → Within next)
    (exact : ∀ {state next action}, Within state → system.step state action = some next →
      (Invariant next ↔ Invariant state ∧ condition state action))
    (admitted : ∀ action ∈ actions, Admitted action) (within : Within before)
    (ran : system.run before actions = some after) :
    Invariant after ↔ Invariant before ∧ system.Meets condition before actions := by
  induction actions generalizing before with
  | nil =>
    cases ran
    exact (and_iff_left trivial).symm
  | cons action rest ih =>
    obtain ⟨next, stepped, ranRest⟩ := run_cons.mp ran
    have withinNext := kept (admitted action List.mem_cons_self) within stepped
    have admittedRest : ∀ other ∈ rest, Admitted other :=
      fun other member => admitted other (List.mem_cons_of_mem action member)
    rw [ih admittedRest withinNext ranRest, exact within stepped, and_assoc]
    constructor
    · rintro ⟨holds, now, later⟩
      exact ⟨holds, .cons now stepped later⟩
    · rintro ⟨holds, now, later⟩
      exact ⟨holds, now, later next stepped⟩

theorem invariant_iff
    (exact : ∀ {state next action}, system.step state action = some next →
      (Invariant next ↔ Invariant state ∧ condition state action))
    (ran : system.run before actions = some after) :
    Invariant after ↔ Invariant before ∧ system.Meets condition before actions := by
  exact @invariant_iff_within State Action system before after actions (fun _ => True) (fun _ => True)
    condition Invariant (fun _ _ _ => trivial) (fun _ => exact) (fun _ _ => trivial) trivial ran

/-- The simulation rule: where each step is matched by a step of another system,
so is each run, and the two meet conditions that agree on related states together. -/
theorem simulates {Other Label : Type} {abstract : StepSystem Other Label} (Relates : State → Other → Prop)
    (translate : Action → Label) {abstractCondition : Other → Label → Prop}
    (step : ∀ {state next other action}, Relates state other → system.step state action = some next →
      ∃ otherNext, abstract.step other (translate action) = some otherNext ∧ Relates next otherNext)
    (agree : ∀ {state other action}, Relates state other →
      (condition state action ↔ abstractCondition other (translate action)))
    {other : Other} (related : Relates before other) (ran : system.run before actions = some after) :
    ∃ otherAfter, abstract.run other (actions.map translate) = some otherAfter ∧ Relates after otherAfter ∧
      (system.Meets condition before actions ↔
        abstract.Meets abstractCondition other (actions.map translate)) := by
  induction actions generalizing before other with
  | nil =>
    cases ran
    exact ⟨other, rfl, related, Iff.rfl⟩
  | cons action rest ih =>
    obtain ⟨next, stepped, ranRest⟩ := run_cons.mp ran
    obtain ⟨otherNext, otherStepped, relatedNext⟩ := step related stepped
    obtain ⟨otherAfter, otherRan, relatedAfter, meets⟩ := ih relatedNext ranRest
    refine ⟨otherAfter, run_cons.mpr ⟨otherNext, otherStepped, otherRan⟩, relatedAfter, ?_⟩
    constructor
    · intro met
      exact .cons ((agree related).mp met.1) otherStepped (meets.mp (met.2 next stepped))
    · intro met
      exact .cons ((agree related).mpr met.1) stepped (meets.mpr (met.2 otherNext otherStepped))

theorem invariant_run
    (preserved : ∀ {state next action}, Invariant state → system.step state action = some next → Invariant next)
    (holds : Invariant before) (ran : system.run before actions = some after) : Invariant after := by
  have met : system.Meets (fun _ _ => True) before actions := .of_mem fun _ _ _ => trivial
  exact invariant (fun _ => preserved) met holds ran

/-- The measure rule: where every step leads to a smaller state, no sequence of
actions keeps the system going. -/
theorem stops_of_decreases {Below : State → State → Prop} (wellFounded : WellFounded Below)
    (decreases : ∀ {state next action}, system.step state action = some next → Below next state)
    (state : State) (answers : Nat → Action) :
    ∃ count, system.run state ((List.range count).map answers) = none := by
  induction state using wellFounded.induction generalizing answers with
  | _ state ih =>
    cases stepped : system.step state (answers 0) with
    | none => exact ⟨1, by simp [run, stepped]⟩
    | some next =>
      obtain ⟨count, stopped⟩ := ih next (decreases stepped) fun turn => answers (turn + 1)
      refine ⟨count + 1, ?_⟩
      rw [List.range_succ_eq_map, List.map_cons, List.map_map, run, stepped]
      exact stopped

end StepSystem
