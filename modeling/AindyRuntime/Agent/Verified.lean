import AindyRuntime.Agent.AgentFlow
import AindyRuntime.Agent.Continued
import AindyRuntime.Agent.Verifier

namespace AindyRuntime.Agent

open Program AgentFlowLife FlowWorld List Option StepSystem

/-- The results the flow backend can complete with, from a position of the plan
on: each step has succeeded, or the operator has skipped it. -/
inductive Passed : Nat → List Json → List StepResult → Prop where
  | nil {index : Nat} : Passed index [] []
  | succeeded {index maxAttempts : Nat} {entries : List (String × Json)} {steps : List Json}
      {results : List StepResult} (tool : String) (result error : Json)
      (risk : resolveMaxAttempts (stepRisk (.obj entries)) = .ok maxAttempts)
      (rest : Passed (index + 1) steps results) :
      Passed index (.obj entries :: steps) (⟨index, tool, .success, result, error, false⟩ :: results)
  | skipped {index : Nat} {entries : List (String × Json)} {steps : List Json}
      {results : List StepResult} (tool : String) (rest : Passed (index + 1) steps results) :
      Passed index (.obj entries :: steps) (⟨index, tool, .skipped, .null, .null, false⟩ :: results)

variable {index : Nat} {plan : Json} {steps items : List Json} {results : List StepResult}

theorem Passed.append (passed : Passed index steps results)
    (then_ : Passed (index + steps.length) more later) : Passed index (steps ++ more) (results ++ later) := by
  induction passed with
  | nil => exact then_
  | succeeded tool result error risk rest ih =>
    refine .succeeded tool result error risk (ih ?_)
    rwa [length_cons, Nat.add_comm _ 1, ← Nat.add_assoc] at then_
  | skipped tool rest ih =>
    refine .skipped tool (ih ?_)
    rwa [length_cons, Nat.add_comm _ 1, ← Nat.add_assoc] at then_

section FlowBackend

variable {world after : FlowWorld} {calls : StepCalls} {run : AgentRun}

def Kept (before after : Option AgentRun) : Prop :=
  ∀ run, after = some run → run.status = .completed →
    ∃ earlier, before = some earlier ∧ earlier.status = .completed ∧ earlier.plan = run.plan ∧
      earlier.recorded = run.recorded

theorem Kept.refl : Kept row row := fun run found completed =>
  ⟨run, found, completed, rfl, rfl⟩

variable {entries : List (String × Json)}

theorem Kept.trans {after : Option AgentRun} (first : Kept before middle)
    (second : Kept middle after) : Kept before after := by
  intro run row completed
  obtain ⟨between, found, status, plan, same⟩ := second run row completed
  obtain ⟨earlier, start, done, known, equal⟩ := first between found status
  exact ⟨earlier, start, done, known.trans plan, equal.trans same⟩

theorem Kept.map
    (either : ∀ run : AgentRun, (change run).status ≠ .completed ∨
      (change run).status = run.status ∧ (change run).plan = run.plan ∧ (change run).result = run.result) :
    Kept before (before.map change) := by
  intro run row completed
  obtain ⟨earlier, found, rfl⟩ := map_eq_some_iff.mp row
  rcases either earlier with other | ⟨status, plan, result⟩
  · exact absurd completed other
  · exact ⟨earlier, found, status.symm.trans completed, plan.symm, by simp [AgentRun.recorded, result]⟩

theorem Kept.reopen : Kept world.run (world.writeRun AgentRun.reopen).run := by
  refine .map fun run => ?_
  simp only [AgentRun.reopen]
  split <;> simp

theorem Kept.markFailed : Kept world.run (world.writeRun (AgentRun.markFailed error results)).run := by
  refine .map fun run => ?_
  simp only [AgentRun.markFailed]
  split <;> simp

theorem Kept.addStep : Kept world.run (world.addStep index row).run :=
  Kept.map fun _ => .inr ⟨rfl, rfl, rfl⟩

theorem Kept.cancel : Kept before (before.map AgentRun.cancel) := by
  refine .map fun run => ?_
  simp only [AgentRun.cancel, AgentRun.cancelFor]
  split <;> simp

variable {flowRunId : String}

theorem Kept.mirror : Kept world.run (world.mirror flowRunId ended).run := by
  refine .map fun run => ?_
  cases ended with
  | success => exact .inr ⟨rfl, rfl, rfl⟩
  | waiting =>
    simp only [AgentRun.parkFlow]
    split <;> simp
  | failed =>
    simp only [AgentRun.failFlow]
    split <;> simp

structure SameWork (state after : FlowState) : Prop where
  steps : after.steps = state.steps
  index : after.currentStepIndex = state.currentStepIndex
  results : after.stepResults = state.stepResults

def Answered (world : FlowWorld) : NodeReturn → Prop
  | .success next results =>
    next = world.state.currentStepIndex + 1 ∧
      ∃ entries entry, stepAt world.state.steps world.state.currentStepIndex = .ok (.obj entries) ∧
        results = world.state.stepResults ++ [entry] ∧
        Passed world.state.currentStepIndex [.obj entries] [entry]
  | .finalized => False
  | .failure _ | .wait _ => True

structure Leaves (world after : FlowWorld) : Prop where
  work : SameWork world.state after.state
  kept : Kept world.run after.run

section

variable (step : stepAt world.state.steps world.state.currentStepIndex = .ok (.obj entries))
include step

abbrev Steps (world : FlowWorld) (node : FlowM NodeReturn) : Prop :=
  node.Yields world (fun answer after => Answered world answer ∧ Leaves world after) fun _ after => Leaves world after

theorem performStep_yields :
    Steps world (performStep calls world.state.currentStepIndex tool (stepRisk (.obj entries))) := by
  simp only [performStep, yields_bind, yields_call, yields_read, yields_ite, yields_pure]
  have added {row : StepRow} : Leaves world (world.addStep world.state.currentStepIndex row) :=
    ⟨⟨rfl, rfl, rfl⟩, .addStep⟩
  refine ⟨fun maxAttempts risk => ⟨fun _ _ => ⟨fun passed => ⟨⟨rfl, entries, _, step, rfl, ?_⟩, added⟩, fun _ => ?_⟩,
    fun _ _ => added⟩, fun _ _ => ⟨⟨rfl, rfl, rfl⟩, .refl⟩⟩
  · simp only [ToolResult.status, if_pos passed]
    exact .succeeded tool _ _ risk .nil
  · exact ⟨trivial, ⟨rfl, rfl, rfl⟩, added.kept.trans .markFailed⟩

theorem decideAtGate_yields :
    Steps world (decideAtGate calls world.state.currentStepIndex tool pending payload) := by
  have cleared : Leaves world { world with state := { world.state with event := none } } :=
    ⟨⟨rfl, rfl, rfl⟩, .refl⟩
  have reopened : Kept world.run (({ world with state := { world.state with event := none } } :
      FlowWorld).writeRun AgentRun.reopen).run := cleared.kept.trans .reopen
  simp only [decideAtGate, yields_bind, yields_modify]
  split
  · exact ⟨trivial, cleared⟩
  · simp only [yields_bind, yields_modify, yields_call, yields_read, yields_pure]
    exact ⟨fun _ _ => ⟨⟨rfl, entries, _, step, rfl, .skipped tool .nil⟩, ⟨rfl, rfl, rfl⟩,
      reopened.trans .addStep⟩, fun _ _ => ⟨⟨rfl, rfl, rfl⟩, reopened⟩⟩
  · simp only [yields_bind, yields_modify, yields_call, yields_read, yields_pure]
    exact ⟨fun _ _ => ⟨trivial, ⟨rfl, rfl, rfl⟩, (reopened.trans .addStep).trans .markFailed⟩,
      fun _ _ => ⟨⟨rfl, rfl, rfl⟩, reopened⟩⟩

end

theorem denyStep_yields : Steps world (denyStep calls index tool error) := by
  have added {row : StepRow} : Kept world.run (world.addStep index row).run := .addStep
  simp only [denyStep, yields_bind, yields_call, yields_read, yields_pure]
  exact ⟨fun _ _ => ⟨trivial, ⟨rfl, rfl, rfl⟩, added.trans .markFailed⟩, fun _ _ => ⟨⟨rfl, rfl, rfl⟩, added⟩⟩

theorem authorityGate_yields
    (step : stepAt world.state.steps world.state.currentStepIndex = .ok (.obj entries)) :
    (authorityGate calls world.state.currentStepIndex tool error).Yields world
      (fun answer after => (∀ given, answer = some given → Answered world given ∧ Leaves world after) ∧
        (answer = none → after = world)) (fun _ after => Leaves world after) := by
  simp only [authorityGate, yields_bind, yields_read]
  split
  · simp only [yields_bind]
    refine (decideAtGate_yields step).mono ?_ fun _ _ left => left
    intro answer after held
    refine ⟨?_, by simp⟩
    rintro given ⟨⟩
    exact held
  · simp only [yields_ite, yields_bind, yields_call]
    refine ⟨fun _ => ⟨by simp, by simp⟩, fun _ => ⟨fun _ _ => ⟨?_, by simp⟩, fun _ _ => ⟨⟨rfl, rfl, rfl⟩, .refl⟩⟩⟩
    rintro given ⟨⟩
    exact ⟨trivial, ⟨rfl, rfl, rfl⟩, .refl⟩

theorem authorizedStep_yields
    (step : stepAt world.state.steps world.state.currentStepIndex = .ok (.obj entries)) :
    Steps world (authorizedStep calls world.state.currentStepIndex tool (.obj entries)) := by
  simp only [authorizedStep]
  split
  · exact performStep_yields step
  · simp only [yields_bind]
    refine (authorityGate_yields step).mono ?_ fun _ _ left => left
    intro answer after held
    split
    · exact held.1 _ rfl
    · rw [held.2 rfl]
      exact denyStep_yields

theorem agentExecuteStep_yields {count : Nat} (counted : countSteps world.state.steps = .ok count)
    (within : world.state.currentStepIndex < count) : Steps world (agentExecuteStep calls) := by
  have same : Leaves world world := ⟨⟨rfl, rfl, rfl⟩, .refl⟩
  simp only [agentExecuteStep, yields_bind, yields_call, yields_ite, yields_pure]
  refine ⟨fun number known => ⟨fun beyond => ?_, fun _ => ⟨fun step found => ?_, fun _ _ => same⟩⟩,
    fun _ _ => same⟩
  · cases counted.symm.trans known
    omega
  · obtain ⟨entries, rfl⟩ : ∃ entries, step = .obj entries := by
      simp only [stepAt] at found
      split at found
      · split at found <;> cases found
        exact ⟨_, rfl⟩
      · cases found
      · cases found
    have goes {tool : String} := @authorizedStep_yields world calls entries tool found
    exact ⟨fun _ => ⟨fun _ _ => goes, fun _ _ => same⟩, fun _ => goes⟩

def Placed (state : FlowState) : AgentNode → Prop
  | .validateSteps => True
  | .executeStep => (∃ count, countSteps state.steps = .ok count ∧ state.currentStepIndex < count) ∧
      ∀ items, state.steps = .arr items → Passed 0 (items.take state.currentStepIndex) state.stepResults
  | .finalizeRun => ∃ items, state.steps = .arr items ∧ items ≠ [] ∧ Passed 0 items state.stepResults

theorem Placed.of_same {state after : FlowState} (placed : Placed state node)
    (same : SameWork state after) : Placed after node := by
  cases node with
  | validateSteps => trivial
  | executeStep => simpa [Placed, same.steps, same.index, same.results] using placed
  | finalizeRun => simpa [Placed, same.steps, same.results] using placed

theorem Placed.at_node {state : FlowState} (placed : Placed state node) (other : AgentNode)
    (reached : FlowControl.at node = .at other ∨ FlowControl.at node = .parked other) : Placed state other := by
  rcases reached with same | same <;> cases same
  exact placed

theorem Placed.parked {state : FlowState} (placed : Placed state node) (other : AgentNode)
    (reached : FlowControl.parked node = .at other ∨ FlowControl.parked node = .parked other) : Placed state other := by
  rcases reached with same | same <;> cases same
  exact placed

theorem countSteps_pos {count : Nat} (present : value.truthy = true)
    (counted : countSteps value = .ok count) : 0 < count := by
  cases value with
  | arr items | obj entries =>
    cases counted
    exact length_pos_iff.mpr (by simpa [Json.truthy] using present)
  | str =>
    cases counted
    exact Nat.pos_of_ne_zero (by simpa [Json.truthy] using present)
  | _ => cases counted

/-- A step that has passed leads to the next one, or to the finaliser. -/
theorem Placed.advance {state : FlowState} (placed : Placed state .executeStep)
    (found : stepAt state.steps state.currentStepIndex = .ok (.obj entries))
    (passed : Passed state.currentStepIndex [.obj entries] [entry]) : let advanced := { state with
      currentStepIndex := state.currentStepIndex + 1, stepResults := state.stepResults ++ [entry] }
    Placed advanced (successor .executeStep advanced) := by
  obtain ⟨items, listed, bound⟩ : ∃ items, state.steps = .arr items ∧
      items[state.currentStepIndex]? = some (.obj entries) := by
    simp only [stepAt] at found
    split at found
    case h_1 items listed =>
      split at found <;> cases found
      exact ⟨items, listed, by assumption⟩
    · cases found
    · cases found
  have inside := (List.getElem?_eq_some_iff.mp bound).1
  have taken : Passed 0 (items.take (state.currentStepIndex + 1)) (state.stepResults ++ [entry]) := by
    rw [take_add_one, bound]
    refine (placed.2 items listed).append ?_
    rwa [length_take_of_le (Nat.le_of_lt inside), Nat.zero_add]
  simp only [successor, moreSteps, listed, countSteps, decide_eq_true_eq]
  split
  · refine ⟨⟨items.length, rfl, by assumption⟩, ?_⟩
    rintro other ⟨⟩
    exact taken
  · refine ⟨items, rfl, ne_nil_of_length_pos (by omega), ?_⟩
    rwa [take_of_length_le (by omega)] at taken

structure Progress (declared : Json) (life : AgentFlowLife) : Prop where
  steps : life.world.state.steps = declared
  placed : ∀ node, life.control = .at node ∨ life.control = .parked node → Placed life.world.state node
  completed : ∀ run, life.world.run = some run → run.status = .completed →
    ∃ items, declared = .arr items ∧ items ≠ [] ∧ Passed 0 items run.recorded

variable {life next : AgentFlowLife} {declared : Json}

section

variable (progress : Progress declared life)
include progress

theorem Progress.kept (kept : Kept life.world.run after.run) :
    ∀ run, after.run = some run → run.status = .completed →
      ∃ items, declared = .arr items ∧ items ≠ [] ∧ Passed 0 items run.recorded := by
  intro run row completed
  obtain ⟨before, found, status, _, same⟩ := kept run row completed
  rw [← same]
  exact progress.completed before found status

/-- The flow leaves its runner where it stood, or for good. -/
theorem Progress.leave {control : FlowControl} {ended : FlowEnd}
    (stays : ∀ node, control = .at node ∨ control = .parked node → Placed life.world.state node) :
    Progress declared (life.leave control ended) := by
  simp only [AgentFlowLife.leave]
  split
  · exact ⟨progress.steps, stays, progress.kept .mirror⟩
  · exact ⟨progress.steps, stays, progress.completed⟩

theorem Progress.ended {ended : FlowEnd} (left : Leaves life.world after) :
    Progress declared (AgentFlowLife.leave { life with world := after } .ended ended) := by
  have settled : Progress declared { life with world := after, control := .ended } :=
    ⟨left.work.steps.trans progress.steps, by simp, progress.kept left.kept⟩
  exact @Progress.leave _ declared settled .ended ended (by simp)

variable {calls : NodeCalls}

theorem Progress.turn_execute
    (control : life.control = .at .executeStep) : Progress declared (life.turn .executeStep calls) := by
  have placed := progress.placed .executeStep (.inl control)
  obtain ⟨count, counted, within⟩ := placed.1
  have yields := @agentExecuteStep_yields life.world calls.step count counted within
  simp only [turn, agentNode]
  generalize ran : (agentExecuteStep calls.step).run life.world = result
  obtain ⟨outcome, after⟩ := result
  cases outcome with
  | error => exact progress.ended (yields.raises ran)
  | ok answer =>
    obtain ⟨answered, left⟩ := yields.returned ran
    cases answer with
    | success reached =>
      obtain ⟨rfl, _, _, found, rfl, passed⟩ := answered
      have moved := placed.advance found passed
      have steps := left.work.steps
      refine ⟨steps.trans progress.steps, Placed.at_node ?_, progress.kept left.kept⟩
      simp only [successor, moreSteps, steps] at moved ⊢
      exact moved.of_same ⟨rfl, rfl, rfl⟩
    | finalized => exact absurd answered not_false
    | failure => exact progress.ended left
    | wait gate =>
      have parked : Progress declared { life with
          world := { after with state := { after.state with gate := some gate } }
          control := .parked .executeStep } := by
        refine ⟨left.work.steps.trans progress.steps, Placed.parked ?_, progress.kept left.kept⟩
        exact placed.of_same ⟨left.work.steps, left.work.index, left.work.results⟩
      exact parked.leave parked.placed

omit progress in
theorem agentValidateSteps_yields :
    agentValidateSteps.Yields world
      (fun answer after => after = world ∧ ((∃ error, answer = .failure error) ∨
        answer = .success 0 [] ∧ world.state.steps.truthy = true ∧
          ∃ count, countSteps world.state.steps = .ok count))
      (fun _ after => after = world) := by
  simp only [agentValidateSteps, yields_bind, yields_read, yields_ite, yields_pure, yields_call]
  refine ⟨fun _ => ⟨trivial, .inl ⟨_, rfl⟩⟩, fun present => ⟨fun count counted => ?_, fun _ _ => trivial⟩⟩
  exact ⟨trivial, .inr ⟨trivial, by simpa using present, count, counted⟩⟩

theorem Progress.turn_validate : Progress declared (life.turn .validateSteps calls) := by
  have yields := @agentValidateSteps_yields life.world
  have same : Leaves life.world life.world := ⟨⟨rfl, rfl, rfl⟩, .refl⟩
  simp only [turn, agentNode]
  generalize ran : agentValidateSteps.run life.world = result
  obtain ⟨outcome, _⟩ := result
  cases outcome with
  | error =>
    cases yields.raises ran
    exact progress.ended same
  | ok =>
    obtain ⟨rfl, ⟨_, rfl⟩ | ⟨rfl, present, count, counted⟩⟩ := yields.returned ran
    · exact progress.ended same
    · refine ⟨progress.steps, Placed.at_node ?_, progress.completed⟩
      exact ⟨⟨count, counted, countSteps_pos present counted⟩, fun items _ => .nil⟩

omit progress in
theorem agentFinalizeRun_yields {calls : FinalizeCalls} :
    (agentFinalizeRun calls).Yields world
      (fun answer after => answer = .finalized ∧
        after = world.writeRun (AgentRun.finalize world.state.stepResults))
      (fun _ after => after = world ∨ after = world.writeRun (AgentRun.finalize world.state.stepResults)) := by
  simp [agentFinalizeRun]

theorem Progress.turn_finalize
    (control : life.control = .at .finalizeRun) : Progress declared (life.turn .finalizeRun calls) := by
  obtain ⟨items, listed, present, passed⟩ := progress.placed .finalizeRun (.inl control)
  have finalized {ended : FlowEnd} : Progress declared (AgentFlowLife.leave
      { life with world := life.world.writeRun (AgentRun.finalize life.world.state.stepResults) }
      .ended ended) := by
    have settled : Progress declared { life with
        world := life.world.writeRun (AgentRun.finalize life.world.state.stepResults), control := .ended } := by
      refine ⟨progress.steps, by simp, fun run row _ => ?_⟩
      obtain ⟨_, _, rfl⟩ := map_eq_some_iff.mp row
      exact ⟨items, progress.steps.symm.trans listed, present, passed⟩
    exact @Progress.leave _ declared settled .ended ended (by simp)
  have yields := @agentFinalizeRun_yields life.world calls.finalize
  simp only [turn, agentNode]
  generalize ran : (agentFinalizeRun calls.finalize).run life.world = result
  obtain ⟨outcome, _⟩ := result
  cases outcome with
  | error =>
    rcases yields.raises ran with rfl | rfl
    · exact progress.ended ⟨⟨rfl, rfl, rfl⟩, .refl⟩
    · exact finalized
  | ok =>
    obtain ⟨rfl, rfl⟩ := yields.returned ran
    exact finalized

theorem step_progress (stepped : agentFlowLife.step life event = some next) : Progress declared next := by
  cases event <;> simp only [agentFlowLife] at stepped
  case turn =>
    split at stepped <;> cases stepped
    case h_1 node control =>
      cases node with
      | validateSteps => exact progress.turn_validate
      | executeStep => exact progress.turn_execute control
      | finalizeRun => exact progress.turn_finalize control
  case defer =>
    split at stepped <;> cases stepped
    case h_1 node control =>
      exact progress.leave (Placed.parked (progress.placed node (.inl control)))
  case stop =>
    split at stepped <;> cases stepped
    exact progress.leave (by simp)
  case resume =>
    split at stepped <;> cases stepped
    case h_1 node control =>
      refine ⟨progress.steps, Placed.at_node ?_, progress.completed⟩
      exact (progress.placed node (.inr control)).of_same ⟨rfl, rfl, rfl⟩
  case cancel =>
    cases stepped
    exact ⟨progress.steps, progress.placed, progress.kept .cancel⟩

end

theorem Progress.started : Progress (flowSteps plan) (.started flowRunId capability plan) := by
  simp only [AgentFlowLife.started]
  have row : ∀ run, (FlowWorld.started plan).run = some run → run.status = .completed →
      ∃ items, flowSteps plan = .arr items ∧ items ≠ [] ∧ Passed 0 items run.recorded := by
    intro run found completed
    cases found
    cases completed
  cases capability with
  | error =>
    refine ⟨rfl, by simp, fun run found completed => ?_⟩
    cases found
    cases completed
  | ok =>
    dsimp only
    split
    · split
      · exact ⟨rfl, Placed.at_node trivial, row⟩
      · exact ⟨rfl, by simp, row⟩
    · exact ⟨rfl, by simp, row⟩

def FinalizeCalls.quiet : FinalizeCalls := ⟨.ok (), .ok ()⟩

def StepCalls.returning (tool : String) (result error : Json) : StepCalls where
  fallback := some tool
  authority := .ok ()
  gateDeclared := false
  negotiationOutcome := ""
  variant := .null
  unresolved := none
  tool _ := ⟨true, result, error, false⟩
  negotiated := .ok ()
  announced := .ok ()
  emitted := .ok ()

def StepCalls.refused (tool : String) : StepCalls :=
  { StepCalls.returning tool .null .null with authority := .error .null, gateDeclared := true }

def turnOf (calls : StepCalls) : FlowEvent := .turn ⟨calls, .quiet⟩

def skipDecision : Json := .obj [("decision", .str "skip")]

def eventsFor : List StepResult → List FlowEvent
  | [] => []
  | entry :: rest =>
    if entry.status = .skipped then
      turnOf (.refused entry.tool) :: .resume (some skipDecision) :: turnOf (.refused entry.tool)
        :: eventsFor rest
    else turnOf (.returning entry.tool entry.result entry.error) :: eventsFor rest

structure AtStep (items : List Json) (position : Nat) (results : List StepResult) (life : AgentFlowLife) :
    Prop where
  steps : life.world.state.steps = .arr items
  index : life.world.state.currentStepIndex = position
  results : life.world.state.stepResults = results
  control : life.control = .at (if position < items.length then .executeStep else .finalizeRun)
  event : life.world.state.event = none
  row : ∃ run, life.world.run = some run

theorem successor_executeStep {state : FlowState} (steps : state.steps = .arr items) :
    successor .executeStep state
      = if state.currentStepIndex < items.length then .executeStep else .finalizeRun := by
  simp [successor, moreSteps, steps, countSteps]

theorem agentExecuteStep_authorized (steps : world.state.steps = .arr items)
    (found : items[world.state.currentStepIndex]? = some (.obj entries))
    (granted : calls.fallback.isSome = true → calls.negotiated = .ok ()) :
    (agentExecuteStep calls).run world = (authorizedStep calls world.state.currentStepIndex
      (calls.fallback.getD (stepTool (.obj entries))) (.obj entries)).run world := by
  have inside := (List.getElem?_eq_some_iff.mp found).1
  have counted : countSteps world.state.steps = .ok items.length := by rw [steps, countSteps]
  have step : stepAt world.state.steps world.state.currentStepIndex = .ok (.obj entries) := by
    simp [steps, stepAt, found]
  simp only [agentExecuteStep, run_bind, run_read, run_call, counted, if_neg (Nat.not_le.mpr inside), step]
  split
  case isTrue taken => rw [run_bind, run_call, granted taken]
  · rfl

theorem attemptTool_const {returned : ToolResult} {retries number : Nat} :
    attemptTool (fun _ => returned) retries number = returned := by
  induction retries generalizing number with
  | zero => rfl
  | succ retries ih => simp only [attemptTool, ih, ite_self]

theorem authorizedStep_returning {step : Json}
    (known : resolveMaxAttempts (stepRisk step) = .ok maxAttempts) :
    (authorizedStep (.returning tool result error) index tool step).Yields world
      (fun given left =>
        given = .success (index + 1) (world.state.stepResults ++ [⟨index, tool, .success, result, error, false⟩]) ∧
        left = world.addStep index ⟨tool, .success, result, error⟩) (fun _ _ => False) := by
  simp [authorizedStep, performStep, StepCalls.returning, known, attemptTool_const, ToolResult.status]
  rfl

theorem addStep_row (known : ∃ run, world.run = some run) :
    ∃ run, (world.addStep index row).run = some run := by
  obtain ⟨run, found⟩ := known
  exact ⟨run.stepTaken index row.status, by simp [addStep, writeRun, found]⟩

theorem AtStep.returns
    (reached : AtStep items index results life) (found : items[index]? = some (.obj entries))
    (risk : resolveMaxAttempts (stepRisk (.obj entries)) = .ok maxAttempts) :
    ∃ next, agentFlowLife.step life (turnOf (.returning tool result error)) = some next ∧
      AtStep items (index + 1) (results ++ [⟨index, tool, .success, result, error, false⟩]) next := by
  obtain ⟨steps, rfl, rfl, control, quiet, row⟩ := reached
  rw [if_pos (List.getElem?_eq_some_iff.mp found).1] at control
  have ran : (agentExecuteStep (.returning tool result error)).run life.world = _ :=
    .trans (agentExecuteStep_authorized steps found fun _ => rfl) (authorizedStep_returning risk).run_eq
  simp only [agentFlowLife, control, turnOf, turn, agentNode, ran]
  exact ⟨_, rfl, steps, rfl, rfl, congrArg FlowControl.at (successor_executeStep steps), quiet, addStep_row row⟩

theorem authorizedStep_refused {step : Json} (quiet : world.state.event = none) :
    (authorizedStep (.refused tool) index tool step).Yields world
      (fun given left => given = .wait (flowGate index tool .null (.refused tool)) ∧ left = world)
      (fun _ _ => False) := by
  simp [authorizedStep, authorityGate, StepCalls.refused, StepCalls.returning, quiet]

theorem authorizedStep_skipped {step : Json} (decided : world.state.event = some skipDecision)
    (gated : world.state.gate = some (flowGate index tool .null (.refused tool))) :
    (authorizedStep (.refused tool) index tool step).Yields world
      (fun given left =>
        given = .success (index + 1) (world.state.stepResults ++ [⟨index, tool, .skipped, .null, .null, false⟩]) ∧
        left = ({ world with
            run := world.run.map AgentRun.reopen
            state := { world.state with event := none, gate := none } } : FlowWorld).addStep index
          (gateRow tool .skipped "skip" none .null)) (fun _ _ => False) := by
  have read : readGateDecision skipDecision = (.skip, none) := rfl
  have pending : pendingAt world.state index = some (flowGate index tool .null (.refused tool)) := by
    have here : (flowGate index tool .null (.refused tool)).get "step_index" = .int index := rfl
    have same : (Json.int index).pyEq (.int index) = true := by simp [Json.pyEq, Json.number?]
    rw [pendingAt, gated, filter_some, here, same]
    rfl
  simp [authorizedStep, authorityGate, StepCalls.refused, StepCalls.returning, decided, pending, decideAtGate, read]
  exact ⟨rfl, rfl⟩

theorem leave_row {control : FlowControl} (known : ∃ run, life.world.run = some run) :
    ∃ run, (life.leave control ended).world.run = some run := by
  simp only [AgentFlowLife.leave]
  split
  · simpa [mirror, writeRun] using known
  · exact known

theorem leave_state {control : FlowControl} : (life.leave control ended).world.state = life.world.state := by
  simp only [AgentFlowLife.leave]
  split <;> rfl

structure AtFlowGate (items : List Json) (position : Nat) (tool : String) (results : List StepResult)
    (life : AgentFlowLife) : Prop where
  steps : life.world.state.steps = .arr items
  index : life.world.state.currentStepIndex = position
  results : life.world.state.stepResults = results
  control : life.control = .parked .executeStep
  gate : life.world.state.gate = some (flowGate position tool .null (.refused tool))
  row : ∃ run, life.world.run = some run

theorem AtStep.parks (reached : AtStep items index results life) (found : items[index]? = some (.obj entries)) :
    ∃ next, agentFlowLife.step life (turnOf (.refused tool)) = some next ∧
      AtFlowGate items index tool results next := by
  obtain ⟨steps, rfl, rfl, control, quiet, row⟩ := reached
  rw [if_pos (List.getElem?_eq_some_iff.mp found).1] at control
  have ran : (agentExecuteStep (.refused tool)).run life.world = _ :=
    .trans (agentExecuteStep_authorized steps found fun _ => rfl) (authorizedStep_refused quiet).run_eq
  simp only [agentFlowLife, control, turnOf, turn, agentNode, ran]
  refine ⟨_, rfl, ?_, ?_, ?_, rfl, ?_, leave_row row⟩
  · exact (congrArg FlowState.steps leave_state).trans steps
  · exact (congrArg FlowState.currentStepIndex leave_state).trans rfl
  · exact (congrArg FlowState.stepResults leave_state).trans rfl
  · exact congrArg FlowState.gate leave_state

theorem AtFlowGate.skips
    (parked : AtFlowGate items index tool results life) (found : items[index]? = some (.obj entries)) :
    ∃ next, agentFlowLife.run life [.resume (some skipDecision), turnOf (.refused tool)] = some next ∧
      AtStep items (index + 1) (results ++ [⟨index, tool, .skipped, .null, .null, false⟩]) next := by
  obtain ⟨steps, rfl, rfl, control, gate, run, row⟩ := parked
  have ran : (agentExecuteStep (.refused tool)).run
      { life.world with state := { life.world.state with event := some skipDecision } } = _ :=
    .trans (agentExecuteStep_authorized steps found fun _ => rfl) (Yields.run_eq (authorizedStep_skipped rfl gate))
  simp only [StepSystem.run, agentFlowLife, control, turnOf, some_or, bind_some,
    turn, agentNode, ran]
  refine ⟨_, rfl, steps, rfl, rfl, congrArg FlowControl.at (successor_executeStep steps), rfl, addStep_row ?_⟩
  exact ⟨run.reopen, by simp [row]⟩

theorem drop_cons {step : Json} (remaining : items.drop index = step :: rest) :
    items[index]? = some step ∧ items.drop (index + 1) = rest := by
  constructor
  · rw [← head?_drop, remaining, head?_cons]
  · rw [← tail_drop, remaining, tail_cons]

/-- The flow goes through the remaining steps with the results that pass. -/
theorem AtStep.passes (passed : Passed index rest later)
    (reached : AtStep items index results life) (remaining : items.drop index = rest) :
    ∃ next position, agentFlowLife.run life (eventsFor later) = some next ∧ items.length ≤ position ∧
      AtStep items position (results ++ later) next := by
  induction passed generalizing results life with
  | nil =>
    rw [append_nil]
    exact ⟨life, _, rfl, drop_eq_nil_iff.mp remaining, reached⟩
  | succeeded tool result error risk rest ih =>
    obtain ⟨found, following⟩ := drop_cons remaining
    obtain ⟨next, stepped, moved⟩ := reached.returns found risk
    obtain ⟨last, position, ran, behind, arrived⟩ := ih moved following
    rw [append_assoc] at arrived
    exact ⟨last, position, run_cons.mpr ⟨next, stepped, ran⟩, behind, arrived⟩
  | skipped tool rest ih =>
    obtain ⟨found, following⟩ := drop_cons remaining
    obtain ⟨parked, waits, gated⟩ := reached.parks found
    obtain ⟨next, skipped, moved⟩ := gated.skips found
    obtain ⟨last, position, ran, behind, arrived⟩ := ih moved following
    rw [append_assoc] at arrived
    have through : agentFlowLife.run parked
        ([.resume (some skipDecision), turnOf (.refused tool)] ++ eventsFor _) = some last :=
      run_append.mpr ⟨next, skipped, ran⟩
    exact ⟨last, position, run_cons.mpr ⟨parked, waits, through⟩, behind, arrived⟩

theorem AtStep.finalizes (behind : items.length ≤ position) (reached : AtStep items position results life) :
    ∃ next run, agentFlowLife.step life (turnOf (.refused "")) = some next ∧ next.world.run = some run ∧
      run.status = .completed ∧ run.recorded = results := by
  obtain ⟨_, rfl, rfl, control, _, _, row⟩ := reached
  rw [if_neg (Nat.not_lt.mpr behind)] at control
  have ran : (agentFinalizeRun .quiet).run life.world = (.ok .finalized,
      life.world.writeRun (AgentRun.finalize life.world.state.stepResults)) := rfl
  simp only [agentFlowLife, control, turnOf, turn, agentNode, ran]
  cases attended : life.attended
  all_goals simp [AgentFlowLife.leave, mirror, writeRun, row, AgentRun.finalize,
    AgentRun.recorded]

theorem flowSteps_eq (listed : (Json.obj entries).get "steps" = .arr items) :
    flowSteps (.obj entries) = .arr items := by
  have key : (Json.obj entries).hasKey "steps" = true := by
    simp only [Json.get] at listed
    simp only [Json.hasKey]
    cases found : Dict.Entries.find? "steps" entries with
    | none => simp [found] at listed
    | some => rfl
  rw [flowSteps, if_pos key, listed]

theorem AgentFlowLife.validates (listed : plan.get "steps" = .arr items) (present : items ≠ []) :
    ∃ life, agentFlowLife.step (.started flowRunId (.ok ()) plan) (turnOf (.refused "")) = some life ∧
      AtStep items 0 [] life := by
  cases plan with
  | obj entries =>
    have steps := flowSteps_eq listed
    obtain ⟨other, dict⟩ : ∃ other, (Json.obj entries).orElse (.obj []) = .obj other := by
      simp only [Json.orElse]
      split <;> exact ⟨_, rfl⟩
    have counted : countSteps (flowSteps (.obj entries)) = .ok items.length := by rw [steps, countSteps]
    have ran : agentValidateSteps.run (.started (.obj entries))
        = (.ok (.success 0 []), .started (.obj entries)) := by
      simp [agentValidateSteps, FlowWorld.started, steps, countSteps, Json.truthy, present]
    simp only [AgentFlowLife.started, dict, FlowWorld.started, counted]
    simp only [agentFlowLife, turn, agentNode]
    rw [FlowWorld.started] at ran
    simp only [ran]
    refine ⟨_, rfl, steps, rfl, rfl, ?_, rfl, ⟨_, rfl⟩⟩
    rw [if_pos (length_pos_iff.mpr present), successor]
  | _ => cases listed

/-- The flow backend completes with every list of results that passes. -/
theorem agentFlow_completes (listed : plan.get "steps" = .arr items) (present : items ≠ [])
    (passed : Passed 0 items results) :
    ∃ events life run, agentFlowLife.run (.started flowRunId (.ok ()) plan) events = some life ∧
      life.world.run = some run ∧ run.status = .completed ∧ run.recorded = results := by
  obtain ⟨first, validated, reached⟩ := @validates plan items flowRunId listed present
  obtain ⟨last, _, ran, behind, arrived⟩ := AtStep.passes passed reached drop_zero
  obtain ⟨life, run, finalized, row, completed, recorded⟩ := arrived.finalizes behind
  have went : agentFlowLife.run first (eventsFor results ++ [turnOf (.refused "")]) = some life :=
    run_append.mpr ⟨last, ran, run_cons.mpr ⟨life, finalized, rfl⟩⟩
  exact ⟨_, life, run, run_cons.mpr ⟨first, validated, went⟩, row, completed, recorded⟩

end FlowBackend

section SegmentChain

variable {life next : Life}

def PassedVerifier (chain : Chain) (row : Option AgentRun) : Prop :=
  ∀ run, row = some run → run.status = .completed → (chain.verifier run.plan run.recorded).ok = true

theorem PassedVerifier.kept {after : Option AgentRun} (held : PassedVerifier chain before)
    (kept : Kept before after) : PassedVerifier chain after := by
  intro run row completed
  obtain ⟨earlier, found, status, plan, same⟩ := kept run row completed
  rw [← plan, ← same]
  exact held earlier found status

/-- The chain's last checks: it completes the run only behind its verifier. -/
theorem conclusion_verified {run : AgentRun} {segment : Segment}
    (decision : conclusion chain (some run) segment ran (before ++ ran.results) = decided)
    (completed : (run.conclude index ran before decided).status = .completed) :
    decided = .finished true ∧ (chain.verifier run.plan (before ++ ran.results)).ok = true := by
  cases conclusion_arises decision with
  | cancelled status => cases (Option.some.inj status).symm.trans completed
  | gated | failed | parked | verifyFailed => cases completed
  | @finished completedOk _ verified =>
    cases completedOk with
    | false => cases completed
    | true => exact ⟨rfl, verified rfl⟩

theorem PassedVerifier.called {world after : World} {response : ChainResponse}
    (held : PassedVerifier chain world.run) (called : Called chain drive world response after) :
    PassedVerifier chain after.run := by
  cases called with
  | gaveUp error after touched =>
    rw [touched.run]
    exact held
  | halted => exact held
  | concluded =>
    intro run finished completed
    obtain ⟨_, stands, rfl⟩ := map_eq_some_iff.mp finished
    rw [stands] at completed ⊢
    obtain ⟨decided, verified⟩ := conclusion_verified rfl completed
    rw [decided]
    exact verified

theorem Kept.claim {world after : World} (claimed : world.claim status = some after) :
    Kept world.run after.run := by
  intro run row completed
  simp only [World.claim] at claimed
  split at claimed
  · split at claimed <;> cases claimed
    · cases row
      cases completed
  · cases claimed

theorem Kept.continueCrashed {world : World} :
    Kept world.run (continueCrashed deployment startup world).1.run := by
  simp only [AindyRuntime.Agent.continueCrashed]
  split
  · exact .refl
  case h_2 run row =>
    split
    · exact .refl
    · intro failed found completed
      cases found
      cases completed
    case h_3 redriven =>
      intro counted found completed
      cases found
      have status : run.status = .completed := completed
      have resting := @continuation_resting deployment world run startup (by simp [status])
      cases resting.symm.trans redriven

theorem PassedVerifier.stepped (held : PassedVerifier chain life.world.run)
    (regular : Regular plan segments life.world) (stepped : Stepped deployment chain life event next) :
    PassedVerifier chain next.world.run := by
  cases stepped with
  | called calls drive response world driving called => exact held.called called
  | delivered =>
    simp only [Life.deliver]
    split
    case h_1 won =>
      have kept := Kept.claim won
      exact held.kept kept
    · exact held
  | cancelled => exact held.kept .cancel
  | cut calls drive world driving touched =>
    have same : world.run = life.world.run := touched.run
    exact same ▸ held
  | stopped => exact held
  | restarted startup =>
    have kept := (@Kept.continueCrashed deployment startup (rehydrateWaiting deployment life.world))
    rw [rehydrateWaiting_run] at kept
    rw [Life.recover_world regular]
    exact held.kept kept

theorem PassedVerifier.decided (held : PassedVerifier chain life.world.run)
    (phase : Phase segments life) (decided : life.decide deployment decision note = some next) :
    PassedVerifier chain next.world.run := by
  obtain ⟨_, _, _, _, _, _, status, _, _, _, _, _, _, _, rfl⟩ := phase.decide_cases decided
  cases decision with
  | skip =>
    simp only [reduceCtorEq, if_false, World.decide]
    rw [rehydrateWaiting_run]
    exact held
  | abort =>
    intro failed found completed
    cases found
    cases completed
  | unknown =>
    intro parked found completed
    cases found
    cases status.symm.trans completed

/-- Along every life of a plan run the chain completes it only behind its
verifier. -/
theorem run_passedVerifier (split : splitAgentPlan deployment.stepGranularity plan = .ok chain.segments)
    (ran : (operatedLife deployment chain).run (.started plan) occurrences = some life) :
    PassedVerifier chain life.world.run := by
  have held : Accounted plan chain.segments life ∧ PassedVerifier chain life.world.run := by
    refine @invariant_run _ _ (operatedLife deployment chain) _ _ _
      (fun life => Accounted plan chain.segments life ∧ PassedVerifier chain life.world.run) ?_
      ⟨.started, ?_⟩ ran
    · intro life next occurrence held stepped
      obtain ⟨accounted, passed⟩ := held
      refine ⟨step_accounted split accounted stepped, ?_⟩
      cases occurrence with
      | decide => exact passed.decided accounted.phase stepped
      | _ =>
        simp only [operatedLife] at stepped
        exact passed.stepped accounted.regular (planLife_stepped stepped)
    · intro run row completed
      cases row
      cases completed
  exact held.2

end SegmentChain

inductive Backend where
  | agentFlow (flowRunId : String)
  | segmentChain (deployment : Deployment)

def Backend.Reaches (backend : Backend) (plan : Json) (run : AgentRun) : Prop :=
  match backend with
  | .agentFlow flowRunId => ∃ capability events life,
      agentFlowLife.run (.started flowRunId capability plan) events = some life ∧ life.world.run = some run
  | .segmentChain deployment => ∃ segments occurrences life,
      splitAgentPlan deployment.stepGranularity plan = .ok segments ∧
        (operatedLife deployment ⟨segments, planVerifier⟩).run (.started plan) occurrences = some life ∧
        life.world.run = some run

def refusedPlan : Json :=
  planOf [.obj [("tool", .str "a"), ("args", .obj []),
    ("expects", .obj [("field", .str "ok"), ("op", .str "eq"), ("value", .bool true)])]]

end AindyRuntime.Agent
