import AindyRuntime.Agent.Gate

/-! # The flow backend

`AGENT_FLOW` of `runtime/nodus_adapter.py`: the default executor of agent runs.
-/

namespace AindyRuntime.Agent

open AgentRun
open Program (raise read modify call)

inductive AgentNode where
  | validateSteps
  | executeStep
  | finalizeRun
deriving DecidableEq

structure FlowState where
  steps : Json
  currentStepIndex : Nat
  stepResults : List StepResult
  (gate event : Option Json)

structure FlowWorld where
  run : Option AgentRun
  /-- The `AgentStep` rows, each an insert. -/
  rows : List (Nat × StepRow)
  state : FlowState

structure ToolResult where
  success : Bool
  (result error : Json)
  retryable : Bool
deriving DecidableEq

structure StepCalls where
  /-- The fallback a negotiation has granted in place of the step's tool. -/
  fallback : Option String
  /-- `check_tool_capability`, after the negotiation. -/
  authority : Except Json Unit
  gateDeclared : Bool
  negotiationOutcome : String
  variant : Json
  /-- The failure of a step reference that does not resolve. -/
  unresolved : Option ToolResult
  tool : Nat → ToolResult
  /-- The required events: of a granted fallback, before the commit of a gate,
  and after the commit of a step. -/
  negotiated : Except PyError Unit
  announced : Except PyError Unit
  emitted : Except PyError Unit

structure FinalizeCalls where
  (hooks completedEvent : Except PyError Unit)

structure NodeCalls where
  step : StepCalls
  finalize : FinalizeCalls

inductive NodeReturn where
  | success (currentStepIndex : Nat) (stepResults : List StepResult)
  | finalized
  | failure (error : String)
  | wait (gate : Json)
deriving DecidableEq

abbrev FlowM := Program PyError FlowWorld

def AgentRun.reopen (run : AgentRun) : AgentRun :=
  if run.status = .waiting then { run with status := .executing, waitState := none } else run

def AgentRun.markFailed (error : String) (stepResults : List StepResult) (run : AgentRun) : AgentRun :=
  if run.status = .executing ∨ run.status = .waiting then
    { run with
      status := .failed
      errorMessage := .str error
      result := some ⟨stepResults, none, none⟩
      waitState := none }
  else run

def AgentRun.finalize (stepResults : List StepResult) (run : AgentRun) : AgentRun :=
  { run with status := .completed, result := some ⟨stepResults, none, none⟩, waitState := none }

def AgentRun.stepTaken (index : Nat) (status : StepStatus) (run : AgentRun) : AgentRun :=
  { run with
    stepsCompleted := if status = .success then min (run.stepsCompleted + 1) (index + 1)
      else run.stepsCompleted
    currentStep := index + 1 }

def FlowWorld.writeRun (change : AgentRun → AgentRun) (world : FlowWorld) : FlowWorld :=
  { world with run := world.run.map change }

def FlowWorld.addStep (index : Nat) (row : StepRow) (world : FlowWorld) : FlowWorld :=
  { world.writeRun (stepTaken index row.status) with rows := world.rows ++ [(index, row)] }

def countSteps : Json → Except PyError Nat
  | .arr steps => .ok steps.length
  | .obj entries => .ok entries.length
  | .str text => .ok text.length
  | other => .error ⟨.other, "object of type " ++ quote other.typeName ++ " has no len()"⟩

/-- `steps[idx]`, on which the node then calls `get`. -/
def stepAt (steps : Json) (index : Nat) : Except PyError Json :=
  match steps with
  | .arr items =>
    match items[index]? with
    | some (.obj entries) => .ok (.obj entries)
    | some other => .error ⟨.attribute, quote other.typeName ++ " object has no attribute 'get'"⟩
    | none => .error ⟨.lookup, "list index out of range"⟩
  | .obj _ => .error ⟨.lookup, toString index⟩
  | other => .error ⟨.attribute, quote other.typeName ++ " object has no attribute 'get'"⟩

def agentValidateSteps : FlowM NodeReturn := do
  let world ← read
  if !world.state.steps.truthy then return .failure "Plan has no steps to execute"
  else
    let _ ← call (countSteps world.state.steps)
    return .success 0 []

def stepTool (step : Json) : String := if step.hasKey "tool" then (step.get "tool").text else ""

def stepRisk (step : Json) : Json := if step.hasKey "risk_level" then step.get "risk_level" else .str "high"

/-- `str.strip` and `str.lower` of a decision; no letter outside ASCII becomes
one of theirs. -/
def readGateDecision (payload : Json) : Decision × Option String :=
  if !payload.isDict then (.unknown payload, none)
  else
    let note := if payload.get "note" = .null then none else some (payload.get "note").text
    match strip (asciiLower ((payload.get "decision").orElse (.str "")).text) with
    | "skip" => (.skip, note)
    | "abort" => (.abort, note)
    | _ => (.unknown (payload.get "decision"), note)

def flowGate (index : Nat) (tool : String) (error : Json) (calls : StepCalls) : Json :=
  .obj [("step_index", .int index), ("tool", .str tool), ("denied_error", error),
    ("negotiation_outcome", .str calls.negotiationOutcome), ("variant", calls.variant),
    ("event", .str authorityDecisionEvent), ("decisions", .arr [.str "skip", .str "abort"])]

def gateRow (tool : String) (status : StepStatus) (decision : String) (note : Option String)
    (error : Json) : StepRow :=
  ⟨tool, status, .obj [("authority_gate", .str decision), ("note", (note.map .str).getD .null)], error⟩

variable (calls : StepCalls) (index : Nat) (tool : String)

def decideAtGate (pending payload : Json) : FlowM NodeReturn := do
  modify fun world => { world with state := { world.state with event := none } }
  match readGateDecision payload with
  | (.unknown text, _) =>
    let refused := refuseDecision pending text
    return .wait refused
  | (.skip, note) =>
    modify fun world => world.writeRun reopen
    modify fun world => { world with state := { world.state with gate := none } }
    call calls.announced
    modify fun world => world.addStep index (gateRow tool .skipped "skip" note .null)
    let world ← read
    return .success (index + 1)
      (world.state.stepResults ++ [⟨index, tool, .skipped, .null, .null, false⟩])
  | (.abort, note) =>
    let error := abortText index tool ((note.map .str).getD .null)
    modify fun world => world.writeRun reopen
    modify fun world => { world with state := { world.state with gate := none } }
    call calls.announced
    modify fun world => world.addStep index (gateRow tool .failed "abort" note (.str error))
    let world ← read
    let results := world.state.stepResults ++ [⟨index, tool, .failed, .null, .str error, false⟩]
    modify fun world => world.writeRun (markFailed error results)
    return .failure error

def pendingAt (state : FlowState) (index : Nat) : Option Json :=
  state.gate.filter fun gate => gate.isDict && (gate.get "step_index").pyEq (.int index)

/-- `_authority_gate`; `none` falls through to the ordinary denial. -/
def authorityGate (error : Json) : FlowM (Option NodeReturn) := do
  let world ← read
  match pendingAt world.state index, world.state.event with
  | some pending, some payload =>
    let answer ← decideAtGate calls index tool pending payload
    return some answer
  | _, _ =>
    if !calls.gateDeclared then return none
    else
      call calls.announced
      return some (.wait (flowGate index tool error calls))

def denyStep (error : Json) : FlowM NodeReturn := do
  let message := "Capability denied for step " ++ toString index ++ " (" ++ tool ++ "): " ++ error.text
  modify fun world => world.addStep index ⟨tool, .failed, .null, .str message⟩
  call calls.emitted
  let world ← read
  let results := world.state.stepResults ++ [⟨index, tool, .failed, .null, .str message, false⟩]
  modify fun world => world.writeRun (markFailed message results)
  return .failure message

def attemptTool (tool : Nat → ToolResult) : (retries attempt : Nat) → ToolResult
  | 0, attempt => tool attempt
  | retries + 1, attempt =>
    if (tool attempt).success || !(tool attempt).retryable then tool attempt
    else attemptTool tool retries (attempt + 1)

def ToolResult.status (returned : ToolResult) : StepStatus :=
  if returned.success then .success else .failed

def stepFailure (risk : Json) (maxAttempts : Nat) (error : Json) : String :=
  "Step " ++ toString index ++ " (" ++ tool ++ ", " ++ risk.text ++ ") failed"
    ++ (if risk = .str "high" then "" else " after " ++ toString maxAttempts ++ " attempt(s)")
    ++ ": " ++ error.text

def performStep (risk : Json) : FlowM NodeReturn := do
  let maxAttempts ← call (resolveMaxAttempts risk)
  let returned := calls.unresolved.getD (attemptTool calls.tool (maxAttempts - 1) 1)
  modify fun world =>
    world.addStep index ⟨tool, returned.status, returned.result, returned.error⟩
  call calls.emitted
  let world ← read
  let results := world.state.stepResults
    ++ [⟨index, tool, returned.status, returned.result, returned.error, false⟩]
  if returned.success then return .success (index + 1) results
  else
    let message := stepFailure index tool risk maxAttempts returned.error
    modify fun world => world.writeRun (markFailed message results)
    return .failure message

def authorizedStep (step : Json) : FlowM NodeReturn :=
  match calls.authority with
  | .ok () => performStep calls index tool (stepRisk step)
  | .error error => do
    match ← authorityGate calls index tool error with
    | some answer => return answer
    | none => denyStep calls index tool error

def agentExecuteStep : FlowM NodeReturn := do
  let world ← read
  let index := world.state.currentStepIndex
  let count ← call (countSteps world.state.steps)
  if count ≤ index then return .success index world.state.stepResults
  else
    let step ← call (stepAt world.state.steps index)
    let tool := calls.fallback.getD (stepTool step)
    if calls.fallback.isSome then call calls.negotiated
    authorizedStep calls index tool step

def agentFinalizeRun (calls : FinalizeCalls) : FlowM NodeReturn := do
  call calls.hooks
  modify fun world => world.writeRun (finalize world.state.stepResults)
  call calls.completedEvent
  return .finalized

def agentNode (calls : NodeCalls) : AgentNode → FlowM NodeReturn
  | .validateSteps => agentValidateSteps
  | .executeStep => agentExecuteStep calls.step
  | .finalizeRun => agentFinalizeRun calls.finalize

inductive FlowControl where
  | at (node : AgentNode)
  | parked (node : AgentNode)
  | ended
deriving DecidableEq

structure AgentFlowLife where
  world : FlowWorld
  control : FlowControl
  /-- `execute_agent_flow_orchestration` is still to see the flow end or park. -/
  attended : Bool
  flowRunId : String

inductive FlowEnd where
  | success
  | waiting (event : String) (gate : Option Json)
  | failed (error : String)

def AgentRun.parkFlow (event : String) (gate : Option Json) (run : AgentRun) : AgentRun :=
  if run.status = .executing then
    let reached := ((gate.map (·.get "step_index")).bind Json.number?).elim run.stepsCompleted Int.toNat
    { run with
      status := .waiting
      stepsCompleted := reached
      currentStep := reached
      waitState := some ⟨event, none, 0, false, gate⟩ }
  else run

def rowResults (rows : List (Nat × StepRow)) : List StepResult :=
  (rows.insertionSort fun left right => left.1 ≤ right.1).map fun entry =>
    ⟨entry.1, entry.2.tool, entry.2.status, entry.2.result, entry.2.error, false⟩

def AgentRun.failFlow (error : String) (rows : List (Nat × StepRow)) (run : AgentRun) : AgentRun :=
  if run.status = .executing then
    { run with
      status := .failed
      result := some ⟨rowResults rows, none, none⟩
      errorMessage := .str error }
  else run

def FlowWorld.mirror (world : FlowWorld) (flowRunId : String) (ended : FlowEnd) : FlowWorld :=
  world.writeRun fun run =>
    let linked := { run with flowRunId := some flowRunId }
    match ended with
    | .success => linked
    | .waiting event gate => linked.parkFlow event gate
    | .failed error => linked.failFlow error world.rows

def AgentFlowLife.leave (life : AgentFlowLife) (control : FlowControl) (ended : FlowEnd) : AgentFlowLife :=
  { life with
    control
    attended := false
    world := if life.attended then life.world.mirror life.flowRunId ended else life.world }

def moreSteps (state : FlowState) : Bool :=
  match countSteps state.steps with
  | .ok count => decide (state.currentStepIndex < count)
  | .error _ => false

def successor (node : AgentNode) (state : FlowState) : AgentNode :=
  match node with
  | .validateSteps => .executeStep
  | _ => if moreSteps state then .executeStep else .finalizeRun

def AgentFlowLife.turn (life : AgentFlowLife) (node : AgentNode) (calls : NodeCalls) : AgentFlowLife :=
  match (agentNode calls node).run life.world with
  | (.ok (.success currentStepIndex stepResults), world) =>
    let state := { world.state with currentStepIndex, stepResults }
    { life with world := { world with state }, control := .at (successor node state) }
  | (.ok .finalized, world) => AgentFlowLife.leave { life with world } .ended .success
  | (.ok (.failure error), world) => AgentFlowLife.leave { life with world } .ended (.failed error)
  | (.ok (.wait gate), world) =>
    AgentFlowLife.leave
      { life with world := { world with state := { world.state with gate := some gate } } }
      (.parked node) (.waiting authorityDecisionEvent (some gate))
  | (.error error, world) => AgentFlowLife.leave { life with world } .ended (.failed error.text)

inductive FlowEvent where
  | turn (calls : NodeCalls)
  /-- The runner parks the flow for want of resources. -/
  | defer
  /-- The runner fails the flow by itself. -/
  | stop (error : PyError)
  | resume (event : Option Json)
  | cancel

def agentFlowLife : StepSystem AgentFlowLife FlowEvent where
  step life
    | .turn calls =>
      match life.control with
      | .at node => some (life.turn node calls)
      | _ => none
    | .defer =>
      match life.control with
      | .at node => some (life.leave (.parked node) (.waiting "resource_available" none))
      | _ => none
    | .stop error =>
      match life.control with
      | .at _ => some (life.leave .ended (.failed error.text))
      | _ => none
    | .resume event =>
      match life.control with
      | .parked node =>
        some
          { life with
            control := .at node
            world := { life.world with
              state := { life.world.state with event := event.or life.world.state.event } } }
      | _ => none
    | .cancel => some { life with world := life.world.writeRun cancel }

def flowSteps (plan : Json) : Json := if plan.hasKey "steps" then plan.get "steps" else .arr []

def FlowWorld.started (plan : Json) : FlowWorld where
  run := some ⟨.executing, plan, none, none, none, 0, 0, .null⟩
  rows := []
  state := ⟨flowSteps plan, 0, [], none, none⟩

/-- `execute_agent_flow_orchestration` up to `runner.start`, with the answer of
the flow capability check. -/
def AgentFlowLife.started (flowRunId : String) (capability : Except String Unit) (plan : Json) : AgentFlowLife :=
  let world := FlowWorld.started plan
  match capability with
  | .error error =>
    ⟨world.writeRun fun run => { run with
        status := .failed
        errorMessage := .str error
        result := some ⟨[], none, none⟩ }, .ended, false, flowRunId⟩
  | .ok () =>
    match plan.orElse (.obj []) with
    | .obj _ =>
      match countSteps world.state.steps with
      | .ok _ => ⟨world, .at .validateSteps, true, flowRunId⟩
      | .error _ => ⟨world, .ended, false, flowRunId⟩
    | _ => ⟨world, .ended, false, flowRunId⟩

end AindyRuntime.Agent
