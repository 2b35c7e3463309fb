import AindyRuntime.Agent.Plan

/-! # Running one segment

The guest of `nodus_worker.py` on a compiled segment: each step calls its tool
through `run_agent_tool`, retries it, and throws when it has failed.
-/

namespace AindyRuntime.Agent

inductive StepStatus where
  | success
  | failed
  | skipped
deriving DecidableEq, Repr

def StepStatus.name : StepStatus → String
  | .success => "success"
  | .failed => "failed"
  | .skipped => "skipped"

structure StepRow where
  tool : String
  status : StepStatus
  (result error : Json)
deriving DecidableEq

structure StepResult where
  stepIndex : Nat
  tool : String
  status : StepStatus
  (result error : Json)
  replayed : Bool
deriving DecidableEq

structure ToolCall where
  stepIndex : Nat
  tool : String
  args : Json
deriving DecidableEq

structure ToolReturn where
  success : Bool
  (result error : Json)
  retryable : Bool
  gate : Option Json
  recorded : Bool

structure Worker where
  rows : Dict Nat StepRow
  calls : List ToolCall

def StepRow.replayable (row : StepRow) : Bool := row.status ≠ .failed

def Worker.call (worker : Worker) (step : CompiledStep) (returned : ToolReturn) : Worker where
  calls := worker.calls ++ [⟨step.index, step.tool, step.args⟩]
  rows :=
    if returned.recorded && (returned.success || returned.gate.isNone) then
      worker.rows.set step.index
        ⟨step.tool, if returned.success then .success else .failed, returned.result, returned.error⟩
    else worker.rows

def Worker.replay? (worker : Worker) (continuation : Bool) (index : Nat) : Option StepRow :=
  if continuation then (worker.rows.get? index).filter StepRow.replayable else none

inductive StepEnd where
  | done (entry : StepResult)
  | failed (entry : StepResult)
  | gated (gate : Json)

def replayedEntry (step : CompiledStep) (row : StepRow) : StepResult where
  stepIndex := step.index
  tool := step.tool
  status := row.status
  result := if row.status = .skipped then .null else row.result
  error := .null
  replayed := true

def returnedEntry (step : CompiledStep) (returned : ToolReturn) : StepResult where
  stepIndex := step.index
  tool := step.tool
  status := if returned.success then .success else .failed
  result := returned.result
  error := returned.error
  replayed := false

variable (continuation : Bool)

def attemptOnce (step : CompiledStep) (returned : ToolReturn) (worker : Worker) : StepEnd × Worker :=
  match worker.replay? continuation step.index with
  | some row => (.done (replayedEntry step row), worker)
  | none =>
    if returned.success then (.done (returnedEntry step returned), worker.call step returned)
    else
      match returned.gate with
      | some gate => (.gated gate, worker.call step returned)
      | none => (.failed (returnedEntry step returned), worker.call step returned)

def attemptStep (step : CompiledStep) (tool : Nat → ToolReturn) :
    (retries attempt : Nat) → Worker → StepEnd × Worker
  | 0, attempt, worker => attemptOnce continuation step (tool attempt) worker
  | retries + 1, attempt, worker =>
    match attemptOnce continuation step (tool attempt) worker with
    | (.failed entry, after) =>
      if (tool attempt).retryable then
        attemptStep step tool retries (attempt + 1) after
      else (.failed entry, after)
    | ended => ended

inductive Halt where
  | failed
  | gated (gate : Json)

def runSteps (tool : Nat → Nat → ToolReturn) :
    List CompiledStep → Worker → (List StepResult × Option Halt) × Worker
  | [], worker => (([], none), worker)
  | step :: rest, worker =>
    match attemptStep continuation step (tool step.index) (step.maxAttempts - 1) 1 worker with
    | (.done entry, after) =>
      let later := runSteps tool rest after
      ((entry :: later.1.1, later.1.2), later.2)
    | (.failed entry, after) => (([entry], some .failed), after)
    | (.gated gate, after) => (([], some (.gated gate)), after)

structure SegmentCalls where
  tool : Nat → Nat → ToolReturn
  /-- The guest is stopped after so many steps. -/
  reached : Option Nat
  raises : Option PyError
  (flowOk output : Bool)
  flowRunId : Option String
  flowError : Json

def SegmentCalls.finishing (tool : Nat → Nat → ToolReturn) : SegmentCalls where
  tool
  reached := none
  raises := none
  flowOk := true
  output := true
  flowRunId := some "flow"
  flowError := .null

structure SegmentRun where
  results : List StepResult
  failed : Bool
  gate : Option Json
  flowRunId : Option String
  flowError : Json

def fillGaps (rows : Dict Nat StepRow) : List StepResult → Dict Nat StepRow
  | [] => rows
  | entry :: rest =>
    if rows.contains entry.stepIndex then fillGaps rows rest
    else fillGaps (rows.set entry.stepIndex ⟨entry.tool, entry.status, entry.result, entry.error⟩) rest

def runGuest (calls : SegmentCalls) (compiled : List CompiledStep)
    (worker : Worker) : (List StepResult × Option Halt) × Worker :=
  runSteps continuation calls.tool
    (match calls.reached with
      | some count => compiled.take count
      | none => compiled)
    worker

def segmentRun (calls : SegmentCalls) (compiled : List CompiledStep)
    (guest : List StepResult × Option Halt) : SegmentRun :=
  let results := if calls.output then guest.1 else []
  let gate := match guest.2 with
    | some (.gated gate) => if calls.flowOk && calls.output then some gate else none
    | _ => none
  { results
    gate
    failed := gate.isNone && (results.any (·.status = .failed) || !calls.flowOk
      || results.length ≠ compiled.length)
    flowRunId := calls.flowRunId
    flowError := calls.flowError }

end AindyRuntime.Agent
