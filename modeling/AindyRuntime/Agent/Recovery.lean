import AindyRuntime.Agent.Chain

/-! # Recovery of agent runs at startup

The three passes over an agent run when a process starts:
`scan_and_recover_stuck_runs`, `rehydrate_waiting_agent_runs` and
`continue_crashed_agent_runs`.  Nothing in the database raises.
-/

namespace AindyRuntime.Agent

def World.claim (world : World) (claimStatus : AgentStatus) : Option World :=
  match world.run with
  | some run =>
    if run.status = claimStatus then
      some { world with run := some { run with status := .executing, waitState := none } }
    else none
  | none => none

structure Deployment where
  (stepGranularity durableContinuation permitted : Bool)
  maxAttemptsSetting : Int

variable (deployment : Deployment)

def Deployment.maxAttempts : Int := max 1 deployment.maxAttemptsSetting

structure Startup where
  stale : String → Bool
  executing : List String
  runId : String

def maxScan : Nat := 500

def recoveryError : String := "Stuck run recovery: process terminated before completion"

def committedSteps (rows : Dict Nat StepRow) : List StepResult :=
  (rows.entries.insertionSort fun left right => left.1 ≤ right.1).map fun entry =>
    ⟨entry.1, entry.2.tool, entry.2.status, entry.2.result, entry.2.error, false⟩

variable (startup : Startup) (world : World)

/-- `scan_and_recover_stuck_runs`, of which only the recovery of an
`agent_execution` flow touches agent runs. -/
def scanAndRecover : World :=
  match world.run with
  | none => world
  | some run =>
    match run.flowRunId with
    | none => world
    | some id =>
      if world.flowRuns.get? id = some "agent_execution" ∧ startup.stale id = true
          ∧ run.status.terminal = false then
        { world with
          run := some
            { run with
              status := .failed
              errorMessage := .str recoveryError
              result := some ⟨committedSteps world.worker.rows, none, none⟩ } }
      else world

variable (run : AgentRun)

def AgentRun.recorded : List StepResult :=
  match run.result with
  | some result => result.steps
  | none => []

def rehydrateWaiting : World :=
  match world.run, world.registered with
  | some run, none =>
    if run.status = .waiting then
      match run.waitState, splitAgentPlan deployment.stepGranularity run.plan with
      | some waitState, .ok segments =>
        if waitState.eventType = "" ∨ segments.length ≤ waitState.resumeSegmentIndex then world
        else
          { world with
            registered := some
              ⟨⟨waitState.eventType, waitState.correlationKey⟩,
                ⟨waitState.resumeSegmentIndex, run.recorded, waitState.continuation⟩⟩ }
      | _, _ => world
    else world
  | _, _ => world

def countCompleted (completed : Nat) : (total index : Nat) → List Segment → Nat
  | _, index, [] => index
  | total, index, segment :: rest =>
    if total + segment.toolSteps.length ≤ completed then
      countCompleted completed (total + segment.toolSteps.length) (index + 1) rest
    else index

def countCompletedSegments (segments : List Segment) (completed : Nat) : Nat :=
  countCompleted completed 0 0 segments

def isNodusVmRun : Bool :=
  match run.flowRunId with
  | some id => id ≠ "" && decide (world.flowRuns.get? id = some nodusVmWorkflow)
  | none => false

def AgentRun.attempts : Int :=
  ((run.result.bind (·.continuationAttempts)).getD 0)

inductive Continuation where
  | skipped
  | exhausted
  | redriven (segment : Nat)
deriving DecidableEq

def continuation : Continuation :=
  if !deployment.durableContinuation then .skipped
  else if run.status ≠ .executing ∨ startup.runId ∉ startup.executing.take maxScan then .skipped
  else if !deployment.permitted then .skipped
  else if !isNodusVmRun world run then .skipped
  else
    match splitAgentPlan deployment.stepGranularity run.plan with
    | .error _ => .skipped
    | .ok segments =>
      let next := countCompletedSegments segments run.recorded.length
      if segments.length ≤ next then .skipped
      else if deployment.maxAttempts ≤ run.attempts then .exhausted
      else .redriven next

def continueCrashed : World × Option Drive :=
  match world.run with
  | none => (world, none)
  | some run =>
    match continuation deployment startup world run with
    | .skipped => (world, none)
    | .exhausted =>
      ({ world with
          run := some
            { run with
              status := .failed
              errorMessage := .str ("Crash continuation exhausted after "
                ++ toString run.attempts ++ " attempt(s)") } }, none)
    | .redriven segment =>
      let counted : RunResult :=
        ⟨run.recorded, some (run.attempts + 1), run.result.bind (·.verify)⟩
      ({ world with run := some { run with result := some counted, waitState := none } },
        some ⟨segment, run.recorded, true⟩)

end AindyRuntime.Agent
