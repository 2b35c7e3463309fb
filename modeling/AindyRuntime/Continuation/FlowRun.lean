import AindyRuntime.FlowEngine.History

/-! # Continuing a stranded flow

`core/flow_continuation.py`: a FlowRun that was left in `running` or `executing`
is claimed, its attempt is counted, and `resume` is dispatched for it.
-/

namespace AindyRuntime.Continuation

open FlowEngine
open Program (read modify call attempt)

structure Instance where
  enabled : Bool
  maxAttemptsSetting : Int
  (defaultSafe foldRepair : Bool)
  (registered declaredSafe declaredUnsafe : List String)
  textCase : TextCase

structure Stranded where
  (flowName workflowType : String)

def attemptsKey : String := "__continuation_attempts"

def activeStatuses : List RunStatus := [.running, .executing]

variable (runtime : Instance)

def Instance.maxAttempts : Int := max 1 runtime.maxAttemptsSetting

def flowContinuationPermitted (flowName : String) : Bool :=
  if runtime.defaultSafe then !runtime.declaredUnsafe.contains flowName
  else runtime.declaredSafe.contains flowName

def recordedAttempts (state : State) : Except PyError Int :=
  ((state.get? attemptsKey).getD (.int 0)).toInt

inductive Assessment where
  | ineligible
  | exhausted (attempts : Int)
  | claims (attempts : Int)
deriving DecidableEq

def assess (flow : Stranded) (state : State) : Except PyError Assessment :=
  if !runtime.enabled then .ok .ineligible
  else if flow.workflowType = "agent_execution" then .ok .ineligible
  else if !runtime.registered.contains flow.flowName then .ok .ineligible
  else if !flowContinuationPermitted runtime flow.flowName then .ok .ineligible
  else (recordedAttempts state).map fun attempts =>
    if runtime.maxAttempts ≤ attempts then .exhausted attempts else .claims attempts

def claimStranded (row : Option FlowRun) : Option FlowRun :=
  match row with
  | some run => if run.status ∈ activeStatuses then some { run with status := .executing } else none
  | none => none

def rebuilt? (history : List FlowHistory) (state : State) : Option State :=
  if runtime.foldRepair && state.entries.isEmpty then
    let rebuilt := reconstructState runtime.textCase history
    if rebuilt.entries.isEmpty then none else some rebuilt
  else none

variable (attempts : Int)

def counted (state : State) : State := state.set attemptsKey (.int (attempts + 1))

def deadLettered (run : FlowRun) : FlowRun :=
  { run with
    status := .failed
    errorMessage := .str "Crash continuation exhausted — dead-lettered" }

def deadLetterReason : String :=
  "continuation_exhausted after " ++ toString attempts ++ " attempt(s)"

structure Store where
  row : Option FlowRun
  history : List FlowHistory
  deadLetterReason : Option String
  dispatched : Nat

structure ContinueCalls where
  (deadLetterCommit claimCommit repairCommit countCommit dispatch : Except PyError Unit)

def ContinueCalls.quiet : ContinueCalls := ⟨.ok (), .ok (), .ok (), .ok (), .ok ()⟩

abbrev ContinueM := Program PyError Store

def deadLetter (commit : Except PyError Unit) : ContinueM Bool :=
  attempt
    (do
      call commit
      modify fun store =>
        { store with
          row := store.row.map deadLettered
          deadLetterReason := some (deadLetterReason attempts) }
      return true)
    fun _ => return false

def countAttempt (run : FlowRun) (calls : ContinueCalls) : ContinueM Unit := do
  let store ← read
  match rebuilt? runtime store.history run.state with
  | some state =>
    call calls.repairCommit
    modify fun store => { store with row := some { run with state } }
    call calls.countCommit
    modify fun store => { store with row := some { run with state := counted attempts state } }
  | none =>
    call calls.countCommit
    modify fun store => { store with row := some { run with state := counted attempts run.state } }

def tryContinueFlowRun (flow : Stranded) (loaded : FlowRun) (calls : ContinueCalls) : ContinueM Bool :=
  attempt
    (do
      match ← call (assess runtime flow loaded.state) with
      | .ineligible => return false
      | .exhausted attempts => deadLetter attempts calls.deadLetterCommit
      | .claims attempts =>
        let store ← read
        call calls.claimCommit
        match claimStranded store.row with
        | none => return false
        | some run =>
          modify fun store => { store with row := some run }
          countAttempt runtime attempts run calls
          call calls.dispatch
          modify fun store => { store with dispatched := store.dispatched + 1 }
          return true)
    fun _ => return false

def continued (history : List FlowHistory) (attempts : Int) (run : FlowRun) : FlowRun :=
  { run with
    status := .executing
    state := counted attempts ((rebuilt? runtime history run.state).getD run.state) }

theorem tryContinueFlowRun_claims {runtime : Instance} {run : FlowRun}
    {attempts : Int} (row : store.row = some run) (active : run.status ∈ activeStatuses)
    (assessed : assess runtime flow run.state = .ok (.claims attempts)) :
    (tryContinueFlowRun runtime flow run .quiet).run store
      = (.ok true, { store with
          row := some (continued runtime store.history attempts run)
          dispatched := store.dispatched + 1 }) := by
  have claims : claimStranded (some run) = some { run with status := .executing } := by
    simp [claimStranded, active]
  cases rebuilt : rebuilt? runtime store.history run.state <;>
    simp [tryContinueFlowRun, countAttempt, continued, ContinueCalls.quiet, row, assessed, claims, rebuilt,
      Program.run, Program.attempt, Program.call, Program.read, Program.modify, bind, pure]

end AindyRuntime.Continuation
