import AindyRuntime.FlowEngine.Serialization
import AindyRuntime.Lib.StepSystem

/-! # The engine loop

`runner.py`, `runner_steps.py`, `runner_completion.py` and `runner_failure.py`:
one iteration of the loop of `PersistentFlowRunner.resume`, from the reload of
the row to the commit of the next node, with every return and every raise.
-/

namespace AindyRuntime.FlowEngine

open Program (raise read modify call attempt)

variable (runner : Runner)

def failExecution (calls : FailureCalls) (message : Json) (node : String) : EngineM Response := do
  modify fun engine => engine.fail message
  call calls.failedEvent
  call calls.errorEvent
  call calls.response
  return ⟨"FAILED", .obj [("error", message), ("failed_node", .str node)], []⟩

variable (calls : Calls)

def takeSlot : EngineM (Bool × String) := do
  let engine ← read
  if engine.holdsSlot then return (true, "")
  else
    let answer ← call calls.canExecute
    if answer.1 then modify Engine.acquireSlot
    return answer

variable (node : String)

def checkResources : EngineM (Option Response) :=
  attempt
    (do
      let answer ← takeSlot calls
      if !answer.1 then
        modify fun engine => engine.parkOnResources node
        call calls.parkResponse
        return some ⟨"WAITING", .obj [("waiting_for", .str "resource_available"), ("reason", .str answer.2)], []⟩
      else
        let quota ← call calls.checkQuota
        if !quota.1 then
          let response ← failExecution calls.quotaFailure (.str quota.2) node
          return some response
        else return none)
    fun error => if error.kind = .attribute then return none else raise error

def admitNode : Except PyError Unit :=
  if node ∈ runner.blocked then
    .error ⟨.permission, "Node " ++ quote node ++ " is blocked by policy"⟩
  else if node ∉ runner.registered then
    .error ⟨.lookup, "\"Node " ++ quote node ++ " not in registry. Available: "
      ++ quoteAll runner.registered ++ "\""⟩
  else .ok ()

def executeNode (nodeRun : NodeRun) : EngineM NodeResult := do
  call (admitNode runner node)
  modify fun engine => (engine.enterNode node).withState nodeRun.after
  call nodeRun.outcome

def executeCurrentNode : EngineM (Response ⊕ NodeResult) := do
  match ← checkResources calls node with
  | some response => return .inl response
  | none =>
    attempt
      (do
        let result ← executeNode runner node calls.node
        return .inr result)
      fun error => do
        call calls.nodeFailed
        let response ← failExecution calls.failure (.str error.text) node
        return .inl response

structure NodeOutcome where
  node : String
  patch : State
  status : String

def landed (outcomes : List NodeOutcome) : List Patch :=
  (outcomes.filter fun outcome => outcome.status = "SUCCESS" ∨ outcome.status = "WAIT").map
    fun outcome => (outcome.node, outcome.patch)

def mergeSuperstep (outcomes : List NodeOutcome) : EngineM Unit := do
  let engine ← read
  let merged := mergeState runner.flow.statePolicies engine.state (landed outcomes)
  modify fun engine => engine.withState merged.2
  call merged.1

inductive NodeResponse where
  | retry
  | final (response : Response)
  | advance

def failNode (message : Json) (node : String) : EngineM NodeResponse := do
  let response ← failExecution calls.failure message node
  return .final response

def maybeFinalizeCompletion (node status : String) : EngineM NodeResponse :=
  if node ∉ runner.flow.endNodes then return .advance
  else attempt
    (do
      let engine ← read
      let result ← call (extractExecutionResult runner engine.state)
      match extractAsyncHandoff runner result with
      | some handoff =>
        if !calls.completion.rowUpdated then
          raise ⟨.other, "FlowRun not found during async handoff finalization"⟩
        else
          modify fun engine => engine.handOff (.handedOff status)
            (.ofName (runner.textCase.lower handoff.status)) node handoff.jobLogId
          if !calls.completion.rowQueued then
            raise ⟨.attribute, "'NoneType' object has no attribute 'trace_id'"⟩
          else
            call calls.completion.response
            return .final ⟨handoff.status, result, []⟩
      | none =>
        call calls.completion.capture
        modify fun engine => engine.complete (.completed status)
        let units ← call (superstepPartialUnits engine.state)
        call calls.completion.completedEvent
        call calls.completion.response
        return .final ⟨"SUCCESS", result, units⟩)
    fun error => failNode calls (.str ("Completion finalization failed: " ++ error.text)) node

def maxAttempts : Int :=
  match runner.flow.maxRetries.get? node with
  | some retries => max 1 retries
  | none => 3

def parkOnWait (node waitFor : String) (pending : Option Json) : EngineM NodeResponse := do
  modify fun engine => engine.withState <|
    match pending with
    | some record => engine.state.set pendingRequestKey record
    | none => engine.state.erase pendingRequestKey
  modify fun engine => engine.parkOnWait node waitFor
  call calls.waitingEvent
  call calls.waitResponse
  return .final ⟨"WAITING", .obj [("waiting_for", .str waitFor)], []⟩

def handleNodeStatus (result : NodeResult) (status : String) : EngineM NodeResponse :=
  match status with
  | "SUCCESS" => do
    modify fun engine => engine.withState (engine.state.erase pendingRequestKey)
    maybeFinalizeCompletion runner calls node status
  | "RETRY" => do
    let engine ← read
    let attempts := (engine.attempts.get? node).getD 0
    if decide ((attempts : Int) < maxAttempts runner node) && runner.retryable result then
      return .retry
    else
      failNode calls
        (.str ("Node " ++ node ++ " failed after " ++ toString attempts ++ " retries")) node
  | "FAILURE" => failNode calls (result.error.getD (.str ("Node " ++ node ++ " failed"))) node
  | "WAIT" =>
    match result.waitFor with
    | none | some "" => failNode calls
        (.str ("Node " ++ node ++ " returned WAIT without wait_for")) node
    | some waitFor =>
      match buildPendingRequest node waitFor result.resumeSchema with
      | .error error => failNode calls (.str error.text) node
      | .ok pending => parkOnWait calls node waitFor pending
  | _ => maybeFinalizeCompletion runner calls node status

abbrev BranchResult := String × Except String NodeResult

def runBranch : EngineM BranchResult := do
  match admitNode runner node with
  | .error error => return (node, .error error.text)
  | .ok () =>
    modify fun engine => engine.enterNode node
    return (node, (calls.branches node).outcome.mapError (·.text))

def runFanOutBranches (calls : Calls) : List String → EngineM (List BranchResult)
  | [] => return []
  | node :: rest => do
    let result ← runBranch runner calls node
    let results ← runFanOutBranches calls rest
    return result :: results

def BranchResult.outcome : BranchResult → NodeOutcome
  | (node, .ok result) => ⟨node, result.outputPatch.getD ∅, result.status.getD "FAILURE"⟩
  | (node, .error _) => ⟨node, ∅, "FAILURE"⟩

def BranchResult.error : BranchResult → Json
  | (_, .ok result) => (result.error.getD .null).orElse .null
  | (_, .error text) => .str text

def BranchResult.waits : BranchResult → Bool
  | (_, .ok result) => result.status = some "WAIT"
  | (_, .error _) => false

def branchRows (snapshot : State) : Nat → List BranchResult → List FlowHistory
  | _, [] => []
  | ordinal, branch :: rest =>
    { nodeName := branch.1
      status := branch.outcome.status
      inputState := snapshot
      outputPatch := some branch.outcome.patch
      errorMessage := branch.error
      sequenceNumber := some ordinal } :: branchRows snapshot (ordinal + 1) rest

variable (superstep : String)

def partialEntry (outcome : JoinOutcome) (branches : List BranchResult) : Json :=
  .obj [("superstep", .str superstep), ("join", .str outcome.join),
    ("succeeded", .arr (outcome.succeeded.map .str)), ("failed", .arr (outcome.failed.map fun branch =>
      .obj [("branch", .str branch), ("error", errorOf branch)]))]
where
  errorOf (branch : String) : Json :=
    ((branches.find? fun result => result.1 = branch).map BranchResult.error).getD .null

def notePartial (outcome : JoinOutcome) (branches : List BranchResult) : EngineM Unit := do
  if outcome.isPartial then
    let engine ← read
    let known ← call (listOf (((engine.state.get? superstepPartialsKey).getD .null).orElse (.arr [])))
    modify fun engine => engine.withState (engine.state.set superstepPartialsKey
      (.arr (known ++ [partialEntry engine.run.currentNode outcome branches])))

def successorText : Option Successor → String
  | none => "None"
  | some (.node name) => quote name
  | some (.group group) =>
    "FanOutEdgeGroup(targets=(" ++ String.intercalate ", " (group.targets.map quote) ++ "), join="
      ++ match group.join with
        | .all => "'all', quorum=None)"
        | .any => "'any', quorum=None)"
        | .quorum required => "'quorum', quorum=" ++ toString required ++ ")"

def notConverged (successors : List (String × Option Successor)) : PyError :=
  ⟨.value, "fan-out branches from " ++ quote superstep ++ " did not converge: \x7b"
    ++ String.intercalate ", " (successors.map fun entry =>
      quote entry.1 ++ ": " ++ successorText entry.2)
    ++ "\x7d. Every succeeding branch of a group must resolve to the same successor."⟩

def converge (successors : List (String × Option Successor)) : Except PyError Successor :=
  match successors with
  | (_, some successor) :: rest =>
    if rest.all fun other => other.2 = some successor then .ok successor
    else .error (notConverged superstep successors)
  | _ => .error (notConverged superstep successors)

def refuseWaits (branches : List BranchResult) : Except PyError Unit :=
  let waiting := (branches.filter BranchResult.waits).map Prod.fst
  if waiting.isEmpty then .ok ()
  else .error ⟨.other, "branch(es) " ++ quoteAll waiting
    ++ " returned WAIT inside the fan-out group from " ++ quote superstep
    ++ ". A WAIT inside a group is refused in phase 1: the other branches' patches would have to "
    ++ "be held durably across the suspension, and no such record exists. Move the waiting node "
    ++ "out of the group."⟩

def requireJoin (width : Nat) (outcome : JoinOutcome) : Except PyError Unit :=
  if outcome.satisfied then .ok ()
  else .error ⟨.value, "branch(es) " ++ quoteAll outcome.failed ++ " failed in the fan-out group from "
    ++ quote superstep ++ "; join=" ++ outcome.join ++ " needs " ++ toString outcome.required
    ++ " of " ++ toString width ++ " to succeed and " ++ toString outcome.succeeded.length ++ " did."⟩

def executeSuperstep (frontier : FanOutEdgeGroup) : EngineM Successor := do
  let engine ← read
  let superstep := engine.run.currentNode
  let group := (fanOutGroupFor runner.flow superstep).getD { frontier with join := .all, bounded := trivial }
  let branches ← runFanOutBranches runner calls frontier.targets
  call (refuseWaits superstep branches)
  modify fun engine => engine.record (branchRows engine.state engine.nextSequence branches)
  mergeSuperstep runner (branches.map BranchResult.outcome)
  let outcome := resolveJoin group
    (Dict.ofList (branches.map fun branch => (branch.1, branch.outcome.status)))
  call (requireJoin superstep group.targets.length outcome)
  notePartial outcome branches
  let merged ← read
  let successors ← call (outcome.succeeded.mapM fun node =>
    (resolveNextNode runner.predicates runner.flow node merged.state).map fun next => (node, next))
  call (converge superstep successors)

def moveTo (point : CommitPoint) (successor : Successor) : EngineM String :=
  match successor with
  | .node next => do
    modify fun engine => engine.moveTo point next
    return next
  | .group _ => raise ⟨.other, "can't adapt type 'FanOutEdgeGroup'"⟩

def noNextNode : EngineM (Response ⊕ String) := do
  let response ← failExecution calls.failure
    (.str ("No next node from " ++ node ++ " - flow graph incomplete")) node
  return .inl response

def proceed (point : CommitPoint) (successor : Successor) : EngineM (Response ⊕ String) :=
  if successor = .node "" then noNextNode calls node
  else do
    let next ← moveTo point successor
    return .inr next

def trySuperstep (frontier : FanOutEdgeGroup) : EngineM (Response ⊕ Successor) :=
  attempt
    (do
      let successor ← executeSuperstep runner calls frontier
      return .inr successor)
    fun error => do
      let response ← failExecution calls.failure (.str error.text) node
      return .inl response

def advanceToNextNode (node status : String) : EngineM (Response ⊕ String) := do
  let engine ← read
  match resolveFrontier runner.predicates runner.flow node engine.state with
  | .error error =>
    if error.kind = .lookup ∨ error.kind = .value then
      let response ← failExecution calls.failure
        (.str ("cannot resolve the edge out of " ++ quote node ++ ": " ++ error.text)) node
      return .inl response
    else raise error
  | .ok .none => noNextNode calls node
  | .ok (.single successor) => proceed calls node (.advanced status) successor
  | .ok (.superstep group) =>
    match ← trySuperstep runner calls node group with
    | .inl response => return .inl response
    | .inr successor => proceed calls node .superstep successor

inductive Turn where
  | again (node : String)
  | final (response : Response)

def disappeared (moment : String) : Turn :=
  .final ⟨"FAILED", .obj [("error", .str ("FlowRun disappeared " ++ moment))], []⟩

def finishNode (snapshot : State) (result : NodeResult) : EngineM Turn :=
  match result.status with
  | none => raise ⟨.lookup, "'status'"⟩
  | some status => do
    modify fun engine => engine.record
      [{ nodeName := node
         status
         inputState := snapshot
         outputPatch := result.outputPatch
         errorMessage := result.error.getD .null
         sequenceNumber := some engine.nextSequence }]
    call calls.nodeCompleted
    mergeSuperstep runner [⟨node, result.outputPatch.getD ∅, status⟩]
    match ← handleNodeStatus runner calls node result status with
    | .retry => return .again node
    | .final response => return .final response
    | .advance =>
      match ← advanceToNextNode runner calls node status with
      | .inl response => return .final response
      | .inr next => return .again next

def iteration : EngineM Turn := do
  if !calls.runFound then return disappeared "during execution"
  else
    let engine ← read
    call calls.nodeStarted
    match ← executeCurrentNode runner calls node with
    | .inl response => return .final response
    | .inr result =>
      if !calls.runFoundAfter then return disappeared "after node execution"
      else finishNode runner calls node engine.state result

inductive Control where
  | at (node : String)
  | returned (response : Response)
  | raised (error : PyError)

structure Machine where
  engine : Engine
  control : Control

def Machine.after : Except PyError Turn × Engine → Machine
  | (.ok (.again node), engine) => ⟨engine, .at node⟩
  | (.ok (.final response), engine) => ⟨engine, .returned response⟩
  | (.error error, engine) => ⟨engine, .raised error⟩

def engineLoop : StepSystem Machine Calls where
  step machine calls :=
    match machine.control with
    | .at node => some (Machine.after ((iteration runner calls node).run machine.engine))
    | _ => none

end AindyRuntime.FlowEngine
