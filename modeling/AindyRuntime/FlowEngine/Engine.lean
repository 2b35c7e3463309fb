import AindyRuntime.FlowEngine.StateMerge
import AindyRuntime.Lib.Program

/-! # The runner's data

The `flow_runs` row, its history, what a node returns, and the state one
`PersistentFlowRunner` works on.
-/

namespace AindyRuntime.FlowEngine

inductive RunStatus where
  | running
  | executing
  | waiting
  | success
  | failed
  | deadLetter
  /-- The lower-cased status of an async handoff. -/
  | other (name : String)
deriving DecidableEq, Repr

def RunStatus.ofName : String → RunStatus
  | "running" => .running
  | "executing" => .executing
  | "waiting" => .waiting
  | "success" => .success
  | "failed" => .failed
  | "dead_letter" => .deadLetter
  | name => .other name

structure FlowRun where
  status : RunStatus
  state : State
  currentNode : String
  waitingFor : Option String
  (errorMessage jobLogId : Json)
  graphSignature : Option String
deriving DecidableEq

structure FlowHistory where
  (nodeName status : String)
  inputState : State
  outputPatch : Option State
  errorMessage : Json
  sequenceNumber : Option Nat
deriving DecidableEq

/-- The dictionary a node returns.  `status` and `error` are `none` where the key
is missing; a missing patch is an empty one, and a patch `None` is `none`. -/
structure NodeResult where
  status : Option String
  outputPatch : Option State
  waitFor : Option String
  resumeSchema : Json
  error : Option Json
deriving DecidableEq

structure NodeRun where
  after : State
  outcome : Except PyError NodeResult

structure FailureCalls where
  (failedEvent errorEvent response : Except PyError Unit)

structure CompletionCalls where
  (capture completedEvent response : Except PyError Unit)
  (rowUpdated rowQueued : Bool)

structure Calls where
  runFound : Bool
  nodeStarted : Except PyError Unit
  canExecute : Except PyError (Bool × String)
  parkResponse : Except PyError Unit
  checkQuota : Except PyError (Bool × String)
  quotaFailure : FailureCalls
  node : NodeRun
  nodeFailed : Except PyError Unit
  runFoundAfter : Bool
  (nodeCompleted waitingEvent waitResponse : Except PyError Unit)
  completion : CompletionCalls
  branches : String → NodeRun
  failure : FailureCalls

def NodeRun.returning (after : State) (status : String) (patch : State) : NodeRun :=
  ⟨after, .ok ⟨some status, some patch, none, .null, none⟩⟩

def Calls.quiet (node : NodeRun) : Calls where
  runFound := true
  nodeStarted := .ok ()
  canExecute := .ok (true, "")
  parkResponse := .ok ()
  checkQuota := .ok (true, "")
  quotaFailure := ⟨.ok (), .ok (), .ok ()⟩
  node
  nodeFailed := .ok ()
  runFoundAfter := true
  nodeCompleted := .ok ()
  waitingEvent := .ok ()
  waitResponse := .ok ()
  completion := ⟨.ok (), .ok (), .ok (), true, true⟩
  branches _ := node
  failure := ⟨.ok (), .ok (), .ok ()⟩

inductive CommitPoint where
  | claimed
  | resumed
  | parkedOnResources
  | parkedOnWait
  | advanced (status : String)
  | superstep
  | handedOff (status : String)
  | completed (status : String)
  | failed
  | deadLettered
deriving DecidableEq, Repr

structure Commit where
  point : CommitPoint
  run : FlowRun
  history : List FlowHistory
deriving DecidableEq

structure Engine where
  run : FlowRun
  history : List FlowHistory
  state : State
  attempts : Dict String Nat
  holdsSlot : Bool
  /-- Calls of `mark_started`, and of `mark_waiting` and `mark_completed`. -/
  acquired : Nat
  released : Nat
  executed : List String
  commits : List Commit

structure Response where
  status : String
  result : Json
  partialUnits : List Json
deriving DecidableEq, Repr

structure Runner where
  flow : Flow
  predicates : Predicates
  (registered blocked : List String)
  extractor : Option (State → Except PyError Json)
  resultKey : Option String
  /-- `classify_failure(result).retryable`. -/
  retryable : NodeResult → Bool
  textCase : TextCase

def Runner.plain (flow : Flow) (registered : List String) : Runner where
  flow
  predicates := ∅
  registered
  blocked := []
  extractor := none
  resultKey := none
  retryable _ := false
  textCase := .ascii

abbrev EngineM := Program PyError Engine

namespace Engine

variable (engine : Engine) (point : CommitPoint)

def commit (run : FlowRun) : Engine :=
  { engine with run, commits := ⟨point, run, engine.history⟩ :: engine.commits }

def acquireSlot : Engine :=
  { engine with holdsSlot := true, acquired := engine.acquired + 1 }

def releaseSlot : Engine :=
  if engine.holdsSlot then { engine with holdsSlot := false, released := engine.released + 1 }
  else engine

def nextSequence : Nat :=
  (engine.history.filterMap (·.sequenceNumber)).max?.getD 0 + 1

def record (rows : List FlowHistory) : Engine :=
  { engine with history := engine.history ++ rows }

def countAttempt (node : String) : Engine :=
  { engine with attempts := engine.attempts.set node ((engine.attempts.get? node).getD 0 + 1) }

def withState (state : State) : Engine := { engine with state }

def fail (message : Json) : Engine :=
  (engine.commit .failed
    { engine.run with status := .failed, waitingFor := none, errorMessage := message }).releaseSlot

def parkOnResources (node : String) : Engine :=
  engine.commit .parkedOnResources
    { engine.run with
      status := .waiting
      waitingFor := some "resource_available"
      currentNode := node
      state := engine.state }

def parkOnWait (node waitFor : String) : Engine :=
  (engine.commit .parkedOnWait { engine.run with
      status := .waiting
      waitingFor := some waitFor
      state := engine.state
      currentNode := node }).releaseSlot

def enterNode (node : String) : Engine :=
  { engine.countAttempt node with executed := node :: engine.executed }

def handOff (status : RunStatus) (node : String) (jobLogId : Json) : Engine :=
  engine.commit point
    { engine.run with
      status
      state := engine.state
      currentNode := node
      waitingFor := none
      jobLogId := jobLogId.orElse engine.run.jobLogId }

def complete : Engine :=
  engine.releaseSlot.commit point
    { engine.run with status := .success, state := engine.state, waitingFor := none }

def moveTo (next : String) : Engine :=
  engine.commit point { engine.run with currentNode := next, state := engine.state }

end Engine

def pendingRequestKey : String := "__pending_request"

def superstepPartialsKey : String := "_superstep_partials"

end AindyRuntime.FlowEngine
