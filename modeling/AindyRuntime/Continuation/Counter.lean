import AindyRuntime.Continuation.FlowRun
import AindyRuntime.Data.PyObject
import AindyRuntime.FlowEngine.Finality
import AindyRuntime.Lib.Coupling

/-! # The engine apart from the continuation counter

Two runners whose rows and dictionaries agree on every key but the counter of
`flow_continuation.py` take the same turns, as long as the node functions, the
edges and the result extractor do not read the counter.
-/

namespace AindyRuntime.Continuation

open FlowEngine
open Program (Couples Matched)

def Agree (left right : State) : Prop := ∀ cell, cell ≠ attemptsKey → left.get? cell = right.get? cell

namespace Agree

variable {left right : State}

theorem refl : Agree state state := fun _ _ => rfl

theorem symm (agree : Agree left right) : Agree right left := fun cell other => (agree cell other).symm

theorem trans (first : Agree left middle) (second : Agree middle right) :
    Agree left right := fun cell other => (first cell other).trans (second cell other)

theorem set (agree : Agree left right) : Agree (left.set key value) (right.set key value) := by
  intro cell other
  rw [Dict.get?_set, Dict.get?_set, agree cell other]

theorem erase (agree : Agree left right) : Agree (left.erase key) (right.erase key) := by
  intro cell other
  rw [Dict.get?_erase, Dict.get?_erase, agree cell other]

theorem update (agree : Agree left right) {patch : State} : Agree (left.update patch) (right.update patch) := by
  intro cell other
  rw [Dict.get?_update, Dict.get?_update, agree cell other]

theorem counted : Agree state (counted attempts state) := by
  intro cell other
  rw [Continuation.counted, Dict.get?_set, if_neg (Ne.symm other)]

section

variable (agree : Agree left right)
include agree

theorem mergeCells :
    (mergeCells policies patches left cells).1 = (mergeCells policies patches right cells).1 ∧
      Agree (mergeCells policies patches left cells).2 (mergeCells policies patches right cells).2 := by
  induction cells generalizing left right with
  | nil => exact ⟨rfl, agree⟩
  | cons cell rest ih =>
    simp only [FlowEngine.mergeCells]
    split
    · exact ih agree.set
    · exact ih agree
    · exact ⟨rfl, agree⟩

theorem mergeState :
    (mergeState policies left patches).1 = (mergeState policies right patches).1 ∧
      Agree (mergeState policies left patches).2 (mergeState policies right patches).2 := by
  rcases patches with _ | ⟨patch, _ | ⟨second, rest⟩⟩
  · exact ⟨rfl, agree⟩
  · exact ⟨rfl, agree.update⟩
  · exact agree.mergeCells

theorem hasTraceId : hasTraceId left = hasTraceId right := by
  simp only [FlowEngine.hasTraceId]
  rw [agree "trace_id" (by decide)]

theorem withTraceId : Agree (withTraceId left traceId) (withTraceId right traceId) := by
  simp only [FlowEngine.withTraceId, agree.hasTraceId]
  split
  · exact agree
  · exact agree.set

end

end Agree

structure AlikeRun (left right : FlowRun) : Prop where
  status : left.status = right.status ∨
    left.status ∈ activeStatuses ∧ right.status ∈ activeStatuses
  state : Agree left.state right.state
  currentNode : left.currentNode = right.currentNode
  waitingFor : left.waitingFor = right.waitingFor
  jobLogId : left.jobLogId = right.jobLogId
  graphSignature : left.graphSignature = right.graphSignature

theorem AlikeRun.withState {state : State} (rows : AlikeRun left right)
    (agree : Agree state state') : AlikeRun { left with state } { right with state := state' } :=
  ⟨rows.status, agree, rows.currentNode, rows.waitingFor, rows.jobLogId, rows.graphSignature⟩

theorem AlikeRun.withStatus {status : RunStatus} {waitingFor : Option String} (rows : AlikeRun left right) :
    AlikeRun { left with status, waitingFor, errorMessage := message }
      { right with status, waitingFor, errorMessage := message' } :=
  ⟨.inl rfl, rows.state, rows.currentNode, rfl, rows.jobLogId, rows.graphSignature⟩

structure AlikeEngine (left right : Engine) : Prop where
  state : Agree left.state right.state
  run : AlikeRun left.run right.run

namespace AlikeEngine

variable {left : Engine}

section

variable (alike : AlikeEngine left right)
include alike

theorem commit {run : FlowRun}
    (rows : AlikeRun run run') : AlikeEngine (left.commit point run) (right.commit point' run') :=
  ⟨alike.state, rows⟩

theorem releaseSlot : AlikeEngine left.releaseSlot right.releaseSlot := by
  constructor
  · rw [Engine.releaseSlot_state, Engine.releaseSlot_state]
    exact alike.state
  · rw [Engine.releaseSlot_run, Engine.releaseSlot_run]
    exact alike.run

theorem withState {state : State} (agree : Agree state state') :
    AlikeEngine (left.withState state) (right.withState state') :=
  ⟨agree, alike.run⟩

theorem fail : AlikeEngine (left.fail message) (right.fail message') :=
  releaseSlot (alike.commit alike.run.withStatus)

theorem parkOnWait : AlikeEngine (left.parkOnWait node waitFor) (right.parkOnWait node waitFor) := by
  refine releaseSlot (alike.commit ?_)
  exact ⟨.inl rfl, alike.state, rfl, rfl, alike.run.jobLogId, alike.run.graphSignature⟩

theorem handOff :
    AlikeEngine (left.handOff point status node jobLogId) (right.handOff point status node jobLogId) := by
  refine alike.commit ⟨.inl rfl, alike.state, rfl, rfl, ?_, alike.run.graphSignature⟩
  exact congrArg jobLogId.orElse alike.run.jobLogId

theorem complete : AlikeEngine (left.complete point) (right.complete point) :=
  alike.releaseSlot.commit (alike.run.withState alike.state).withStatus

theorem moveTo : AlikeEngine (left.moveTo point next) (right.moveTo point next) := by
  obtain ⟨status, _, _, waitingFor, jobLogId, graphSignature⟩ := alike.run
  exact alike.commit ⟨status, alike.state, rfl, waitingFor, jobLogId, graphSignature⟩

end

end AlikeEngine

abbrev Functions : Type := String → State → Except PyError NodeResult

structure PyResult where
  status : Option String
  outputPatch : Option PyEntries
  waitFor : Option String
  resumeSchema : PyObject
  error : Option PyObject

def pyResult (result : NodeResult) : PyResult where
  status := result.status
  outputPatch := result.outputPatch.map fun patch => PyObject.ofEntries patch.entries
  waitFor := result.waitFor
  resumeSchema := .ofJson result.resumeSchema
  error := result.error.map .ofJson

/-- Python node functions whose results for JSON states have JSON values: no
datetime, UUID, tuple or other object that `_json_safe` or the column would change. -/
structure JsonNodes where
  python : String → PyEntries → Except PyError PyResult
  json : Functions
  valued : ∀ node state, python node (PyObject.ofEntries state.entries) = (json node state).map pyResult

/-- The row keeps of such a patch, through `_json_safe`, what the engine's dictionary gets. -/
theorem JsonNodes.stored {state : State} (nodes : JsonNodes) (shown : String → String → Option String)
    (returned : nodes.python node (PyObject.ofEntries state.entries) = .ok result)
    (written : result.outputPatch = some patch) :
    PyObject.jsonSafeEntries shown patch = patch := by
  rw [nodes.valued] at returned
  cases given : nodes.json node state with
  | error => simp [given, Except.map] at returned
  | ok =>
      simp only [given, Except.map, Except.ok.injEq] at returned
      subst returned
      obtain ⟨_, _, rfl⟩ := Option.map_eq_some_iff.mp written
      exact PyObject.jsonSafeEntries_ofEntries shown _

/-- Nothing of the flow reads the counter: not its functions, not the gates of
its edges, and not what is made of its result. -/
structure Blind (runner : Runner) (functions : Functions) : Prop where
  function : ∀ node {left right}, Agree left right → functions node left = functions node right
  edges : ∀ node {left right}, Agree left right →
    resolveNextNode runner.predicates runner.flow node left =
      resolveNextNode runner.predicates runner.flow node right
  extractor : ∀ {extractor}, runner.extractor = some extractor → ∀ {left right}, Agree left right →
    (extractor left).map (extractAsyncHandoff runner) =
      (extractor right).map (extractAsyncHandoff runner)
  resultKey : runner.resultKey ≠ some attemptsKey

def groupState (functions : Functions) (node : String) (state : State) : State :=
  match functions node state with
  | .ok result =>
    match result.status with
    | some status => completionState status (mergedState status state result)
    | none => state
  | .error _ => state

/-- The functions answer, none of them writes to the dictionary it is given,
and nothing else fails. -/
def answers (functions : Functions) (node : String) (state : State) : Calls :=
  { Calls.quiet ⟨state, functions node state⟩ with
    branches := fun branch =>
      ⟨groupState functions node state, functions branch (groupState functions node state)⟩ }

section Answers

@[simp] theorem answers_runFound : (answers functions node state).runFound = true := rfl

@[simp] theorem answers_runFoundAfter : (answers functions node state).runFoundAfter = true := rfl

@[simp] theorem answers_nodeStarted : (answers functions node state).nodeStarted = .ok () := rfl

@[simp] theorem answers_nodeFailed : (answers functions node state).nodeFailed = .ok () := rfl

@[simp] theorem answers_nodeCompleted : (answers functions node state).nodeCompleted = .ok () := rfl

@[simp] theorem answers_node : (answers functions node state).node = ⟨state, functions node state⟩ := rfl

@[simp] theorem answers_failure : (answers functions node state).failure = ⟨.ok (), .ok (), .ok ()⟩ := rfl

end Answers

variable {runner : Runner} {functions : Functions}

theorem Blind.frontier (blind : Blind runner functions) (agree : Agree left right) :
    resolveFrontier runner.predicates runner.flow node left =
      resolveFrontier runner.predicates runner.flow node right := by
  simp [resolveFrontier, blind.edges node agree]

section

variable {left right : State} (agree : Agree left right)
include agree

theorem Agree.merged : Agree (mergedState status left result) (mergedState status right result) := by
  simp only [mergedState]
  split
  · exact agree.update
  · exact agree

theorem Agree.completion : Agree (completionState status left) (completionState status right) := by
  simp only [completionState]
  split
  · exact agree.erase
  · exact agree

omit agree in
theorem Blind.groupState (blind : Blind runner functions)
    {node : String} {left right : State} (agree : Agree left right) :
    Agree (groupState functions node left) (groupState functions node right) := by
  simp only [Continuation.groupState, blind.function node agree]
  split
  · split
    · exact agree.merged.completion
    · exact agree
  · exact agree

omit agree in
theorem get_entries {state : State} {key : String} :
    (Json.obj state.entries).get key = (state.get? key).getD .null := rfl

/-- The handoff of a whole state does not depend on the counter. -/
theorem handoff_blind :
    extractAsyncHandoff runner (.obj left.entries) = extractAsyncHandoff runner (.obj right.entries) := by
  have same (key : String) (other : key ≠ attemptsKey) :
      (Json.obj left.entries).get key = (Json.obj right.entries).get key := by
    rw [get_entries, get_entries, agree key other]
  have dict {entries : List (String × Json)} : (Json.obj entries).isDict = true := rfl
  simp [extractAsyncHandoff, handoffJobLogId, dict, same "_http_status" (by decide),
    same "_http_response" (by decide), same "status" (by decide), same "data" (by decide),
    same "job_log_id" (by decide)]

end

theorem Blind.result (blind : Blind runner functions) (agree : Agree left right) :
    (extractExecutionResult runner left).map (extractAsyncHandoff runner) =
      (extractExecutionResult runner right).map (extractAsyncHandoff runner) := by
  simp only [extractExecutionResult]
  cases extractor : runner.extractor with
  | some extractor => exact blind.extractor ‹_› agree
  | none =>
    have keyed : runner.resultKey.bind left.get? = runner.resultKey.bind right.get? := by
      cases key : runner.resultKey with
      | none => rfl
      | some name =>
        have other : name ≠ attemptsKey := fun same => blind.resultKey (key.trans (congrArg some same))
        exact agree name other
    rw [keyed]
    cases runner.resultKey.bind right.get? with
    | some => rfl
    | none => exact congrArg Except.ok (handoff_blind agree)

end AindyRuntime.Continuation
