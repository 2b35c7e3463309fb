import AindyRuntime.FlowEngine.Engine

/-! # Results, handoffs and typed waits

`serialization.py`, `_superstep_partial_units` of `runner_completion.py` and
`build_pending_request` of `core/pending_request.py`.
-/

namespace AindyRuntime.FlowEngine

def extractExecutionResult (runner : Runner) (state : State) : Except PyError Json :=
  match runner.extractor with
  | some extractor => extractor state
  | none =>
    match runner.resultKey.bind state.get? with
    | some result => .ok result
    | none => .ok (.obj state.entries)

structure Handoff where
  status : String
  jobLogId : Json
deriving DecidableEq, Repr

def handoffJobLogId (response : Json) : Json :=
  let data := response.get "data"
  let nested := data.get "result"
  (nested.get "job_log_id").orElse ((data.get "job_log_id").orElse (response.get "job_log_id"))

def extractAsyncHandoff (runner : Runner) (result : Json) : Option Handoff :=
  if !result.isDict then none
  else if Json.pyEq (result.get "_http_status") (.int 202)
      && (result.get "_http_response").isDict then
    let response := result.get "_http_response"
    some ⟨runner.textCase.upper ((response.get "status").orElse (.str "QUEUED")).text, handoffJobLogId response⟩
  else
    let status := runner.textCase.upper ((result.get "status").orElse (.str "")).text
    if status = "QUEUED" ∨ status = "DEFERRED" then some ⟨status, handoffJobLogId result⟩ else none

def listOf : Json → Except PyError (List Json)
  | .arr items => .ok items
  | .str value => .ok (value.toList.map fun letter => .str (String.singleton letter))
  | .obj entries => .ok (entries.map fun entry => .str entry.1)
  | value => .error ⟨.other, quote value.typeName ++ " object is not iterable"⟩

def requireDict (value : Json) : Except PyError Unit :=
  if value.isDict then .ok ()
  else .error ⟨.attribute, quote value.typeName ++ " object has no attribute 'get'"⟩

def partialUnit (entry failed : Json) : Except PyError Json := do
  requireDict failed
  return .obj [("superstep", entry.get "superstep"), ("join", entry.get "join"),
    ("branch", failed.get "branch"), ("error", failed.get "error")]

def entryUnits (entry : Json) : Except PyError (List Json) := do
  requireDict entry
  (← listOf ((entry.get "failed").orElse (.arr []))).mapM (partialUnit entry)

def superstepPartialUnits (state : State) : Except PyError (List Json) := do
  let entries ← listOf (((state.get? superstepPartialsKey).getD .null).orElse (.arr []))
  return (← entries.mapM entryUnits).flatten

def buildPendingRequest (node event : String) (schema : Json) : Except PyError (Option Json) :=
  if schema = .null ∨ schema = .obj [] then .ok none
  else if !schema.isDict then
    .error ⟨.value, "node " ++ quote node ++ " declared resume_schema of type "
      ++ quote schema.typeName ++ "; a schema is a dict in the syscall dialect "
      ++ "(\x7b'required': [...], 'properties': \x7b...\x7d\x7d)"⟩
  else
    match ["required", "properties"].find? fun key => schema.hasKey key && !container (schema.get key) with
    | some key => .error ⟨.value, "node " ++ quote node ++ " declared resume_schema[" ++ quote key
        ++ "] of type " ++ quote (schema.get key).typeName⟩
    | none => .ok (some (.obj [("node", .str node), ("event", .str event), ("schema", schema)]))
where
  container : Json → Bool
    | .arr _ | .obj _ => true
    | _ => false

end AindyRuntime.FlowEngine
