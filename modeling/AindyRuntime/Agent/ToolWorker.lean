import AindyRuntime.Data.PyObject

/-! # The tool worker

`agents/tool_worker.py` and `_run_tool_out_of_process`: a tool that declares
isolation runs in a subprocess that reads one request and writes one reply.
-/

namespace AindyRuntime.Tool

open PyObject (DumpError)

structure ToolError where
  (className text : String)
  failureClass : Option String
deriving DecidableEq, Repr

inductive FnExit where
  | returned (value : PyObject)
  | raised (error : ToolError)
  | exited (code : Int)

def FnExit.returns : FnExit → Bool
  | .returned _ => true
  | .raised _ | .exited _ => false

inductive Stdout where
  | blank
  | unreadable (message : String)
  | written (reply : Json)

/-- How a worker ends.  One that was killed, broke off or exited in its own way
may have got any distance with the function. -/
inductive WorkerEnd where
  | notStarted (error : ToolError)
  | cancelled (fn : Option FnExit)
  | timedOut (fn : Option FnExit)
  | broken (fn : Option FnExit) (error : ToolError)
  | died (fn : Option FnExit) (code : Int) (stdout : Stdout)
  | unregistered
  | ran (fn : FnExit)

def WorkerEnd.returns : WorkerEnd → Bool
  | .notStarted _ | .unregistered => false
  | .cancelled fn | .timedOut fn | .broken fn _ | .died fn _ _ => fn.any FnExit.returns
  | .ran fn => fn.returns

structure Envelope where
  success : Bool
  result : PyObject
  (error failureClass : Option String)
  (cancelled outcomeUnknown idempotentReplay : Bool)
  outcome : Option PyObject

def Envelope.refusal (error : String) (failureClass : Option String) : Envelope :=
  ⟨false, .null, some error, failureClass, false, false, false, none⟩

def Envelope.answer (result : PyObject) : Envelope :=
  ⟨true, result, none, none, false, false, false, none⟩

def failureClasses : List String :=
  ["transient", "cancelled", "permission", "not_found", "invalid", "fatal", "unknown"]

def declaredFailureClass (declared : Option String) : Option String :=
  declared.filter fun value => decide (value ∈ failureClasses)

def dumpFailed (error : DumpError) : ToolError where
  className := match error with
    | .unsupported _ => "TypeError"
    | .digits => "ValueError"
    | .nesting => "RecursionError"
  text := error.error.text
  failureClass := none

variable (toolName : String)

def notRegistered : String :=
  "tool " ++ quote toolName ++ " is not registered in this worker. The parent resolved "
    ++ "it, so the worker's plugin stack differs from the parent's — that is a "
    ++ "deployment problem, not a missing tool."

def doesNotMarshal (value : PyObject) : String :=
  "tool " ++ quote toolName ++ " returned " ++ value.typeName ++ ", which does not marshal "
    ++ "across the worker boundary. Watch "
    ++ "aindy_tool_return_contract_violations_total before declaring isolation."

def failedReply (error : String) (declared : Option String) : Json :=
  .obj ([("ok", .bool false), ("error", .str error)]
    ++ (declared.map fun value => ("failure_class", .str value)).toList)

/-- `_run_resolved` and `main`: the exit code and the output.  The exceptions of
the function become replies; of its result only `TypeError` and `ValueError` do. -/
def runResolved (room : Nat) (toolName : String) : FnExit → Int × Stdout
  | .raised error => (0, .written (failedReply (error.className ++ ": " ++ error.text) error.failureClass))
  | .exited code => (code, .blank)
  | .returned value =>
    match value.dumps room with
    | .ok result => (0, .written (.obj [("ok", .bool true), ("result", result)]))
    | .error .nesting => (1, .blank)
    | .error _ => (0, .written (failedReply (doesNotMarshal toolName value) none))

def midCallOutcome (effectful : Bool) (envelope : Envelope) : Envelope :=
  if effectful then
    { envelope with
      failureClass := some "unknown"
      outcomeUnknown := true
      error := some (envelope.error.getD "None" ++ "; the worker had started, so its effect may or "
        ++ "may not have landed (outcome unknown)") }
  else envelope

def replyError (reply : Json) : String :=
  match (reply.get "error").orElse (.str "failed") with
  | .str text => text
  | value => value.repr

def replyClass (reply : Json) : Option String :=
  match reply.get "failure_class" with
  | .str value => some value
  | _ => none

def readReply (reply : Json) : Except ToolError Envelope :=
  if reply.isDict then
    if (reply.get "ok").truthy then .ok (.answer (.ofJson (reply.get "result")))
    else .ok (.refusal (replyError reply) (declaredFailureClass (replyClass reply)))
  else
    .error ⟨"AttributeError", quote reply.typeName ++ " object has no attribute 'get'", none⟩

/-- From the exit code on.  A reply that nests too deeply for `json.loads` raises
an error that is not caught. -/
def readWorker (room : Nat) (toolName : String) (effectful : Bool) (code : Int) :
    Stdout → Except ToolError Envelope
  | .blank => .ok (midCallOutcome effectful (failed code))
  | .unreadable message =>
    if code ≠ 0 then .ok (midCallOutcome effectful (failed code))
    else .ok (midCallOutcome effectful (.refusal ("tool " ++ quote toolName
      ++ " worker returned an unreadable response: " ++ message) (some "transient")))
  | .written reply =>
    if code ≠ 0 then .ok (midCallOutcome effectful (failed code))
    else
      match (PyObject.ofJson reply).dumps room with
      | .error .nesting => .error ⟨"RecursionError", (PyObject.tooDeep "decoding a JSON object").text, none⟩
      | _ => readReply reply
where
  failed (code : Int) : Envelope :=
    .refusal ("tool " ++ quote toolName ++ " isolated worker failed (exit " ++ toString code ++ ")")
      (some "transient")

def workerCancelled (toolName runId : String) : Envelope :=
  { Envelope.refusal ("run " ++ runId ++ " was cancelled; isolated tool " ++ quote toolName
      ++ " was killed") (some "cancelled") with cancelled := true }

def toolWorkerTimeoutS : String := "120.0"

def workerTimedOut : Envelope :=
  .refusal ("tool " ++ quote toolName ++ " exceeded its " ++ toolWorkerTimeoutS
    ++ "s isolated-execution budget. It was NOT retried in-process — it declared isolation.")
    (some "transient")

def workerNotStarted (error : ToolError) : Envelope :=
  .refusal ("tool " ++ quote toolName ++ " declares isolation and its worker could not be started ("
    ++ error.className ++ ": " ++ error.text ++ "). Running it in-process would defeat the "
    ++ "declaration, so it was refused.") (some "transient")

/-- `_run_tool_out_of_process` once the request is written.  Every exception of
`Popen` and `communicate` but the timeout reads as a worker that never started. -/
def runToolOutOfProcess (room workerRoom : Nat) (toolName runId : String) (effectful : Bool) :
    WorkerEnd → Except ToolError Envelope
  | .notStarted error | .broken _ error => .ok (workerNotStarted toolName error)
  | .cancelled _ => .ok (midCallOutcome effectful (workerCancelled toolName runId))
  | .timedOut _ => .ok (midCallOutcome effectful (workerTimedOut toolName))
  | .died _ code stdout => readWorker room toolName effectful code stdout
  | .unregistered => readWorker room toolName effectful 0 (.written (failedReply (notRegistered toolName) none))
  | .ran fn =>
    readWorker room toolName effectful (runResolved workerRoom toolName fn).1
      (runResolved workerRoom toolName fn).2

end AindyRuntime.Tool
