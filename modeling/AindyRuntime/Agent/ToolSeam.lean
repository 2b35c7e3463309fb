import AindyRuntime.Agent.ToolWorker
import AindyRuntime.Kernel.SyscallDispatch
import AindyRuntime.Lib.StepSystem

/-! # A tool call through the idempotency gate

`_execute_tool_for_run` from the admission checks on, as a program over the
`EffectRecord` row of the call, its advisory lock and the number of times the
tool function has returned normally.
-/

namespace AindyRuntime.Tool

open EffectLedger Program
open PyObject (DumpError)
open Syscall (Guarantee LedgerError envelopeOutcome reconcileRequired)

inductive Raised where
  | exception (error : ToolError)
  | interrupt (code : Int)
deriving DecidableEq, Repr

structure Entry where
  name : String
  guarantee : Guarantee
  isolation : Option String
deriving DecidableEq, Repr

/-- `room` and `workerRoom` are what the recursion limit leaves to `json` in the
server and in the worker. -/
structure Deployment where
  (postgresql idempotency strict isolationEnforced : Bool)
  hostClass : String
  (room workerRoom : Nat)

/-- `malformed` is the refusal of the checks before the action id is computed,
`denied` that of the checks after it. -/
structure Call where
  entry : Entry
  args : PyEntries
  (userId runId : String)
  durable : Bool
  request : Request
  (malformed denied : Option Envelope)
  cancelled : Bool
  fn : FnExit
  worker : WorkerEnd
  seconds : Nat
  (lockCall resolveCall : Except LedgerError Unit)
  completeCall : EffectStatus → Except LedgerError Unit

structure World where
  now : Nat
  row : Option EffectRecord
  locked : Bool
  returns : Nat
deriving DecidableEq, Repr

structure Gate where
  (idempotent locked : Bool)
deriving DecidableEq, Repr

namespace World

variable (world : World)

def store (record : EffectRecord) : World := { world with row := some record }

def complete (status : EffectStatus) (payload : Json) : World :=
  { world with row := world.row.map fun record => record.completed world.now status payload }

def take (gate : Gate) : World :=
  { world with locked := gate.locked || world.locked }

def release (gate : Gate) : World :=
  { world with locked := !gate.locked && world.locked }

def later (seconds : Nat) (returned : Bool) : World :=
  { world with
    now := world.now + seconds
    returns := if returned then world.returns + 1 else world.returns }

end World

abbrev Action (Value : Type) : Type := Program Raised World Value

variable (deployment : Deployment) (call : Call)

def Entry.gated (entry : Entry) : Bool := decide (entry.guarantee ≠ .atLeastOnce)

def Call.atMostOnce : Bool := decide (call.entry.guarantee = .atMostOnce)

def Call.engages : Bool :=
  (call.entry.gated || call.durable)
    && decide (call.runId ≠ "")
    && (deployment.idempotency || call.durable || call.atMostOnce)

def Call.isolated : Bool := call.entry.isolation.isSome && deployment.isolationEnforced

def Call.canonical : Except DumpError Json :=
  PyObject.dumps deployment.room (.dict [("action_type", .str call.entry.name),
    ("input", .dict call.args), ("scope", .str call.runId)])

inductive LockState where
  | notAsked
  | unsupported
  | acquired
  | timeout
  | error
deriving DecidableEq, Repr

def LockState.name : LockState → String
  | .notAsked => "None"
  | .unsupported => "unsupported"
  | .acquired => "acquired"
  | .timeout => "timeout"
  | .error => "error"

inductive Opening where
  | answered (envelope : Envelope)
  | through (gate : Gate)

def acquireEffectLock (world : World) : LockState :=
  if !(deployment.strict || call.atMostOnce) then .notAsked
  else if !deployment.postgresql then .unsupported
  else
    match call.lockCall with
    | .error _ => .error
    | .ok () => if world.locked then .timeout else .acquired

def refusedAtMostOnce (reason : String) : Envelope :=
  .refusal ("AT_MOST_ONCE tool " ++ quote call.entry.name ++ " refused: " ++ reason)
    (some "transient")

def replayEnvelope (payload : Json) : Envelope :=
  { Envelope.answer (.ofJson (payload.get "result")) with idempotentReplay := true }

def heldEnvelope (held : HeldOutcome) : Except PyError Envelope := do
  let outcome ← envelopeOutcome held
  return { Envelope.refusal ("tool " ++ quote call.entry.name ++ ": this effect's earlier outcome is "
        ++ held.status.name ++ "; it is held, not re-run"
        ++ (if reconcileRequired held then " (reconciliation required)" else ""))
      (some (if held.status = .unknown then "unknown" else "fatal")) with
    idempotentReplay := true
    outcome := some outcome }

variable (gate : Gate)

def resolveFailed : Action Opening :=
  if call.atMostOnce then do
    modify (World.release · gate)
    return .answered (refusedAtMostOnce call "the effect gate failed; not dispatched")
  else return .through { gate with idempotent := false }

def resolveEffectRecord : Action Opening := do
  let world ← read
  match world.row with
  | none =>
    modify (World.store · (reservedRow world.now call.request))
    return .through gate
  | some record =>
    match resolveExistingRow world.now call.request record with
    | .reclaim assigned =>
      modify (World.store · assigned)
      return .through gate
    | .degraded =>
      if call.atMostOnce then
        modify (World.release · gate)
        return .answered (refusedAtMostOnce call ("a concurrent call is dispatching this effect; "
          ++ "not dispatched again"))
      else return .through gate
    | .replay payload =>
      modify (World.release · gate)
      return .answered (replayEnvelope payload)
    | .held held =>
      modify (World.release · gate)
      return .answered (← Program.call ((heldEnvelope call held).mapError
        fun error => .exception ⟨"TypeError", error.text, none⟩))

def enterGate : Action Opening := do
  let world ← read
  let state := acquireEffectLock deployment call world
  if call.atMostOnce = true ∧ (state = .timeout ∨ state = .error) then
    return .answered (refusedAtMostOnce call ("its effect lock could not be taken (" ++ state.name
      ++ "); it was not dispatched"))
  else
    let gate : Gate := ⟨true, decide (state = .acquired)⟩
    modify (World.take · gate)
    match call.resolveCall with
    | .error _ => resolveFailed call gate
    | .ok () => resolveEffectRecord call gate

def admitCall : Action Opening :=
  if call.engages deployment then do
    let _ ← Program.call ((call.canonical deployment).mapError fun error => .exception (dumpFailed error))
    match call.denied with
    | some refusal => return .answered refusal
    | none => enterGate deployment call
  else
    match call.denied with
    | some refusal => return .answered refusal
    | none => return .through ⟨false, false⟩

def openGate : Action Opening :=
  match call.malformed with
  | some refusal => return .answered refusal
  | none => admitCall deployment call

def unknownPayload (detail : Json) : Json :=
  .obj [(heldKey, .obj [("status", .str "unknown"), ("units", .arr []), ("detail", detail)]),
    ("data", .obj [("result", .null)])]

variable (result : PyObject)

def successPayload : Except DumpError Json :=
  match result.dumps deployment.room with
  | .ok value => .ok (.obj [("result", value)])
  | .error .nesting => .error .nesting
  | .error _ => .ok (.obj [("result", .null)])

/-- `complete_effect_record`, with the exceptions that `_finalize_tool_effect`
swallows. -/
def completeEffectRecord (status : EffectStatus) (payload : Json) : Action Unit :=
  match call.completeCall status with
  | .error _ => pure ()
  | .ok () => modify (World.complete · status payload)

def finalizeFailed : Action Unit :=
  if gate.idempotent then completeEffectRecord call .failed .null else pure ()

def finalizeUnknown (detail : Option String) : Action Unit :=
  if gate.idempotent then
    completeEffectRecord call .unknown (unknownPayload ((detail.map Json.str).getD .null))
  else pure ()

def finalizeSuccess : Action Unit :=
  if gate.idempotent then do
    let payload ← Program.call
      ((successPayload deployment result).mapError fun error => .exception (dumpFailed error))
    completeEffectRecord call .success payload
  else pure ()

/-- `_check_tool_return` counts what does not marshal; it raises only where
`json.dumps` raises something else. -/
def checkToolReturn : Action Unit :=
  match result with
  | .dict _ =>
    match result.dumps deployment.room with
    | .error .nesting => raise (.exception (dumpFailed .nesting))
    | _ => pure ()
  | _ => pure ()

def assuranceOrder : List String :=
  ["insecure-dev", "container-grade-sandbox", "strong-sandbox-tier"]

/-- One more than the source's rank, with `0` for an unknown class. -/
def assuranceRank (name : String) : Nat :=
  if name ∈ assuranceOrder then assuranceOrder.idxOf name + 1 else 0

def isolationRefusal : Option Envelope :=
  match call.entry.isolation with
  | none => none
  | some declared =>
    if assuranceRank declared ≤ assuranceRank deployment.hostClass then none
    else
      some (.refusal ("tool " ++ quote call.entry.name ++ " requires isolation " ++ quote declared
        ++ "; this host provides " ++ quote deployment.hostClass ++ ". The tool was not executed.") (some "fatal"))

def notExecuted : Envelope :=
  { Envelope.refusal ("run " ++ call.runId ++ " was cancelled; tool " ++ quote call.entry.name
      ++ " not executed") (some "cancelled") with cancelled := true }

def Call.workerRequest : PyObject :=
  .dict [("tool_name", .str call.entry.name), ("args", .dict call.args), ("user_id", .str call.userId)]

def Call.outOfProcess : Except ToolError Envelope :=
  runToolOutOfProcess deployment.room deployment.workerRoom call.entry.name call.runId
    call.entry.gated call.worker

def recordIsolated (envelope : Envelope) : Action Unit :=
  if envelope.success then finalizeSuccess deployment call gate envelope.result
  else if envelope.failureClass = some "unknown" then finalizeUnknown call gate envelope.error
  else finalizeFailed call gate

def checkIsolated (envelope : Envelope) : Action Unit :=
  if envelope.success then checkToolReturn deployment envelope.result else pure ()

def runIsolated : Action Envelope := do
  let _ ← Program.call
    ((call.workerRequest.dumps deployment.room).mapError fun error => .exception (dumpFailed error))
  modify (World.later · call.seconds call.worker.returns)
  let envelope ← Program.call ((call.outOfProcess deployment).mapError .exception)
  recordIsolated deployment call gate envelope
  checkIsolated deployment envelope
  return envelope

def runInProcess : Action Envelope := do
  modify (World.later · call.seconds call.fn.returns)
  match call.fn with
  | .raised error => raise (.exception error)
  | .exited code => raise (.interrupt code)
  | .returned result =>
    checkToolReturn deployment result
    finalizeSuccess deployment call gate result
    return .answer result

def dispatch : Action Envelope :=
  match isolationRefusal deployment call with
  | some refusal => do
    finalizeFailed call gate
    return refusal
  | none =>
    if call.cancelled then do
      finalizeFailed call gate
      return notExecuted call
    else if call.isolated deployment then runIsolated deployment call gate
    else runInProcess deployment call gate

def recordRaised (error : ToolError) : Action Unit :=
  if declaredFailureClass error.failureClass = some "unknown" then
    finalizeUnknown call gate (some error.text)
  else finalizeFailed call gate

def dispatchFailed : Raised → Action Envelope
  | .interrupt code => raise (.interrupt code)
  | .exception error => do
    recordRaised call gate error
    return .refusal error.text (declaredFailureClass error.failureClass)

def executeTool : Action Envelope := do
  match ← openGate deployment call with
  | .answered envelope => return envelope
  | .through gate =>
    ensuring (attempt (dispatch deployment call gate) (dispatchFailed call gate))
      (World.release · gate)

end AindyRuntime.Tool
