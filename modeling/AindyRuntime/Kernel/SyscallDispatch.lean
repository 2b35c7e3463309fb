import AindyRuntime.Kernel.SyscallOutcome
import AindyRuntime.Kernel.SyscallVersioning
import AindyRuntime.Lib.Program

/-! # One dispatch through the idempotency gate

`SyscallDispatcher.dispatch` from the gate on (steps 2f to 6 of `_dispatch`), as
a program over the ledger's table, the advisory locks and the open sessions.
-/

namespace AindyRuntime.Syscall

open EffectLedger Program
open PyObject (DumpError)

inductive Guarantee where
  | atLeastOnce
  | exactlyOnce
  | atMostOnce
deriving DecidableEq, Repr

structure SyscallEntry where
  guarantee : Guarantee
  outputSchema : PyEntries
  (stable deprecated : Bool)
  (deprecatedSince replacement : Option String)

inductive Raised where
  | exception (error : PyError)
  | circuitOpen (text : String)
  | contractViolation (text : String)
  | interrupt (text : String)
deriving DecidableEq, Repr

def Raised.text : Raised → String
  | .exception error => error.text
  | .circuitOpen text | .contractViolation text | .interrupt text => text

structure LedgerError where
  (className text : String)
deriving DecidableEq, Repr

def LedgerError.raised (error : LedgerError) : Raised := .exception ⟨.other, error.text⟩

def dumpFailed (error : DumpError) : Raised := .exception error.error

/-- How the handler exits; `unobserved` is `EffectOutcomeUnknown`. -/
inductive HandlerExit where
  | returned (value : PyObject)
  | unobserved (detail : PyObject) (units : List PyObject)
  | raised (raised : Raised)

structure Deployment where
  (postgresql idempotency strict : Bool)
  digest : Json → String
  scopeEngages : String → Bool
  substringClass : String → Option String
  (reprRoom dumpsRoom : Nat)

structure Invocation where
  (name version : String)
  entry : SyscallEntry
  payload : PyEntries
  (userId traceId executionUnitId originalUnitId : String)
  (ambientTenant ambientSession linkedExecutionId : Option String)
  durable : Bool
  ended : Option (String × String)
  handler : HandlerExit
  seconds : Nat
  (lockCall resolveCall completeCall : Except LedgerError Unit)

structure Envelope where
  status : EnvelopeStatus
  (data outcome : PyObject)
  (traceId executionUnitId syscall version : String)
  (error warning failureClass : Option String)

structure World where
  now : Nat
  table : String → Option EffectRecord
  locks : String → Bool
  (sessions handlerRuns : Nat)

structure Gate where
  actionId : String
  locked : Bool
deriving DecidableEq, Repr

namespace World

variable (world : World) (key : String)

def store (record : EffectRecord) : World :=
  { world with table := fun other => if other = key then some record else world.table other }

def setLock (held : Bool) : World :=
  { world with locks := fun other => if other = key then held else world.locks other }

def openSession : World := { world with sessions := world.sessions + 1 }

def closeSession : World := { world with sessions := world.sessions - 1 }

def later (seconds : Nat) : World := { world with now := world.now + seconds }

def handle (seconds : Nat) : World :=
  { world with now := world.now + seconds, handlerRuns := world.handlerRuns + 1 }

def complete (status : EffectStatus) (payload : Json) : World :=
  match world.table key with
  | some record => world.store key (record.completed world.now status payload)
  | none => world

def take (gate : Gate) : World :=
  if gate.locked then world.setLock gate.actionId true else world

def leave (gate : Gate) : World :=
  (if gate.locked then world.setLock gate.actionId false else world).closeSession

variable {world : World} {key : String}

theorem complete_table {record : EffectRecord} (present : world.table key = some record) :
    (world.complete key status payload).table key =
      some (record.completed world.now status payload) := by
  simp [complete, present, store]

@[simp] theorem complete_locks : (world.complete key status payload).locks = world.locks := by
  simp only [complete]
  split <;> rfl

@[simp] theorem complete_sessions : (world.complete key status payload).sessions = world.sessions := by
  simp only [complete]
  split <;> rfl

@[simp] theorem complete_handlerRuns : (world.complete key status payload).handlerRuns = world.handlerRuns := by
  simp only [complete]
  split <;> rfl

@[simp] theorem leave_now : (world.leave gate).now = world.now := by
  simp only [leave]
  split <;> rfl

@[simp] theorem leave_table : (world.leave gate).table = world.table := by
  simp only [leave]
  split <;> rfl

@[simp] theorem leave_locks :
    (world.leave gate).locks gate.actionId = (!gate.locked && world.locks gate.actionId) := by
  cases locked : gate.locked <;> simp [leave, locked, setLock, closeSession]

@[simp] theorem leave_sessions : (world.leave gate).sessions = world.sessions - 1 := by
  simp only [leave]
  split <;> rfl

@[simp] theorem leave_handlerRuns : (world.leave gate).handlerRuns = world.handlerRuns := by
  simp only [leave]
  split <;> rfl

@[simp] theorem take_table : (world.take gate).table = world.table := by
  simp only [take]
  split <;> rfl

@[simp] theorem take_handlerRuns : (world.take gate).handlerRuns = world.handlerRuns := by
  simp only [take]
  split <;> rfl

end World

variable (deployment : Deployment) (invocation : Invocation)

def Invocation.atMostOnce : Bool := decide (invocation.entry.guarantee = .atMostOnce)

def Invocation.engages : Bool :=
  (decide (invocation.entry.guarantee ≠ .atLeastOnce) || invocation.durable)
    && decide (invocation.originalUnitId ≠ "")
    && deployment.scopeEngages invocation.executionUnitId
    && (deployment.idempotency || invocation.durable || invocation.atMostOnce)

/-- What `compute_action_id` dumps; the digest is SHA-256 over the sorted dump. -/
def Invocation.canonical : Except DumpError Json :=
  PyObject.dumps deployment.dumpsRoom (.dict [("action_type", .str invocation.name),
    ("input", .dict invocation.payload), ("scope", .str invocation.executionUnitId)])

def Invocation.computeActionId : Except DumpError String :=
  (invocation.canonical deployment).map deployment.digest

def Invocation.request (input : Json) : Request where
  actionType := invocation.name
  inputHash := deployment.digest input
  tenantId := if invocation.userId = "" then invocation.ambientTenant else some invocation.userId
  sessionId := invocation.ambientSession
  linkedExecutionId := invocation.linkedExecutionId

def deprecationWarning : Option String :=
  if invocation.entry.deprecated then
    some (String.intercalate " " (["Syscall '" ++ invocation.name ++ "' is deprecated"]
        ++ ((truthy invocation.entry.deprecatedSince).map fun since => "since " ++ since).toList
        ++ ((truthy invocation.entry.replacement).map fun name =>
            "â€” use '" ++ name ++ "' instead").toList) ++ ".")
  else none
where
  truthy : Option String → Option String
    | some text => if text = "" then none else some text
    | none => none

def failureClass (message : String) (declared : Option String) : String :=
  declared.getD ((deployment.substringClass message).getD "transient")

def errorEnvelope (version message : String) (declared : Option String) : Envelope where
  status := .error
  data := .dict []
  outcome := .null
  traceId := invocation.traceId
  executionUnitId := invocation.executionUnitId
  syscall := invocation.name
  version := version
  error := some message
  warning := none
  failureClass := some (failureClass deployment message declared)

def refusal (message declared : String) : Envelope :=
  errorEnvelope deployment invocation invocation.version message (some declared)

def answer (status : EnvelopeStatus) (data outcome : PyObject) : Envelope where
  status := status
  data := data
  outcome := outcome
  traceId := invocation.traceId
  executionUnitId := invocation.executionUnitId
  syscall := invocation.name
  version := invocation.version
  error := none
  warning := none
  failureClass := if status = .unknown then some "unknown" else none

def replayEnvelope (payload : Json) : Envelope :=
  answer invocation .success (.ofJson (payload.orElse (.obj []))) .null

def EnvelopeStatus.ofHeld (held : HeldOutcome) : EnvelopeStatus :=
  if held.status = .unknown then .unknown else .partialEffect

def heldEnvelope (held : HeldOutcome) : Except PyError Envelope := do
  let outcome ← envelopeOutcome held
  return answer invocation (.ofHeld held)
    (if held.data.isDict then .ofJson held.data else .dict []) outcome

def resultEnvelope (data : PyEntries) (resolved : ResolvedOutcome) : Envelope :=
  { answer invocation resolved.status (.dict data) resolved.outcome with
    warning := deprecationWarning invocation }

abbrev Action (Value : Type) : Type := Program Raised World Value

inductive LockState where
  | notAsked
  | unsupported
  | acquired
  | timeout
deriving DecidableEq, Repr

inductive Opening where
  | answered (envelope : Envelope)
  | through (gate : Option Gate)

def acquireLock (key : String) (world : World) : Except LedgerError LockState := do
  if !(deployment.strict || invocation.atMostOnce) then return .notAsked
  else if !deployment.postgresql then return .unsupported
  else
    invocation.lockCall
    return if world.locks key then .timeout else .acquired

def gateFailed (gate : Gate) (error : LedgerError) : Action Opening := do
  modify (World.leave · gate)
  if invocation.atMostOnce then
    return .answered (refusal deployment invocation
      ("AT_MOST_ONCE syscall '" ++ invocation.name ++ "' refused: the effect gate failed ("
        ++ error.className ++ "); it was not dispatched") "transient")
  else return .through none

def resolveRow (gate : Gate) (request : Request) : Action Opening := do
  let world ← read
  match world.table gate.actionId with
  | none =>
    modify (World.store · gate.actionId (reservedRow world.now request))
    return .through (some gate)
  | some record =>
    match resolveExistingRow world.now request record with
    | .reclaim assigned =>
      modify (World.store · gate.actionId assigned)
      return .through (some gate)
    | .degraded =>
      if invocation.atMostOnce then
        modify (World.leave · gate)
        return .answered (refusal deployment invocation
          ("AT_MOST_ONCE syscall '" ++ invocation.name ++ "' refused: a concurrent call is "
            ++ "dispatching this effect; it was not dispatched again") "transient")
      else return .through (some gate)
    | .replay payload =>
      modify (World.leave · gate)
      return .answered (replayEnvelope invocation payload)
    | .held held =>
      modify (World.leave · gate)
      return .answered (← call ((heldEnvelope invocation held).mapError .exception))

def enterGate (key : String) (request : Request) : Action Opening := do
  modify World.openSession
  let world ← read
  match acquireLock deployment invocation key world with
  | .error error => gateFailed deployment invocation ⟨key, false⟩ error
  | .ok state =>
    if state = .timeout ∧ invocation.atMostOnce = true then
      modify World.closeSession
      return .answered (refusal deployment invocation
        ("AT_MOST_ONCE syscall '" ++ invocation.name ++ "' refused: another call holds this "
          ++ "effect's lock; it was not dispatched") "transient")
    else
      let gate : Gate := ⟨key, decide (state = .acquired)⟩
      modify (World.take · gate)
      match invocation.resolveCall with
      | .error error => gateFailed deployment invocation gate error
      | .ok () => resolveRow deployment invocation gate request

def openGate : Action Opening :=
  if invocation.engages deployment then do
    let canonical ← call ((invocation.canonical deployment).mapError dumpFailed)
    enterGate deployment invocation (deployment.digest canonical)
      (invocation.request deployment (canonical.get "input"))
  else return .through none

def completeEffectRecord (key : String) (status : EffectStatus) (payload : Json) : Action Unit := do
  call ((checkTerminal key status).mapError fun text => .exception ⟨.value, text⟩)
  call (invocation.completeCall.mapError LedgerError.raised)
  modify (World.complete · key status payload)

variable (gate : Option Gate)

def finish (status : EffectStatus) : Action Unit :=
  match gate with
  | none => pure ()
  | some gate => do
    completeEffectRecord invocation gate.actionId status .null
    modify (World.leave · gate)

def refuseEnded (run status : String) : Action Envelope := do
  finish invocation gate .failed
  if status = "cancelled" then
    return refusal deployment invocation
      ("run " ++ run ++ " was cancelled; syscall '" ++ invocation.name ++ "' not executed") "cancelled"
  else
    return refusal deployment invocation
      ("run " ++ run ++ " is " ++ status ++ "; authority ended with the run — syscall '"
        ++ invocation.name ++ "' not executed") "permission"

def handlerFailed (raised : Raised) : Action Envelope := do
  finish invocation gate .failed
  match raised with
  | .circuitOpen text => return refusal deployment invocation ("HTTP_503:" ++ text) "transient"
  | raised => return errorEnvelope deployment invocation invocation.version raised.text none

def rejectValue (value : PyObject) : Action Envelope := do
  finish invocation gate .failed
  match gate with
  | some gate =>
    raise (.contractViolation ("EXACTLY_ONCE handler '" ++ invocation.name ++ "' returned "
      ++ value.typeName ++ ", expected dict (action_id=" ++ gate.actionId ++ ")"))
  | none =>
    return refusal deployment invocation ("Syscall handler contract violation: '" ++ invocation.name
      ++ "' returned " ++ value.typeName ++ ", expected dict") "fatal"

variable (data : PyEntries) (resolved : ResolvedOutcome)

def gatePayload : PyObject :=
  if resolved.ledgerStatus = .partialEffect ∨ resolved.ledgerStatus = .unknown then
    heldRecordPayload data resolved.outcome
  else .dict data

def recordedPayload : Except DumpError Json :=
  match PyObject.dumps deployment.dumpsRoom (gatePayload data resolved) with
  | .ok payload => .ok payload
  | .error .nesting => .error .nesting
  | .error _ => .ok .null

def record : Action Unit :=
  match gate with
  | none => pure ()
  | some gate => do
    let payload ← call ((recordedPayload deployment data resolved).mapError dumpFailed)
    attempt (completeEffectRecord invocation gate.actionId resolved.ledgerStatus payload)
      fun _ => pure ()
    modify (World.leave · gate)

def outputErrors : Except PyError (List String) :=
  if invocation.entry.outputSchema ≠ [] ∧ resolved.status ≠ .unknown then
    validateOutput deployment.reprRoom invocation.entry.outputSchema data
  else .ok []

def conclude (returned : PyEntries) : Action Envelope := do
  let (data, resolved) ← call
    ((resolveOutcome deployment.reprRoom returned).mapError .exception)
  match resolved.refusal with
  | some reason =>
    finish invocation gate resolved.ledgerStatus
    return refusal deployment invocation
      ("Syscall handler outcome contract violation: " ++ reason) "fatal"
  | none =>
    let errors ← call ((outputErrors deployment invocation data resolved).mapError .exception)
    if errors ≠ [] ∧ invocation.entry.stable = true then
      finish invocation gate .failed
      return refusal deployment invocation ("Stable syscall output validation failed for '"
        ++ invocation.name ++ "': " ++ String.intercalate "; " errors) "fatal"
    else
      record deployment invocation gate data resolved
      return resultEnvelope invocation data resolved

def runHandler : Action Envelope := do
  modify (World.handle · invocation.seconds)
  match invocation.handler with
  | .raised (.interrupt text) => raise (.interrupt text)
  | .raised raised => handlerFailed deployment invocation gate raised
  | .unobserved detail units => conclude deployment invocation gate [(outcomeKey, unknownClaim detail units)]
  | .returned (.dict entries) => conclude deployment invocation gate entries
  | .returned value => rejectValue deployment invocation gate value

def afterGate : Action Envelope :=
  match invocation.ended with
  | some (run, status) => refuseEnded deployment invocation gate run status
  | none => runHandler deployment invocation gate

def dispatchInner : Action Envelope := do
  match ← openGate deployment invocation with
  | .answered envelope => return envelope
  | .through gate => afterGate deployment invocation gate

def rescue (raised : Raised) : Action Envelope :=
  match raised with
  | .contractViolation _ | .interrupt _ => raise raised
  | raised => return errorEnvelope deployment invocation "unknown" raised.text none

def dispatch : Action Envelope :=
  attempt (dispatchInner deployment invocation) (rescue deployment invocation)

end AindyRuntime.Syscall
