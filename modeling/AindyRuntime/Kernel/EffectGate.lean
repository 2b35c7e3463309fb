import AindyRuntime.Kernel.EffectLedger
import AindyRuntime.Lib.StepSystem

/-! # Callers of the idempotency gate

`SyscallDispatcher._dispatch` around one `action_id`: any number of callers take
the advisory lock where they must, resolve the effect's row, run the handler and
complete the row.
-/

namespace AindyRuntime.EffectGate

open EffectLedger

structure Caller where
  request : Request
  (strict atMostOnce : Bool)
deriving DecidableEq, Repr

structure Deployment where
  actionId : String
  postgresql : Bool
  caller : Nat → Caller

inductive Reply where
  | refused
  | replayed (payload : Json)
  | held (outcome : HeldOutcome)
  | finished
  | raised (message : String)
  | crashed
deriving DecidableEq, Repr

/-- Where a caller stands.  `gated` tells whether the caller still has a ledger
session: without one it runs the handler and completes nothing. -/
inductive Phase where
  | idle
  | entered
  | selected (found : Option EffectRecord)
  | conflicted
  | admitted (gated : Bool)
  | handling (gated : Bool)
  | ran (gated : Bool) (status : EffectStatus) (payload : Json)
  | completing (status : EffectStatus) (payload : Json) (loaded : EffectRecord)
  | reconciling (status : EffectStatus) (loaded : EffectRecord)
  | left (reply : Reply)
deriving DecidableEq, Repr

structure Ledger where
  now : Nat
  row : Option EffectRecord
  lock : Option Nat
  phases : Nat → Phase
  handlerRuns : List Nat

inductive Action where
  | tick (seconds : Nat)
  | enter (caller : Nat)
  | lockTimeout (caller : Nat)
  | gateFails (caller : Nat)
  | select (caller : Nat)
  | insert (caller : Nat)
  | resolve (caller : Nat)
  | refuseEnded (caller : Nat)
  | startHandler (caller : Nat)
  | finishHandler (caller : Nat) (status : EffectStatus) (payload : Json)
  | completeSelect (caller : Nat)
  | completeCommit (caller : Nat)
  | crash (caller : Nat)
  | reconcileSelect (operator : Nat) (status : EffectStatus)
  | reconcileCommit (operator : Nat)
deriving DecidableEq, Repr

namespace Ledger

variable (ledger : Ledger) (caller : Nat)

def goto (phase : Phase) : Ledger :=
  { ledger with phases := fun other => if other = caller then phase else ledger.phases other }

def release : Ledger :=
  { ledger with lock := if ledger.lock = some caller then none else ledger.lock }

def leave (reply : Reply) : Ledger :=
  (ledger.goto caller (.left reply)).release caller

def store (record : EffectRecord) : Ledger := { ledger with row := some record }

variable {ledger : Ledger} {caller : Nat}

@[simp] theorem goto_row : (ledger.goto caller phase).row = ledger.row := rfl
@[simp] theorem goto_phases :
    (ledger.goto caller phase).phases other =
      if other = caller then phase else ledger.phases other := rfl
@[simp] theorem leave_row : (ledger.leave caller reply).row = ledger.row := rfl
@[simp] theorem leave_lock :
    (ledger.leave caller reply).lock = if ledger.lock = some caller then none else ledger.lock := rfl
@[simp] theorem leave_phases :
    (ledger.leave caller reply).phases other =
      if other = caller then .left reply else ledger.phases other := rfl
@[simp] theorem store_row : (ledger.store record).row = some record := rfl
end Ledger

def Caller.locks (caller : Caller) : Bool := caller.strict || caller.atMostOnce

variable (deployment : Deployment) (ledger : Ledger) (caller : Nat)

/-- A caller enters the gate.  With the lock held by another caller it keeps
polling, so the action is not enabled. -/
def enter : Option Ledger :=
  match ledger.phases caller with
  | .idle =>
    if (deployment.caller caller).locks && deployment.postgresql then
      if ledger.lock = none then
        some { ledger.goto caller .entered with lock := some caller }
      else none
    else some (ledger.goto caller .entered)
  | _ => none

def lockTimeout : Option Ledger :=
  match ledger.phases caller with
  | .idle =>
    if (deployment.caller caller).locks && deployment.postgresql then
      if (deployment.caller caller).atMostOnce then some (ledger.leave caller .refused)
      else some (ledger.goto caller .entered)
    else none
  | _ => none

/-- A call of the gate raises: an at-most-once call is refused, any other one goes
on without a ledger session. -/
def degrade : Ledger :=
  if (deployment.caller caller).atMostOnce then ledger.leave caller .refused
  else (ledger.goto caller (.admitted false)).release caller

/-- A session, the lock, a query or a commit of the gate fails before the row is written. -/
def gateFails : Option Ledger :=
  match ledger.phases caller with
  | .idle | .entered | .selected _ | .conflicted => some (degrade deployment ledger caller)
  | _ => none

/-- The opening query, or the query after a lost insert race.  A row that is
gone by then is re-raised, which ends the gate but not the syscall. -/
def select : Option Ledger :=
  match ledger.phases caller with
  | .entered => some (ledger.goto caller (.selected ledger.row))
  | .conflicted =>
    match ledger.row with
    | some record => some (ledger.goto caller (.selected (some record)))
    | none => some (degrade deployment ledger caller)
  | _ => none

def insert : Option Ledger :=
  match ledger.phases caller with
  | .selected none =>
    match ledger.row with
    | none =>
      some ((ledger.store (reservedRow ledger.now (deployment.caller caller).request)).goto
        caller (.admitted true))
    | some _ => some (ledger.goto caller .conflicted)
  | _ => none

def resolve : Option Ledger :=
  match ledger.phases caller with
  | .selected (some loaded) =>
    match resolveExistingRow ledger.now (deployment.caller caller).request loaded with
    | .replay payload => some (ledger.leave caller (.replayed payload))
    | .held outcome => some (ledger.leave caller (.held outcome))
    | .degraded =>
      if (deployment.caller caller).atMostOnce then some (ledger.leave caller .refused)
      else some (ledger.goto caller (.admitted true))
    | .reclaim assigned =>
      ledger.row.map fun current =>
        (ledger.store (loaded.commit assigned current)).goto caller (.admitted true)
  | _ => none

def refuseEnded : Option Ledger :=
  match ledger.phases caller with
  | .admitted true => some (ledger.goto caller (.ran true .failed .null))
  | .admitted false => some (ledger.leave caller .refused)
  | _ => none

def startHandler : Option Ledger :=
  match ledger.phases caller with
  | .admitted gated =>
    some { ledger.goto caller (.handling gated) with handlerRuns := caller :: ledger.handlerRuns }
  | _ => none

def finishHandler (status : EffectStatus) (payload : Json) : Option Ledger :=
  match ledger.phases caller with
  | .handling gated => some (ledger.goto caller (.ran gated status payload))
  | _ => none

def completeSelect : Option Ledger :=
  match ledger.phases caller with
  | .ran true status payload =>
    match checkTerminal deployment.actionId status with
    | .error message => some (ledger.leave caller (.raised message))
    | .ok () =>
      match ledger.row with
      | some record => some (ledger.goto caller (.completing status payload record))
      | none => some (ledger.leave caller .finished)
  | .ran false _ _ => some (ledger.leave caller .finished)
  | _ => none

def completeCommit : Option Ledger :=
  match ledger.phases caller with
  | .completing status payload loaded =>
    ledger.row.map fun current =>
      (ledger.store (loaded.commit (loaded.completed ledger.now status payload) current)).leave
        caller .finished
  | _ => none

def crash : Option Ledger := some (ledger.leave caller .crashed)

def reconcileSelect (operator : Nat) (status : EffectStatus) : Option Ledger :=
  match ledger.phases operator, ledger.row with
  | .idle, some record =>
    if status.reconcilable && decide (record.status = .unknown) then
      some (ledger.goto operator (.reconciling status record))
    else none
  | _, _ => none

def reconcileCommit (operator : Nat) : Option Ledger :=
  match ledger.phases operator with
  | .reconciling status loaded =>
    ledger.row.map fun current =>
      (ledger.store (loaded.commit (loaded.reconciled ledger.now status) current)).leave
        operator .finished
  | _ => none

def step : Action → Option Ledger
  | .tick seconds => some { ledger with now := ledger.now + seconds }
  | .enter caller => enter deployment ledger caller
  | .lockTimeout caller => lockTimeout deployment ledger caller
  | .gateFails caller => gateFails deployment ledger caller
  | .select caller => select deployment ledger caller
  | .insert caller => insert deployment ledger caller
  | .resolve caller => resolve deployment ledger caller
  | .refuseEnded caller => refuseEnded ledger caller
  | .startHandler caller => startHandler ledger caller
  | .finishHandler caller status payload => finishHandler ledger caller status payload
  | .completeSelect caller => completeSelect deployment ledger caller
  | .completeCommit caller => completeCommit ledger caller
  | .crash caller => crash ledger caller
  | .reconcileSelect operator status => reconcileSelect ledger operator status
  | .reconcileCommit operator => reconcileCommit ledger operator

def system : StepSystem Ledger Action := ⟨step deployment⟩

end AindyRuntime.EffectGate
