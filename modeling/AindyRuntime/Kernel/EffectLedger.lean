import AindyRuntime.Data.Json
import AindyRuntime.Lib.UnitOfWork

/-! # The effect ledger

`kernel/effect_ledger.py` and the held outcomes of `kernel/syscall_outcome.py`:
the decisions taken on one `EffectRecord` row, as functions of the row that was
read.
-/

namespace AindyRuntime.EffectLedger

open UnitOfWork (writeBack)

inductive EffectStatus where
  | pending
  | success
  | failed
  | partialEffect
  | unknown
deriving DecidableEq, Repr

def EffectStatus.name : EffectStatus → String
  | .pending => "pending"
  | .success => "success"
  | .failed => "failed"
  | .partialEffect => "partial"
  | .unknown => "unknown"

structure EffectRecord where
  (actionType inputHash : String)
  executionId : Option String
  status : EffectStatus
  resultPayload : Json
  (tenantId sessionId : Option String)
  createdAt : Nat
  completedAt : Option Nat
deriving DecidableEq, Repr

structure Request where
  (actionType inputHash : String)
  (tenantId sessionId linkedExecutionId : Option String)
deriving DecidableEq, Repr

def stalePendingThresholdSeconds : Nat := 900

def heldKey : String := "__held_outcome__"

structure HeldOutcome where
  status : EffectStatus
  (data outcome : Json)
deriving DecidableEq, Repr

def heldOutcomeFromRecord (status : EffectStatus) (payload : Json) : HeldOutcome :=
  if payload.hasKey heldKey then
    ⟨status, payload.get "data", (payload.get heldKey).orElse .null⟩
  else ⟨status, payload, .null⟩

inductive Resolution where
  | replay (payload : Json)
  | held (outcome : HeldOutcome)
  | degraded
  | reclaim (assigned : EffectRecord)
deriving DecidableEq, Repr

variable (record : EffectRecord) (now : Nat)

def EffectRecord.live : Bool :=
  decide (now ≤ record.createdAt + stalePendingThresholdSeconds)

variable (request : Request)

def EffectRecord.reclaimed : EffectRecord :=
  { record with
    status := .pending
    completedAt := none
    createdAt := now
    tenantId := request.tenantId
    sessionId := request.sessionId
    executionId := record.executionId.or request.linkedExecutionId }

def resolveExistingRow (record : EffectRecord) : Resolution :=
  match record.status with
  | .success => .replay record.resultPayload
  | .partialEffect | .unknown => .held (heldOutcomeFromRecord record.status record.resultPayload)
  | .pending => if record.live now then .degraded else .reclaim (record.reclaimed now request)
  | .failed => .reclaim (record.reclaimed now request)

def reservedRow : EffectRecord where
  actionType := request.actionType
  inputHash := request.inputHash
  executionId := request.linkedExecutionId
  status := .pending
  resultPayload := .null
  tenantId := request.tenantId
  sessionId := request.sessionId
  createdAt := now
  completedAt := none

def EffectStatus.terminal : EffectStatus → Bool
  | .pending => false
  | _ => true

def notTerminal (actionId : String) (status : EffectStatus) : String :=
  "cannot complete effect '" ++ actionId ++ "' with status '" ++ status.name
    ++ "'. A completed effect must be one of ['failed', 'partial', 'success', 'unknown']"
    ++ " — 'pending' is the initial state, and returning a row to it "
    ++ "hides it from TTL cleanup and reads as a stuck handler."

def checkTerminal (actionId : String) (status : EffectStatus) : Except String Unit :=
  if status.terminal then .ok () else .error (notTerminal actionId status)

def EffectRecord.completed (status : EffectStatus) (resultPayload : Json) : EffectRecord :=
  { record with
    status
    resultPayload := if resultPayload.isDict then resultPayload else .null
    completedAt := some now }

def EffectStatus.reconcilable : EffectStatus → Bool
  | .success | .failed => true
  | _ => false

def EffectRecord.reconciled (status : EffectStatus) : EffectRecord :=
  { record with
    status
    resultPayload :=
      if status = .success then (heldOutcomeFromRecord record.status record.resultPayload).data
      else .null
    completedAt := some now }

def EffectRecord.commit (loaded assigned current : EffectRecord) : EffectRecord where
  actionType := writeBack loaded.actionType assigned.actionType current.actionType
  inputHash := writeBack loaded.inputHash assigned.inputHash current.inputHash
  executionId := writeBack loaded.executionId assigned.executionId current.executionId
  status := writeBack loaded.status assigned.status current.status
  resultPayload := writeBack loaded.resultPayload assigned.resultPayload current.resultPayload
  tenantId := writeBack loaded.tenantId assigned.tenantId current.tenantId
  sessionId := writeBack loaded.sessionId assigned.sessionId current.sessionId
  createdAt := writeBack loaded.createdAt assigned.createdAt current.createdAt
  completedAt := writeBack loaded.completedAt assigned.completedAt current.completedAt

variable {loaded record : EffectRecord} {now : Nat} {request : Request}

@[simp] theorem EffectRecord.commit_fresh : loaded.commit assigned loaded = assigned := by
  simp [EffectRecord.commit]

def EffectStatus.settled : EffectStatus → Bool
  | .success | .partialEffect | .unknown => true
  | .pending | .failed => false

def Resolution.answered : Resolution → Bool
  | .replay _ | .held _ => true
  | .degraded | .reclaim _ => false

/-- A row is answered without running the handler exactly when it is settled. -/
theorem resolveExistingRow_answered :
    (resolveExistingRow now request record).answered = record.status.settled := by
  cases live : record.live now <;> cases status : record.status <;>
    simp [resolveExistingRow, EffectStatus.settled, Resolution.answered, live, status]

theorem resolveExistingRow_degraded
    (degraded : resolveExistingRow now request record = .degraded) : record.status = .pending := by
  simp only [resolveExistingRow] at degraded
  cases status : record.status <;> simp_all

theorem resolveExistingRow_reclaim (reclaim : resolveExistingRow now request record = .reclaim assigned) :
    assigned = record.reclaimed now request := by
  simp only [resolveExistingRow] at reclaim
  cases status : record.status <;> simp only [status] at reclaim <;> grind

end AindyRuntime.EffectLedger
