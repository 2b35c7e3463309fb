import AindyRuntime.Lib.Dict
import AindyRuntime.Lib.StepSystem
import AindyRuntime.Scheduler.Queue

/-! # Registered waits

`kernel/scheduler/waits.py`, `cross_instance.py` and `persistence.py`.
-/

namespace AindyRuntime.Scheduler

inductive WaitType where
  | event
  | time
  | external
  | other
deriving DecidableEq, Repr

structure WaitCondition where
  type : WaitType
  eventName : Option String
  triggerAt : Option Int
deriving DecidableEq, Repr

def given (text : Option String) : Option String := text.filter (· ≠ "")

def correlationAdmits (waitCorrelation emitCorrelation : Option String) (runScoped : Bool) : Bool :=
  runScoped ||
    match given waitCorrelation, given emitCorrelation with
    | some wait, some emit => wait == emit
    | _, _ => true

structure WaitEntry where
  (waitFor tenantId euId : String)
  priority : Priority
  correlationId : Option String
  euType : String
  waitCondition : WaitCondition
deriving DecidableEq, Repr

def WaitCondition.forEvent (waitForEvent : String) : WaitCondition := ⟨.event, some waitForEvent, none⟩

namespace WaitEntry

def eventName (entry : WaitEntry) : String := (given entry.waitCondition.eventName).getD entry.waitFor

def awaitsEvent (entry : WaitEntry) : Bool :=
  entry.waitCondition.type = .event || entry.waitCondition.type = .external

end WaitEntry

def timeWait : String := "__time_wait__"

structure WaitingFlowRun where
  eventType : String
  correlationId : Option String
  timeoutAt : Option Int
  euId : Option String
  priority : Priority
deriving DecidableEq, Repr

/-- The row that `_persist_wait_backup` writes, next to a flow run with this `wait_deadline`. -/
def WaitEntry.waitingFlowRun (entry : WaitEntry) (waitDeadline : Option Int) : WaitingFlowRun where
  eventType := (given (some entry.eventName)).getD timeWait
  correlationId := entry.correlationId
  timeoutAt := entry.waitCondition.triggerAt.or waitDeadline
  euId := some entry.euId
  priority := entry.priority

structure ResumeSpec where
  (handler euId tenantId runId : String)
  euType : Option String
deriving DecidableEq, Repr

def resumeHandlerEu : String := "execution_unit.resume"

def ResumeSpec.builds (spec : ResumeSpec) : Bool := spec.handler = resumeHandlerEu

def WaitEntry.resumeSpec (entry : WaitEntry) (runId : String) : ResumeSpec :=
  ⟨resumeHandlerEu, entry.euId, entry.tenantId, runId, some entry.euType⟩

structure Notification where
  eventType : String
  (correlationId runId : Option String)
deriving DecidableEq, Repr

namespace Notification

variable (notification : Notification) (runId : String)

def inScope : Bool :=
  match notification.runId with
  | none => true
  | some target => target = runId

def admits (correlationId : Option String) : Bool :=
  correlationAdmits correlationId notification.correlationId notification.runId.isSome

def wakes (entry : WaitEntry) : Bool :=
  notification.inScope runId &&
    entry.waitCondition.type ≠ .time &&
    (match given entry.waitCondition.eventName with
      | some name => entry.awaitsEvent && name = notification.eventType
      | none => entry.waitFor = notification.eventType) &&
    notification.admits entry.correlationId

def wakesRow (row : WaitingFlowRun) : Bool :=
  notification.inScope runId && row.eventType = notification.eventType && notification.admits row.correlationId

end Notification

def WaitEntry.due (entry : WaitEntry) (now : Int) : Bool :=
  entry.waitCondition.type = .time &&
    match entry.waitCondition.triggerAt with
    | none => false
    | some trigger => trigger ≤ now

def WaitingFlowRun.due (row : WaitingFlowRun) (now : Int) : Bool :=
  match row.timeoutAt with
  | none => false
  | some timeout => timeout ≤ now

structure Instance where
  scheduler : SchedulerEngine
  waiting : Dict String WaitEntry
  rehydrationComplete : Bool
  preRehydrationBuffer : List Notification
  /-- What `mark_rehydration_complete` has taken from the buffer and not notified yet. -/
  replaying : List Notification

def maxPreRehydrationBuffer : Nat := 1000

inductive Cause where
  | notified (notification : Notification)
  | ticked (now : Int)
deriving DecidableEq, Repr

structure Wake where
  (instanceId runId : String)
  cause : Cause
deriving DecidableEq, Repr

structure Reach where
  (redis database : Bool)

/-- The instances and what they share, where the wait of each run is the one that `waits` gives. -/
structure Cluster (waits : String → WaitEntry) where
  instances : String → Instance
  redis : Dict String ResumeSpec
  backups : Dict String WaitingFlowRun
  wakes : List Wake
  registered : ∀ {instanceId runId entry}, (instances instanceId).waiting.get? runId = some entry →
    entry = waits runId
  backedUp : ∀ {runId row}, backups.get? runId = some row →
    ∃ waitDeadline, row = (waits runId).waitingFlowRun waitDeadline

def resumeItem (runId euId tenantId euType : String) (priority : Priority) : ScheduledItem where
  executionUnitId := euId
  tenantId := (given (some tenantId)).getD "system"
  priority
  runId := some runId
  euType
  enqueuedAtSeq := 0
  retryCount := 0
  maxRetries := 2

namespace Cluster

variable (cluster : Cluster waits) (instanceId : String)

def withInstance (changed : Instance)
    (registered : ∀ {runId entry}, changed.waiting.get? runId = some entry → entry = waits runId) :
    Cluster waits :=
  { cluster with
    instances := Function.update cluster.instances instanceId changed
    registered := by
      intro other runId entry found
      by_cases same : other = instanceId
      · subst same
        rw [Function.update_self] at found
        exact registered found
      · rw [Function.update_of_ne same] at found
        exact cluster.registered found }

def enqueueResume (item : ScheduledItem) (runId : String) (cause : Cause) : Cluster waits :=
  { cluster.withInstance instanceId
      { cluster.instances instanceId with scheduler := (cluster.instances instanceId).scheduler.enqueue item }
      cluster.registered with
    wakes := cluster.wakes ++ [⟨instanceId, runId, cause⟩] }

def forget (instanceId runId : String) : Cluster waits :=
  cluster.withInstance instanceId
    { cluster.instances instanceId with waiting := (cluster.instances instanceId).waiting.erase runId } <| by
    intro other entry found
    rw [Dict.get?_erase] at found
    split at found
    · cases found
    · exact cluster.registered found

variable (reach : Reach) (runId : String)

def unregisterRedisWait : Cluster waits :=
  if reach.redis then { cluster with redis := cluster.redis.erase runId } else cluster

def deleteWaitBackup : Cluster waits :=
  if reach.database then
    { cluster with
      backups := cluster.backups.erase runId
      backedUp := by
        intro other row found
        rw [Dict.get?_erase] at found
        split at found
        · cases found
        · exact cluster.backedUp found }
  else cluster

def wakeLocal (cause : Cause) (cluster : Cluster waits) (wait : String × WaitEntry) : Cluster waits :=
  let item := resumeItem wait.1 wait.2.euId wait.2.tenantId wait.2.euType wait.2.priority
  (((cluster.forget instanceId wait.1).unregisterRedisWait reach wait.1).enqueueResume instanceId item wait.1
    cause).deleteWaitBackup reach wait.1

def loadWaitEntry : Option WaitingFlowRun :=
  if reach.database then cluster.backups.get? runId else none

variable (notification : Notification)

def crossResumeSpec (skipRunIds : List String)
    (cluster : Cluster waits) (found : String × ResumeSpec) : Cluster waits :=
  let (runId, spec) := found
  if runId ∈ skipRunIds ∨ (cluster.instances instanceId).waiting.contains runId then cluster
  else
    match cluster.loadWaitEntry reach runId with
    | none => cluster
    | some row =>
      if notification.wakesRow runId row && spec.builds && cluster.redis.contains runId then
        let item := resumeItem runId ((given row.euId).getD spec.euId) spec.tenantId
          ((given spec.euType).getD "flow") row.priority
        (cluster.unregisterRedisWait reach runId).enqueueResume instanceId item runId (.notified notification)
      else cluster

def crossInstanceResume (skipRunIds : List String) (cluster : Cluster waits) : Cluster waits :=
  if reach.redis then
    cluster.redis.entries.foldl (crossResumeSpec instanceId reach notification skipRunIds) cluster
  else cluster

/-- One spec of the loop in `_cross_instance_tick`; here the spec is claimed before its callback is built. -/
def crossTickSpec (now : Int) (cluster : Cluster waits) (found : String × ResumeSpec) : Cluster waits :=
  let (runId, spec) := found
  if (cluster.instances instanceId).waiting.contains runId then cluster
  else
    match cluster.loadWaitEntry reach runId with
    | none => cluster
    | some row =>
      if row.due now && cluster.redis.contains runId then
        let claimed := cluster.unregisterRedisWait reach runId
        if spec.builds then
          let item := resumeItem runId ((given row.euId).getD runId) spec.tenantId
            ((given spec.euType).getD "flow") row.priority
          (claimed.enqueueResume instanceId item runId (.ticked now)).deleteWaitBackup reach runId
        else claimed
      else cluster

def crossInstanceTick (now : Int) (cluster : Cluster waits) : Cluster waits :=
  if reach.redis then cluster.redis.entries.foldl (crossTickSpec instanceId reach now) cluster else cluster

def toResume : List (String × WaitEntry) :=
  (cluster.instances instanceId).waiting.entries.filter fun wait => notification.wakes wait.1 wait.2

def deliver : Cluster waits :=
  let woken := cluster.toResume instanceId notification
  (woken.foldl (wakeLocal instanceId reach (.notified notification)) cluster).crossInstanceResume instanceId reach
    notification (woken.map Prod.fst)

def bufferEvent : Cluster waits :=
  let buffer := (cluster.instances instanceId).preRehydrationBuffer
  if maxPreRehydrationBuffer ≤ buffer.length then cluster
  else
    cluster.withInstance instanceId
      { cluster.instances instanceId with preRehydrationBuffer := buffer ++ [notification] } cluster.registered

def notifyEvent : Cluster waits :=
  if (cluster.instances instanceId).rehydrationComplete then cluster.deliver instanceId reach notification
  else cluster.bufferEvent instanceId notification

def toFire (now : Int) : List (String × WaitEntry) :=
  (cluster.instances instanceId).waiting.entries.filter fun wait => wait.2.due now

def tickTimeWaits (now : Int) : Cluster waits :=
  ((cluster.toFire instanceId now).foldl (wakeLocal instanceId reach (.ticked now)) cluster).crossInstanceTick
    instanceId reach now

def persistWaitBackup (flowRun : Option (Option Int)) : Cluster waits :=
  if (waits runId).euType = "flow" ∧ reach.database = true then
    match flowRun with
    | none => cluster
    | some waitDeadline =>
      { cluster with
        backups := cluster.backups.set runId ((waits runId).waitingFlowRun waitDeadline)
        backedUp := by
          intro other row found
          rw [Dict.get?_set] at found
          split at found
          case isTrue same =>
            subst same
            cases found
            exact ⟨waitDeadline, rfl⟩
          · exact cluster.backedUp found }
  else cluster

def registerWait (flowRun : Option (Option Int)) : Cluster waits :=
  let held := cluster.withInstance instanceId
    { cluster.instances instanceId with
      waiting := (cluster.instances instanceId).waiting.set runId (waits runId) } <| by
    intro other entry found
    rw [Dict.get?_set] at found
    split at found
    case isTrue same =>
      subst same
      cases found
      rfl
    · exact cluster.registered found
  let noted :=
    if reach.redis then { held with redis := held.redis.set runId ((waits runId).resumeSpec runId) } else held
  noted.persistWaitBackup reach runId flowRun

def markRehydrationComplete : Cluster waits :=
  let engine := cluster.instances instanceId
  cluster.withInstance instanceId
    { engine with
      rehydrationComplete := true
      preRehydrationBuffer := []
      replaying := engine.replaying ++ engine.preRehydrationBuffer } cluster.registered

def replay (rest : List Notification) : Cluster waits :=
  (cluster.withInstance instanceId { cluster.instances instanceId with replaying := rest }
    cluster.registered).notifyEvent instanceId reach notification

end Cluster

inductive WaitAction where
  | register (instanceId : String) (reach : Reach) (runId : String) (flowRun : Option (Option Int))
  | notify (instanceId : String) (reach : Reach) (notification : Notification)
  | tick (instanceId : String) (reach : Reach) (now : Int)
  | crossTick (instanceId : String) (reach : Reach) (now : Int)
  | rehydrated (instanceId : String)
  | replay (instanceId : String) (reach : Reach)

def waitLife (waits : String → WaitEntry) : StepSystem (Cluster waits) WaitAction where
  step cluster
    | .register instanceId reach runId flowRun => some (cluster.registerWait instanceId reach runId flowRun)
    | .notify instanceId reach notification => some (cluster.notifyEvent instanceId reach notification)
    | .tick instanceId reach now => some (cluster.tickTimeWaits instanceId reach now)
    | .crossTick instanceId reach now => some (cluster.crossInstanceTick instanceId reach now)
    | .rehydrated instanceId => some (cluster.markRehydrationComplete instanceId)
    | .replay instanceId reach =>
      match (cluster.instances instanceId).replaying with
      | [] => none
      | notification :: rest => some (cluster.replay instanceId reach notification rest)

end AindyRuntime.Scheduler
