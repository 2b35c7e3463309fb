import AindyRuntime.Scheduler.EventWaits

namespace AindyRuntime.Scheduler

open Cluster Notification WaitEntry List Option

variable {cluster : Cluster waits} {instanceId runId : String}
variable {notification : Notification} {entry : WaitEntry}

def WaitEntry.deaf (entry : WaitEntry) : Bool :=
  entry.waitCondition.type = .time || (given entry.waitCondition.eventName).isSome && !entry.awaitsEvent

/-- The row, where there is one, stands for what the holder of the wait does. -/
def WaitEntry.ReadAlike (entry : WaitEntry) (backed : Bool) : Prop :=
  if backed then entry.deaf = false ∧ entry.eventName ≠ "" else entry.deaf = true

def Notification.reaches (notification : Notification) (runId : String) (correlationId : Option String) : Prop :=
  notification.inScope runId = true ∧ notification.admits correlationId = true

theorem Notification.wakes_iff :
    notification.wakes runId entry = true ↔ notification.reaches runId entry.correlationId ∧
      entry.deaf = false ∧ entry.eventName = notification.eventType := by
  simp only [wakes, reaches, deaf, eventName]
  cases name : given entry.waitCondition.eventName with
  | none =>
    simp only [isSome_none, Bool.false_and, Bool.or_false, Bool.and_eq_true,
      decide_eq_true_eq, decide_eq_false_iff_not]
    tauto
  | some =>
    simp only [isSome_some, Bool.true_and, Bool.and_eq_true, Bool.or_eq_false_iff,
      Bool.not_eq_false', decide_eq_true_eq, decide_eq_false_iff_not]
    tauto

def WaitEntry.rowName (entry : WaitEntry) : String := (given (some entry.eventName)).getD timeWait

theorem WaitEntry.rowName_eq_iff : entry.rowName = entry.eventName ↔ entry.eventName ≠ "" := by
  simp only [rowName, given, filter_some]
  constructor
  · intro same nameless
    rw [nameless] at same
    exact absurd same (by decide)
  · intro named
    rw [if_pos (decide_eq_true named), getD_some]

theorem Notification.wakesRow_iff :
    notification.wakesRow runId (entry.waitingFlowRun waitDeadline) = true ↔
      notification.reaches runId entry.correlationId ∧ entry.rowName = notification.eventType := by
  simp only [wakesRow, Bool.and_eq_true, decide_eq_true_eq]
  simp only [reaches, rowName]
  tauto

def Notification.named (eventType : String) : Notification := ⟨eventType, none, none⟩

theorem Notification.named_reaches {name : String} {correlationId : Option String} :
    (named name).reaches runId correlationId := by
  refine ⟨rfl, ?_⟩
  simp only [admits, correlationAdmits, Bool.or_eq_true]
  right
  cases given correlationId <;> rfl

/-- The decisions agree on every event exactly where the row stands for the wait. -/
theorem WaitEntry.decisions_agree_iff :
    (∀ notification : Notification, notification.wakes runId entry = true ↔
        backed = true ∧ notification.wakesRow runId (entry.waitingFlowRun waitDeadline) = true) ↔
      entry.ReadAlike backed := by
  simp only [wakes_iff, wakesRow_iff]
  cases backed with
  | true =>
    simp only [ReadAlike, if_true, true_and]
    constructor
    · intro agree
      obtain ⟨-, hears, same⟩ := (agree (.named entry.rowName)).mpr ⟨named_reaches, rfl⟩
      exact ⟨hears, rowName_eq_iff.mp same.symm⟩
    · rintro ⟨hears, named⟩ notification
      rw [rowName_eq_iff.mpr named]
      simp [hears]
  | false =>
    simp only [ReadAlike, Bool.false_eq_true, if_false, false_and, iff_false]
    constructor
    · intro agree
      by_contra hears
      exact agree (.named entry.eventName) ⟨named_reaches, by simpa using hears, rfl⟩
    · rintro deaf notification ⟨-, hears, -⟩
      rw [deaf] at hears
      cases hears

namespace Cluster

def everything : Reach := ⟨true, true⟩

def unlogged (cluster : Cluster waits) : Cluster waits := { cluster with wakes := [] }

def resumed (cluster : Cluster waits) (instanceId : String) (notification : Notification) : List Wake :=
  (cluster.unlogged.notifyEvent instanceId everything notification).wakes

section

variable (complete : (cluster.instances instanceId).rehydrationComplete = true)
include complete

theorem mem_resumed_iff :
    ⟨instanceId, runId, .notified notification⟩ ∈ cluster.resumed instanceId notification ↔
      runId ∈ (cluster.toResume instanceId notification).map Prod.fst ∨
        runId ∉ (cluster.toResume instanceId notification).map Prod.fst ∧
          cluster.CrossMatched instanceId everything notification runId := by
  have emptied : SameAt runId cluster cluster.unlogged := ⟨rfl, rfl, fun _ => rfl⟩
  have same (absent : runId ∉ (cluster.toResume instanceId notification).map Prod.fst) :
      SameAt runId cluster ((cluster.toResume instanceId notification).foldl
        (wakeLocal instanceId everything (.notified notification)) cluster.unlogged) :=
    emptied.trans (wakeAll_sameAt absent)
  have woken : cluster.unlogged.toResume instanceId notification = cluster.toResume instanceId notification := rfl
  have ready : (cluster.unlogged.instances instanceId).rehydrationComplete = true := complete
  rw [resumed, notifyEvent, if_pos ready, deliver, mem_crossInstanceResume_wakes, mem_wakeAll_wakes]
  constructor
  · rintro ((logged | ⟨wait, chosen, woken⟩) | ⟨other, absent, matched, woken⟩)
    · cases logged
    · cases woken
      exact .inl (mem_map_of_mem chosen)
    · cases woken
      exact .inr ⟨absent, (same absent).crossMatched_iff.mp matched⟩
  · rintro (member | ⟨absent, matched⟩)
    · obtain ⟨wait, chosen, rfl⟩ := mem_map.mp member
      exact .inl (.inr ⟨wait, chosen, rfl⟩)
    · exact .inr ⟨runId, absent, (same absent).crossMatched_iff.mpr matched, rfl⟩

/-- The instance that holds the wait decides from the wait. -/
theorem mem_resumed_of_held (held : (cluster.instances instanceId).waiting.get? runId = some entry) :
    ⟨instanceId, runId, .notified notification⟩ ∈ cluster.resumed instanceId notification ↔
      notification.wakes runId entry = true := by
  have chosen : runId ∈ (cluster.toResume instanceId notification).map Prod.fst ↔
      notification.wakes runId entry = true := by
    constructor
    · intro member
      obtain ⟨_, chosen, rfl⟩ := mem_map.mp member
      obtain ⟨present, wakes⟩ := mem_filter.mp chosen
      rw [Dict.get?_eq_some.mpr present] at held
      cases held
      exact wakes
    · intro wakes
      exact mem_map_of_mem (mem_filter.mpr ⟨Dict.get?_eq_some.mp held, wakes⟩)
  rw [mem_resumed_iff complete, chosen]
  refine or_iff_left ?_
  rintro ⟨-, -, spec, -, foreign⟩
  have elsewhere := foreign.elsewhere
  rw [held] at elsewhere
  cases elsewhere

/-- An instance that does not hold it decides from the spec and the row. -/
theorem mem_resumed_elsewhere (elsewhere : (cluster.instances instanceId).waiting.get? runId = none) :
    ⟨instanceId, runId, .notified notification⟩ ∈ cluster.resumed instanceId notification ↔
      cluster.CrossMatched instanceId everything notification runId := by
  have absent : runId ∉ (cluster.toResume instanceId notification).map Prod.fst := not_mem_toResume elsewhere
  rw [mem_resumed_iff complete]
  simp [absent]

end

variable {holder : String}

theorem persistWaitBackup_frame : (cluster.persistWaitBackup reach runId flowRun).redis = cluster.redis ∧
    (cluster.persistWaitBackup reach runId flowRun).instances = cluster.instances := by
  simp only [persistWaitBackup]
  split
  · split <;> exact ⟨rfl, rfl⟩
  · exact ⟨rfl, rfl⟩

def backsUp (entry : WaitEntry) (flowRun : Option (Option Int)) : Bool := entry.euType = "flow" && flowRun.isSome

theorem persistWaitBackup_contains :
    (cluster.persistWaitBackup everything runId flowRun).backups.contains runId =
      (cluster.backups.contains runId || backsUp (waits runId) flowRun) := by
  simp only [persistWaitBackup, backsUp, everything]
  by_cases flow : (waits runId).euType = "flow"
  · cases flowRun with
    | none => simp [flow]
    | some => simp [flow, Dict.contains]
  · simp [flow]

theorem registerWait_instances :
    (cluster.registerWait holder everything runId flowRun).instances = Function.update cluster.instances holder
      { cluster.instances holder with
        waiting := (cluster.instances holder).waiting.set runId (waits runId) } := by
  rw [registerWait, persistWaitBackup_frame.2]
  rfl

theorem registerWait_redis :
    (cluster.registerWait holder everything runId flowRun).redis
      = cluster.redis.set runId ((waits runId).resumeSpec runId) := by
  rw [registerWait, persistWaitBackup_frame.1]
  rfl

theorem registerWait_contains :
    (cluster.registerWait holder everything runId flowRun).backups.contains runId =
      (cluster.backups.contains runId || backsUp (waits runId) flowRun) := by
  rw [registerWait, persistWaitBackup_contains]
  rfl

/-- An instance that does not hold the wait resumes the run where there is a row that the event matches. -/
theorem crossMatched_registerWait (elsewhere : (cluster.instances other).waiting.get? runId = none)
    (different : other ≠ holder) (waitDeadline : Option Int) :
    (cluster.registerWait holder everything runId flowRun).CrossMatched other everything notification runId ↔
      (cluster.backups.contains runId || backsUp (waits runId) flowRun) = true ∧
        notification.wakesRow runId ((waits runId).waitingFlowRun waitDeadline) = true := by
  rw [← @registerWait_contains _ _ _ holder]
  constructor
  · rintro ⟨-, spec, -, foreign⟩
    obtain ⟨row, loaded, wanted⟩ := foreign.row
    have stored : (cluster.registerWait holder everything runId flowRun).backups.get? runId = some row := loaded
    obtain ⟨_, rfl⟩ := Cluster.backedUp _ stored
    exact ⟨by simp [Dict.contains, stored], wanted⟩
  · rintro ⟨backed, wanted⟩
    obtain ⟨_, stored⟩ := isSome_iff_exists.mp backed
    obtain ⟨_, rfl⟩ := Cluster.backedUp _ stored
    refine ⟨rfl, (waits runId).resumeSpec runId, by simp [registerWait_redis], ?_, ⟨_, stored, wanted⟩, rfl,
      by simp [registerWait_redis]⟩
    rw [registerWait_instances, Function.update_of_ne different]
    exact elsewhere

end Cluster

/-- After `register_wait`, the instance that holds the wait and another decide
alike on every event exactly where the row, if there is one, stands for the wait. -/
theorem wakes_agree_iff {holder other : String} (flowRun : Option (Option Int))
    (holderComplete : (cluster.instances holder).rehydrationComplete = true)
    (otherComplete : (cluster.instances other).rehydrationComplete = true)
    (elsewhere : (cluster.instances other).waiting.get? runId = none) (different : other ≠ holder) :
    (∀ notification : Notification, ⟨holder, runId, .notified notification⟩ ∈
          (cluster.registerWait holder everything runId flowRun).resumed holder notification ↔
        ⟨other, runId, .notified notification⟩ ∈
          (cluster.registerWait holder everything runId flowRun).resumed other notification) ↔
      (waits runId).ReadAlike (cluster.backups.contains runId || backsUp (waits runId) flowRun) := by
  rw [← @decisions_agree_iff runId _ _ none]
  refine forall_congr' fun notification => ?_
  have held : ((cluster.registerWait holder everything runId flowRun).instances holder).waiting.get? runId
      = some (waits runId) := by
    rw [registerWait_instances, Function.update_self, Dict.get?_set, if_pos rfl]
  have unheld : ((cluster.registerWait holder everything runId flowRun).instances other).waiting.get? runId = none := by
    rw [registerWait_instances, Function.update_of_ne different]
    exact elsewhere
  have here : ((cluster.registerWait holder everything runId flowRun).instances holder).rehydrationComplete = true := by
    rw [registerWait_instances, Function.update_self]
    exact holderComplete
  have there : ((cluster.registerWait holder everything runId flowRun).instances other).rehydrationComplete = true := by
    rw [registerWait_instances, Function.update_of_ne different]
    exact otherComplete
  rw [mem_resumed_of_held here held, mem_resumed_elsewhere there unheld,
    crossMatched_registerWait elsewhere different none]

def approval : Notification := .named "approval.granted"

/-- A flow that waits for an approval. -/
theorem wakes_agree_for_flow :
    ⟨"b", "flow", .notified approval⟩ ∈
        ((idleWith fun _ => approvalWait).registerWait "a" everything "flow" (some none)).resumed "b" approval ∧
      ∀ notification : Notification,
        ⟨"a", "flow", .notified notification⟩ ∈
          ((idleWith fun _ => approvalWait).registerWait "a" everything "flow" (some none)).resumed "a" notification ↔
        ⟨"b", "flow", .notified notification⟩ ∈
          ((idleWith fun _ => approvalWait).registerWait "a" everything "flow" (some none)).resumed "b"
            notification := by
  refine ⟨by decide, (wakes_agree_iff (some none) rfl rfl rfl (by decide)).mpr ?_⟩
  exact ⟨by decide, by decide⟩

def agentWait : WaitEntry := { approvalWait with euType := "agent" }

def timedWait : WaitEntry := { approvalWait with waitCondition := ⟨.time, none, some 5⟩ }

/-- An agent's wait is woken on the instance that holds it only, and a wait for
a time on the others only. -/
theorem wakes_disagree :
    (⟨"a", "agent", .notified approval⟩ ∈
        ((idleWith fun _ => agentWait).registerWait "a" everything "agent" none).resumed "a" approval ∧
      ⟨"b", "agent", .notified approval⟩ ∉
        ((idleWith fun _ => agentWait).registerWait "a" everything "agent" none).resumed "b" approval) ∧
    ⟨"a", "flow", .notified approval⟩ ∉
        ((idleWith fun _ => timedWait).registerWait "a" everything "flow" (some none)).resumed "a" approval ∧
      ⟨"b", "flow", .notified approval⟩ ∈
        ((idleWith fun _ => timedWait).registerWait "a" everything "flow" (some none)).resumed "b" approval := by
  decide

end AindyRuntime.Scheduler
