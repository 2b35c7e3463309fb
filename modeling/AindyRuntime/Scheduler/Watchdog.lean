import AindyRuntime.Scheduler.WakeAgreement

/-! # The resume watchdog

`core/resume_watchdog.py`, with instants in seconds.
-/

namespace AindyRuntime.Scheduler

open Cluster List

structure SystemEvent where
  type : String
  traceId : Option String
  timestamp : Int
deriving DecidableEq, Repr

structure Watch where
  now : Int
  /-- `waited_since`. -/
  since : String → Int
  /-- `waiting_for` of the flow runs that are waiting. -/
  waitingFor : String → Option (Option String)
  events : List SystemEvent
  /-- The rows for which a query raises. -/
  fails : String → Bool
  /-- The waits that `rehydrate_waiting_flow_runs` registers. -/
  rehydrated : List (String × Option (Option Int))

namespace Watch

variable (watch : Watch)

def event (row : String × WaitingFlowRun) : Option String :=
  (watch.waitingFor row.1).bind fun waitingFor => (given (some row.2.eventType)).or (given waitingFor)

def matching (event : String) (correlationId : Option String) (since : Int) (found : SystemEvent) : Bool :=
  found.type = event && since ≤ found.timestamp && (given correlationId).all (some · = found.traceId)

def evidence (event : String) (row : String × WaitingFlowRun) (found : SystemEvent) : Bool :=
  matching event row.2.correlationId (watch.since row.1) found && watch.now - 3600 ≤ found.timestamp

def fired (event : String) (row : String × WaitingFlowRun) : Bool := watch.events.any (watch.evidence event row)

variable (instanceId : String) (reach : Reach) (cluster : Cluster waits)

def rehydrate : Cluster waits :=
  watch.rehydrated.foldl (fun cluster run => cluster.registerWait instanceId reach run.1 run.2) cluster

def resumeRow (row : String × WaitingFlowRun) : Cluster waits :=
  match watch.event row with
  | none => cluster
  | some event =>
    if event = timeWait ∨ watch.fails row.1 = true ∨ watch.fired event row = false then cluster
    else
      let known := if (cluster.instances instanceId).waiting.contains row.1 then cluster
        else watch.rehydrate instanceId reach cluster
      known.notifyEvent instanceId reach ⟨event, row.2.correlationId, none⟩

def scanAndResumeStrandedFlows : Cluster waits :=
  (cluster.backups.entries.filter fun row => watch.since row.1 ≤ watch.now - 120).foldl
    (watch.resumeRow instanceId reach) cluster

def Happened (waits : String → WaitEntry) (runId : String) : Prop :=
  ∃ found ∈ watch.events, matching (waits runId).eventName (waits runId).correlationId (watch.since runId) found

end Watch

variable {watch : Watch} {cluster : Cluster waits} {instanceId : String} {reach : Reach}

theorem Watch.rehydrate_wakes : (watch.rehydrate instanceId reach cluster).wakes = cluster.wakes := by
  simp only [rehydrate]
  induction watch.rehydrated generalizing cluster with
  | nil => rfl
  | cons run rest ih => rw [foldl_cons, ih, registerWait_wakes]

/-- What an event wakes waits for it, with a correlation that it admits. -/
theorem mem_notifyEvent_wakes (timeless : notification.eventType ≠ timeWait)
    (woken : wake ∈ (cluster.notifyEvent instanceId reach notification).wakes) :
    wake ∈ cluster.wakes ∨ (waits wake.runId).eventName = notification.eventType ∧
      notification.admits (waits wake.runId).correlationId = true := by
  simp only [notifyEvent] at woken
  split at woken
  · rw [deliver, mem_crossInstanceResume_wakes, mem_wakeAll_wakes] at woken
    rcases woken with (logged | ⟨wait, chosen, rfl⟩) | ⟨runId, -, matched, rfl⟩
    · exact .inl logged
    · obtain ⟨held, wakes⟩ := mem_filter.mp chosen
      rw [held_eq held] at wakes
      obtain ⟨⟨-, admitted⟩, -, named⟩ := Notification.wakes_iff.mp wakes
      exact .inr ⟨named, admitted⟩
    · obtain ⟨_, wakes⟩ := crossMatched_row matched
      obtain ⟨⟨-, admitted⟩, named⟩ := Notification.wakesRow_iff.mp wakes
      refine .inr ⟨?_, admitted⟩
      rw [← named] at timeless ⊢
      refine (WaitEntry.rowName_eq_iff.mpr fun nameless => timeless ?_).symm
      rw [WaitEntry.rowName, nameless]
      rfl
  · simp only [bufferEvent] at woken
    split at woken <;> exact .inl woken

/-- The scan finds the event of the row recorded, and the event can wake the run. -/
def Watch.Wakes (watch : Watch) (waits : String → WaitEntry) (row : String × WaitingFlowRun) (runId : String) : Prop :=
  watch.since row.1 ≤ watch.now - 120 ∧ watch.fails row.1 = false ∧ watch.event row = some (waits runId).eventName ∧
    correlationAdmits (waits runId).correlationId row.2.correlationId false = true ∧
    watch.fired (waits runId).eventName row = true

/-- If the row wakes the run, the run began to wait no later, and has no correlation or the row's. -/
def Watch.Shared (watch : Watch) (waits : String → WaitEntry) (row : String × WaitingFlowRun) (runId : String) : Prop :=
  watch.Wakes waits row runId → watch.since runId ≤ watch.since row.1 ∧
    ∀ correlation ∈ given (waits runId).correlationId, correlation ∈ given row.2.correlationId

theorem resumeRow_wakes (stranded : watch.since row.1 ≤ watch.now - 120)
    (woken : wake ∈ (watch.resumeRow instanceId reach cluster row).wakes) :
    wake ∈ cluster.wakes ∨ watch.Wakes waits row wake.runId := by
  simp only [Watch.resumeRow] at woken
  split at woken
  · exact .inl woken
  case h_2 awaited =>
    split at woken
    · exact .inl woken
    case isFalse goes =>
      simp only [not_or, Bool.not_eq_false, Bool.not_eq_true] at goes
      obtain ⟨timeless, answered, fired⟩ := goes
      rcases mem_notifyEvent_wakes timeless woken with logged | ⟨named, admitted⟩
      · left
        split at logged
        · exact logged
        · rwa [Watch.rehydrate_wakes] at logged
      · dsimp only at named
        rw [← named] at awaited fired
        exact .inr ⟨stranded, answered, awaited, admitted, fired⟩

theorem resumeRows_wakes {rows : List (String × WaitingFlowRun)}
    (stranded : ∀ row ∈ rows, watch.since row.1 ≤ watch.now - 120)
    (woken : wake ∈ (rows.foldl (watch.resumeRow instanceId reach) cluster).wakes) :
    wake ∈ cluster.wakes ∨ ∃ row ∈ rows, watch.Wakes waits row wake.runId := by
  induction rows generalizing cluster with
  | nil => exact .inl woken
  | cons row rest ih =>
      rcases ih (fun other member => stranded other (mem_cons_of_mem _ member)) woken with before | ⟨_, member, wakes⟩
      · exact (resumeRow_wakes (stranded row mem_cons_self) before).imp_right fun wakes => ⟨row, mem_cons_self, wakes⟩
      · exact .inr ⟨_, mem_cons_of_mem _ member, wakes⟩

/-- A run that the watchdog wakes has its event since it began to wait, where it shares the events of the rows
that wake it; where these rows have its correlation, just if each of them has evidence from that time on. -/
theorem watchdog_wakes_happened
    (woken : wake ∈ (watch.scanAndResumeStrandedFlows instanceId reach cluster.unlogged).wakes) :
    ((∀ row ∈ cluster.backups.entries, watch.Shared waits row wake.runId) → watch.Happened waits wake.runId) ∧
      ((∀ row ∈ cluster.backups.entries, watch.Wakes waits row wake.runId →
          given row.2.correlationId = given (waits wake.runId).correlationId) →
        (watch.Happened waits wake.runId ↔ ∀ row ∈ cluster.backups.entries, watch.Wakes waits row wake.runId →
          ∃ found ∈ watch.events, watch.evidence (waits wake.runId).eventName row found ∧
            watch.since wake.runId ≤ found.timestamp)) := by
  obtain ⟨row, member, wakes⟩ :=
    (resumeRows_wakes (fun _ member => by simpa using (mem_filter.mp member).2) woken).resolve_left not_mem_nil
  have listed := mem_of_mem_filter member
  refine ⟨fun shared => ?_, fun correlated => ⟨?_, fun told => ?_⟩⟩
  · obtain ⟨earlier, correlated⟩ := shared row listed wakes
    obtain ⟨found, recorded, evidence⟩ := any_eq_true.mp wakes.2.2.2.2
    refine ⟨found, recorded, ?_⟩
    simp only [Watch.evidence, Watch.matching, Bool.and_eq_true, decide_eq_true_eq, Option.all_eq_true] at evidence ⊢
    obtain ⟨⟨⟨type, later⟩, traced⟩, -⟩ := evidence
    exact ⟨⟨type, Int.le_trans earlier later⟩, fun correlation own => traced correlation (correlated correlation own)⟩
  · rintro ⟨found, recorded, matching⟩ row listed wakes
    obtain ⟨first, known, evidence⟩ := any_eq_true.mp wakes.2.2.2.2
    by_cases late : watch.since wake.runId ≤ first.timestamp
    · exact ⟨first, known, evidence, late⟩
    · refine ⟨found, recorded, ?_⟩
      simp only [Watch.evidence, Watch.matching, correlated row listed wakes, Bool.and_eq_true,
        decide_eq_true_eq] at evidence matching ⊢
      obtain ⟨⟨⟨-, begun⟩, -⟩, recent⟩ := evidence
      obtain ⟨⟨type, since⟩, traced⟩ := matching
      have later : first.timestamp ≤ found.timestamp := by omega
      exact ⟨⟨⟨⟨type, Int.le_trans begun later⟩, traced⟩, Int.le_trans recent later⟩, since⟩
  · obtain ⟨found, recorded, evidence, since⟩ := told row listed wakes
    refine ⟨found, recorded, ?_⟩
    simp only [Watch.evidence, Watch.matching, correlated row listed wakes, Bool.and_eq_true,
      decide_eq_true_eq] at evidence ⊢
    exact ⟨⟨evidence.1.1.1, since⟩, evidence.1.2⟩

def parked (runIds : List String) : Cluster fun _ => approvalWait :=
  runIds.foldl (fun cluster runId => cluster.registerWait "a" everything runId (some none)) (idleWith _)

def halfway : Watch where
  now := 1800
  since runId := if runId = "late" then 1200 else 0
  waitingFor _ := some none
  events := [⟨"approval.granted", none, 600⟩]
  fails _ := false
  rehydrated := []

theorem watchdog_wakes_happened_early : halfway.Happened (fun _ => approvalWait) "early" := by
  have woken : ⟨"a", "early", .notified approval⟩ ∈
      (halfway.scanAndResumeStrandedFlows "a" everything (parked ["early"]).unlogged).wakes := by decide
  refine (watchdog_wakes_happened woken).1 ?_
  unfold Watch.Shared Watch.Wakes
  decide

theorem watchdog_wakes_late_run :
    ⟨"a", "late", .notified approval⟩ ∈
        (halfway.scanAndResumeStrandedFlows "a" everything (parked ["early", "late"]).unlogged).wakes ∧
      ¬ halfway.Happened (fun _ => approvalWait) "late" := by
  unfold Watch.Happened
  decide

end AindyRuntime.Scheduler
