import AindyRuntime.Agent.Chain
import AindyRuntime.FlowEngine.Engine
import AindyRuntime.Scheduler.EventWaits

/-! # Stale waits

`cleanup_stale_waits` of `kernel/scheduler/recovery.py`.
-/

namespace AindyRuntime.Scheduler.StaleWaits

open List
open FlowEngine (RunStatus)
open Agent (AgentStatus)

inductive UnitStatus where
  | pending
  | executing
  | waiting
  | resumed
  | completed
  | failed
deriving DecidableEq, Repr

structure Tables (Uuid : Type) where
  flowRuns : Dict String RunStatus
  executionUnits : Dict Uuid UnitStatus
  agentRuns : Dict Uuid AgentStatus

variable {Uuid : Type} [DecidableEq Uuid] {waits : String → WaitEntry}

def waitingFlowIds (tables : Tables Uuid) (runIds : List String) : List String :=
  runIds.filter fun runId => tables.flowRuns.get? runId = some .waiting

variable (uuids : UuidText Uuid) (tables : Tables Uuid)

def waitingEuIds (runIds : List String) : List String :=
  ((runIds.filterMap uuids.parse?).filter fun uuid => tables.executionUnits.get? uuid = some .waiting).map uuids.text

def stale (runIds : List String) : List String :=
  runIds.filter fun runId => runId ∉ waitingFlowIds tables runIds ++ waitingEuIds uuids tables runIds

def evict (instanceId : String) (reach : Reach) (cluster : Cluster waits) (runId : String) : Cluster waits :=
  (cluster.forget instanceId runId).deleteWaitBackup reach runId

def cleanupStaleWaits (reach : Reach) (instanceId : String) (cluster : Cluster waits) : Nat × Cluster waits :=
  let runIds := (cluster.instances instanceId).waiting.keys
  if reach.database then
    let evicted := stale uuids tables runIds
    (evicted.length, evicted.foldl (evict instanceId reach) cluster)
  else (0, cluster)

variable {uuids : UuidText Uuid} {tables : Tables Uuid} {reach : Reach} {instanceId : String}
variable {cluster : Cluster waits}

def Kept (uuids : UuidText Uuid) (tables : Tables Uuid) (runId : String) : Prop :=
  tables.flowRuns.get? runId = some .waiting ∨
    ∃ uuid, uuids.text uuid = runId ∧ tables.executionUnits.get? uuid = some .waiting

theorem mem_stale_iff : runId ∈ stale uuids tables runIds ↔ runId ∈ runIds ∧ ¬Kept uuids tables runId := by
  simp only [stale, mem_filter, decide_eq_true_eq]
  refine and_congr_right fun member => not_congr ?_
  have flow : runId ∈ waitingFlowIds tables runIds ↔ tables.flowRuns.get? runId = some .waiting := by
    simp [waitingFlowIds, member]
  have unit : runId ∈ waitingEuIds uuids tables runIds ↔
      ∃ uuid, uuids.text uuid = runId ∧ tables.executionUnits.get? uuid = some .waiting := by
    simp only [waitingEuIds, mem_map, mem_filter, mem_filterMap, decide_eq_true_eq]
    constructor
    · rintro ⟨uuid, ⟨_, waiting⟩, text⟩
      exact ⟨uuid, text, waiting⟩
    · rintro ⟨uuid, text, waiting⟩
      exact ⟨uuid, ⟨⟨runId, member, text ▸ uuids.parse?_text uuid⟩, waiting⟩, text⟩
  rw [mem_append, flow, unit]
  exact Iff.rfl

theorem evict_waiting {evicted : List String} :
    ((evicted.foldl (evict instanceId reach) cluster).instances instanceId).waiting.get? runId =
      if runId ∈ evicted then none else (cluster.instances instanceId).waiting.get? runId := by
  induction evicted generalizing cluster with
  | nil => rfl
  | cons first rest ih =>
    have once : ((evict instanceId reach cluster first).instances instanceId).waiting =
        (cluster.instances instanceId).waiting.erase first := by
      have forgotten : ((cluster.forget instanceId first).instances instanceId) =
          { cluster.instances instanceId with waiting := (cluster.instances instanceId).waiting.erase first } :=
        Function.update_self ..
      simp only [evict, Cluster.deleteWaitBackup]
      split <;> exact congrArg Instance.waiting forgotten
    rw [foldl_cons, ih, once]
    by_cases same : runId = first
    · simp [same]
    · simp [same, Ne.symm same]

theorem cleanupStaleWaits_waiting
    (registered : (cluster.instances instanceId).waiting.get? runId = some entry) :
    ((cleanupStaleWaits uuids tables reach instanceId cluster).2.instances instanceId).waiting.get? runId = none ↔
      reach.database = true ∧ ¬Kept uuids tables runId := by
  have member : runId ∈ (cluster.instances instanceId).waiting.keys := by
    by_contra absent
    rw [Dict.get?_eq_none.mpr absent] at registered
    cases registered
  simp only [cleanupStaleWaits]
  split
  case isTrue reached =>
    rw [evict_waiting, registered]
    simp [mem_stale_iff, member, reached]
  case isFalse unreached => simp [registered, unreached]

def Live (uuids : UuidText Uuid) (tables : Tables Uuid) (runId : String) (entry : WaitEntry) : Prop :=
  (entry.euType = "flow" ∧ tables.flowRuns.get? runId = some .waiting) ∨
    (entry.euType = "agent" ∧ ∃ uuid, uuids.text uuid = runId ∧ tables.agentRuns.get? uuid = some .waiting)

/-- The cleanup evicts only dead waits just when each wait of a waiting agent run
has a waiting execution unit, or flow run, under the agent run's own id. -/
theorem cleanup_evicts_only_dead_iff :
    (∀ runId entry, (cluster.instances instanceId).waiting.get? runId = some entry →
        ((cleanupStaleWaits uuids tables reach instanceId cluster).2.instances instanceId).waiting.get? runId = none →
          ¬Live uuids tables runId entry) ↔
      (reach.database = true → ∀ runId entry, (cluster.instances instanceId).waiting.get? runId = some entry →
        entry.euType = "agent" → ∀ uuid, uuids.text uuid = runId → tables.agentRuns.get? uuid = some .waiting →
          Kept uuids tables runId) := by
  constructor
  · intro onlyDead reached runId entry registered agent uuid text waiting
    by_contra unkept
    have evicted := (cleanupStaleWaits_waiting registered).mpr ⟨reached, unkept⟩
    exact onlyDead runId entry registered evicted (.inr ⟨agent, uuid, text, waiting⟩)
  · intro kept runId entry registered evicted live
    obtain ⟨reached, unkept⟩ := (cleanupStaleWaits_waiting registered).mp evicted
    rcases live with ⟨_, waiting⟩ | ⟨agent, uuid, text, waiting⟩
    · exact unkept (.inl waiting)
    · exact unkept (kept reached runId entry registered agent uuid text waiting)

def agentApproval : WaitEntry := { approvalWait with euId := "agent-run", euType := "agent" }

def agentParked : Cluster fun _ => agentApproval :=
  (idleWith _).registerWait "instance" ⟨true, true⟩ "agent-run" none

def agentTables : Tables String :=
  ⟨.empty, .ofList [("unit", .waiting)], .ofList [("agent-run", .waiting)]⟩

theorem cleanup_evicts_waiting_agent :
    Live .plain agentTables "agent-run" agentApproval ∧
      (agentParked.instances "instance").waiting.get? "agent-run" = some agentApproval ∧
      ((cleanupStaleWaits .plain agentTables ⟨true, true⟩ "instance" agentParked).2.instances
        "instance").waiting.get? "agent-run" = none :=
  ⟨.inr ⟨rfl, "agent-run", rfl, by decide⟩, by decide, by decide⟩

end AindyRuntime.Scheduler.StaleWaits
