import AindyRuntime.FlowEngine.Engine
import AindyRuntime.Scheduler.Waits

/-! # One pass of rehydration after another

`rehydrate_waiting_flow_runs` over the stores that it writes.
-/

namespace AindyRuntime.Scheduler.RehydrationPass

structure FlowRun where
  id : String
  status : FlowEngine.RunStatus
  (userId traceId waitingFor : Option String)
  state : Json
  waitDeadline : Option Int

structure ExecutionUnit where
  id : String
  flowRunId : Option String
  priority : Option Priority

/-- A value of `_waiting`; a wait on time has no `waitFor`. -/
structure Registered where
  waitFor : Option String
  (tenantId euId : String)
  priority : Priority
  correlationId : String
  waitCondition : WaitCondition

structure BackupRow extends WaitingFlowRun where
  waitedSince : Int
  maxWaitSeconds : Option Int

structure Stores where
  waiting : Dict String Registered
  redis : Dict String ResumeSpec
  committed : Dict String BackupRow
  /-- The committed rows and what the pass's own session has flushed. -/
  backups : Dict String BackupRow

/-- What the registration of one run meets; `session` is whether the pass's own
session writes. -/
structure Calls where
  reach : Reach
  session : Bool
  now : Int

structure Pass where
  /-- None where their query raises. -/
  units : List ExecutionUnit
  calls : String → Calls

variable (parse : Json → Option Int) (pass : Pass) (calls : Calls) (run : FlowRun) (entry : Registered)
variable (stores : Stores)

/-- `parse` is `_parse_utc_datetime`. -/
def deriveWaitConditionFromFlow : Option WaitCondition :=
  match given run.waitingFor with
  | some event => some (.forEvent event)
  | none =>
    let rawTrigger := (run.state.get "trigger_at").orElse (run.state.get "wait_until")
    if rawTrigger.truthy then (parse rawTrigger).map fun triggerAt => ⟨.time, none, some triggerAt⟩ else none

def Stores.waitingFor (runId : String) : Option String := (stores.waiting.get? runId).bind Registered.waitFor

def backupRow (eventType : String) (timeoutAt : Option Int) (euId : Option String) (waitedSince : Int) : BackupRow where
  eventType
  correlationId := some entry.correlationId
  timeoutAt
  euId
  priority := entry.priority
  waitedSince
  maxWaitSeconds := timeoutAt.map fun timeout => max 0 (timeout - calls.now)

def persistWaitBackup : Stores :=
  if calls.reach.database then
    let eventType := ((given entry.waitCondition.eventName).or (given entry.waitFor)).getD timeWait
    let timeoutAt := entry.waitCondition.triggerAt.or run.waitDeadline
    let row := backupRow calls entry eventType timeoutAt (some entry.euId) calls.now
    { stores with committed := stores.committed.set run.id row, backups := stores.backups.set run.id row }
  else stores

def registerWait : Stores :=
  let spec : ResumeSpec := ⟨resumeHandlerEu, entry.euId, entry.tenantId, run.id, some "flow"⟩
  persistWaitBackup calls run entry
    { stores with
      waiting := stores.waiting.set run.id entry
      redis := if calls.reach.redis then stores.redis.set run.id spec else stores.redis }

/-- A write that fails rolls back what the session flushed for the runs before. -/
def ensureWaitingFlowRunRow : Stores :=
  if calls.session then
    let waitedSince := ((stores.backups.get? run.id).map BackupRow.waitedSince).getD calls.now
    let row := backupRow calls entry ((given entry.waitFor).getD timeWait) run.waitDeadline (given (some entry.euId))
      waitedSince
    { stores with backups := stores.backups.set run.id row }
  else { stores with backups := stores.committed }

def registration (waitCondition : WaitCondition) : Registered :=
  let unit := pass.units.find? fun unit => given unit.flowRunId = some run.id
  { waitFor := waitCondition.eventName
    tenantId := (given run.userId).getD "system"
    euId := (unit.map ExecutionUnit.id).getD ""
    priority := (unit.bind ExecutionUnit.priority).getD .normal
    correlationId := (given run.traceId).getD run.id
    waitCondition }

def rehydrateRun (counted : Nat × Stores) (run : FlowRun) : Nat × Stores :=
  if (counted.2.waitingFor run.id).isSome then counted
  else
    match deriveWaitConditionFromFlow parse run with
    | none => counted
    | some waitCondition =>
      let entry := registration pass run waitCondition
      let calls := pass.calls run.id
      (counted.1 + 1, ensureWaitingFlowRunRow calls run entry (registerWait calls run entry counted.2))

def waitingRuns (rows : List FlowRun) (runIds : List String) : List FlowRun :=
  let scopedRunIds := runIds.filter (· ≠ "")
  rows.filter fun run => run.status = .waiting ∧ (scopedRunIds = [] ∨ run.id ∈ scopedRunIds)

def rehydrateWaitingFlowRuns (rows : List FlowRun) (runIds : List String) : Nat × Stores :=
  (waitingRuns rows runIds).foldl (rehydrateRun parse pass) (0, stores)

/-- The pass finds the run under a name in the table, or can derive no condition. -/
def Skipped : Prop := (stores.waitingFor run.id).isSome ∨ deriveWaitConditionFromFlow parse run = none

/-- A pass that has come to the run leaves it skipped. -/
def Lasting : Prop := (given run.waitingFor).isSome ∨ Skipped parse run stores

variable {parse} {pass} {again : Pass} {calls} {run} {entry} {stores}
variable {runs rows : List FlowRun}

theorem rehydrateRun_skipped (skipped : Skipped parse run counted.2) :
    rehydrateRun parse pass counted run = counted := by
  rcases skipped with held | underivable
  · exact if_pos held
  · simp [rehydrateRun, underivable]

theorem registered_waiting :
    (ensureWaitingFlowRunRow calls run entry (registerWait calls run entry stores)).waiting =
      stores.waiting.set run.id entry := by
  simp only [ensureWaitingFlowRunRow, registerWait, persistWaitBackup]
  split <;> split <;> rfl

theorem rehydrateRun_registers (absent : (counted.2.waitingFor run.id).isSome = false)
    (derived : deriveWaitConditionFromFlow parse run = some waitCondition) (runId : String) :
    (rehydrateRun parse pass counted run).2.waitingFor runId =
      if run.id = runId then waitCondition.eventName else counted.2.waitingFor runId := by
  simp only [rehydrateRun, absent, derived, Bool.false_eq_true, if_false]
  rw [Stores.waitingFor, registered_waiting, Dict.get?_set]
  split <;> rfl

/-- Only a run without a name in the table is registered, so that no name is lost. -/
theorem rehydrateRun_keeps (skipped : Skipped parse other counted.2) :
    Skipped parse other (rehydrateRun parse pass counted run).2 := by
  by_cases same : Skipped parse run counted.2
  · rwa [rehydrateRun_skipped same]
  · simp only [Skipped, not_or, Bool.not_eq_true] at same
    obtain ⟨_, derived⟩ := Option.ne_none_iff_exists'.mp same.2
    refine skipped.imp_left fun held => ?_
    rw [rehydrateRun_registers same.1 derived, if_neg]
    · exact held
    · intro here
      rw [← here, same.1] at held
      cases held

theorem rehydrateRun_settles (lasting : Lasting parse run counted.2) :
    Skipped parse run (rehydrateRun parse pass counted run).2 := by
  by_cases skipped : Skipped parse run counted.2
  · rwa [rehydrateRun_skipped skipped]
  · obtain ⟨event, waits⟩ := Option.isSome_iff_exists.mp (lasting.resolve_right skipped)
    have derived : deriveWaitConditionFromFlow parse run = some (.forEvent event) := by
      rw [deriveWaitConditionFromFlow, waits]
    simp only [Skipped, not_or, Bool.not_eq_true] at skipped
    left
    rw [rehydrateRun_registers skipped.1 derived, if_pos rfl]
    rfl

theorem rehydrated_skipped (lasting : ∀ run ∈ runs, Lasting parse run counted.2) :
    ∀ run, run ∈ runs ∨ Skipped parse run counted.2 →
      Skipped parse run (runs.foldl (rehydrateRun parse pass) counted).2 := by
  induction runs generalizing counted with
  | nil => simp
  | cons first rest ih =>
    obtain ⟨head, tail⟩ := List.forall_mem_cons.mp lasting
    intro run member
    refine ih (fun other among => (tail other among).imp_right rehydrateRun_keeps) run ?_
    rcases member with member | skipped
    · rcases List.mem_cons.mp member with rfl | member
      · exact .inr (rehydrateRun_settles head)
      · exact .inl member
    · exact .inr (rehydrateRun_keeps skipped)

theorem derived_nameless (unnamed : (given run.waitingFor).isSome = false)
    (derived : deriveWaitConditionFromFlow parse run = some waitCondition) : waitCondition.eventName = none := by
  simp only [Option.isSome_eq_false_iff, Option.isNone_iff_eq_none] at unnamed
  simp only [deriveWaitConditionFromFlow, unnamed, Option.ite_none_right_eq_some, Option.map_eq_some_iff] at derived
  obtain ⟨-, _, -, rfl⟩ := derived
  rfl

theorem rehydrateRun_nameless (nameless : ¬Lasting parse run counted.2) (alone : other.id = run.id → other = run) :
    ¬Lasting parse run (rehydrateRun parse pass counted other).2 := by
  by_cases skipped : Skipped parse other counted.2
  · rwa [rehydrateRun_skipped skipped]
  · simp only [Lasting, Skipped, not_or, Bool.not_eq_true] at nameless skipped ⊢
    obtain ⟨unnamed, absent, derivable⟩ := nameless
    obtain ⟨_, derived⟩ := Option.ne_none_iff_exists'.mp skipped.2
    refine ⟨unnamed, ?_, derivable⟩
    rw [rehydrateRun_registers skipped.1 derived]
    split
    case isTrue same =>
      cases alone same
      rw [derived_nameless unnamed derived]
      rfl
    · exact absent

theorem le_rehydrated : counted.1 ≤ (runs.foldl (rehydrateRun parse pass) counted).1 := by
  induction runs generalizing counted with
  | nil => exact Nat.le_refl _
  | cons run rest ih =>
      refine Nat.le_trans ?_ ih
      simp only [rehydrateRun]
      repeat' split
      all_goals omega

/-- A wait without a name is registered by the pass, and has no name after it. -/
theorem rehydrated_nameless (nameless : ¬Lasting parse run counted.2)
    (alone : ∀ other ∈ runs, other.id = run.id → other = run) :
    ¬Lasting parse run (runs.foldl (rehydrateRun parse pass) counted).2 ∧
      (run ∈ runs → counted.1 < (runs.foldl (rehydrateRun parse pass) counted).1) := by
  induction runs generalizing counted with
  | nil => exact ⟨nameless, fun member => by cases member⟩
  | cons first rest ih =>
      obtain ⟨here, others⟩ := List.forall_mem_cons.mp alone
      obtain ⟨still, counts⟩ := ih (rehydrateRun_nameless nameless here) others
      refine ⟨still, fun member => ?_⟩
      rcases List.mem_cons.mp member with rfl | member
      · simp only [Lasting, Skipped, not_or, Bool.not_eq_true] at nameless
        obtain ⟨_, derived⟩ := Option.ne_none_iff_exists'.mp nameless.2.2
        have turn : counted.1 < (rehydrateRun parse pass counted run).1 := by
          simp [rehydrateRun, nameless.2.1, derived]
        exact Nat.lt_of_lt_of_le turn le_rehydrated
      · exact Nat.lt_of_le_of_lt (@le_rehydrated _ _ [first] _) (counts member)

/-- A second pass does nothing just where each waiting run has an event, can not be
registered, or was in the table under a name before. -/
theorem rehydration_idempotent (distinct : (rows.map FlowRun.id).Nodup) :
    let first := rehydrateWaitingFlowRuns parse pass stores rows runIds
    rehydrateWaitingFlowRuns parse again first.2 rows runIds = (0, first.2) ↔
      ∀ run ∈ waitingRuns rows runIds, Lasting parse run stores := by
  intro first
  refine ⟨fun idle run member => ?_, fun lasting => ?_⟩
  · by_contra nameless
    have alone (other : FlowRun) (listed : other ∈ waitingRuns rows runIds) : other.id = run.id → other = run :=
      List.inj_on_of_nodup_map distinct (List.mem_of_mem_filter listed) (List.mem_of_mem_filter member)
    have still := (@rehydrated_nameless _ pass _ _ (0, stores) nameless alone).1
    have registers := (@rehydrated_nameless _ again _ _ (0, first.2) still alone).2 member
    rw [rehydrateWaitingFlowRuns] at idle
    rw [idle] at registers
    exact Nat.lt_irrefl _ registers
  have skipped (run : FlowRun) (member : run ∈ waitingRuns rows runIds) : Skipped parse run first.2 :=
    rehydrated_skipped lasting run (.inl member)
  unfold rehydrateWaitingFlowRuns
  generalize waitingRuns rows runIds = runs at skipped
  induction runs with
  | nil => rfl
  | cons run rest ih =>
      obtain ⟨head, tail⟩ := List.forall_mem_cons.mp skipped
      have turn : rehydrateRun parse again (0, first.2) run = (0, first.2) := rehydrateRun_skipped head
      rw [List.foldl_cons, turn]
      exact ih tail

def approvalRun : FlowRun := ⟨"run", .waiting, none, none, some "approved", .null, none⟩

def passAt (now : Int) : Pass := ⟨[], fun _ => ⟨⟨true, true⟩, true, now⟩⟩

def noStores : Stores := ⟨.empty, .empty, .empty, .empty⟩

theorem rehydration_idempotent_event :
    let first := rehydrateWaitingFlowRuns (fun _ => none) (passAt 10) noStores [approvalRun] []
    first.1 = 1 ∧ rehydrateWaitingFlowRuns (fun _ => none) (passAt 20) first.2 [approvalRun] [] = (0, first.2) :=
  ⟨rfl, (rehydration_idempotent (by decide)).mpr fun _ member => .inl (List.mem_singleton.mp member ▸ rfl)⟩

def timedRun : FlowRun :=
  ⟨"run", .waiting, none, none, none, .obj [("trigger_at", .str "1970-01-01T00:01:30")], none⟩

/-- The entry of a wait on time has no name, so that the second pass registers it
again and moves the start of the wait. -/
theorem rehydration_registers_time_wait_twice :
    let parse := fun text => if text = Json.str "1970-01-01T00:01:30" then some 90 else none
    let first := rehydrateWaitingFlowRuns parse (passAt 10) noStores [timedRun] []
    let second := rehydrateWaitingFlowRuns parse (passAt 20) first.2 [timedRun] []
    second.1 = 1 ∧ (first.2.backups.get? "run").map BackupRow.waitedSince = some 10 ∧
      (second.2.backups.get? "run").map BackupRow.waitedSince = some 20 := by
  decide

end AindyRuntime.Scheduler.RehydrationPass
