import AindyRuntime.Agent.CancelRace
import AindyRuntime.Continuation.FlowRun

/-! # The scan for stuck runs

`scan_and_recover_stuck_runs` selects the flow runs that have not moved for too
long and then takes them up one after another, by id and without another look at
their status.
-/

namespace AindyRuntime.Continuation.StuckScan

open FlowEngine List
open Agent (AgentRun StepRow StepResult committedSteps recoveryError)

structure FlowRow where
  (flowName workflowType : String)
  run : FlowRun
  waitDeadline : Option Int
  errorDetail : Json
  deadLetterReason : Option String
  deadLetteredAt : Option Int
  updatedAt : Int
  completedAt : Option Int
deriving DecidableEq

structure AgentRow where
  run : AgentRun
  completedAt : Option Int
deriving DecidableEq

structure Tables where
  flows : Dict String FlowRow
  agents : Dict String AgentRow
  /-- The `AgentStep` rows of each agent run, and the history of each flow run. -/
  steps : String → Dict Nat StepRow
  history : String → List FlowHistory

structure Service where
  (stalenessMinutes flowWaitTimeoutMinutes : Int)
  (includeWaitTimeouts continueStranded : Bool)
  runtime : Instance
  isoformat : Int → String

def isFlowTerminal : RunStatus → Bool
  | .success | .failed | .other "completed" => true
  | _ => false

def FlowRow.finished (row : FlowRow) : Bool :=
  isFlowTerminal row.run.status || decide (row.run.status = .deadLetter)

def AgentRow.finished (row : AgentRow) : Bool := row.run.status.terminal

def FlowRow.stranded (row : FlowRow) : Stranded := ⟨row.flowName, row.workflowType⟩

def recoveryErrorDetail (detectedAt : String) : Json :=
  .obj [("reason", .str "stuck_run_recovered"), ("detected_at", .str detectedAt)]

def FlowRow.recovered (service : Service) (recoveredAt : Int) (row : FlowRow) : FlowRow :=
  { row with
    run := { row.run with status := .failed, waitingFor := none, errorMessage := .str recoveryError }
    waitDeadline := none
    errorDetail := recoveryErrorDetail (service.isoformat recoveredAt)
    completedAt := some recoveredAt }

def AgentRow.recovered (recoveredAt : Int) (steps : List StepResult) (row : AgentRow) : AgentRow where
  run :=
    { row.run with
      status := .failed
      errorMessage := .str recoveryError
      result := some ⟨steps, none, none⟩ }
  completedAt := some recoveredAt

theorem scanAndRecover_recovered {id : String} (row : rows.run = some run) (linked : run.flowRunId = some id)
    (kind : rows.flowRuns.get? id = some "agent_execution") (stale : startup.stale id = true)
    (unfinished : run.status.terminal = false) :
    (Agent.scanAndRecover startup rows).run =
      some (AgentRow.recovered recoveredAt (committedSteps rows.worker.rows) ⟨run, completedAt⟩).run := by
  simp [Agent.scanAndRecover, row, linked, kind, stale, unfinished, AgentRow.recovered]

def FlowRow.exhausted (attempts now : Int) (row : FlowRow) : FlowRow :=
  { row with
    run := deadLettered row.run
    completedAt := some now
    deadLetterReason := some (Continuation.deadLetterReason attempts)
    deadLetteredAt := some now }

def FlowRow.withState (state : State) (row : FlowRow) : FlowRow :=
  { row with run := { row.run with state } }

def FlowRow.claim (now : Int) (row : FlowRow) : FlowRow :=
  match claimStranded (some row.run) with
  | some run => { row with run, updatedAt := now }
  | none => row

def FlowRow.moveToDeadLetter (now : Int) (reason : String) (row : FlowRow) : FlowRow :=
  if row.run.status = .waiting then
    { row with
      run := { row.run with status := .deadLetter, waitingFor := none, errorMessage := .str reason }
      waitDeadline := none
      deadLetterReason := some reason
      deadLetteredAt := some now
      updatedAt := now
      completedAt := some now }
  else row

def FlowRow.writeBack (now : Int) (loaded assigned current : FlowRow) : FlowRow where
  flowName := UnitOfWork.writeBack loaded.flowName assigned.flowName current.flowName
  workflowType := UnitOfWork.writeBack loaded.workflowType assigned.workflowType current.workflowType
  run :=
    { status := UnitOfWork.writeBack loaded.run.status assigned.run.status current.run.status
      state := UnitOfWork.writeBack loaded.run.state assigned.run.state current.run.state
      currentNode := UnitOfWork.writeBack loaded.run.currentNode assigned.run.currentNode current.run.currentNode
      waitingFor := UnitOfWork.writeBack loaded.run.waitingFor assigned.run.waitingFor current.run.waitingFor
      errorMessage := UnitOfWork.writeBack loaded.run.errorMessage assigned.run.errorMessage current.run.errorMessage
      jobLogId := UnitOfWork.writeBack loaded.run.jobLogId assigned.run.jobLogId current.run.jobLogId
      graphSignature :=
        UnitOfWork.writeBack loaded.run.graphSignature assigned.run.graphSignature current.run.graphSignature }
  waitDeadline := UnitOfWork.writeBack loaded.waitDeadline assigned.waitDeadline current.waitDeadline
  errorDetail := UnitOfWork.writeBack loaded.errorDetail assigned.errorDetail current.errorDetail
  deadLetterReason := UnitOfWork.writeBack loaded.deadLetterReason assigned.deadLetterReason current.deadLetterReason
  deadLetteredAt := UnitOfWork.writeBack loaded.deadLetteredAt assigned.deadLetteredAt current.deadLetteredAt
  updatedAt := if assigned = loaded then current.updatedAt else now
  completedAt := UnitOfWork.writeBack loaded.completedAt assigned.completedAt current.completedAt

def AgentRow.writeBack (loaded assigned current : AgentRow) : AgentRow where
  run := AgentRun.writeBack loaded.run assigned.run current.run
  completedAt := UnitOfWork.writeBack loaded.completedAt assigned.completedAt current.completedAt

variable (tables : Tables)

def Tables.writeFlow (id : String) (change : FlowRow → FlowRow) : Tables :=
  { tables with flows := tables.flows.alter id change }

def Tables.writeAgent (id : String) (change : AgentRow → AgentRow) : Tables :=
  { tables with agents := tables.agents.alter id change }

inductive Stage where
  | turn
  | exhausted (attempts : Int)
  | assessed (attempts : Int)
  | claimed (attempts : Int)
  | repairing (attempts : Int) (state : State)
  | repaired (attempts : Int)
  | loaded (attempts : Int)
  | counted
  /-- The run is not continued, and is to be failed. -/
  | recovering
  | linking
  | stepping (agentId : String) (agent : AgentRow)
  | failing (agent : Option (String × AgentRow × List StepResult))

structure Scan where
  /-- The stuck runs that are not dealt with; the first is the one taken up. -/
  stuck : List String
  waiting : List String
  /-- What the session has loaded and not expired. -/
  objects : String → Option FlowRow
  stage : Stage

inductive Phase where
  | started
  | selected (now : Int) (stuck : List (String × FlowRow))
  | scanning (scan : Scan)

structure World where
  tables : Tables
  phase : Phase

namespace Scan

variable (scan : Scan)

def held (tables : Tables) (id : String) : Option FlowRow :=
  (scan.objects id).or (tables.flows.get? id)

def goto (stage : Stage) : Scan := { scan with stage }

def keep (id : String) (row : FlowRow) : Scan :=
  { scan with objects := fun other => if other = id then some row else scan.objects other }

def expire : Scan := { scan with objects := fun _ => none }

def moveOn (rest : List String) : Scan :=
  { scan.expire with stuck := rest, stage := .turn }

def abort : Scan := { scan with stuck := [], waiting := [], stage := .turn }

end Scan

section Work

variable (service : Service) (tables : Tables) (scan : Scan) (id : String) (rest : List String)

def assessRun : Option (Tables × Scan) :=
  match scan.stage with
  | .turn =>
    if service.continueStranded && service.runtime.enabled then
      match scan.held tables id with
      | none => some (tables, scan.goto .recovering)
      | some row =>
        match assess service.runtime row.stranded row.run.state with
        | .ok (.claims attempts) => some (tables, (scan.keep id row).goto (.assessed attempts))
        | .ok (.exhausted attempts) => some (tables, (scan.keep id row).goto (.exhausted attempts))
        | .ok .ineligible | .error _ => some (tables, (scan.keep id row).goto .recovering)
    else some (tables, scan.goto .recovering)
  | _ => none

variable (commit : Option Int)

def deadLetterRun : Option (Tables × Scan) :=
  match scan.stage, scan.objects id with
  | .exhausted attempts, some loaded =>
    match commit with
    | some now =>
      some (tables.writeFlow id (FlowRow.writeBack now loaded (loaded.exhausted attempts now)), scan.moveOn rest)
    | none => some (tables, scan.expire.goto .recovering)
  | _, _ => none

def claimRun : Option (Tables × Scan) :=
  match scan.stage with
  | .assessed attempts =>
    match commit with
    | some now =>
      if ((tables.flows.get? id).bind fun row => claimStranded (some row.run)).isSome then
        some (tables.writeFlow id (FlowRow.claim now), scan.expire.goto (.claimed attempts))
      else some (tables, scan.expire.goto .recovering)
    | none => some (tables, scan.expire.goto .recovering)
  | _ => none

def loadRun : Option (Tables × Scan) :=
  match scan.stage, scan.held tables id with
  | .claimed attempts, some row =>
    match rebuilt? service.runtime (tables.history id) row.run.state with
    | some state => some (tables, (scan.keep id row).goto (.repairing attempts state))
    | none => some (tables, (scan.keep id row).goto (.loaded attempts))
  | .repaired attempts, some row => some (tables, (scan.keep id row).goto (.loaded attempts))
  | .claimed _, none | .repaired _, none => some (tables, scan.goto .recovering)
  | _, _ => none

def repairRun : Option (Tables × Scan) :=
  match scan.stage, scan.objects id with
  | .repairing attempts state, some loaded =>
    match commit with
    | some now =>
      some (tables.writeFlow id (FlowRow.writeBack now loaded (loaded.withState state)),
        scan.expire.goto (.repaired attempts))
    | none => some (tables, scan.expire.goto .recovering)
  | _, _ => none

def countRun : Option (Tables × Scan) :=
  match scan.stage, scan.objects id with
  | .loaded attempts, some loaded =>
    match commit with
    | some now =>
      some
        (tables.writeFlow id
          (FlowRow.writeBack now loaded (loaded.withState (Continuation.counted attempts loaded.run.state))),
          scan.expire.goto .counted)
    | none => some (tables, scan.expire.goto .recovering)
  | _, _ => none

def dispatchRun (starts : Bool) : Option (Tables × Scan) :=
  match scan.stage with
  | .counted => some (tables, if starts then scan.moveOn rest else scan.goto .recovering)
  | _ => none

def takeRun : Option (Tables × Scan) :=
  match scan.stage with
  | .recovering =>
    match scan.held tables id with
    | none => some (tables, scan.abort)
    | some row =>
      some (tables, (scan.keep id row).goto
        (if row.workflowType = "agent_execution" then .linking else .failing none))
  | _ => none

def linkRun : Option (Tables × Scan) :=
  match scan.stage with
  | .linking =>
    match tables.agents.entries.find? fun entry => entry.2.run.flowRunId = some id with
    | none => some (tables, scan.goto (.failing none))
    | some (agentId, agent) =>
      if agent.finished then some (tables, scan.goto (.failing none))
      else some (tables, scan.goto (.stepping agentId agent))
  | _ => none

def readSteps : Option (Tables × Scan) :=
  match scan.stage with
  | .stepping agentId agent =>
    some (tables, scan.goto (.failing (some (agentId, agent, committedSteps (tables.steps agentId)))))
  | _ => none

def failRun : Option (Tables × Scan) :=
  match scan.stage, scan.objects id with
  | .failing agent, some loaded =>
    match commit with
    | some now =>
      let failed := tables.writeFlow id (FlowRow.writeBack now loaded (loaded.recovered service now))
      match agent with
      | some (agentId, agent, steps) =>
        some (failed.writeAgent agentId (AgentRow.writeBack agent (agent.recovered now steps)), scan.moveOn rest)
      | none => some (failed, scan.moveOn rest)
    | none => some (tables, scan.moveOn rest)
  | _, _ => none

end Work

inductive Work where
  | assess
  | deadLetter (commit : Option Int)
  | claim (commit : Option Int)
  | load
  | repair (commit : Option Int)
  | count (commit : Option Int)
  | dispatch (starts : Bool)
  | take
  | link
  | readSteps
  | fail (commit : Option Int)

variable (service : Service)

def work (tables : Tables) (scan : Scan) (id : String) (rest : List String) : Work → Option (Tables × Scan)
  | .assess => assessRun service tables scan id
  | .deadLetter commit => deadLetterRun tables scan id rest commit
  | .claim commit => claimRun tables scan id commit
  | .load => loadRun service tables scan id
  | .repair commit => repairRun tables scan id commit
  | .count commit => countRun tables scan id commit
  | .dispatch starts => dispatchRun tables scan rest starts
  | .take => takeRun tables scan id
  | .link => linkRun tables scan id
  | .readSteps => readSteps tables scan
  | .fail commit => failRun service tables scan id rest commit

inductive ScanStep where
  | select (now : Int)
  | selectWaiting
  | work (kind : Work)
  | deadLetterWaiting (commit : Option Int)

inductive Action where
  | scan (step : ScanStep)
  /-- A commit of someone else, and the tables it leaves. -/
  | runner (tables : Tables)

def Tables.stuckRuns (now : Int) : List (String × FlowRow) :=
  tables.flows.entries.filter fun entry =>
    decide (entry.2.run.status ∈ activeStatuses) && decide (entry.2.updatedAt < now - 60 * service.stalenessMinutes)

def Tables.waitingRuns (now : Int) : List String :=
  if service.includeWaitTimeouts then
    (tables.flows.entries.filter fun entry => decide (entry.2.run.status = .waiting) &&
      decide (entry.2.updatedAt < now - 60 * service.flowWaitTimeoutMinutes)).map Prod.fst
  else []

def waitTimeoutReason : String :=
  "wait_timeout:" ++ toString service.flowWaitTimeoutMinutes ++ "m"

def scanStep (world : World) : ScanStep → Option World
  | .select now =>
    match world.phase with
    | .started => some { world with phase := .selected now (world.tables.stuckRuns service now) }
    | _ => none
  | .selectWaiting =>
    match world.phase with
    | .selected now stuck =>
      some
        { world with
          phase := .scanning
            { stuck := stuck.map Prod.fst
              waiting := world.tables.waitingRuns service now
              objects := fun id => Dict.Entries.find? id stuck
              stage := .turn } }
    | _ => none
  | .work kind =>
    match world.phase with
    | .scanning scan =>
      match scan.stuck with
      | id :: rest => (work service world.tables scan id rest kind).map fun done => ⟨done.1, .scanning done.2⟩
      | [] => none
    | _ => none
  | .deadLetterWaiting commit =>
    match world.phase with
    | .scanning scan =>
      match scan.stuck, scan.waiting with
      | [], id :: rest =>
        match commit with
        | some now =>
          some ⟨world.tables.writeFlow id (FlowRow.moveToDeadLetter now (waitTimeoutReason service)),
            .scanning { scan.expire with waiting := rest }⟩
        | none => some { world with phase := .scanning { scan.expire with waiting := rest } }
      | _, _ => none
    | _ => none

def stuckScan : StepSystem World Action where
  step world
    | .scan step => scanStep service world step
    | .runner tables => some { world with tables }

def Stage.agent? : Stage → Option String
  | .stepping agentId _ => some agentId
  | .failing (some (agentId, _, _)) => some agentId
  | _ => none

def Phase.inHand : Phase → List String
  | .started => []
  | .selected _ stuck => stuck.map Prod.fst
  | .scanning scan => scan.stuck

def Phase.agent? : Phase → Option String
  | .scanning scan => scan.stage.agent?
  | _ => none

/-- The runs in hand of a scan, and its agent run, are not finished. -/
structure Unfinished (inHand : List String) (agent? : Option String) : Prop where
  flows : ∀ {id row}, id ∈ inHand → tables.flows.get? id = some row → row.finished = false
  agents : ∀ {id row}, agent? = some id → tables.agents.get? id = some row → row.finished = false

/-- A runner finishes no run that the scan has in hand. -/
def Undisturbed (world : World) : Action → Prop
  | .scan _ => True
  | .runner tables => Unfinished tables world.phase.inHand world.phase.agent?

/-- Finished rows are left as they are. -/
structure Tables.Spared (before after : Tables) : Prop where
  flows : ∀ {id row}, before.flows.get? id = some row → row.finished = true → after.flows.get? id = some row
  agents : ∀ {id row}, before.agents.get? id = some row → row.finished = true → after.agents.get? id = some row

def World.start : World := ⟨tables, .started⟩

variable {service : Service} {tables after : Tables} {scan next : Scan} {id : String} {rest : List String}

variable (tables scan id rest) in
/-- What an action of the scan does with the run at hand. -/
inductive Works : Tables → Scan → Prop where
  /-- A query, or a commit that fails; an agent run that comes in hand is not finished. -/
  | reads (next : Scan) (stuck : next.stuck = scan.stuck ∨ next.stuck = [])
      (agent : ∀ {agentId}, next.stage.agent? = some agentId → scan.stage.agent? = some agentId ∨
        ∃ row, tables.agents.get? agentId = some row ∧ row.finished = false) :
      Works tables next
  /-- A commit that does not finish the run. -/
  | writes (next : Scan) (change : FlowRow → FlowRow)
      (opens : ∀ row, row.finished = false → (change row).finished = false)
      (stuck : next.stuck = scan.stuck) (agent : next.stage.agent? = none) :
      Works (tables.writeFlow id change) next
  | leaves : Works tables (scan.moveOn rest)
  | settles (change : FlowRow → FlowRow) :
      Works (tables.writeFlow id change) (scan.moveOn rest)
  | settlesBoth (change : FlowRow → FlowRow) (agentId : String) (changeAgent : AgentRow → AgentRow)
      (inHand : scan.stage.agent? = some agentId) :
      Works ((tables.writeFlow id change).writeAgent agentId changeAgent) (scan.moveOn rest)

theorem FlowRow.claim_unfinished (row : FlowRow) (unfinished : row.finished = false) :
    (row.claim now).finished = false := by
  simp only [FlowRow.claim, claimStranded]
  split
  case h_1 claimed =>
    split at claimed <;> cases claimed
    rfl
  · exact unfinished

theorem FlowRow.writeState_unfinished (row : FlowRow) (unfinished : row.finished = false) :
    (FlowRow.writeBack now loaded (loaded.withState state) row).finished = false := by
  simpa [FlowRow.finished, FlowRow.writeBack, FlowRow.withState, UnitOfWork.writeBack] using unfinished

theorem Works.to (next : Scan) (stuck : next.stuck = scan.stuck ∨ next.stuck = [])
    (agent : next.stage.agent? = none) : Works tables scan id rest tables next := by
  refine .reads next stuck fun found => ?_
  rw [agent] at found
  cases found

variable (tables scan id rest) in
def Worked : Option (Tables × Scan) → Prop
  | some done => Works tables scan id rest done.1 done.2
  | none => True

theorem Works.goes (stuck : moved.stuck = scan.stuck) (agent : moved.stage.agent? = none) :
    Worked tables scan id rest (some (tables, moved)) :=
  .to moved (.inl stuck) agent

theorem assessRun_works : Worked tables scan id rest (assessRun service tables scan id) := by
  unfold assessRun
  split
  · split
    · split
      · exact .goes rfl rfl
      · split
        all_goals exact .goes rfl rfl
    · exact .goes rfl rfl
  · trivial

theorem deadLetterRun_works : Worked tables scan id rest (deadLetterRun tables scan id rest commit) := by
  unfold deadLetterRun
  split
  · split
    · exact .settles _
    · exact .goes rfl rfl
  · trivial

theorem claimRun_works : Worked tables scan id rest (claimRun tables scan id commit) := by
  unfold claimRun
  split
  · split
    · split
      · exact .writes _ _ FlowRow.claim_unfinished rfl rfl
      · exact .goes rfl rfl
    · exact .goes rfl rfl
  · trivial

theorem loadRun_works : Worked tables scan id rest (loadRun service tables scan id) := by
  unfold loadRun
  split
  · split
    all_goals exact .goes rfl rfl
  · exact .goes rfl rfl
  · exact .goes rfl rfl
  · exact .goes rfl rfl
  · trivial

theorem repairRun_works : Worked tables scan id rest (repairRun tables scan id commit) := by
  unfold repairRun
  split
  · split
    · exact .writes _ _ FlowRow.writeState_unfinished rfl rfl
    · exact .goes rfl rfl
  · trivial

theorem countRun_works : Worked tables scan id rest (countRun tables scan id commit) := by
  unfold countRun
  split
  · split
    · exact .writes _ _ FlowRow.writeState_unfinished rfl rfl
    · exact .goes rfl rfl
  · trivial

theorem dispatchRun_works : Worked tables scan id rest (dispatchRun tables scan rest starts) := by
  unfold dispatchRun
  split
  · cases starts with
    | true => exact .leaves
    | false => exact .goes rfl rfl
  · trivial

theorem takeRun_works : Worked tables scan id rest (takeRun tables scan id) := by
  unfold takeRun
  split
  · split
    · exact .to _ (.inr rfl) rfl
    · refine .to _ (.inl rfl) ?_
      split <;> rfl
  · trivial

theorem linkRun_works : Worked tables scan id rest (linkRun tables scan id) := by
  unfold linkRun
  split
  · split
    · exact .goes rfl rfl
    case h_2 agent found =>
      split
      · exact .goes rfl rfl
      case isFalse unfinished =>
        refine .reads _ (.inl rfl) fun {other} inHand => .inr ⟨agent, ?_, by simpa using unfinished⟩
        cases inHand
        exact Dict.get?_eq_some.mpr (mem_of_find?_eq_some found)
  · trivial

theorem readSteps_works : Worked tables scan id rest (readSteps tables scan) := by
  unfold readSteps
  split
  case h_1 stage =>
    refine .reads _ (.inl rfl) fun {other} inHand => .inl ?_
    rw [stage]
    exact inHand
  · trivial

theorem failRun_works : Worked tables scan id rest (failRun service tables scan id rest commit) := by
  unfold failRun
  split
  case h_1 stage object =>
    split
    · split
      · exact .settlesBoth _ _ _ (by rw [stage]; rfl)
      · exact .settles _
    · exact .leaves
  · trivial

theorem work_works : Worked tables scan id rest (work service tables scan id rest kind) := by
  cases kind with
  | assess => exact assessRun_works
  | deadLetter => exact deadLetterRun_works
  | claim => exact claimRun_works
  | load => exact loadRun_works
  | repair => exact repairRun_works
  | count => exact countRun_works
  | dispatch => exact dispatchRun_works
  | take => exact takeRun_works
  | link => exact linkRun_works
  | readSteps => exact readSteps_works
  | fail => exact failRun_works

theorem Tables.Spared.refl : tables.Spared tables := ⟨fun found _ => found, fun found _ => found⟩

theorem Tables.Spared.writeFlow
    (kept : ∀ {row}, tables.flows.get? id = some row → row.finished = true → change row = row) :
    tables.Spared (tables.writeFlow id change) := by
  refine ⟨fun {other row} found finished => ?_, fun found _ => found⟩
  rw [Tables.writeFlow, Dict.get?_alter]
  split
  case isTrue same =>
    subst same
    rw [found, Option.map_some, kept found finished]
  · exact found

theorem Tables.Spared.writeAgent (spared : tables.Spared (tables.writeFlow id changeFlow))
    (unfinished : ∀ {row}, tables.agents.get? agentId = some row → row.finished = false) :
    tables.Spared ((tables.writeFlow id changeFlow).writeAgent agentId change) := by
  refine ⟨spared.flows, fun {other row} found finished => ?_⟩
  simp only [Tables.writeAgent, Dict.get?_alter]
  split
  case isTrue same =>
    subst same
    rw [unfinished found] at finished
    cases finished
  · exact found

theorem Works.spared (works : Works tables scan id rest after next) (taken : scan.stuck = id :: rest)
    (unfinished : Unfinished tables scan.stuck scan.stage.agent?) : tables.Spared after := by
  have inHand : id ∈ scan.stuck := by
    rw [taken]
    exact mem_cons_self
  have written {change : FlowRow → FlowRow} : tables.Spared (tables.writeFlow id change) := by
    refine .writeFlow fun {row} found finished => ?_
    rw [unfinished.flows inHand found] at finished
    cases finished
  cases works with
  | reads => exact .refl
  | writes => exact written
  | leaves => exact .refl
  | settles => exact written
  | settlesBoth change agentId changeAgent read => exact written.writeAgent (unfinished.agents read)

theorem Unfinished.writeFlow {agent? : Option String} (unfinished : Unfinished tables inHand agent?)
    (opens : id ∈ inHand → ∀ row, row.finished = false → (change row).finished = false) :
    Unfinished (tables.writeFlow id change) inHand none := by
  refine ⟨fun {other row} member found => ?_, fun none => by cases none⟩
  rw [Tables.writeFlow, Dict.get?_alter] at found
  split at found
  case isTrue same =>
    subst same
    obtain ⟨before, stored, rfl⟩ := Option.map_eq_some_iff.mp found
    exact opens member before (unfinished.flows member stored)
  · exact unfinished.flows member found

theorem Unfinished.sublist {agent? : Option String}
    (unfinished : Unfinished tables inHand agent?) (sublist : fewer.Sublist inHand) :
    Unfinished tables fewer none :=
  ⟨fun member => unfinished.flows (sublist.subset member), fun none => by cases none⟩

theorem Works.unfinished (works : Works tables scan id rest after next) (taken : scan.stuck = id :: rest)
    (distinct : scan.stuck.Nodup) (unfinished : Unfinished tables scan.stuck scan.stage.agent?) :
    next.stuck.Sublist scan.stuck ∧ Unfinished after next.stuck next.stage.agent? := by
  have fewer : rest.Sublist scan.stuck := by
    rw [taken]
    exact sublist_cons_self id rest
  have gone : id ∉ rest := by
    rw [taken] at distinct
    exact (nodup_cons.mp distinct).1
  have settled {change : FlowRow → FlowRow} : Unfinished (tables.writeFlow id change) rest none :=
    (unfinished.sublist fewer).writeFlow fun member => absurd member gone
  cases works with
  | reads _ stuck agent =>
    have sublist : next.stuck.Sublist scan.stuck := by
      rcases stuck with same | ended
      · rw [same]
      · rw [ended]
        exact nil_sublist _
    refine ⟨sublist, fun member => unfinished.flows (sublist.subset member), fun {other row} read stored => ?_⟩
    rcases agent read with before | ⟨found, present, running⟩
    · exact unfinished.agents before stored
    · rw [present] at stored
      cases stored
      exact running
  | writes _ change opens stuck agent =>
    rw [stuck, agent]
    exact ⟨.refl _, unfinished.writeFlow fun _ => opens⟩
  | leaves => exact ⟨fewer, unfinished.sublist fewer⟩
  | settles => exact ⟨fewer, settled⟩
  | settlesBoth => exact ⟨fewer, settled.flows, fun none => by cases none⟩

variable {world : World}

/-- The invariant of a scan. -/
structure World.Clear (world : World) : Prop where
  distinct : world.phase.inHand.Nodup
  unfinished : Unfinished world.tables world.phase.inHand world.phase.agent?

theorem active_unfinished {row : FlowRow} (active : row.run.status ∈ activeStatuses) : row.finished = false := by
  simp only [activeStatuses, mem_cons, not_mem_nil, or_false] at active
  rcases active with running | executing
  · simp [FlowRow.finished, isFlowTerminal, running]
  · simp [FlowRow.finished, isFlowTerminal, executing]

theorem stuckRuns_sublist : (tables.stuckRuns service now).Sublist tables.flows.entries :=
  filter_sublist

theorem stuckRuns_clear : World.Clear ⟨tables, .selected now (tables.stuckRuns service now)⟩ := by
  refine ⟨(stuckRuns_sublist.map Prod.fst).nodup tables.flows.distinct, fun {id row} member found => ?_,
    fun none => by cases none⟩
  obtain ⟨_, selected, rfl⟩ := mem_map.mp member
  have stored := Dict.get?_eq_some.mpr (stuckRuns_sublist.subset selected)
  rw [stored] at found
  cases found
  have checked := (mem_filter.mp selected).2
  simp only [Bool.and_eq_true, decide_eq_true_eq] at checked
  exact active_unfinished checked.1

theorem moveToDeadLetter_finished {row : FlowRow} (finished : row.finished = true) :
    row.moveToDeadLetter now reason = row := by
  refine if_neg fun waiting => ?_
  simp [FlowRow.finished, isFlowTerminal, waiting] at finished

theorem scanStep_spares (clear : world.Clear) (stepped : scanStep service world step = some following) :
    world.tables.Spared following.tables ∧ following.Clear := by
  cases step <;> simp only [scanStep] at stepped
  case select =>
    split at stepped <;> cases stepped
    exact ⟨.refl, stuckRuns_clear⟩
  case selectWaiting =>
    split at stepped <;> cases stepped
    case h_1 phase =>
      obtain ⟨distinct, unfinished⟩ := clear
      rw [phase] at distinct unfinished
      exact ⟨.refl, distinct, unfinished⟩
  case work kind =>
    split at stepped
    case h_1 scan phase =>
      obtain ⟨distinct, unfinished⟩ := clear
      rw [phase] at distinct unfinished
      split at stepped
      case h_1 id rest taken =>
        obtain ⟨_, worked, rfl⟩ := Option.map_eq_some_iff.mp stepped
        have works := @work_works service world.tables scan id rest kind
        rw [worked] at works
        obtain ⟨fewer, left⟩ := works.unfinished taken distinct unfinished
        exact ⟨works.spared taken unfinished, fewer.nodup distinct, left⟩
      · cases stepped
    · cases stepped
  case deadLetterWaiting =>
    split at stepped
    case h_1 scan phase =>
      split at stepped
      case h_1 rest taken waiting =>
        have unfinished := clear.unfinished
        rw [phase] at unfinished
        have nothing (tables : Tables) (same : tables.agents = world.tables.agents) :
            World.Clear ⟨tables, .scanning { scan.expire with waiting := rest }⟩ := by
          refine ⟨?_, fun member => ?_, fun read found => unfinished.agents read (same ▸ found)⟩
          · simp only [Scan.expire, taken]
            exact nodup_nil
          · simp only [Scan.expire, taken] at member
            cases member
        split at stepped <;> cases stepped
        · exact ⟨.writeFlow fun _ finished => moveToDeadLetter_finished finished, nothing _ rfl⟩
        · exact ⟨.refl, nothing _ rfl⟩
      · cases stepped
    · cases stepped

theorem step_clear (undisturbed : Undisturbed world action) (clear : world.Clear)
    (stepped : (stuckScan service).step world action = some following) : following.Clear := by
  cases action with
  | scan => exact (scanStep_spares clear stepped).2
  | runner =>
    cases stepped
    exact ⟨clear.distinct, undisturbed⟩

theorem start_clear : (World.start tables).Clear := by
  refine ⟨nodup_nil, fun member => absurd member not_mem_nil, fun read => ?_⟩
  cases read

/-- The scan leaves every finished run alone, as long as no one finishes a run that it has in hand. -/
theorem stuck_scan_spares_finished {actions : List Action} (step : ScanStep)
    (undisturbed : (stuckScan service).Meets Undisturbed (.start tables) actions)
    (ran : (stuckScan service).run (.start tables) actions = some world)
    (stepped : (stuckScan service).step world (.scan step) = some following) :
    world.tables.Spared following.tables := by
  have clear : world.Clear := StepSystem.invariant step_clear undisturbed start_clear ran
  exact (scanStep_spares clear stepped).1

def everyTenMinutes : Service := ⟨10, 60, false, false, ⟨false, 3, true, false, [], [], [], .ascii⟩, fun _ => ""⟩

def continuing : Service := ⟨10, 60, false, true, ⟨true, 3, true, false, ["flow"], [], [], .ascii⟩, fun _ => ""⟩

def staleRow (workflowType : String) (status : RunStatus) : FlowRow :=
  ⟨"flow", workflowType, ⟨status, ∅, "work", none, .null, .null, none⟩, none, .null, none, none, 0, none⟩

def freshRow (status : RunStatus) : FlowRow := { staleRow "flow" status with updatedAt := 990 }

def agentRow (status : Agent.AgentStatus) : AgentRow :=
  ⟨⟨status, .null, none, none, some "stale", 0, 0, .null⟩, none⟩

def tablesOf (flows : List (String × FlowRow)) (agents : List (String × AgentRow)) : Tables :=
  ⟨.ofList flows, .ofList agents, fun _ => ∅, fun _ => []⟩

def taken : List Action := [.scan (.work .assess), .scan (.work .take)]

def staleAndFresh (status : RunStatus) : Tables :=
  tablesOf [("stale", staleRow "flow" .running), ("fresh", freshRow status)] []

/-- A run that is not stale finishes while the scan is under way. -/
theorem stuck_scan_spares_fresh :
    ∃ world following,
      (stuckScan everyTenMinutes).run (.start (staleAndFresh .running))
          (.scan (.select 1000) :: .scan .selectWaiting :: .runner (staleAndFresh .success) :: taken)
        = some world ∧
      (stuckScan everyTenMinutes).step world (.scan (.work (.fail (some 1001)))) = some following ∧
      ((following.tables.flows.get? "stale").map (·.run.status)) = some .failed ∧
      world.tables.Spared following.tables := by
  have undisturbed : (stuckScan everyTenMinutes).Meets Undisturbed (.start (staleAndFresh .running))
      (.scan (.select 1000) :: .scan .selectWaiting :: .runner (staleAndFresh .success) :: taken) := by
    refine .cons trivial rfl (.cons trivial rfl (.cons ?_ rfl (.cons trivial rfl (.cons trivial rfl trivial))))
    refine ⟨fun {id row} member found => ?_, fun none => by cases none⟩
    cases mem_singleton.mp member
    cases found
    rfl
  exact ⟨_, _, rfl, rfl, by decide, stuck_scan_spares_finished (.work (.fail (some 1001))) undisturbed rfl rfl⟩

/-- The run finishes after the scan has selected it; and the scan fails a run
that it could not claim, and an agent run that it has found executing. -/
theorem stuck_scan_overwrites :
    (∃ world following,
      (stuckScan everyTenMinutes).run (.start (tablesOf [("stale", staleRow "flow" .running)] []))
          (.scan (.select 1000) :: .scan .selectWaiting ::
            .runner (tablesOf [("stale", staleRow "flow" .success)] []) :: taken) = some world ∧
      (stuckScan everyTenMinutes).step world (.scan (.work (.fail (some 1001)))) = some following ∧
      ((world.tables.flows.get? "stale").map (·.run.status)) = some .success ∧
      ((following.tables.flows.get? "stale").map (·.run.status)) = some .failed) ∧
    (∃ world following, (stuckScan continuing).run (.start (tablesOf [("stale", staleRow "flow" .running)] []))
          [.scan (.select 1000), .scan .selectWaiting, .scan (.work .assess),
            .runner (tablesOf [("stale", staleRow "flow" .success)] []),
            .scan (.work (.claim (some 1001))), .scan (.work .take)] = some world ∧
      (stuckScan continuing).step world (.scan (.work (.fail (some 1002)))) = some following ∧
      ((world.tables.flows.get? "stale").map (·.run.status)) = some .success ∧
      ((following.tables.flows.get? "stale").map (·.run.status)) = some .failed) ∧
    ∃ world following,
      (stuckScan everyTenMinutes).run
          (.start (tablesOf [("stale", staleRow "agent_execution" .running)] [("agent", agentRow .executing)]))
          (.scan (.select 1000) :: .scan .selectWaiting :: taken ++ [.scan (.work .link),
            .runner (tablesOf [("stale", staleRow "agent_execution" .running)] [("agent", agentRow .completed)]),
            .scan (.work .readSteps)]) = some world ∧
      (stuckScan everyTenMinutes).step world (.scan (.work (.fail (some 1001)))) = some following ∧
      ((world.tables.agents.get? "agent").map (·.run.status)) = some .completed ∧
      ((following.tables.agents.get? "agent").map (·.run.status)) = some .failed :=
  ⟨⟨_, _, rfl, rfl, by decide, by decide⟩, ⟨_, _, rfl, rfl, by decide, by decide⟩,
    ⟨_, _, rfl, rfl, by decide, by decide⟩⟩

end AindyRuntime.Continuation.StuckScan
