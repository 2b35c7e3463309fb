import AindyRuntime.Jobs.AsyncJob
import AindyRuntime.Queue.RedisQueue

/-! # Workers on the queue

`process_one_job` of any number of workers, over the Redis queue and the rows of
the jobs.
-/

namespace AindyRuntime.WorkerLoop

open AsyncJob DistributedQueue Function List Option

inductive Stage where
  | free
  | holding (jobId : String)
  /-- `_try_claim_job` has committed. -/
  | executing (jobId : String)
  | acking (jobId : String)
  /-- An exception has been caught. -/
  | failing (jobId error : String)
  | stopped
deriving DecidableEq, Repr

structure World (Worker : Type) where
  queue : DistributedQueue.World Worker
  logs : String → Option JobLog
  stage : Worker → Stage
  /-- The jobs that `_execute_job` has run to its end. -/
  executed : List String

inductive Action (Worker : Type) where
  /-- What goes on in the queue around the workers, and the first commands of `dequeue`. -/
  | queue (action : DistributedQueue.Action Worker)
  /-- `dequeue` returns. -/
  | record (worker : Worker)
  /-- The process shuts down while the worker waits for a slot. -/
  | putBack (worker : Worker) (raw : String)
  | claim (worker : Worker) (databaseFails : Bool)
  | execute (worker : Worker) (outcome : HandlerOutcome)
  /-- An exception reaches `process_one_job`. -/
  | raise (worker : Worker) (error : String)
  | ack (worker : Worker)
  /-- `fail`, one command at a time. -/
  | fail (worker : Worker)
  | remove (worker : Worker)
  | bury (worker : Worker)
  | stop (worker : Worker)

variable {Worker : Type} [DecidableEq Worker]

namespace World

variable (world : World Worker) (worker : Worker)

def enter (stage : Stage) : World Worker :=
  { world with stage := update world.stage worker stage }

def permits : DistributedQueue.Action Worker → Bool
  | .pop worker | .stamp worker => world.stage worker = .free
  | .record _ | .ack _ | .fail _ _ _ | .remove _ | .bury _ => false
  | .tick _ | .enqueue _ | .enqueueDelayed _ _ | .processDelayed _ | .scan _ _ | .snapshot _ | .reclaim _
  | .requeue _ => true

/-- `_try_claim_job`: the update finds the row only where it is pending, and an error is a
refusal.  A job that is not claimed is acked. -/
def claim (jobId : String) (databaseFails : Bool) : World Worker :=
  match world.logs jobId with
  | some log =>
    if databaseFails = false ∧ log.status = .pending then
      { world with logs := update world.logs jobId (some { log with status := .running }) }.enter
        worker (.executing jobId)
    else world.enter worker (.acking jobId)
  | none => world.enter worker (.acking jobId)

def execute (jobId : String) (log : JobLog) (outcome : HandlerOutcome) : World Worker :=
  let executed := executeJobInline log outcome
  let written := { world with logs := update world.logs jobId (some executed.1) }
  if executed.2 = .escaped then written.enter worker .stopped
  else { written with executed := jobId :: world.executed }.enter worker (.acking jobId)

end World

def workers (setting : DistributedQueue.Setting) : StepSystem (World Worker) (Action Worker) where
  step world
    | .queue action =>
      if world.permits action then
        ((queue setting).step world.queue action).map fun queue => { world with queue }
      else none
    | .record worker =>
      match world.stage worker, world.queue.phase worker with
      | .free, .stamped jobId _ _ =>
        ((queue setting).step world.queue (.record worker)).map fun queue =>
          { world with queue }.enter worker (.holding jobId)
      | _, _ => none
    | .putBack worker raw =>
      match world.stage worker with
      | .holding _ =>
        ((queue setting).step world.queue (.enqueue raw)).map fun queue => { world with queue }.enter worker .free
      | _ => none
    | .claim worker databaseFails =>
      match world.stage worker with
      | .holding jobId => some (world.claim worker jobId databaseFails)
      | _ => none
    | .execute worker outcome =>
      match world.stage worker with
      | .executing jobId => (world.logs jobId).map fun log => world.execute worker jobId log outcome
      | _ => none
    | .raise worker error =>
      match world.stage worker with
      | .holding jobId | .executing jobId => some (world.enter worker (.failing jobId error))
      | _ => none
    | .ack worker =>
      match world.stage worker with
      | .acking jobId =>
        ((queue setting).step world.queue (.ack jobId)).map fun queue => { world with queue }.enter worker .free
      | _ => none
    | .fail worker =>
      match world.stage worker with
      | .failing jobId error =>
        ((queue setting).step world.queue (.fail worker jobId error)).map fun queue => { world with queue }
      | _ => none
    | .remove worker =>
      match world.stage worker with
      | .failing _ _ => ((queue setting).step world.queue (.remove worker)).map fun queue => { world with queue }
      | _ => none
    | .bury worker =>
      match world.stage worker with
      | .failing _ _ =>
        ((queue setting).step world.queue (.bury worker)).map fun queue => { world with queue }.enter worker .free
      | _ => none
    | .stop worker => some (world.enter worker .stopped)

def World.fresh (logs : String → Option JobLog) (clock : Int) : World Worker :=
  ⟨.fresh clock, logs, fun _ => .free, []⟩

variable {setting : DistributedQueue.Setting} {world next : World Worker} {action : Action Worker}
variable {jobId : String}

variable (setting world) in
inductive Stepped :
    Action Worker → World Worker → Prop where
  | queued {action : DistributedQueue.Action Worker} {inner : DistributedQueue.World Worker}
      (permitted : world.permits action = true) (stepped : (queue setting).step world.queue action = some inner) :
      Stepped (.queue action) { world with queue := inner }
  | recorded {worker : Worker} {jobId : String} {inner : DistributedQueue.World Worker}
      (free : world.stage worker = .free) (stepped : (queue setting).step world.queue (.record worker) = some inner) :
      Stepped (.record worker) ({ world with queue := inner }.enter worker (.holding jobId))
  | putBack {worker : Worker} {raw jobId : String} {inner : DistributedQueue.World Worker}
      (holding : world.stage worker = .holding jobId)
      (stepped : (queue setting).step world.queue (.enqueue raw) = some inner) :
      Stepped (.putBack worker raw) ({ world with queue := inner }.enter worker .free)
  | claimed {worker : Worker} {jobId : String} {log : JobLog} (holding : world.stage worker = .holding jobId)
      (present : world.logs jobId = some log) :
      Stepped (.claim worker false)
        ({ world with logs := update world.logs jobId (some { log with status := .running }) }.enter
          worker (.executing jobId))
  | refused {worker : Worker} {jobId : String} {databaseFails : Bool} (holding : world.stage worker = .holding jobId)
      (unclaimed : databaseFails = true ∨ ∀ log, world.logs jobId = some log → log.status ≠ .pending) :
      Stepped (.claim worker databaseFails) (world.enter worker (.acking jobId))
  | executed {worker : Worker} {jobId : String} {log : JobLog} {outcome : HandlerOutcome}
      (executing : world.stage worker = .executing jobId) (present : world.logs jobId = some log) :
      Stepped (.execute worker outcome) (world.execute worker jobId log outcome)
  | raised {worker : Worker} {jobId error : String}
      (busy : world.stage worker = .holding jobId ∨ world.stage worker = .executing jobId) :
      Stepped (.raise worker error) (world.enter worker (.failing jobId error))
  | acked {worker : Worker} {jobId : String} {inner : DistributedQueue.World Worker}
      (acking : world.stage worker = .acking jobId)
      (stepped : (queue setting).step world.queue (.ack jobId) = some inner) :
      Stepped (.ack worker) ({ world with queue := inner }.enter worker .free)
  | failed {worker : Worker} {jobId error : String} {inner : DistributedQueue.World Worker}
      (failing : world.stage worker = .failing jobId error)
      (stepped : (queue setting).step world.queue (.fail worker jobId error) = some inner) :
      Stepped (.fail worker) { world with queue := inner }
  | removed {worker : Worker} {inner : DistributedQueue.World Worker}
      (stepped : (queue setting).step world.queue (.remove worker) = some inner) :
      Stepped (.remove worker) { world with queue := inner }
  | buried {worker : Worker} {inner : DistributedQueue.World Worker}
      (stepped : (queue setting).step world.queue (.bury worker) = some inner) :
      Stepped (.bury worker) ({ world with queue := inner }.enter worker .free)
  | stopped {worker : Worker} : Stepped (.stop worker) (world.enter worker .stopped)

variable {worker : Worker} {stage : Stage} {inner : DistributedQueue.World Worker}

theorem claim_stepped (holding : world.stage worker = .holding jobId) :
    Stepped setting world (.claim worker databaseFails) (world.claim worker jobId databaseFails) := by
  unfold World.claim
  cases present : world.logs jobId with
  | none =>
    refine .refused holding (.inr fun log found => ?_)
    rw [present] at found
    cases found
  | some log =>
    by_cases pending : databaseFails = false ∧ log.status = .pending
    · obtain ⟨answers, pending⟩ := pending
      subst answers
      simp only [pending, and_self, if_true]
      exact .claimed holding present
    · simp only [pending, if_false]
      refine .refused holding ?_
      cases databaseFails with
      | true => exact .inl rfl
      | false =>
        refine .inr fun found same isPending => ?_
        rw [present] at same
        cases same
        exact pending ⟨rfl, isPending⟩

theorem workers_stepped (stepped : (workers setting).step world action = some next) :
    Stepped setting world action next := by
  cases action <;> simp only [workers] at stepped
  case queue action =>
    by_cases permitted : world.permits action = true
    · rw [if_pos permitted] at stepped
      exact Option.forall_mem_map.mpr (fun inner inside => .queued permitted inside) next stepped
    · rw [if_neg permitted] at stepped
      cases stepped
  case record =>
    split at stepped
    case h_1 stage phase =>
      exact Option.forall_mem_map.mpr (fun inner inside => .recorded stage inside) next stepped
    case h_2 => cases stepped
  case putBack =>
    split at stepped
    case h_1 stage =>
      exact Option.forall_mem_map.mpr (fun inner inside => .putBack stage inside) next stepped
    case h_2 => cases stepped
  case claim =>
    split at stepped <;> cases stepped
    case h_1 stage => exact claim_stepped stage
  case execute =>
    split at stepped
    case h_1 stage =>
      exact Option.forall_mem_map.mpr (fun log present => .executed stage present) next stepped
    case h_2 => cases stepped
  case raise =>
    split at stepped <;> cases stepped
    case h_1 stage => exact .raised (.inl stage)
    case h_2 stage => exact .raised (.inr stage)
  case ack =>
    split at stepped
    case h_1 stage =>
      exact Option.forall_mem_map.mpr (fun inner inside => .acked stage inside) next stepped
    case h_2 => cases stepped
  case fail =>
    split at stepped
    case h_1 stage =>
      exact Option.forall_mem_map.mpr (fun inner inside => .failed stage inside) next stepped
    case h_2 => cases stepped
  case remove =>
    split at stepped
    case h_1 =>
      exact Option.forall_mem_map.mpr (fun inner inside => .removed inside) next stepped
    case h_2 => cases stepped
  case bury =>
    split at stepped
    case h_1 =>
      exact Option.forall_mem_map.mpr (fun inner inside => .buried inside) next stepped
    case h_2 => cases stepped
  case stop =>
    cases stepped
    exact .stopped

def burying? : Phase → Option String
  | .failing jobId _ _ | .burying jobId _ _ => some jobId
  | _ => none

structure Aside (before after : DistributedQueue.World Worker) : Prop where
  acked : after.acked = before.acked
  dead : after.redis.dead = before.redis.dead
  burying : ∀ client jobId, burying? (after.phase client) = some jobId → burying? (before.phase client) = some jobId

theorem Aside.enter {client : Worker} (dead : redis.dead = before.redis.dead)
    (unburied : burying? phase = none) :
    Aside before ({ before with redis, requeued, deliveries, accepted }.enter client phase) := by
  refine ⟨rfl, dead, fun other jobId burying => ?_⟩
  by_cases same : other = client
  · subst same
    simp only [DistributedQueue.World.enter, update_self, unburied] at burying
    cases burying
  · simp only [DistributedQueue.World.enter, update_of_ne same] at burying
    exact burying

theorem queue_aside {after : DistributedQueue.World Worker} {action : DistributedQueue.Action Worker}
    (stepped : (queue setting).step before action = some after)
    (permitted : world.permits action = true ∨ (∃ worker, action = .record worker) ∨ ∃ raw, action = .enqueue raw) :
    Aside before after := by
  cases queue_stepped stepped
  case promoted => exact ⟨rfl, (Redis.processDelayed_frame _ _).2, fun _ _ burying => burying⟩
  case acked | failed | removed | buried => simp [World.permits] at permitted
  case ticked | enqueued | enqueuedDelayed | saturated | saturatedDelayed | idled | dropped =>
    exact ⟨rfl, rfl, fun _ _ burying => burying⟩
  all_goals exact .enter rfl rfl

def Stage.tended? : Stage → Option String
  | .executing jobId | .failing jobId _ => some jobId
  | _ => none

def World.Attended (world : World Worker) (jobId : String) : Prop :=
  (∃ letter ∈ world.queue.redis.dead, letter.jobId = jobId) ∨ ∃ worker, (world.stage worker).tended? = some jobId

theorem World.Attended.enter {Result : Prop} (attended : world.Attended jobId) (next : World Worker)
    (stages : next.stage = update world.stage worker stage) (dead : world.queue.redis.dead ⊆ next.queue.redis.dead)
    (own : (world.stage worker).tended? = some jobId → Result) (lift : next.Attended jobId → Result) : Result := by
  obtain ⟨letter, buried, same⟩ | ⟨other, tends⟩ := attended
  · exact lift (.inl ⟨letter, dead buried, same⟩)
  · by_cases same : other = worker
    · subst same
      exact own tends
    · refine lift (.inr ⟨other, ?_⟩)
      rw [stages, update_of_ne same]
      exact tends

/-- No worker stops between its claim and the end of the execution or of `fail`, and no claim
fails in the database. -/
def survives (world : World Worker) : Action Worker → Bool
  | .stop worker => (world.stage worker).tended? = none
  | .execute _ outcome => outcome ≠ .raisedBase
  | .claim _ databaseFails => databaseFails = false
  | _ => true

def Survives (world : World Worker) (action : Action Worker) : Prop := survives world action = true

instance (world : World Worker) (action : Action Worker) : Decidable (Survives world action) :=
  inferInstanceAs (Decidable (_ = true))

structure Tended (world : World Worker) : Prop where
  running : ∀ jobId log, world.logs jobId = some log → log.status = .running → world.Attended jobId
  settled : ∀ jobId log, world.logs jobId = some log → log.status.terminal = true → jobId ∈ world.executed
  acking : ∀ worker jobId, world.stage worker = .acking jobId → world.logs jobId ≠ none →
    jobId ∈ world.executed ∨ world.Attended jobId
  acked : ∀ jobId ∈ world.queue.acked, world.logs jobId ≠ none → jobId ∈ world.executed ∨ world.Attended jobId
  burying : ∀ worker jobId, burying? (world.queue.phase worker) = some jobId →
    ∃ error, world.stage worker = .failing jobId error

omit [DecidableEq Worker] in
theorem Tended.fresh {logs : String → Option JobLog} {clock : Int}
    (pending : ∀ jobId log, logs jobId = some log → log.status = .pending) :
    Tended (World.fresh logs clock : World Worker) where
  running jobId log present running := by
    rw [pending jobId log present] at running
    cases running
  settled jobId log present terminal := by
    rw [pending jobId log present] at terminal
    cases terminal
  acking _ _ acking := by cases acking
  acked _ member := by cases member
  burying _ _ burying := by cases burying

section

variable (tended : Tended world) (next : World Worker) (stages : next.stage = update world.stage worker stage)
  (dead : world.queue.redis.dead ⊆ next.queue.redis.dead)
  (acking : ∀ jobId, stage = .acking jobId → world.logs jobId ≠ none → jobId ∈ next.executed ∨ next.Attended jobId)
  (acked : ∀ jobId ∈ next.queue.acked, jobId ∈ world.queue.acked ∨ world.stage worker = .acking jobId)
  (burying : ∀ other jobId, burying? (next.queue.phase other) = some jobId →
    other ≠ worker ∧ burying? (world.queue.phase other) = some jobId ∨ ∃ error, next.stage other = .failing jobId error)
include tended stages dead acking acked burying

/-- A worker moves on.  What it tended is still attended, or has been run to its end and is not
left running. -/
theorem Tended.moved (executed : world.executed ⊆ next.executed)
    (own : ∀ jobId, (world.stage worker).tended? = some jobId → next.Attended jobId ∨
      jobId ∈ next.executed ∧ ∀ log, next.logs jobId = some log → log.status ≠ .running)
    (known : ∀ jobId, next.logs jobId ≠ none → world.logs jobId ≠ none)
    (running : ∀ jobId log, next.logs jobId = some log → log.status = .running →
      next.Attended jobId ∨ world.logs jobId = some log)
    (settled : ∀ jobId log, next.logs jobId = some log → log.status.terminal = true →
      jobId ∈ next.executed ∨ world.logs jobId = some log) : Tended next := by
  have hands : ∀ jobId, jobId ∈ world.executed ∨ world.Attended jobId →
      jobId ∈ next.executed ∨ next.Attended jobId := by
    intro jobId before
    obtain run | attended := before
    · exact .inl (executed run)
    · refine attended.enter next stages dead (fun tends => ?_) .inr
      obtain still | ⟨run, _⟩ := own jobId tends
      · exact .inr still
      · exact .inl run
  refine ⟨fun jobId log present runs => ?_, fun jobId log present terminal => ?_, fun other jobId acks present => ?_,
    fun jobId member present => ?_, fun other jobId buries => ?_⟩
  · obtain attended | before := running jobId log present runs
    · exact attended
    · refine (tended.running jobId log before runs).enter next stages dead (fun tends => ?_) id
      obtain still | ⟨_, ended⟩ := own jobId tends
      · exact still
      · exact absurd runs (ended log present)
  · obtain run | before := settled jobId log present terminal
    · exact run
    · exact executed (tended.settled jobId log before terminal)
  · rw [stages] at acks
    by_cases same : other = worker
    · subst same
      rw [update_self] at acks
      exact acking jobId acks (known jobId present)
    · rw [update_of_ne same] at acks
      exact hands jobId (tended.acking other jobId acks (known jobId present))
  · obtain before | acks := acked jobId member
    · exact hands jobId (tended.acked jobId before (known jobId present))
    · exact hands jobId (tended.acking worker jobId acks (known jobId present))
  · obtain ⟨different, before⟩ | failing := burying other jobId buries
    · rw [stages, update_of_ne different]
      exact tended.burying other jobId before
    · exact failing

theorem Tended.kept (executed : next.executed = world.executed) (logs : next.logs = world.logs)
    (own : ∀ jobId, (world.stage worker).tended? = some jobId → next.Attended jobId) : Tended next := by
  refine tended.moved next stages dead acking acked burying (executed ▸ List.Subset.refl _)
    (fun jobId tends => .inl (own jobId tends)) (fun jobId => ?_) (fun jobId log present _ => .inr ?_)
    (fun jobId log present _ => .inr ?_)
  · rw [logs]
    exact id
  · rw [← logs]
    exact present
  · rw [← logs]
    exact present

end

omit [DecidableEq Worker] in
theorem Tended.aside (tended : Tended world) (aside : Aside world.queue inner) :
    Tended { world with queue := inner } := by
  have attended : ∀ jobId, world.Attended jobId → { world with queue := inner }.Attended jobId := by
    intro jobId attended
    unfold World.Attended
    rw [aside.dead]
    exact attended
  refine ⟨fun jobId log present running => ?_, tended.settled, fun worker jobId acking present => ?_,
    fun jobId member present => ?_, fun worker jobId burying => ?_⟩
  · exact attended jobId (tended.running jobId log present running)
  · exact (tended.acking worker jobId acking present).imp_right (attended jobId)
  · rw [aside.acked] at member
    exact (tended.acked jobId member present).imp_right (attended jobId)
  · exact tended.burying worker jobId (aside.burying worker jobId burying)

omit [DecidableEq Worker] in
theorem Tended.unburied {other : Worker} (tended : Tended world)
    (notFailing : ∀ jobId error, world.stage worker ≠ .failing jobId error)
    (burying : burying? (world.queue.phase other) = some jobId) : other ≠ worker := by
  intro same
  subst same
  obtain ⟨error, failing⟩ := tended.burying other jobId burying
  exact notFailing jobId error failing

theorem Tended.enter (tended : Tended world) (untended : (world.stage worker).tended? = none)
    (acking : ∀ jobId, stage = .acking jobId → world.logs jobId ≠ none →
      jobId ∈ world.executed ∨ world.Attended jobId) : Tended (world.enter worker stage) := by
  refine tended.kept _ rfl (List.Subset.refl _) (fun jobId acks present => ?_)
    (fun jobId member => .inl member) (fun other jobId burying => .inl ⟨?_, burying⟩) rfl rfl (fun jobId tends => ?_)
  · refine (acking jobId acks present).imp_right fun attended => ?_
    refine attended.enter (world.enter worker stage) rfl (List.Subset.refl _) (fun tends => ?_) id
    rw [untended] at tends
    cases tends
  · refine tended.unburied (fun jobId error failing => ?_) burying
    rw [failing] at untended
    cases untended
  · rw [untended] at tends
    cases tends

theorem attended_of_stage (tends : stage.tended? = some jobId)
    (stages : next.stage = update world.stage worker stage) : next.Attended jobId := by
  refine .inr ⟨worker, ?_⟩
  rw [stages, update_self]
  exact tends

section

variable (tended : Tended world)
include tended

/-- A worker that is not at `fail` writes the row of its job and moves on. -/
theorem Tended.wrote (next : World Worker) (stages : next.stage = update world.stage worker stage)
    (executed : world.executed ⊆ next.executed) (queue : next.queue = world.queue)
    (present : world.logs jobId = some log) (logs : next.logs = update world.logs jobId (some written))
    (own : ∀ other, (world.stage worker).tended? = some other → next.Attended other ∨
      other ∈ next.executed ∧ ∀ log, next.logs other = some log → log.status ≠ .running)
    (running : written.status = .running → next.Attended jobId)
    (settled : written.status.terminal = true → jobId ∈ next.executed)
    (acking : ∀ other, stage = .acking other → other ∈ next.executed)
    (notFailing : ∀ jobId error, world.stage worker ≠ .failing jobId error) : Tended next := by
  have found : ∀ {other row}, next.logs other = some row →
      other = jobId ∧ row = written ∨ world.logs other = some row := by
    intro other row found
    rw [logs] at found
    by_cases same : other = jobId
    · rw [same, update_self, Option.some.injEq] at found
      exact .inl ⟨same, found.symm⟩
    · rw [update_of_ne same] at found
      exact .inr found
  refine tended.moved next stages (queue ▸ List.Subset.refl _) (fun other acks _ => .inl (acking other acks))
    (fun _ member => .inl (queue ▸ member)) (fun other buried burying => .inl ?_) executed own (fun other known => ?_)
    (fun other row present runs => ?_) (fun other row present terminal => ?_)
  · rw [queue] at burying
    exact ⟨tended.unburied notFailing burying, burying⟩
  · obtain ⟨row, known⟩ := ne_none_iff_exists'.mp known
    rcases found known with ⟨rfl, -⟩ | before
    · rw [present]
      exact some_ne_none log
    · rw [before]
      exact some_ne_none row
  · rcases found present with ⟨rfl, rfl⟩ | before
    · exact .inl (running runs)
    · exact .inr before
  · rcases found present with ⟨rfl, rfl⟩ | before
    · exact .inl (settled terminal)
    · exact .inr before

theorem Tended.claim (holding : world.stage worker = .holding jobId) (present : world.logs jobId = some log) :
    Tended ({ world with logs := update world.logs jobId (some { log with status := .running }) }.enter
      worker (.executing jobId)) := by
  refine tended.wrote _ rfl (List.Subset.refl _) rfl present rfl (fun other tends => ?_)
    (fun _ => attended_of_stage rfl rfl) (fun terminal => ?_) (fun other acks => ?_) (fun jobId error failing => ?_)
  · rw [holding] at tends
    cases tends
  · cases terminal
  · cases acks
  · rw [holding] at failing
    cases failing

theorem Tended.execute
    (executing : world.stage worker = .executing jobId) (present : world.logs jobId = some log)
    (exception : outcome ≠ .raisedBase) : Tended (world.execute worker jobId log outcome) := by
  obtain ⟨notRunning, notEscaped⟩ := @executeJobInline_of_exception log outcome exception
  simp only [World.execute, notEscaped, if_false]
  refine tended.wrote _ rfl (subset_cons_self _ _) rfl present rfl (fun other tends => .inr ?_)
    (fun runs => absurd runs notRunning) (fun _ => mem_cons_self) (fun other acks => ?_)
    (fun jobId error failing => ?_)
  · rw [executing] at tends
    cases tends
    refine ⟨mem_cons_self, fun row found => ?_⟩
    simp only [World.enter, update_self, Option.some.injEq] at found
    subst found
    exact notRunning
  · cases acks
    exact mem_cons_self
  · rw [executing] at failing
    cases failing

theorem Tended.raise (busy : world.stage worker = .holding jobId ∨ world.stage worker = .executing jobId) :
    Tended (world.enter worker (.failing jobId error)) := by
  refine tended.kept _ rfl (List.Subset.refl _) (fun _ acks => ?_) (fun _ member => .inl member)
    (fun other buried burying => .inl ⟨?_, burying⟩) rfl rfl (fun other tends => ?_)
  · cases acks
  · refine tended.unburied (fun jobId error failing => ?_) burying
    rw [failing] at busy
    simp at busy
  · obtain holding | executing := busy
    · rw [holding] at tends
      cases tends
    · rw [executing] at tends
      cases tends
      exact @attended_of_stage _ _ world _ jobId worker (.failing jobId error) rfl rfl

theorem Tended.ack
    (acking : world.stage worker = .acking jobId)
    (stepped : (queue setting).step world.queue (.ack jobId) = some inner) :
    Tended ({ world with queue := inner }.enter worker .free) := by
  cases queue_stepped stepped
  refine tended.kept _ rfl (List.Subset.refl _) (fun _ acks => ?_) (fun other member => ?_)
    (fun other buried burying => .inl ⟨?_, burying⟩) rfl rfl (fun other tends => ?_)
  · cases acks
  · cases member with
    | head => exact .inr acking
    | tail _ member => exact .inl member
  · refine tended.unburied (fun jobId error failing => ?_) burying
    rw [acking] at failing
    cases failing
  · rw [acking] at tends
    cases tends

theorem Tended.fail (failing : world.stage worker = .failing jobId error)
    (stepped : (queue setting).step world.queue (.fail worker jobId error) = some inner) :
    Tended { world with queue := inner } := by
  cases queue_stepped stepped
  refine ⟨tended.running, tended.settled, tended.acking, tended.acked, fun other buried burying => ?_⟩
  by_cases same : other = worker
  · subst same
    simp only [DistributedQueue.World.enter, update_self, burying?, Option.some.injEq] at burying
    subst burying
    exact ⟨error, failing⟩
  · simp only [DistributedQueue.World.enter, update_of_ne same] at burying
    exact tended.burying other buried burying

theorem Tended.remove (stepped : (queue setting).step world.queue (.remove worker) = some inner) :
    Tended { world with queue := inner } := by
  cases queue_stepped stepped with
  | @removed client buried error payloadRaw failing =>
    refine ⟨tended.running, tended.settled, tended.acking, tended.acked, fun other job burying => ?_⟩
    by_cases same : other = worker
    · subst same
      apply tended.burying other job
      rw [failing]
      simpa [DistributedQueue.World.enter, burying?] using burying
    · simp only [DistributedQueue.World.enter, update_of_ne same] at burying
      exact tended.burying other job burying

theorem Tended.bury (stepped : (queue setting).step world.queue (.bury worker) = some inner) :
    Tended ({ world with queue := inner }.enter worker .free) := by
  cases queue_stepped stepped with
  | @buried client dead error payloadRaw burying =>
    obtain ⟨_, failing⟩ := tended.burying worker dead (by rw [burying]; rfl)
    refine tended.kept _ rfl (subset_cons_self _ _) (fun _ acks => ?_) (fun _ member => .inl member)
      (fun other job buries => .inl ?_) rfl rfl (fun other tends => ?_)
    · cases acks
    · by_cases same : other = worker
      · subst same
        simp [World.enter, DistributedQueue.World.bury, DistributedQueue.World.enter, burying?] at buries
      · simp only [World.enter, DistributedQueue.World.bury, DistributedQueue.World.enter,
          update_of_ne same] at buries
        exact ⟨same, buries⟩
    · rw [failing] at tends
      cases tends
      exact .inl ⟨_, mem_cons_self, rfl⟩

end

theorem Tended.step (survive : Survives world action) (tended : Tended world)
    (stepped : (workers setting).step world action = some next) : Tended next := by
  cases workers_stepped stepped with
  | queued permitted inside => exact tended.aside (queue_aside inside (.inl permitted))
  | @recorded worker jobId inner free inside =>
    have aside : Aside world.queue inner := @queue_aside _ _ setting world _ _ _ inside (.inr (.inl ⟨worker, rfl⟩))
    exact (tended.aside aside).enter (by simp [free, Stage.tended?]) (fun _ acks => by cases acks)
  | @putBack worker raw jobId inner holding inside =>
    have aside : Aside world.queue inner := @queue_aside _ _ setting world _ _ _ inside (.inr (.inr ⟨raw, rfl⟩))
    exact (tended.aside aside).enter (by simp [holding, Stage.tended?]) (fun _ acks => by cases acks)
  | claimed holding present => exact tended.claim holding present
  | @refused worker jobId databaseFails holding unclaimed =>
    refine tended.enter (by rw [holding]; rfl) fun acked acks present => ?_
    cases acks
    obtain ⟨log, found⟩ := ne_none_iff_exists'.mp present
    simp only [Survives, survives, decide_eq_true_eq] at survive
    subst survive
    have notPending := unclaimed.resolve_left (by decide) log found
    cases status : log.status with
    | pending => exact absurd status notPending
    | running => exact .inr (tended.running jobId log found status)
    | success | failed => exact .inl (tended.settled jobId log found (by rw [status]; rfl))
  | executed executing present =>
    simp only [Survives, survives, decide_eq_true_eq] at survive
    exact tended.execute executing present survive
  | raised busy => exact tended.raise busy
  | acked acking inside => exact tended.ack acking inside
  | failed failing inside => exact tended.fail failing inside
  | removed inside => exact tended.remove inside
  | buried inside => exact tended.bury inside
  | stopped =>
    simp only [Survives, survives, decide_eq_true_eq] at survive
    exact tended.enter survive (fun _ acks => by cases acks)

/-- Where no worker stops between its claim and the end of the execution and no claim fails in
the database, a job that has been acked was run to its end, or is dead, or is being run; and a
row says `running` only while a worker is at it, or when the job is dead. -/
theorem stale_job_not_dropped {logs : String → Option JobLog} {clock : Int}
    (pending : ∀ jobId log, logs jobId = some log → log.status = .pending)
    (ran : (workers setting).run (.fresh logs clock) actions = some world)
    (met : (workers setting).Meets Survives (.fresh logs clock) actions) :
    (∀ jobId ∈ world.queue.acked, world.logs jobId ≠ none → jobId ∈ world.executed ∨ world.Attended jobId) ∧
    ∀ jobId log, world.logs jobId = some log → log.status = .running → world.Attended jobId := by
  have tended : Tended world := StepSystem.invariant Tended.step met (.fresh pending) ran
  exact ⟨tended.acked, tended.running⟩

def jobLogs : String → Option JobLog
  | "job" => some (.submitted 2)
  | _ => none

def dequeue (worker : Bool) : List (Action Bool) := [.queue (.pop worker), .queue (.stamp worker), .record worker]

def redelivery : List (Action Bool) :=
  [.queue (.tick 301), .queue (.scan true 300), .queue (.snapshot true), .queue (.reclaim true),
    .queue (.requeue true), .queue (.reclaim true)]

def stoppedInTime : List (Action Bool) :=
  .queue (.enqueue "job") :: dequeue false ++ [.stop false] ++ redelivery ++ dequeue true ++
    [.claim true false, .execute true .returned, .ack true]

theorem jobLogs_pending (jobId : String) (log : JobLog) (present : jobLogs jobId = some log) :
    log.status = .pending := by
  unfold jobLogs at present
  split at present <;> cases present
  rfl

theorem stale_job_not_dropped_of_stoppedInTime :
    ∃ world, (workers plainSetting).run (.fresh jobLogs 0) stoppedInTime = some world ∧
      world.executed = ["job"] ∧
      (∀ jobId ∈ world.queue.acked, world.logs jobId ≠ none → jobId ∈ world.executed ∨ world.Attended jobId) ∧
      ∀ jobId log, world.logs jobId = some log → log.status = .running → world.Attended jobId :=
  ⟨_, rfl, rfl, @stale_job_not_dropped Bool _ plainSetting _ stoppedInTime jobLogs 0 jobLogs_pending rfl (by decide)⟩

/-- The first worker stops after its claim.  The scan puts the job back, the second worker cannot
claim the row and acks the job: it is under no key, its handler was not run and no worker is at it. -/
theorem claimed_job_dropped :
    ∃ world, (workers plainSetting).run (.fresh jobLogs 0)
        (.queue (.enqueue "job") :: dequeue false ++ [.claim false false, .stop false] ++ redelivery ++ dequeue true ++
          [.claim true false, .ack true]) = some world ∧
      world.queue.acked = ["job"] ∧ world.queue.redis = .empty ∧
      (world.logs "job").map JobLog.status = some .running ∧ world.executed = [] ∧
      ∀ worker, (world.stage worker).tended? = none :=
  ⟨_, rfl, rfl, rfl, rfl, rfl, by decide⟩

end AindyRuntime.WorkerLoop
