import AindyRuntime.Scheduler.WakeAgreement

/-! # Waits that are registered while a notification is under way

`notify_event` takes the waits it wakes from its table, and then enqueues each
and deletes its row.
-/

namespace AindyRuntime.Scheduler.Reparking

open List

inductive Stage where
  /-- The waits that are taken from the table and not yet enqueued. -/
  | waking (todo : List String)
  /-- Inside `_enqueue_resume` of this run. -/
  | resuming (runId : String) (todo : List String)
  | crossing (specs : List (String × ResumeSpec))
  | crossResuming (specs : List (String × ResumeSpec))

structure Frame where
  notification : Notification
  woken : List String
  stage : Stage

structure World where
  waiting : Dict String WaitEntry
  redis : Dict String ResumeSpec
  backups : Dict String WaitingFlowRun
  /-- The calls under way, the innermost first. -/
  calls : List Frame

inductive Action where
  | register (runId : String) (entry : WaitEntry) (waitDeadline : Option Int) (redis : Bool)
  | notify (notification : Notification) (redis : Bool)
  | enqueue
  | returned
  | scanSpecs (redis : Bool)
  | consider
  | crossReturned
  | finish

variable (world : World)

def World.callable : Bool :=
  match world.calls with
  | [] => true
  | frame :: _ =>
    match frame.stage with
    | .resuming _ _ | .crossResuming _ => true
    | _ => false

variable (flowRuns : String → Bool)

def World.registerWait (world : World) (runId : String) (entry : WaitEntry)
    (waitDeadline : Option Int) (redis : Bool) : World :=
  { world with
    waiting := world.waiting.set runId entry
    redis := if redis then world.redis.set runId (entry.resumeSpec runId) else world.redis
    backups :=
      if entry.euType = "flow" ∧ flowRuns runId = true then
        world.backups.set runId (entry.waitingFlowRun waitDeadline)
      else world.backups }

def World.toResume (notification : Notification) : List String :=
  (world.waiting.entries.filter fun wait => notification.wakes wait.1 wait.2).map Prod.fst

def World.take (notification : Notification) (redis : Bool) : World where
  waiting := world.waiting.eraseAll (world.toResume notification)
  redis := if redis then world.redis.eraseAll (world.toResume notification) else world.redis
  backups := world.backups
  calls := ⟨notification, world.toResume notification, .waking (world.toResume notification)⟩ :: world.calls

def World.claims (frame : Frame) (runId : String) (spec : ResumeSpec) : Bool :=
  !decide (runId ∈ frame.woken) && !world.waiting.contains runId &&
    match world.backups.get? runId with
    | none => false
    | some row => frame.notification.wakesRow runId row && spec.builds && world.redis.contains runId

def reparking : StepSystem World Action where
  step world
    | .register runId entry waitDeadline redis =>
      if world.callable then some (world.registerWait flowRuns runId entry waitDeadline redis) else none
    | .notify notification redis => if world.callable then some (world.take notification redis) else none
    | .enqueue =>
      match world.calls with
      | ⟨notification, woken, .waking (runId :: todo)⟩ :: calls =>
        some { world with calls := ⟨notification, woken, .resuming runId todo⟩ :: calls }
      | _ => none
    | .returned =>
      match world.calls with
      | ⟨notification, woken, .resuming runId todo⟩ :: calls =>
        some
          { world with
            backups := world.backups.erase runId
            calls := ⟨notification, woken, .waking todo⟩ :: calls }
      | _ => none
    | .scanSpecs redis =>
      match world.calls with
      | ⟨notification, woken, .waking []⟩ :: calls =>
        some
          { world with
            calls := ⟨notification, woken, .crossing (if redis then world.redis.entries else [])⟩ :: calls }
      | _ => none
    | .consider =>
      match world.calls with
      | ⟨notification, woken, .crossing ((runId, spec) :: specs)⟩ :: calls =>
        if world.claims ⟨notification, woken, .crossing ((runId, spec) :: specs)⟩ runId spec then
          some
            { world with
              redis := world.redis.erase runId
              calls := ⟨notification, woken, .crossResuming specs⟩ :: calls }
        else some { world with calls := ⟨notification, woken, .crossing specs⟩ :: calls }
      | _ => none
    | .crossReturned =>
      match world.calls with
      | ⟨notification, woken, .crossResuming specs⟩ :: calls =>
        some { world with calls := ⟨notification, woken, .crossing specs⟩ :: calls }
      | _ => none
    | .finish =>
      match world.calls with
      | ⟨_, _, .crossing []⟩ :: calls => some { world with calls }
      | _ => none

def World.start (redis : Dict String ResumeSpec) (backups : Dict String WaitingFlowRun) : World :=
  ⟨∅, redis, backups, []⟩

section Quiet

variable {cluster : Cluster waits}

def World.ofCluster (cluster : Cluster waits) (instanceId : String) (calls : List Frame) : World :=
  ⟨(cluster.instances instanceId).waiting, cluster.redis, cluster.backups, calls⟩

def undisturbed (todo : List String) : List Action := todo.flatMap fun _ => [.enqueue, .returned]

theorem run_undisturbed {flowRuns : String → Bool} {world : World}
    (frames : world.calls = ⟨notification, woken, .waking todo⟩ :: calls) :
    (reparking flowRuns).run world (undisturbed todo) =
      some
        { world with
          backups := world.backups.eraseAll todo
          calls := ⟨notification, woken, .waking []⟩ :: calls } := by
  induction todo generalizing world with
  | nil =>
    obtain ⟨waiting, redis, backups, stack⟩ := world
    cases frames
    rfl
  | cons first rest ih =>
    obtain ⟨waiting, redis, backups, _⟩ := world
    cases frames
    exact @ih ⟨waiting, redis, backups.erase first, ⟨notification, woken, .waking rest⟩ :: calls⟩ rfl

theorem ofCluster_wakeLocal :
    World.ofCluster (Cluster.wakeLocal instanceId Cluster.everything cause cluster wait) instanceId calls =
      ⟨(cluster.instances instanceId).waiting.erase wait.1, cluster.redis.erase wait.1,
        cluster.backups.erase wait.1, calls⟩ := by
  simp [World.ofCluster, Cluster.wakeLocal, Cluster.everything, Cluster.deleteWaitBackup, Cluster.enqueueResume,
    Cluster.unregisterRedisWait, Cluster.forget, Cluster.withInstance]

theorem ofCluster_wakeAll {list : List (String × WaitEntry)} :
    World.ofCluster (list.foldl (Cluster.wakeLocal instanceId Cluster.everything cause) cluster) instanceId calls =
      ⟨(cluster.instances instanceId).waiting.eraseAll (list.map Prod.fst),
        cluster.redis.eraseAll (list.map Prod.fst), cluster.backups.eraseAll (list.map Prod.fst), calls⟩ := by
  induction list generalizing cluster with
  | nil => rfl
  | cons wait rest ih =>
    have first := @ofCluster_wakeLocal waits cluster instanceId cause wait calls
    simp only [World.ofCluster, World.mk.injEq, and_true] at first
    rw [foldl_cons, ih, first.1, first.2.2]
    rfl

/-- The local part of a `notify_event` whose resumes are queued. -/
theorem run_notify_undisturbed {flowRuns : String → Bool} :
    (reparking flowRuns).run (.ofCluster cluster instanceId [])
        (.notify notification true :: undisturbed ((cluster.toResume instanceId notification).map Prod.fst)) =
      some (.ofCluster ((cluster.toResume instanceId notification).foldl
          (Cluster.wakeLocal instanceId Cluster.everything (.notified notification)) cluster) instanceId
        [⟨notification, (cluster.toResume instanceId notification).map Prod.fst, .waking []⟩]) := by
  rw [ofCluster_wakeAll]
  exact run_undisturbed rfl

end Quiet

def World.BackedUp (world : World) : Prop :=
  ∀ runId entry, world.waiting.get? runId = some entry → entry.euType = "flow" → flowRuns runId = true →
    ∃ waitDeadline, world.backups.get? runId = some (entry.waitingFlowRun waitDeadline)

def Frame.undeleted (frame : Frame) : List String :=
  match frame.stage with
  | .waking todo => todo
  | .resuming runId todo => runId :: todo
  | _ => []

/-- A run is not registered while a call is going to delete its row. -/
def Parted : Action → Prop
  | .register runId _ _ _ => ∀ frame ∈ world.calls, runId ∉ frame.undeleted
  | _ => True

variable {flowRuns : String → Bool} {world next : World}

structure World.Sound (flowRuns : String → Bool) (world : World) : Prop where
  backedUp : world.BackedUp flowRuns
  taken : ∀ frame ∈ world.calls, ∀ runId ∈ frame.undeleted, world.waiting.get? runId = none

/-- The innermost call goes on, and has no more rows to delete than before. -/
theorem World.Sound.move {calls : List Frame} {after : Frame} {redis : Dict String ResumeSpec}
    (sound : world.Sound flowRuns) (found : world.calls = frame :: calls)
    (fewer : after.undeleted ⊆ frame.undeleted) :
    World.Sound flowRuns { world with redis, calls := after :: calls } := by
  have taken := sound.taken
  rw [found] at taken
  refine ⟨sound.backedUp, fun other member runId undeleted => ?_⟩
  rcases mem_cons.mp member with rfl | earlier
  · exact taken frame mem_cons_self runId (fewer undeleted)
  · exact taken other (mem_cons_of_mem _ earlier) runId undeleted

theorem World.Sound.delete (sound : world.Sound flowRuns) (absent : world.waiting.get? runId = none) :
    World.Sound flowRuns { world with backups := world.backups.erase runId } := by
  refine ⟨fun other entry held flow run => ?_, sound.taken⟩
  have different : runId ≠ other := by
    rintro rfl
    rw [absent] at held
    cases held
  obtain ⟨deadline, row⟩ := sound.backedUp other entry held flow run
  exact ⟨deadline, by rw [Dict.get?_erase, if_neg different, row]⟩

theorem registerWait_sound
    (parted : ∀ frame ∈ world.calls, runId ∉ frame.undeleted) (sound : world.Sound flowRuns) :
    (world.registerWait flowRuns runId entry waitDeadline redis).Sound flowRuns := by
  constructor
  · intro other found held flow run
    simp only [World.registerWait, Dict.get?_set] at held ⊢
    by_cases same : runId = other
    · subst same
      rw [if_pos rfl] at held
      cases held
      exact ⟨waitDeadline, by rw [if_pos ⟨flow, run⟩, Dict.get?_set, if_pos rfl]⟩
    · rw [if_neg same] at held
      obtain ⟨deadline, row⟩ := sound.backedUp other found held flow run
      refine ⟨deadline, ?_⟩
      split
      · rw [Dict.get?_set, if_neg same, row]
      · exact row
  · intro frame member other undeleted
    have different : runId ≠ other := by
      rintro rfl
      exact parted frame member undeleted
    simp only [World.registerWait, Dict.get?_set, if_neg different]
    exact sound.taken frame member other undeleted

theorem take_sound (sound : world.Sound flowRuns) : (world.take notification redis).Sound flowRuns := by
  constructor
  · intro other found held flow run
    simp only [World.take, Dict.get?_eraseAll] at held
    split at held
    · cases held
    · exact sound.backedUp other found held flow run
  · intro frame member other undeleted
    simp only [World.take, Dict.get?_eraseAll]
    split
    · rfl
    case isFalse untouched =>
      rcases mem_cons.mp member with rfl | earlier
      · exact absurd undeleted untouched
      · exact sound.taken frame earlier other undeleted

theorem step_sound (parted : Parted world action) (sound : world.Sound flowRuns)
    (stepped : (reparking flowRuns).step world action = some next) : next.Sound flowRuns := by
  cases action <;> simp only [reparking] at stepped
  case register =>
    split at stepped <;> cases stepped
    exact registerWait_sound parted sound
  case notify =>
    split at stepped <;> cases stepped
    exact take_sound sound
  case enqueue | scanSpecs redis | crossReturned =>
    split at stepped <;> cases stepped
    case h_1 found => exact sound.move found (List.Subset.refl _)
  case returned =>
    split at stepped <;> cases stepped
    case h_1 notification woken runId todo calls found =>
      have absent : world.waiting.get? runId = none := by
        refine sound.taken ⟨notification, woken, .resuming runId todo⟩ ?_ runId mem_cons_self
        rw [found]
        exact mem_cons_self
      exact (sound.delete absent).move found (subset_cons_self _ _)
  case consider =>
    split at stepped
    case h_1 found =>
      split at stepped <;> cases stepped
      · exact sound.move found (List.Subset.refl _)
      · exact sound.move found (List.Subset.refl _)
    · cases stepped
  case finish =>
    split at stepped <;> cases stepped
    case h_1 found =>
      refine ⟨sound.backedUp, fun frame member => sound.taken frame ?_⟩
      rw [found]
      exact mem_cons_of_mem _ member

/-- From any specs and rows, and at every point of the calls: the flow runs in
the table have their rows, as long as no run parks again before the call that
woke it has deleted its row. -/
theorem flow_waits_backed_up {redis : Dict String ResumeSpec} {backups : Dict String WaitingFlowRun}
    {actions : List Action} (parted : (reparking flowRuns).Meets Parted (.start redis backups) actions)
    (ran : (reparking flowRuns).run (.start redis backups) actions = some final) : final.BackedUp flowRuns := by
  have started : (World.start redis backups).Sound flowRuns := by
    constructor
    · intro other entry held
      cases held
    · intro frame member
      cases member
  have sound : final.Sound flowRuns := StepSystem.invariant step_sound parted started ran
  exact sound.backedUp

def nextWait : WaitEntry :=
  { approvalWait with waitFor := "payment.received", waitCondition := .forEvent "payment.received" }

def everyRun : String → Bool := fun _ => true

def parksAfter : List Action :=
  [.register "flow" approvalWait none true, .notify approval true, .enqueue, .returned, .scanSpecs true, .finish,
    .register "flow" nextWait none true]

theorem flow_waits_backed_up_after :
    ∃ final, (reparking everyRun).run (.start ∅ ∅) parksAfter = some final ∧ final.calls = [] ∧
      final.waiting.get? "flow" = some nextWait ∧ final.BackedUp everyRun := by
  have parted : (reparking everyRun).Meets Parted (.start ∅ ∅) parksAfter := by
    refine .cons ?_ rfl (.cons trivial rfl (.cons trivial rfl (.cons trivial rfl (.cons trivial rfl
      (.cons trivial rfl (.cons ?_ rfl trivial))))))
    all_goals
      intro frame member
      cases member
  exact ⟨_, rfl, rfl, rfl, flow_waits_backed_up parted rfl⟩

/-- The woken flow runs in `_enqueue_resume` and parks again there; the row that is deleted is the new one. -/
theorem flow_wait_loses_backup :
    ∃ final, (reparking everyRun).run (.start ∅ ∅)
        [.register "flow" approvalWait none true, .notify approval true, .enqueue,
          .register "flow" nextWait none true, .returned, .scanSpecs true, .consider, .finish] = some final ∧
      final.calls = [] ∧ final.waiting.get? "flow" = some nextWait ∧ final.backups.get? "flow" = none ∧
      ¬ final.BackedUp everyRun := by
  refine ⟨_, rfl, rfl, rfl, rfl, fun backedUp => ?_⟩
  obtain ⟨_, row⟩ := backedUp "flow" nextWait rfl rfl rfl
  cases row

end AindyRuntime.Scheduler.Reparking
