import AindyRuntime.Lib.Barrier
import AindyRuntime.Scheduler.EventWaits

/-! # The rehydration barrier

`notify_event` and `mark_rehydration_complete` at the level of single steps.
-/

namespace AindyRuntime.Scheduler

open List

variable {waits : String → WaitEntry}

namespace Cluster

variable {cluster after : Cluster waits}

def OnlyWaits (before after : Cluster waits) : Prop :=
  ∀ instanceId, ∃ scheduler waiting,
    after.instances instanceId = { before.instances instanceId with scheduler, waiting }

theorem OnlyWaits.refl : OnlyWaits cluster cluster := fun _ => ⟨_, _, rfl⟩

theorem OnlyWaits.trans (first : OnlyWaits before middle) (second : OnlyWaits middle after) :
    OnlyWaits before after := by
  intro instanceId
  obtain ⟨_, _, earlier⟩ := first instanceId
  obtain ⟨scheduler, waiting, later⟩ := second instanceId
  rw [earlier] at later
  exact ⟨scheduler, waiting, later⟩

theorem OnlyWaits.fields (only : OnlyWaits before after) (instanceId : String) :
    (after.instances instanceId).rehydrationComplete = (before.instances instanceId).rehydrationComplete ∧
      (after.instances instanceId).preRehydrationBuffer = (before.instances instanceId).preRehydrationBuffer ∧
      (after.instances instanceId).replaying = (before.instances instanceId).replaying := by
  obtain ⟨_, _, same⟩ := only instanceId
  rw [same]
  exact ⟨rfl, rfl, rfl⟩

theorem onlyWaits_of_update
    (instances : after.instances =
      Function.update before.instances instanceId { before.instances instanceId with scheduler, waiting }) :
    OnlyWaits before after := by
  intro name
  rw [instances]
  by_cases here : name = instanceId
  · subst here
    rw [Function.update_self]
    exact ⟨scheduler, waiting, rfl⟩
  · rw [Function.update_of_ne here]
    exact ⟨_, _, rfl⟩

theorem unregisterRedisWait_onlyWaits : OnlyWaits cluster (cluster.unregisterRedisWait reach runId) := by
  simp only [unregisterRedisWait]
  split <;> exact .refl

theorem deleteWaitBackup_onlyWaits : OnlyWaits cluster (cluster.deleteWaitBackup reach runId) := by
  simp only [deleteWaitBackup]
  split <;> exact .refl

theorem enqueueResume_onlyWaits : OnlyWaits cluster (cluster.enqueueResume instanceId item runId cause) :=
  onlyWaits_of_update rfl

theorem wakeLocal_onlyWaits : OnlyWaits cluster (wakeLocal instanceId reach cause cluster wait) := by
  have forgotten : OnlyWaits cluster (cluster.forget instanceId wait.1) := onlyWaits_of_update rfl
  exact ((forgotten.trans unregisterRedisWait_onlyWaits).trans enqueueResume_onlyWaits).trans
    deleteWaitBackup_onlyWaits

theorem crossResumeSpec_onlyWaits :
    OnlyWaits cluster (crossResumeSpec instanceId reach notification skipRunIds cluster found) := by
  simp only [crossResumeSpec]
  split
  · exact .refl
  · split
    · exact .refl
    · split
      · exact unregisterRedisWait_onlyWaits.trans enqueueResume_onlyWaits
      · exact .refl

theorem foldl_onlyWaits {Found : Type} {one : Cluster waits → Found → Cluster waits}
    (turn : ∀ {cluster found}, OnlyWaits cluster (one cluster found)) {list : List Found} :
    OnlyWaits cluster (list.foldl one cluster) := by
  induction list generalizing cluster with
  | nil => exact .refl
  | cons first rest ih => exact turn.trans ih

theorem deliver_onlyWaits : OnlyWaits cluster (cluster.deliver instanceId reach notification) := by
  have woken : OnlyWaits cluster ((cluster.toResume instanceId notification).foldl
      (wakeLocal instanceId reach (.notified notification)) cluster) := foldl_onlyWaits wakeLocal_onlyWaits
  refine woken.trans ?_
  simp only [deliver, crossInstanceResume]
  split
  · exact foldl_onlyWaits crossResumeSpec_onlyWaits
  · exact .refl

theorem bufferEvent_room
    (room : ¬maxPreRehydrationBuffer ≤ (cluster.instances instanceId).preRehydrationBuffer.length) :
    (cluster.bufferEvent instanceId notification).instances instanceId =
      { cluster.instances instanceId with
        preRehydrationBuffer := (cluster.instances instanceId).preRehydrationBuffer ++ [notification] } := by
  simp only [bufferEvent, if_neg room]
  exact Function.update_self ..

def setRehydrationComplete (cluster : Cluster waits) (instanceId : String) : Cluster waits :=
  cluster.withInstance instanceId { cluster.instances instanceId with rehydrationComplete := true } cluster.registered

def takeBuffer (cluster : Cluster waits) (instanceId : String) : Cluster waits :=
  let engine := cluster.instances instanceId
  cluster.withInstance instanceId
    { engine with preRehydrationBuffer := [], replaying := engine.replaying ++ engine.preRehydrationBuffer }
    cluster.registered

theorem takeBuffer_setRehydrationComplete :
    (cluster.setRehydrationComplete instanceId).takeBuffer instanceId = cluster.markRehydrationComplete instanceId := by
  simp [takeBuffer, setRehydrationComplete, markRehydrationComplete, withInstance]

end Cluster

namespace Rehydration

structure World (waits : String → WaitEntry) (Caller : Type) where
  cluster : Cluster waits
  opening : Barrier.Opening
  phase : Caller → Barrier.Phase
  /-- The events that were matched against the waiting table. -/
  matched : List Notification

structure Setting (Caller : Type) where
  instanceId : String
  notification : Caller → Notification

inductive Action (Caller : Type) where
  /-- `notify_event` reads the flag. -/
  | readFlag (caller : Caller)
  /-- The locked region that the flag sends it to. -/
  | locked (caller : Caller) (reach : Reach)
  | setFlag
  | takeBuffer
  | replay (reach : Reach)

variable {Caller : Type} [DecidableEq Caller]

def World.engine (world : World waits Caller) (setting : Setting Caller) : Instance :=
  world.cluster.instances setting.instanceId

def rehydration (setting : Setting Caller) : StepSystem (World waits Caller) (Action Caller) where
  step world
    | .readFlag caller =>
      if world.phase caller = .ready then
        some
          { world with
            phase := Function.update world.phase caller (.saw (world.engine setting).rehydrationComplete) }
      else none
    | .locked caller reach =>
      let notification := setting.notification caller
      match world.phase caller with
      | .saw true =>
        some
          { world with
            cluster := world.cluster.deliver setting.instanceId reach notification
            phase := Function.update world.phase caller (.done .delivered)
            matched := world.matched ++ [notification] }
      | .saw false =>
        let full := maxPreRehydrationBuffer ≤ (world.engine setting).preRehydrationBuffer.length
        some
          { world with
            cluster := world.cluster.bufferEvent setting.instanceId notification
            phase := Function.update world.phase caller (.done (if full then .rejected else .buffered)) }
      | _ => none
    | .setFlag =>
      if world.opening = .shut then
        some
          { world with
            cluster := world.cluster.setRehydrationComplete setting.instanceId
            opening := .raised }
      else none
    | .takeBuffer =>
      if world.opening = .raised then
        some { world with cluster := world.cluster.takeBuffer setting.instanceId, opening := .drained }
      else none
    | .replay reach =>
      match (world.engine setting).replaying with
      | [] => none
      | notification :: rest =>
        some
          { world with
            cluster := world.cluster.replay setting.instanceId reach notification rest
            matched :=
              if (world.engine setting).rehydrationComplete then world.matched ++ [notification]
              else world.matched }

def Action.barrier : Action Caller → Barrier.Action Caller
  | .readFlag caller => .look caller
  | .locked caller _ => .act caller
  | .setFlag => .raise
  | .takeBuffer => .drain
  | .replay _ => .replay

structure Represents (setting : Setting Caller) (world : World waits Caller) (barrier : Barrier.World Caller) :
    Prop where
  opening : world.opening = barrier.opening
  flag : (world.engine setting).rehydrationComplete = decide (barrier.opening ≠ .shut)
  buffer : (world.engine setting).preRehydrationBuffer = barrier.buffer.map setting.notification
  replaying : (world.engine setting).replaying = barrier.pending.map setting.notification
  untaken : barrier.opening ≠ .drained → barrier.pending = []
  phase : world.phase = barrier.phase
  matched : world.matched = barrier.delivered.map setting.notification

variable {setting : Setting Caller} {world next start final : World waits Caller}
variable {barrier : Barrier.World Caller} {action : Action Caller}

omit [DecidableEq Caller] in
theorem replay_fields (reach : Reach) (notification : Notification) (rest : List Notification)
    (flag : (world.engine setting).rehydrationComplete = true) :
    ((world.cluster.replay setting.instanceId reach notification rest).instances
        setting.instanceId).rehydrationComplete = (world.engine setting).rehydrationComplete ∧
      ((world.cluster.replay setting.instanceId reach notification rest).instances
        setting.instanceId).preRehydrationBuffer = (world.engine setting).preRehydrationBuffer ∧
      ((world.cluster.replay setting.instanceId reach notification rest).instances
        setting.instanceId).replaying = rest := by
  have engine : (world.cluster.withInstance setting.instanceId { world.engine setting with replaying := rest }
      world.cluster.registered).instances setting.instanceId = { world.engine setting with replaying := rest } :=
    Function.update_self ..
  have delivered : world.cluster.replay setting.instanceId reach notification rest =
      (world.cluster.withInstance setting.instanceId { world.engine setting with replaying := rest }
        world.cluster.registered).deliver setting.instanceId reach notification :=
    if_pos ((congrArg Instance.rehydrationComplete engine).trans flag)
  obtain ⟨flagKept, buffer, replaying⟩ := Cluster.OnlyWaits.fields
    (delivered ▸ Cluster.deliver_onlyWaits) setting.instanceId
  rw [engine] at flagKept buffer replaying
  exact ⟨flagKept, buffer, replaying⟩

theorem Represents.locked (represents : Represents setting world barrier)
    (stepped : (rehydration setting).step world (.locked caller reach) = some next) :
    ∃ barrierNext, (Barrier.barrier maxPreRehydrationBuffer).step barrier (.act caller) = some barrierNext ∧
      Represents setting next barrierNext := by
  have length : (world.engine setting).preRehydrationBuffer.length = barrier.buffer.length := by
    rw [represents.buffer, length_map]
  simp only [rehydration, represents.phase] at stepped
  simp only [Barrier.barrier]
  cases phase : barrier.phase caller with
  | ready | done fate =>
    rw [phase] at stepped
    cases stepped
  | saw raised =>
    rw [phase] at stepped
    cases raised with
    | true =>
      cases stepped
      have only : world.cluster.OnlyWaits
          (world.cluster.deliver setting.instanceId reach (setting.notification caller)) :=
        Cluster.deliver_onlyWaits
      obtain ⟨flag, buffer, replaying⟩ := only.fields setting.instanceId
      refine ⟨_, rfl, ⟨represents.opening, flag.trans represents.flag, buffer.trans represents.buffer,
        replaying.trans represents.replaying, represents.untaken, rfl, ?_⟩⟩
      simp [represents.matched]
    | false =>
      cases stepped
      by_cases full : maxPreRehydrationBuffer ≤ barrier.buffer.length
      · have same : world.cluster.bufferEvent setting.instanceId (setting.notification caller) =
            world.cluster := if_pos (length ▸ full)
        rw [length, same]
        simp only [if_pos full]
        exact ⟨_, rfl, ⟨represents.opening, represents.flag, represents.buffer, represents.replaying,
          represents.untaken, rfl, represents.matched⟩⟩
      · have longer : (world.cluster.bufferEvent setting.instanceId (setting.notification caller)).instances
            setting.instanceId =
              { world.engine setting with
                preRehydrationBuffer :=
                  (world.engine setting).preRehydrationBuffer ++ [setting.notification caller] } :=
          Cluster.bufferEvent_room (length ▸ full)
        rw [length]
        simp only [if_neg full]
        refine ⟨_, rfl, ⟨represents.opening, ?_, ?_, ?_, represents.untaken, rfl, represents.matched⟩⟩
        · exact (congrArg Instance.rehydrationComplete longer).trans represents.flag
        · refine (congrArg Instance.preRehydrationBuffer longer).trans ?_
          simp [represents.buffer]
        · exact (congrArg Instance.replaying longer).trans represents.replaying

theorem Represents.step (represents : Represents setting world barrier)
    (stepped : (rehydration setting).step world action = some next) :
    ∃ barrierNext, (Barrier.barrier maxPreRehydrationBuffer).step barrier action.barrier = some barrierNext ∧
      Represents setting next barrierNext := by
  cases action with
  | readFlag =>
    simp only [rehydration, represents.phase, represents.flag] at stepped
    simp only [Action.barrier, Barrier.barrier]
    split at stepped
    case isFalse => cases stepped
    case isTrue ready =>
      cases stepped
      rw [if_pos ready]
      exact ⟨_, rfl, ⟨represents.opening, represents.flag, represents.buffer, represents.replaying,
        represents.untaken, rfl, represents.matched⟩⟩
  | locked => exact represents.locked stepped
  | setFlag =>
    simp only [rehydration, represents.opening] at stepped
    simp only [Barrier.barrier]
    split at stepped
    case isFalse => cases stepped
    case isTrue shut =>
      cases stepped
      have engine : (world.cluster.setRehydrationComplete setting.instanceId).instances setting.instanceId =
          { world.engine setting with rehydrationComplete := true } := Function.update_self ..
      rw [if_pos shut]
      refine ⟨_, rfl, ⟨rfl, congrArg Instance.rehydrationComplete engine, ?_, ?_, ?_, represents.phase,
        represents.matched⟩⟩
      · exact (congrArg Instance.preRehydrationBuffer engine).trans represents.buffer
      · exact (congrArg Instance.replaying engine).trans represents.replaying
      · intro _
        exact represents.untaken (by rw [shut]; decide)
  | takeBuffer =>
    simp only [rehydration, represents.opening] at stepped
    simp only [Barrier.barrier]
    split at stepped
    case isFalse => cases stepped
    case isTrue raised =>
      cases stepped
      have engine : (world.cluster.takeBuffer setting.instanceId).instances setting.instanceId =
          { world.engine setting with
            preRehydrationBuffer := []
            replaying := (world.engine setting).replaying ++ (world.engine setting).preRehydrationBuffer } :=
        Function.update_self ..
      have untaken := represents.untaken (by rw [raised]; decide)
      rw [if_pos raised]
      refine ⟨_, rfl, ⟨rfl, ?_, congrArg Instance.preRehydrationBuffer engine, ?_, fun shut => absurd rfl shut,
        represents.phase, represents.matched⟩⟩
      · refine (congrArg Instance.rehydrationComplete engine).trans (represents.flag.trans ?_)
        rw [raised]
        rfl
      · refine (congrArg Instance.replaying engine).trans ?_
        rw [represents.replaying, represents.buffer, untaken]
        rfl
  | replay reach =>
    simp only [rehydration] at stepped
    simp only [Barrier.barrier]
    cases pending : barrier.pending with
    | nil =>
      rw [represents.replaying, pending] at stepped
      cases stepped
    | cons caller rest =>
      have drained : barrier.opening = .drained := by
        by_contra shut
        rw [represents.untaken shut] at pending
        cases pending
      have flag : (world.engine setting).rehydrationComplete = true := by
        rw [represents.flag, drained]
        rfl
      rw [represents.replaying, pending] at stepped
      simp only [flag, if_true] at stepped
      cases stepped
      obtain ⟨flagKept, buffer, replaying⟩ := replay_fields reach (setting.notification caller)
        (rest.map setting.notification) flag
      refine ⟨_, rfl, ⟨represents.opening, flagKept.trans represents.flag, buffer.trans represents.buffer,
        replaying, fun shut => absurd drained shut, represents.phase, ?_⟩⟩
      simp [represents.matched]

/-- No call that has read the flag unset reaches the buffer after it was taken, unless the buffer is full. -/
def OnTime (setting : Setting Caller) (world : World waits Caller) : Action Caller → Prop
  | .locked caller _ => world.phase caller = .saw false → world.opening = .drained →
      maxPreRehydrationBuffer ≤ (world.engine setting).preRehydrationBuffer.length
  | _ => True

instance (setting : Setting Caller) (world : World waits Caller) : ∀ action, Decidable (OnTime setting world action)
  | .locked caller _ => inferInstanceAs (Decidable (world.phase caller = .saw false → world.opening = .drained →
      maxPreRehydrationBuffer ≤ (world.engine setting).preRehydrationBuffer.length))
  | .readFlag _ | .setFlag | .takeBuffer | .replay _ => inferInstanceAs (Decidable True)

omit [DecidableEq Caller] in
theorem Represents.onTime_iff (represents : Represents setting world barrier) :
    OnTime setting world action ↔ Barrier.OnTime maxPreRehydrationBuffer barrier action.barrier := by
  cases action with
  | locked =>
    simp [OnTime, Action.barrier, Barrier.OnTime, represents.phase, represents.opening, represents.buffer]
  | _ => exact Iff.rfl

structure Fresh (setting : Setting Caller) (world : World waits Caller) : Prop where
  opening : world.opening = .shut
  flag : (world.engine setting).rehydrationComplete = false
  buffer : (world.engine setting).preRehydrationBuffer = []
  replaying : (world.engine setting).replaying = []
  phase : world.phase = fun _ => .ready
  matched : world.matched = []

structure Returned (setting : Setting Caller) (world : World waits Caller) : Prop where
  opening : world.opening = .drained
  replaying : (world.engine setting).replaying = []
  phase : ∀ caller flag, world.phase caller ≠ .saw flag

/-- Each call's event was matched against the waiting table once, or rejected
because the buffer was full; none is left in the buffer. -/
def NothingLeft (setting : Setting Caller) (world : World waits Caller) : Prop :=
  (world.engine setting).preRehydrationBuffer = [] ∧
    ∃ matched : List Caller, matched.Nodup ∧ world.matched = matched.map setting.notification ∧
      ∀ caller, world.phase caller ≠ .ready → caller ∈ matched ∨ world.phase caller = .done .rejected

theorem rehydration_loses_no_event_iff (fresh : Fresh setting start) (returned : Returned setting final)
    (ran : (rehydration setting).run start actions = some final) :
    NothingLeft setting final ↔ (rehydration setting).Meets (OnTime setting) start actions := by
  have represents : Represents setting start (.fresh : Barrier.World Caller) :=
    ⟨fresh.opening, fresh.flag, fresh.buffer, fresh.replaying, fun _ => rfl, fresh.phase, fresh.matched⟩
  obtain ⟨barrier, barrierRan, represented, meets⟩ :=
    StepSystem.simulates (Represents setting) Action.barrier Represents.step Represents.onTime_iff represents ran
  constructor
  · rintro ⟨empty, _⟩
    rw [represented.buffer] at empty
    have emptied := (Barrier.emptied_iff barrierRan).mp fun _ => map_eq_nil_iff.mp empty
    exact meets.mpr emptied.2
  · intro met
    have drained : barrier.opening = .drained := represented.opening.symm.trans returned.opening
    have replayed : barrier.pending = [] := by
      have none := returned.replaying
      rw [represented.replaying] at none
      exact map_eq_nil_iff.mp none
    obtain ⟨empty, distinct, fates⟩ :=
      Barrier.nothing_left barrierRan drained replayed (represented.phase ▸ returned.phase) (meets.mp met)
    refine ⟨?_, barrier.delivered, distinct, represented.matched, represented.phase ▸ fates⟩
    rw [represented.buffer, empty]
    rfl

def starting : World (fun _ => approvalWait) Unit where
  cluster :=
    { instances := fun _ => ⟨idleScheduler, .empty, false, [], []⟩
      redis := .empty
      backups := .empty
      wakes := []
      registered := fun found => by cases found
      backedUp := fun found => by cases found }
  opening := .shut
  phase := fun _ => .ready
  matched := []

def oneEvent : Setting Unit := ⟨"instance", fun _ => ⟨"approval.granted", none, none⟩⟩

def notifiedEarly : List (Action Unit) :=
  [.readFlag (), .setFlag, .locked () ⟨true, true⟩, .takeBuffer, .replay ⟨true, true⟩]

def overtaken : List (Action Unit) := [.readFlag (), .setFlag, .takeBuffer, .locked () ⟨true, true⟩]

theorem rehydration_loses_no_event_early :
    ∃ final, (rehydration oneEvent).run starting notifiedEarly = some final ∧ Returned oneEvent final ∧
      NothingLeft oneEvent final := by
  have met : (rehydration oneEvent).Meets (OnTime oneEvent) starting notifiedEarly := by decide
  have returned : ∃ final, (rehydration oneEvent).run starting notifiedEarly = some final ∧ Returned oneEvent final :=
    ⟨_, rfl, rfl, rfl, fun _ _ held => by cases held⟩
  obtain ⟨final, ran, returned⟩ := returned
  exact ⟨final, ran, returned, (rehydration_loses_no_event_iff ⟨rfl, rfl, rfl, rfl, rfl, rfl⟩ returned ran).mpr met⟩

theorem rehydration_leaves_event_behind :
    ∃ final, (rehydration oneEvent).run starting overtaken = some final ∧ Returned oneEvent final ∧
      (final.engine oneEvent).preRehydrationBuffer = [⟨"approval.granted", none, none⟩] ∧ final.matched = [] :=
  ⟨_, rfl, ⟨rfl, rfl, fun _ _ held => by cases held⟩, rfl, rfl⟩

end Rehydration

end AindyRuntime.Scheduler
