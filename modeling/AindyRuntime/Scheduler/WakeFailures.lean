import AindyRuntime.Lib.Program
import AindyRuntime.Scheduler.EventWaits

/-! # Wakes that fail

`notify_event` with the priorities as `register_wait` was given them: any text.
The matching waits leave the table together, and are then made into items one
after the other; an item of an unknown priority raises.
-/

namespace AindyRuntime.Scheduler.WakeFailures

open Program

structure Wait where
  (waitFor tenantId euId priority : String)
  correlationId : Option String
  euType : String
  waitCondition : WaitCondition
deriving DecidableEq, Repr

structure WaitRow where
  eventType : String
  (correlationId euId : Option String)
  priority : String
deriving DecidableEq, Repr

structure Engine where
  waiting : Dict String Wait
  scheduler : SchedulerEngine
  /-- The runs whose callback the dispatcher has taken. -/
  dispatched : List String
  rehydrationComplete : Bool
  preRehydrationBuffer : List Notification
  redis : Dict String ResumeSpec
  backups : Dict String WaitRow

inductive Dispatch where
  | returned
  /-- It raises before the callback is taken. -/
  | refused
  /-- It raises behind it, as one that runs the callback inline does when the callback raises. -/
  | raised
deriving DecidableEq, Repr

structure Setting where
  /-- `EXECUTION_MODE` is `distributed` and no heartbeat drains the queue of this process. -/
  forwards : Bool
  dispatch : ScheduledItem → Dispatch

inductive WakeError where
  | invalidPriority (priority : String)
  | dispatchFailed
deriving DecidableEq, Repr

abbrev WakeM := Program WakeError Engine

def Priority.ofText? : String → Option Priority
  | "high" => some .high
  | "normal" => some .normal
  | "low" => some .low
  | _ => none

structure Resume where
  (runId euId tenantId euType priority : String)

def Resume.ofWait (found : String × Wait) : Resume :=
  ⟨found.1, found.2.euId, found.2.tenantId, found.2.euType, found.2.priority⟩

/-- The `ScheduledItem` of `_enqueue_resume`, or the error of its `__post_init__`. -/
def Resume.item (resume : Resume) : Except WakeError ScheduledItem :=
  let priority := (given (some resume.priority)).getD "normal"
  match Priority.ofText? priority with
  | none => .error (.invalidPriority priority)
  | some level => .ok (resumeItem resume.runId resume.euId resume.tenantId resume.euType level)

def Engine.enqueue (engine : Engine) (item : ScheduledItem) : Engine :=
  { engine with scheduler := engine.scheduler.enqueue item }

def Engine.dispatch (engine : Engine) (runId : String) : Engine :=
  { engine with dispatched := engine.dispatched ++ [runId] }

variable (setting : Setting)

def dispatchItemNow (runId : String) (item : ScheduledItem) : WakeM Unit :=
  match setting.dispatch item with
  | .returned => Program.modify fun engine => engine.dispatch runId
  | .refused => raise .dispatchFailed
  | .raised => do
    Program.modify fun engine => engine.dispatch runId
    raise .dispatchFailed

def enqueueResume (resume : Resume) : WakeM Unit := do
  let item ← call resume.item
  if setting.forwards then
    attempt (dispatchItemNow setting resume.runId item) fun _ => Program.modify fun engine => engine.enqueue item
  else Program.modify fun engine => engine.enqueue item

variable (reach : Reach) (runIds : List String)

def Engine.unregisterRedisWait (engine : Engine) : Engine :=
  if reach.redis then { engine with redis := engine.redis.eraseAll runIds } else engine

def Engine.deleteWaitBackup (runId : String) (engine : Engine) : Engine :=
  if reach.database then { engine with backups := engine.backups.erase runId } else engine

def resumeAll : List (String × Wait) → WakeM Unit
  | [] => pure ()
  | found :: rest => do
    enqueueResume setting (.ofWait found)
    Program.modify (Engine.deleteWaitBackup reach found.1)
    resumeAll rest

variable (notification : Notification) (skipRunIds : List String)

def crossResumeSpec (found : String × ResumeSpec) : WakeM Bool := do
  let engine ← Program.read
  if found.1 ∈ skipRunIds ∨ engine.waiting.contains found.1 then pure false
  else
    match if reach.database then engine.backups.get? found.1 else none with
    | none => pure false
    | some row =>
      if notification.inScope found.1 ∧ row.eventType = notification.eventType ∧
          notification.admits row.correlationId ∧ found.2.builds ∧ engine.redis.contains found.1 then do
        Program.modify (Engine.unregisterRedisWait reach [found.1])
        enqueueResume setting
          ⟨found.1, (given row.euId).getD found.2.euId, (given (some found.2.tenantId)).getD "system",
            (given found.2.euType).getD "flow", row.priority⟩
        pure true
      else pure false

def crossResumeAll : List (String × ResumeSpec) → WakeM Nat
  | [] => pure 0
  | found :: rest => do
    let resumed ← crossResumeSpec setting reach notification skipRunIds found
    let more ← crossResumeAll rest
    pure (more + resumed.toNat)

def crossInstanceResume : WakeM Nat := do
  let engine ← Program.read
  if reach.redis then
    attempt (crossResumeAll setting reach notification skipRunIds engine.redis.entries) fun _ => pure 0
  else pure 0

def Wait.entry (wait : Wait) : WaitEntry :=
  ⟨wait.waitFor, wait.tenantId, wait.euId, .normal, wait.correlationId, wait.euType, wait.waitCondition⟩

variable (engine : Engine)

def Engine.toResume (notification : Notification) : List (String × Wait) :=
  engine.waiting.entries.filter fun found => notification.wakes found.1 found.2.entry

def Engine.bufferEvent : Engine :=
  if maxPreRehydrationBuffer ≤ engine.preRehydrationBuffer.length then engine
  else { engine with preRehydrationBuffer := engine.preRehydrationBuffer ++ [notification] }

def Engine.take : Engine :=
  Engine.unregisterRedisWait reach runIds { engine with waiting := engine.waiting.eraseAll runIds }

def notifyEvent : WakeM Nat := do
  let engine ← Program.read
  if engine.rehydrationComplete then
    let toResume := engine.toResume notification
    let runIds := toResume.map Prod.fst
    Program.modify (Engine.take reach runIds)
    resumeAll setting reach toResume
    let crossResumed ← crossInstanceResume setting reach notification runIds
    pure (toResume.length + crossResumed)
  else
    Program.modify (Engine.bufferEvent notification)
    pure 0

/-- `register_wait` with the condition that it builds; `flowRun` says whether the run has a row of `flow_runs`. -/
def Engine.registerWait (reach : Reach) (flowRun : Bool) (runId : String) (wait : Wait) : Engine :=
  let held := { engine with waiting := engine.waiting.set runId wait }
  let noted :=
    if reach.redis then { held with redis := held.redis.set runId (wait.entry.resumeSpec runId) } else held
  if reach.database ∧ wait.euType = "flow" ∧ flowRun then
    { noted with
      backups := noted.backups.set runId
        ⟨(given (some wait.entry.eventName)).getD timeWait, wait.correlationId, some wait.euId,
          (given (some wait.priority)).getD "normal"⟩ }
  else noted

def queued (queues : Queues) (runId : String) : Nat :=
  (queues.items .high).countP (fun item => item.runId = some runId) +
    (queues.items .normal).countP (fun item => item.runId = some runId) +
    (queues.items .low).countP (fun item => item.runId = some runId)

theorem queued_append :
    queued (queues.append item) runId = queued queues runId + if item.runId = some runId then 1 else 0 := by
  cases level : item.priority with
  | high | normal | low =>
    simp only [queued, Queues.append, Queues.set, level, Function.update_self,
      Function.update_of_ne, ne_eq, reduceCtorEq, not_false_eq_true, List.countP_append,
      List.countP_singleton, decide_eq_true_eq]
    omega

def Engine.resumes (runId : String) : Nat :=
  queued engine.scheduler.queues runId + engine.dispatched.count runId

variable {setting : Setting} {reach : Reach} {notification : Notification} {engine : Engine}

open Engine
variable {resume : Resume} {item : ScheduledItem}

theorem Resume.runId_item (built : resume.item = .ok item) : item.runId = some resume.runId := by
  simp only [Resume.item] at built
  split at built <;> cases built
  · rfl

/-- How often an `_enqueue_resume` hands the run over: a callback that was taken
by the dispatcher and raised is queued as well. -/
def Setting.copies (setting : Setting) (resume : Resume) : Nat :=
  match resume.item with
  | .error _ => 0
  | .ok item => if setting.forwards ∧ setting.dispatch item = .raised then 2 else 1

theorem resumes_enqueue (owner : item.runId = some runId) :
    (engine.enqueue item).resumes other = engine.resumes other + if runId = other then 1 else 0 := by
  have added : queued (engine.scheduler.enqueue item).queues other =
      queued engine.scheduler.queues other + if item.runId = some other then 1 else 0 := queued_append
  simp only [owner, Option.some.injEq] at added
  simp only [resumes, enqueue]
  omega

theorem resumes_dispatch :
    (engine.dispatch runId).resumes other = engine.resumes other + if runId = other then 1 else 0 := by
  simp only [resumes, dispatch, List.count_append, List.count_singleton, beq_iff_eq]
  omega

theorem enqueueResume_yields :
    (enqueueResume setting resume).Yields engine
      (fun _ after => 0 < setting.copies resume ∧ after.waiting = engine.waiting ∧ ∀ other,
        after.resumes other = engine.resumes other + if resume.runId = other then setting.copies resume else 0)
      (fun _ after => setting.copies resume = 0 ∧ after = engine) := by
  simp only [enqueueResume, yields_bind, yields_call, yields_ite]
  refine ⟨fun item built => ?_, fun error failed => ?_⟩
  · have owner := Resume.runId_item built
    simp only [Setting.copies, built]
    refine ⟨fun forwards => ?_, fun queues => ?_⟩
    · simp only [dispatchItemNow, forwards, true_and]
      cases setting.dispatch item with
      | returned =>
        refine ⟨by simp, rfl, fun other => ?_⟩
        simpa using resumes_dispatch
      | refused =>
        refine ⟨by simp, rfl, fun other => ?_⟩
        simpa using resumes_enqueue owner
      | raised =>
        refine ⟨by simp, rfl, fun other => ?_⟩
        rw [resumes_enqueue owner, resumes_dispatch]
        split <;> simp_all
    · refine ⟨by simp [queues], rfl, fun other => ?_⟩
      simpa [queues] using resumes_enqueue owner
  · simp [Setting.copies, failed]

/-- The first wait that fails leaves itself and the waits behind it where they are: nowhere. -/
theorem resumeAll_yields (distinct : (waits.map Prod.fst).Nodup) :
    (resumeAll setting reach waits).Yields engine
      (fun _ after => after.waiting = engine.waiting ∧ (∀ found ∈ waits, 0 < setting.copies (.ofWait found) ∧
          after.resumes found.1 = engine.resumes found.1 + setting.copies (.ofWait found)) ∧
        ∀ other ∉ waits.map Prod.fst, after.resumes other = engine.resumes other)
      (fun _ after => after.waiting = engine.waiting ∧
        ∃ found ∈ waits, setting.copies (.ofWait found) = 0 ∧ after.resumes found.1 = engine.resumes found.1) := by
  induction waits generalizing engine with
  | nil => exact ⟨rfl, fun _ member => absurd member List.not_mem_nil, fun _ _ => rfl⟩
  | cons head rest ih =>
    obtain ⟨fresh, distinct⟩ := List.nodup_cons.mp distinct
    simp only [resumeAll, yields_bind]
    refine enqueueResume_yields.mono ?_ ?_
    · rintro _ middle ⟨handed, waiting, counts⟩
      have kept : (deleteWaitBackup reach head.1 middle).waiting = engine.waiting ∧
          ∀ other, (deleteWaitBackup reach head.1 middle).resumes other =
            engine.resumes other + if head.1 = other then setting.copies (.ofWait head) else 0 := by
        simp only [deleteWaitBackup]
        split <;> exact ⟨waiting, counts⟩
      have elsewhere {other : String} (distinct : head.1 ≠ other) :
          (deleteWaitBackup reach head.1 middle).resumes other = engine.resumes other := by
        rw [kept.2, if_neg distinct, Nat.add_zero]
      refine (ih distinct).mono ?_ ?_
      · rintro _ after ⟨tableKept, woken, others⟩
        refine ⟨tableKept.trans kept.1, fun found member => ?_, fun other absent => ?_⟩
        · rcases List.mem_cons.mp member with rfl | member
          · refine ⟨handed, ?_⟩
            rw [others found.1 fresh, kept.2, if_pos rfl]
          · have distinct : head.1 ≠ found.1 := fun same => fresh (same ▸ List.mem_map_of_mem member)
            rw [(woken found member).2, elsewhere distinct]
            exact ⟨(woken found member).1, rfl⟩
        · rw [List.map_cons, List.mem_cons, not_or] at absent
          rw [others other absent.2, elsewhere (Ne.symm absent.1)]
      · rintro _ after ⟨tableKept, found, member, none, count⟩
        have distinct : head.1 ≠ found.1 := fun same => fresh (same ▸ List.mem_map_of_mem member)
        refine ⟨tableKept.trans kept.1, found, List.mem_cons_of_mem _ member, none, ?_⟩
        rw [count, elsewhere distinct]
    · rintro _ after ⟨none, rfl⟩
      exact ⟨rfl, head, List.mem_cons_self, none, rfl⟩

def Spares (engine after : Engine) : Prop :=
  after.waiting = engine.waiting ∧
    ∀ runId, runId ∈ runIds ∨ (engine.waiting.get? runId).isSome → after.resumes runId = engine.resumes runId

theorem Spares.trans {runIds : List String} (first : Spares runIds engine middle)
    (second : Spares runIds middle after) : Spares runIds engine after := by
  refine ⟨second.1.trans first.1, fun runId held => ?_⟩
  rw [second.2 runId (by rwa [first.1]), first.2 runId held]

variable {skipRunIds : List String}

theorem crossResumeSpec_spares :
    (crossResumeSpec setting reach notification skipRunIds found).Yields engine
      (fun _ after => Spares skipRunIds engine after) (fun _ after => Spares skipRunIds engine after) := by
  have same : Spares skipRunIds engine engine := ⟨rfl, fun _ _ => rfl⟩
  simp only [crossResumeSpec, yields_bind, yields_ite, yields_pure]
  refine ⟨fun _ => same, fun free => ?_⟩
  obtain ⟨notSkipped, notWaiting⟩ := not_or.mp free
  split
  · exact same
  simp only [yields_ite, yields_bind, yields_pure]
  refine ⟨fun _ => ?_, fun _ => same⟩
  have claimed : Spares skipRunIds engine (unregisterRedisWait reach [found.1] engine) := by
    simp only [unregisterRedisWait]
    split <;> exact ⟨rfl, fun _ _ => rfl⟩
  refine enqueueResume_yields.mono ?_ ?_
  · rintro _ after ⟨_, waiting, counts⟩
    refine claimed.trans ⟨waiting, fun runId held => ?_⟩
    have other : found.1 ≠ runId := by
      rintro rfl
      rw [claimed.1] at held
      exact held.elim notSkipped notWaiting
    rw [counts, if_neg other, Nat.add_zero]
  · rintro _ after ⟨_, rfl⟩
    exact claimed

theorem crossResumeAll_spares :
    (crossResumeAll setting reach notification skipRunIds specs).Yields engine
      (fun _ after => Spares skipRunIds engine after) (fun _ after => Spares skipRunIds engine after) := by
  induction specs generalizing engine with
  | nil => exact ⟨rfl, fun _ _ => rfl⟩
  | cons found rest ih =>
    simp only [crossResumeAll, yields_bind]
    refine crossResumeSpec_spares.mono (fun _ middle first => ?_) fun _ _ ended => ended
    exact ih.mono (fun _ _ second => first.trans second) fun _ _ second => first.trans second

theorem crossInstanceResume_spares :
    (crossInstanceResume setting reach notification skipRunIds).Yields engine
      (fun _ after => Spares skipRunIds engine after) (fun _ _ => False) := by
  simp only [crossInstanceResume, yields_bind, yields_ite, yields_attempt, yields_pure]
  exact ⟨fun _ => crossResumeAll_spares, fun _ => ⟨rfl, fun _ _ => rfl⟩⟩

def Accounted (before after : Engine) : Prop :=
  ∀ runId wait, before.waiting.get? runId = some wait →
    (after.waiting.get? runId = some wait ∧ after.resumes runId = before.resumes runId) ∨
      (after.waiting.get? runId = none ∧ after.resumes runId = before.resumes runId + 1)

def NoneLost (before after : Engine) : Prop :=
  ∀ runId wait, before.waiting.get? runId = some wait →
    after.waiting.get? runId = some wait ∨ before.resumes runId < after.resumes runId

def Resumable (setting : Setting) (found : String × Wait) : Prop :=
  ∃ item, (Resume.ofWait found).item = .ok item ∧ ¬(setting.forwards = true ∧ setting.dispatch item = .raised)

theorem resumable_iff : Resumable setting found ↔ setting.copies (.ofWait found) = 1 := by
  simp only [Resumable, Setting.copies]
  cases (Resume.ofWait found).item with
  | error => simp
  | ok =>
    split <;> simp_all

theorem mem_toResume (member : found ∈ engine.toResume notification) :
    engine.waiting.get? found.1 = some found.2 :=
  Dict.get?_eq_some.mpr (List.mem_of_mem_filter member)

theorem take_spec (engine : Engine) (reach : Reach) (runIds : List String) :
    (∀ runId, (take reach runIds engine).waiting.get? runId =
        if runId ∈ runIds then none else engine.waiting.get? runId) ∧
      ∀ runId, (take reach runIds engine).resumes runId = engine.resumes runId := by
  simp only [take, unregisterRedisWait]
  split <;> exact ⟨fun _ => Dict.get?_eraseAll, fun _ => rfl⟩

theorem notifyEvent_yields (rehydrated : engine.rehydrationComplete = true) :
    (notifyEvent setting reach notification).Yields engine
      (fun _ after =>
        (∀ found ∈ engine.toResume notification, 0 < setting.copies (.ofWait found) ∧
          after.waiting.get? found.1 = none ∧
          after.resumes found.1 = engine.resumes found.1 + setting.copies (.ofWait found)) ∧
        ∀ runId ∉ (engine.toResume notification).map Prod.fst, ∀ wait, engine.waiting.get? runId = some wait →
          after.waiting.get? runId = some wait ∧ after.resumes runId = engine.resumes runId)
      (fun _ after => ∃ found ∈ engine.toResume notification, setting.copies (.ofWait found) = 0 ∧
        after.waiting.get? found.1 = none ∧ after.resumes found.1 = engine.resumes found.1) := by
  simp only [notifyEvent, yields_bind, yields_read, yields_ite, rehydrated, true_implies,
    not_true_eq_false, false_implies, and_true, yields_pure]
  obtain ⟨taken, untouched⟩ := take_spec engine reach ((engine.toResume notification).map Prod.fst)
  have gone {found : String × Wait} (member : found ∈ engine.toResume notification) :
      (take reach ((engine.toResume notification).map Prod.fst) engine).waiting.get? found.1 = none := by
    rw [taken, if_pos (List.mem_map_of_mem member)]
  refine (resumeAll_yields (engine.waiting.distinct.sublist (List.filter_sublist.map Prod.fst))).mono ?_ ?_
  · rintro _ middle ⟨tableKept, woken, others⟩
    refine crossInstanceResume_spares.mono ?_ fun _ _ impossible => impossible.elim
    rintro _ after ⟨tableSpared, spared⟩
    refine ⟨fun found member => ⟨(woken found member).1, ?_, ?_⟩, fun runId absent wait registered => ⟨?_, ?_⟩⟩
    · rw [tableSpared, tableKept, gone member]
    · rw [spared found.1 (.inl (List.mem_map_of_mem member)), (woken found member).2, untouched]
    · rw [tableSpared, tableKept, taken, if_neg absent, registered]
    · have waiting : (middle.waiting.get? runId).isSome := by
        rw [tableKept, taken, if_neg absent, registered]
        rfl
      rw [spared runId (.inr waiting), others runId absent, untouched]
  · rintro _ after ⟨tableKept, found, member, none, count⟩
    refine ⟨found, member, none, ?_, ?_⟩
    · rw [tableKept, gone member]
    · rw [count, untouched]

/-- A notification loses or doubles no run of the table just when the item of each
wait that it wakes can be built and its callback does not raise in the dispatcher's hands. -/
theorem notify_event_loses_no_run_iff :
    (notifyEvent setting reach notification).Yields engine (fun _ after => Accounted engine after)
        (fun _ after => NoneLost engine after) ↔
      (engine.rehydrationComplete = true → ∀ found ∈ engine.toResume notification, Resumable setting found) := by
  constructor
  · intro accounted rehydrated found member
    rw [resumable_iff]
    have once : (notifyEvent setting reach notification).Yields engine
        (fun _ _ => setting.copies (.ofWait found) = 1) (fun _ _ => setting.copies (.ofWait found) = 1) := by
      refine (accounted.and (notifyEvent_yields rehydrated)).mono ?_ ?_
      · rintro _ after ⟨accounted, woken, _⟩
        obtain ⟨_, gone, _⟩ := woken found member
        rcases accounted found.1 found.2 (mem_toResume member) with ⟨kept, _⟩ | ⟨_, once⟩
        · rw [gone] at kept
          cases kept
        · omega
      · rintro _ after ⟨noneLost, failed, failedMember, _, gone, count⟩
        rcases noneLost failed.1 failed.2 (mem_toResume failedMember) with kept | more
        · rw [gone] at kept
          cases kept
        · omega
    exact once.left_state
  · intro resumable
    cases rehydrated : engine.rehydrationComplete with
    | false =>
      simp only [notifyEvent, yields_bind, yields_read, yields_ite, rehydrated,
        Bool.false_eq_true, false_implies, not_false_eq_true, true_implies, true_and, yields_modify, yields_pure]
      intro runId wait registered
      refine .inl ?_
      simp only [bufferEvent]
      split <;> exact ⟨registered, rfl⟩
    | true =>
      refine (notifyEvent_yields rehydrated).mono ?_ ?_
      · rintro _ after ⟨woken, others⟩ runId wait registered
        by_cases member : runId ∈ (engine.toResume notification).map Prod.fst
        · obtain ⟨found, woke, rfl⟩ := List.mem_map.mp member
          obtain ⟨_, gone, count⟩ := woken found woke
          rw [resumable_iff.mp (resumable rehydrated found woke)] at count
          exact .inr ⟨gone, count⟩
        · exact .inl (others runId member wait registered)
      · rintro _ after ⟨found, member, none, _⟩
        rw [resumable_iff.mp (resumable rehydrated found member)] at none
        cases none

def Engine.ready : Engine where
  waiting := .empty
  scheduler := idleScheduler
  dispatched := []
  rehydrationComplete := true
  preRehydrationBuffer := []
  redis := .empty
  backups := .empty

def urgent : Wait := ⟨"approved", "tenant", "eu", "urgent", none, "flow", .forEvent "approved"⟩

/-- `register_wait` takes a run with the priority `urgent`; the event that it waits
for raises, and the run stands neither in the table nor in the queue, nor with the dispatcher. -/
theorem urgent_run_lost :
    ∃ after,
      (notifyEvent ⟨false, fun _ => .returned⟩ ⟨true, true⟩ ⟨"approved", none, none⟩).run
          (ready.registerWait ⟨true, true⟩ true "run" urgent) =
        (.error (.invalidPriority "urgent"), after) ∧
      after.waiting.get? "run" = none ∧ after.resumes "run" = 0 ∧ after.redis.get? "run" = none :=
  ⟨_, rfl, rfl, rfl, rfl⟩

end AindyRuntime.Scheduler.WakeFailures
