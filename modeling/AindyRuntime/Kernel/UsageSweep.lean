import AindyRuntime.Data.PyError
import AindyRuntime.Lib.StepSystem

/-! # The usage of execution units

`kernel/resource_manager.py`: the snapshots in which a unit's usage accrues, the
sweep that drops them, and the quota that is judged by them.  Times are in
milliseconds of the monotonic clock; what a shared backend answers is part of
the operation that asks it.
-/

namespace AindyRuntime.UsageStore

open List

def euKeyTtl : Nat := 3600000

def evictionSweepInterval : Nat := 60000

structure UsageSnapshot where
  (wallTimeMs memoryBytes syscallCount tokens : Int)
  limits : Dict String Int
  createdAt : Nat
deriving DecidableEq

def UsageSnapshot.fresh (now : Nat) : UsageSnapshot := ⟨0, 0, 0, 0, ∅, now⟩

structure ResourceManager where
  usage : Dict String UsageSnapshot
  pendingPurge : List String
  lastEvictionSweep : Nat

def ResourceManager.created (now : Nat) : ResourceManager := ⟨∅, [], now⟩

structure Setting where
  testing : Bool
  (maxWallTimeMs maxSyscallsPerExecution : Int)

structure Answers where
  (cpuMs syscalls : Option Int)
  limits : Dict String Int

inductive Operation where
  | canExecute
  | checkQuota (eu : String) (answers : Answers)
  | markStarted (eu : Option String)
  | markWaiting (eu : Option String)
  | markCompleted (eu : Option String)
  | recordCpu (eu : String) (ms : Int)
  | recordMemory (eu : String) (bytesUsed : Int)
  | recordSyscall (eu : String) (count : Int)
  | recordTokens (eu : String) (count : Int)
  /-- `shared` is the total that the backend reports after adding `count`. -/
  | reserveTokens (eu : String) (count cap : Int) (shared : Option Int)
  | releaseTokens (eu : String) (count : Int)
  | declareLimits (eu : String) (limits : List (String × Int))
  | seedUsage (eu : String) (syscalls : Int)
  /-- The entry of `observed_unit`, whose exit is a `purgeEu`. -/
  | observeUnit (eu : String)
  | purgeEu (eu : String)

namespace Operation

def subject : Operation → Option String
  | .canExecute => none
  | .markStarted eu | .markWaiting eu | .markCompleted eu => eu.filter (· ≠ "")
  | .checkQuota eu _ | .recordCpu eu _ | .recordMemory eu _ | .recordSyscall eu _
  | .recordTokens eu _ | .reserveTokens eu _ _ _ | .releaseTokens eu _ | .declareLimits eu _
  | .seedUsage eu _ | .observeUnit eu | .purgeEu eu => some eu

def effect (setting : Setting) (now : Nat) (operation : Operation)
    (found : Option UsageSnapshot) : Option UsageSnapshot :=
  let snap := found.getD (.fresh now)
  match operation with
  | .canExecute | .markWaiting _ | .markCompleted _ => found
  | .markStarted _ | .observeUnit _ => some snap
  | .recordCpu _ ms => some { snap with wallTimeMs := snap.wallTimeMs + ms }
  | .recordMemory _ bytesUsed => some { snap with memoryBytes := max snap.memoryBytes bytesUsed }
  | .recordSyscall _ count =>
    if max 0 count = 0 then found
    else some { snap with syscallCount := snap.syscallCount + max 0 count }
  | .recordTokens _ count => if count ≤ 0 then found else some { snap with tokens := snap.tokens + count }
  | .reserveTokens _ count cap shared =>
    if cap ≤ 0 ∨ count ≤ 0 then found
    else match shared with
      | some total => if cap < total then found else some { snap with tokens := snap.tokens + count }
      | none =>
        if cap < snap.tokens + count then some snap
        else some { snap with tokens := snap.tokens + count }
  | .releaseTokens _ count =>
    if count ≤ 0 then found
    else found.map fun snap => { snap with tokens := max 0 (snap.tokens - count) }
  | .declareLimits _ limits =>
    let positive := limits.filter fun limit => 0 < limit.2
    if positive.isEmpty then found
    else some { snap with limits := snap.limits.assignAll positive }
  | .seedUsage _ syscalls => some { snap with syscallCount := max 0 syscalls }
  | .purgeEu _ => none
  | .checkQuota _ answers =>
    if setting.testing then found
    else found.map fun snap =>
      if snap.limits.entries.isEmpty then { snap with limits := answers.limits } else snap

def sweeps : Operation → Bool
  | .canExecute | .checkQuota _ _ => true
  | _ => false

def begins : Operation → Option String
  | .markStarted eu | .markWaiting eu => eu.filter (· ≠ "")
  | _ => none

def ends : Operation → Option String
  | .markCompleted eu => eu.filter (· ≠ "")
  | .purgeEu eu => some eu
  | _ => none

def queues : Operation → Option String
  | .markCompleted eu => eu.filter (· ≠ "")
  | _ => none

end Operation

namespace ResourceManager

variable (setting : Setting) (manager : ResourceManager) (now : Nat)

def reap : ResourceManager :=
  { manager with usage := manager.usage.eraseAll manager.pendingPurge, pendingPurge := [] }

def isExpired (snap : UsageSnapshot) : Bool := decide (snap.createdAt + euKeyTtl < now)

def expired : List String :=
  (manager.usage.entries.filter fun entry => isExpired now entry.2).map Prod.fst

def evict : ResourceManager :=
  { manager with usage := manager.usage.eraseAll (manager.expired now), lastEvictionSweep := now }

def evictsAt : Bool := decide (manager.lastEvictionSweep + evictionSweepInterval ≤ now)

def sweep : ResourceManager :=
  if manager.evictsAt now then manager.reap.evict now else manager.reap

def write (eu : String) (snap : Option UsageSnapshot) : ResourceManager :=
  match snap with
  | some snap => { manager with usage := manager.usage.set eu snap }
  | none => { manager with usage := manager.usage.erase eu }

def perform (operation : Operation) : ResourceManager :=
  let swept := if operation.sweeps then manager.sweep now else manager
  let written :=
    match operation.subject with
    | some eu => swept.write eu (operation.effect setting now (swept.usage.get? eu))
    | none => swept
  { written with pendingPurge := operation.queues.toList ++ written.pendingPurge }

end ResourceManager

open UsageStore.ResourceManager

def effectiveLimit (globalCap declared : Int) : Int :=
  if 0 < globalCap ∧ 0 < declared then min globalCap declared
  else if globalCap ≠ 0 then globalCap
  else declared

def quotaReason (eu dimension : String) (used cap : Int) : String :=
  "RESOURCE_LIMIT_EXCEEDED: eu " ++ quote eu ++ " exceeded " ++ dimension ++ " limit ("
    ++ toString used ++ " > " ++ toString cap ++ ")"

variable (setting : Setting)

def judge (eu : String) (answers : Answers) : Option UsageSnapshot → Option String
  | none => none
  | some snap =>
    let declared := if snap.limits.entries.isEmpty then answers.limits else snap.limits
    let wallCap := effectiveLimit setting.maxWallTimeMs ((declared.get? "wall_time_ms").getD 0)
    let syscallCap :=
      effectiveLimit setting.maxSyscallsPerExecution ((declared.get? "syscalls").getD 0)
    let wallTimeMs := answers.cpuMs.getD snap.wallTimeMs
    let syscallCount := answers.syscalls.getD snap.syscallCount
    if 0 < wallCap ∧ wallCap < wallTimeMs then
      some (quotaReason eu "wall_time_ms" wallTimeMs wallCap)
    else if 0 < syscallCap ∧ syscallCap < syscallCount then
      some (quotaReason eu "syscall_count" syscallCount syscallCap)
    else none

def ResourceManager.checkQuota (manager : ResourceManager) (now : Nat)
    (eu : String) (answers : Answers) : Option String :=
  if setting.testing then none
  else judge setting eu answers ((manager.sweep now).usage.get? eu)

structure World where
  manager : ResourceManager
  now : Nat
  /-- The units that were started or parked and not since completed or purged. -/
  live : List String
  /-- The snapshot each of them would have if no sweep touched it. -/
  accrued : String → Option UsageSnapshot

structure Action where
  elapsed : Nat
  operation : Operation

def World.created (now : Nat) : World := ⟨.created now, now, [], fun _ => none⟩

def Operation.liveAfter (operation : Operation) (live : List String) : List String :=
  (operation.begins.toList ++ live).filter fun eu => operation.ends ≠ some eu

variable (world : World)

def World.recorded (eu : String) : Option UsageSnapshot :=
  if eu ∈ world.live then world.accrued eu else world.manager.usage.get? eu

def World.perform (action : Action) : World :=
  let now := world.now + action.elapsed
  { manager := world.manager.perform setting now action.operation
    now
    live := action.operation.liveAfter world.live
    accrued := fun eu =>
      if action.operation.subject = some eu then
        action.operation.effect setting now (world.recorded eu)
      else world.recorded eu }

def operations : StepSystem World Action where
  step world action := some (world.perform setting action)

def isYoung (now : Nat) (found : Option UsageSnapshot) : Bool :=
  found.all fun snap => !isExpired now snap

def World.sparedAt (now : Nat) : Bool :=
  !world.manager.evictsAt now
    || world.live.all fun eu => isYoung now (world.manager.usage.get? eu)

/-- No live unit is past its time to live when expired snapshots are evicted,
and no unit is started or parked while it is queued for purge. -/
def Spares (action : Action) : Prop :=
  (action.operation.sweeps = true → world.sparedAt (world.now + action.elapsed) = true)
    ∧ ∀ eu ∈ action.operation.begins, eu ∉ world.manager.pendingPurge

instance : ∀ world action, Decidable (Spares world action) := fun world action =>
  inferInstanceAs (Decidable ((action.operation.sweeps = true → _ = true) ∧
    ∀ eu ∈ action.operation.begins, eu ∉ world.manager.pendingPurge))

section Sweeps

variable {setting : Setting} {manager : ResourceManager}

theorem reap_usage (unqueued : eu ∉ manager.pendingPurge) :
    manager.reap.usage.get? eu = manager.usage.get? eu := by
  rw [reap, Dict.get?_eraseAll, if_neg unqueued]

theorem evict_usage (young : isYoung now (manager.usage.get? eu) = true) :
    (manager.evict now).usage.get? eu = manager.usage.get? eu := by
  have kept : eu ∉ manager.expired now := by
    intro listed
    obtain ⟨_, filtered, rfl⟩ := mem_map.mp listed
    obtain ⟨stored, old⟩ := mem_filter.mp filtered
    rw [Dict.get?_eq_some.mpr stored, isYoung, Option.all_some, old] at young
    cases young
  rw [evict, Dict.get?_eraseAll, if_neg kept]

theorem sweep_usage (unqueued : eu ∉ manager.pendingPurge)
    (young : manager.evictsAt now = true → isYoung now (manager.usage.get? eu) = true) :
    (manager.sweep now).usage.get? eu = manager.usage.get? eu := by
  simp only [sweep]
  split
  case isTrue evicts =>
    have same := reap_usage unqueued
    rw [evict_usage, same]
    rw [same]
    exact young evicts
  case isFalse => exact reap_usage unqueued

theorem sweep_pendingPurge : (manager.sweep now).pendingPurge = [] := by
  simp only [sweep]
  split <;> rfl

theorem write_usage :
    (manager.write eu snap).usage.get? other
      = if eu = other then snap else manager.usage.get? other := by
  cases snap with
  | none => exact Dict.get?_erase
  | some => exact Dict.get?_set

theorem write_pendingPurge : (manager.write eu snap).pendingPurge = manager.pendingPurge := by
  cases snap <;> rfl

def ResourceManager.opened (manager : ResourceManager) (now : Nat) (operation : Operation) : ResourceManager :=
  if operation.sweeps then manager.sweep now else manager

theorem perform_usage :
    (manager.perform setting now operation).usage.get? eu
      = if operation.subject = some eu then
          operation.effect setting now ((manager.opened now operation).usage.get? eu)
        else (manager.opened now operation).usage.get? eu := by
  simp only [perform]
  cases subject : operation.subject with
  | none => rfl
  | some other =>
    simp only [write_usage, Option.some.injEq]
    by_cases same : other = eu
    · subst same
      rfl
    · rw [if_neg same, if_neg same]
      rfl

theorem perform_pendingPurge :
    (manager.perform setting now operation).pendingPurge
      = operation.queues.toList ++ (manager.opened now operation).pendingPurge := by
  simp only [perform]
  cases operation.subject with
  | none => rfl
  | some =>
    simp only [write_pendingPurge]
    rfl

end Sweeps

def Kept : Prop :=
  ∀ eu ∈ world.live, eu ∉ world.manager.pendingPurge ∧ world.manager.usage.get? eu = world.accrued eu

section Runs

variable {setting : Setting} {world : World}

theorem Kept.sweep (kept : Kept world) (spared : world.sparedAt now = true) (alive : eu ∈ world.live) :
    (world.manager.sweep now).usage.get? eu = world.accrued eu := by
  obtain ⟨unqueued, same⟩ := kept eu alive
  rw [sweep_usage unqueued, same]
  intro evicts
  simp only [World.sparedAt, evicts, Bool.not_true, Bool.false_or, all_eq_true] at spared
  exact spared eu alive

theorem Kept.opened (kept : Kept world) (spares : Spares world action) (alive : eu ∈ world.live) :
    let opened := world.manager.opened (world.now + action.elapsed) action.operation
    eu ∉ opened.pendingPurge ∧ opened.usage.get? eu = world.accrued eu := by
  simp only [ResourceManager.opened]
  split
  case isTrue sweeps =>
    refine ⟨?_, kept.sweep (spares.1 sweeps) alive⟩
    rw [sweep_pendingPurge]
    exact not_mem_nil
  case isFalse => exact kept eu alive

theorem Operation.sweeps_of_begins {operation : Operation} (begins : operation.begins = some eu) :
    operation.sweeps = false ∧ operation.queues = none := by
  cases operation <;> first | exact ⟨rfl, rfl⟩ | cases begins

theorem Operation.ends_of_queues {operation : Operation} (queues : operation.queues = some eu) :
    operation.ends = some eu := by
  cases operation <;> first | exact queues | cases queues

theorem Kept.perform (spares : Spares world action) (kept : Kept world) : Kept (world.perform setting action) := by
  intro eu member
  simp only [World.perform, Operation.liveAfter, mem_filter, mem_append,
    Option.mem_toList, decide_eq_true_eq] at member
  obtain ⟨origin, unended⟩ := member
  have unqueuedNow : eu ∉ action.operation.queues.toList := by
    intro queued
    exact unended (Operation.ends_of_queues (Option.mem_toList.mp queued))
  simp only [World.perform, perform_usage, perform_pendingPurge, mem_append, not_or]
  by_cases alive : eu ∈ world.live
  · obtain ⟨unqueued, same⟩ := kept.opened spares alive
    refine ⟨⟨unqueuedNow, unqueued⟩, ?_⟩
    simp [World.recorded, if_pos alive, same]
  · have begins := origin.resolve_right alive
    have opened : world.manager.opened (world.now + action.elapsed) action.operation
        = world.manager := by
      simp [ResourceManager.opened, (Operation.sweeps_of_begins begins).1]
    rw [opened]
    refine ⟨⟨unqueuedNow, spares.2 eu begins⟩, ?_⟩
    simp [World.recorded, if_neg alive]

theorem kept_run (met : (operations setting).Meets Spares (World.created start) actions)
    (ran : (operations setting).run (World.created start) actions = some world) : Kept world := by
  refine StepSystem.invariant ?_ met (fun _ none => absurd none not_mem_nil) ran
  intro before next action spares kept stepped
  cases stepped
  exact kept.perform spares

end Runs

/-- A live unit has all it has accrued, before and after every sweep that spares
it, and is judged by that. -/
theorem live_usage_survives_sweeps (start : Nat) (actions : List Action)
    (world : World) (met : (operations setting).Meets Spares (World.created start) actions)
    (ran : (operations setting).run (World.created start) actions = some world) :
    ∀ eu ∈ world.live,
      world.manager.usage.get? eu = world.accrued eu
        ∧ ∀ now, world.sparedAt now = true →
          (world.manager.sweep now).usage.get? eu = world.accrued eu
            ∧ ∀ answers, world.manager.checkQuota setting now eu answers
              = if setting.testing then none else judge setting eu answers (world.accrued eu) := by
  intro eu alive
  have kept := kept_run met ran
  refine ⟨(kept eu alive).2, fun now spared => ?_⟩
  have swept := kept.sweep spared alive
  refine ⟨swept, fun answers => ?_⟩
  simp [checkQuota, swept]

def plainSetting : Setting := ⟨false, 300000, 100⟩

def noAnswers : Answers := ⟨none, none, ∅⟩

def parkedOverQuota : List Action :=
  [⟨0, .markStarted (some "run")⟩, ⟨5, .recordSyscall "run" 101⟩, ⟨1, .markWaiting (some "run")⟩]

theorem live_usage_survives_sweeps_of_parked :
    ∃ world, (operations plainSetting).run (World.created 0) parkedOverQuota = some world
      ∧ "run" ∈ world.live
      ∧ (world.manager.sweep 3600000).usage.get? "run" = world.accrued "run" := by
  refine ⟨_, rfl, by decide, ?_⟩
  exact ((live_usage_survives_sweeps plainSetting 0 parkedOverQuota _ (by decide) rfl "run"
    (by decide)).2 3600000 (by decide)).1

/-- A millisecond later the parked unit is an hour old: its snapshot is evicted
as one that nobody owns, and its quota starts over. -/
theorem parked_usage_evicted :
    ∃ world, (operations plainSetting).run (World.created 0) parkedOverQuota = some world
      ∧ "run" ∈ world.live
      ∧ (world.accrued "run").map (·.syscallCount) = some 101
      ∧ world.manager.checkQuota plainSetting 3599999 "run" noAnswers
        = some "RESOURCE_LIMIT_EXCEEDED: eu 'run' exceeded syscall_count limit (101 > 100)"
      ∧ (world.manager.sweep 3600001).usage.get? "run" = none
      ∧ world.manager.checkQuota plainSetting 3600001 "run" noAnswers = none :=
  ⟨_, rfl, by decide, rfl, by decide +kernel, by decide +kernel, by decide +kernel⟩

end AindyRuntime.UsageStore
