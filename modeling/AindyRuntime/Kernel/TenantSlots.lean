import Mathlib.Data.List.Infix
import AindyRuntime.Lib.FloorCounter
import AindyRuntime.Lib.StepSystem

/-! # Concurrency slots of a tenant

`kernel/resource_manager.py`.  A tenant's running executions are counted on a
Redis key, or on the process's own counter while the Redis client is away.
Admission reads the counter and acquisition raises it later, in another call;
each call picks its counter afresh.
-/

namespace AindyRuntime.ResourceManager

open FloorCounter List Option

/-- The counter a call uses: that of the Redis client `_get_redis` gives it, or
the process's own where there is none or it raises. -/
inductive Backend where
  | redis
  | process
deriving DecidableEq, Repr

structure Counters where
  /-- `aindy:quota:concurrent:{tenant_id}`; a key that is not there reads as zero. -/
  redis : String → Int
  activeCounts : String → Int

def Counters.zero : Counters := ⟨fun _ => 0, fun _ => 0⟩

namespace Counters

variable {counters : Counters}

def on (counters : Counters) : Backend → String → Int
  | .redis => counters.redis
  | .process => counters.activeCounts

def write (counters : Counters) (backend : Backend) (tenantId : String) (count : Int) : Counters :=
  match backend with
  | .redis => { counters with redis := Function.update counters.redis tenantId count }
  | .process => { counters with activeCounts := Function.update counters.activeCounts tenantId count }

theorem on_write {count : Int} :
    (counters.write backend tenantId count).on other tenant =
      if other = backend ∧ tenant = tenantId then count else counters.on other tenant := by
  cases backend <;> cases other <;> simp [write, on, Function.update_apply]

variable (limit : Int)

/-- The verdict of `can_execute`; the reason of a refusal is left out. -/
def canExecute (testing : Bool) (counters : Counters) (backend : Backend) (tenantId : String) : Bool :=
  testing || !decide (limit ≤ counters.on backend tenantId)

def markStarted (counters : Counters) (backend : Backend) (tenantId : String) : Counters :=
  counters.write backend tenantId (counters.on backend tenantId + 1)

def resetTenantQuota (counters : Counters) (backend : Backend) (tenantId : String) : Counters :=
  counters.write backend tenantId 0

def releaseSlot (counters : Counters) (backend : Backend) (tenantId : String) : (Int × Int) × Counters :=
  let count := counters.on backend tenantId
  match backend with
  | .redis =>
    let lowered := counters.write .redis tenantId (count - 1)
    if count - 1 < 0 then ((count, 0), lowered.resetTenantQuota .redis tenantId)
    else ((count, count - 1), lowered)
  | .process =>
    if 0 < count then ((count, count - 1), counters.write .process tenantId (count - 1))
    else ((count, count), counters)

def capacityFreed (observed : Int × Int) : Bool :=
  decide (limit ≤ observed.1) && decide (observed.2 < limit)

def markWaiting (counters : Counters) (backend : Backend) (tenantId : String) : Bool × Counters :=
  let released := counters.releaseSlot backend tenantId
  (capacityFreed limit released.1, released.2)

def markCompleted (counters : Counters) (backend : Backend) (tenantId : String) : Bool × Counters :=
  let released := counters.releaseSlot backend tenantId
  (capacityFreed limit released.1, released.2)

theorem on_markStarted :
    (counters.markStarted backend tenantId).on other tenant =
      if other = backend ∧ tenant = tenantId then counters.on backend tenantId + 1
      else counters.on other tenant :=
  on_write

theorem on_releaseSlot (floor : 0 ≤ counters.on backend tenantId) :
    (counters.releaseSlot backend tenantId).2.on other tenant =
      if other = backend ∧ tenant = tenantId then step (counters.on backend tenantId) .down
      else counters.on other tenant := by
  cases backend with
  | redis =>
    simp only [releaseSlot, step]
    split
    · simp only [resetTenantQuota, on_write]
      split <;> rfl
    · exact on_write
  | process =>
    simp only [releaseSlot, step]
    split
    case isTrue =>
      have lowered : ¬counters.on .process tenantId - 1 < 0 := by omega
      rw [if_neg lowered]
      exact on_write
    case isFalse =>
      have lowered : counters.on .process tenantId - 1 < 0 := by omega
      split
      case isTrue same =>
        obtain ⟨rfl, rfl⟩ := same
        change counters.on .process tenant = 0
        omega
      · rfl

end Counters

inductive Call where
  | started (tenantId : String) (backend : Backend)
  | waiting (tenantId : String) (backend : Backend)
  | completed (tenantId : String) (backend : Backend)
deriving DecidableEq, Repr

def Call.apply (limit : Int) (counters : Counters) : Call → Counters
  | .started tenantId backend => counters.markStarted backend tenantId
  | .waiting tenantId backend => (counters.markWaiting limit backend tenantId).2
  | .completed tenantId backend => (counters.markCompleted limit backend tenantId).2

def Call.move? (backend : Backend) (tenantId : String) : Call → Option Move
  | .started tenant used => if used = backend ∧ tenant = tenantId then some .up else none
  | .waiting tenant used | .completed tenant used =>
    if used = backend ∧ tenant = tenantId then some .down else none

def moves (backend : Backend) (tenantId : String) (calls : List Call) : List Move :=
  calls.filterMap (Call.move? backend tenantId)

def Call.slot? (tenantId : String) : Call → Option Move
  | .started tenant _ => if tenant = tenantId then some .up else none
  | .waiting tenant _ | .completed tenant _ => if tenant = tenantId then some .down else none

def slots (tenantId : String) (calls : List Call) : List Move :=
  calls.filterMap (Call.slot? tenantId)

variable {limit : Int} {tenantId : String}

theorem Call.apply_on {call : Call} (floor : ∀ backend tenantId, 0 ≤ counters.on backend tenantId) :
    (call.apply limit counters).on backend tenantId =
      ((call.move? backend tenantId).map (step (counters.on backend tenantId))).getD
        (counters.on backend tenantId) := by
  cases call with
  | started =>
    simp only [Call.apply, Call.move?, Counters.on_markStarted, eq_comm]
    split
    case isTrue same =>
      obtain ⟨rfl, rfl⟩ := same
      rfl
    · rfl
  | waiting tenant used | completed tenant used =>
    simp only [Call.apply, Call.move?, Counters.markWaiting, Counters.markCompleted,
      Counters.on_releaseSlot (floor used tenant), eq_comm]
    split
    case isTrue same =>
      obtain ⟨rfl, rfl⟩ := same
      rfl
    · rfl

theorem Call.apply_floor {call : Call} (floor : ∀ backend tenantId, 0 ≤ counters.on backend tenantId)
    (backend : Backend) (tenantId : String) : 0 ≤ (call.apply limit counters).on backend tenantId := by
  rw [apply_on floor]
  cases call.move? backend tenantId with
  | none => exact floor backend tenantId
  | some => exact step_nonneg (floor backend tenantId)

def runCalls (limit : Int) (counters : Counters) (calls : List Call) : Counters :=
  calls.foldl (Call.apply limit) counters

/-- Each counter of a tenant sees only its own part of the calls. -/
theorem runCalls_on (floor : ∀ backend tenantId, 0 ≤ counters.on backend tenantId) :
    (runCalls limit counters calls).on backend tenantId =
      run (counters.on backend tenantId) (moves backend tenantId calls) := by
  induction calls generalizing counters with
  | nil => rfl
  | cons call rest ih =>
    have next : runCalls limit counters (call :: rest) = runCalls limit (call.apply limit counters) rest := rfl
    rw [next, ih (Call.apply_floor floor), Call.apply_on floor]
    cases moved : call.move? backend tenantId with
    | none => simp [moves, moved]
    | some => simp [moves, moved, run]

theorem slots_count :
    (slots tenantId calls).count move =
      (moves .redis tenantId calls).count move + (moves .process tenantId calls).count move := by
  induction calls with
  | nil => rfl
  | cons call rest ih =>
    simp only [slots, moves] at ih ⊢
    rcases call with ⟨tenant, used⟩ | ⟨tenant, used⟩ | ⟨tenant, used⟩ <;> cases used <;>
      by_cases same : tenant = tenantId <;>
      simp [Call.slot?, Call.move?, same, count_cons] <;> omega

/-- When all slots of a tenant have been given back, its counters are at zero
just when no slot was given back on another counter than it was taken on. -/
theorem released_slots_zero_iff (paired : Paired (slots tenantId calls)) :
    ((runCalls limit .zero calls).redis tenantId = 0 ∧ (runCalls limit .zero calls).activeCounts tenantId = 0) ↔
      ∀ backend, Paired (moves backend tenantId calls) := by
  have zero (backend : Backend) : (runCalls limit .zero calls).on backend tenantId = 0 ↔
      Drains (moves backend tenantId calls) := by
    have floor (backend : Backend) (tenantId : String) : 0 ≤ Counters.zero.on backend tenantId := by
      cases backend <;> exact Int.le_refl 0
    have start : Counters.zero.on backend tenantId = 0 := by cases backend <;> rfl
    rw [runCalls_on floor, start, run_eq_zero_iff (Int.le_refl 0)]
    refine ⟨fun held => held.2, fun drains => ⟨?_, drains⟩⟩
    have whole := drains _ (suffix_refl _)
    omega
  have redis := zero .redis
  have process := zero .process
  simp only [Counters.on] at redis process
  rw [redis, process]
  constructor
  · rintro ⟨redis, process⟩
    have redisWhole := redis _ (suffix_refl _)
    have processWhole := process _ (suffix_refl _)
    have all := paired.all
    simp only [slots_count] at all
    intro backend
    cases backend with
    | redis => exact paired_iff_drains.mpr ⟨redis, by omega⟩
    | process => exact paired_iff_drains.mpr ⟨process, by omega⟩
  · intro own
    exact ⟨(paired_iff_drains.mp (own .redis)).1,
      (paired_iff_drains.mp (own .process)).1⟩

def throughOutage : List Call :=
  [.started "tenant" .redis, .started "tenant" .process, .completed "tenant" .process, .waiting "tenant" .redis]

def acrossOutage : List Call := [.started "tenant" .redis, .completed "tenant" .process]

theorem paired_of_inits {moves : List Move}
    (earlier : ∀ earlier ∈ moves.inits, earlier.count .down ≤ earlier.count .up)
    (all : moves.count .up = moves.count .down) : Paired moves :=
  ⟨fun front stretch => earlier front ((mem_inits front moves).mpr stretch), all⟩

theorem released_slots_zero_through_outage :
    Paired (slots "tenant" throughOutage) ∧
      (runCalls 5 .zero throughOutage).redis "tenant" = 0 ∧
      (runCalls 5 .zero throughOutage).activeCounts "tenant" = 0 := by
  have paired : Paired (slots "tenant" throughOutage) :=
    paired_of_inits (by decide) (by decide)
  refine ⟨paired, (released_slots_zero_iff paired).mpr fun backend => ?_⟩
  cases backend with
  | redis | process => exact paired_of_inits (by decide) (by decide)

/-- The slot is taken on the Redis counter and given back while Redis is away. -/
theorem released_slot_left_across_outage :
    Paired (slots "tenant" acrossOutage) ∧
      (runCalls 5 .zero acrossOutage).redis "tenant" = 1 :=
  ⟨paired_of_inits (by decide) (by decide), rfl⟩

end AindyRuntime.ResourceManager
