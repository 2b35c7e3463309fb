import Mathlib.Data.List.Count
import AindyRuntime.Kernel.TenantSlots

/-! # Admission of executions

Any number of executions, each of which asks `can_execute`, takes a slot with
`mark_started` once it is admitted, and gives it back.
-/

namespace AindyRuntime.ResourceManager

/-- The operation of `_release_slot` on the counter, and whether it finds the
counter below zero, which a later operation then resets. -/
def Counters.lower (counters : Counters) (backend : Backend) (tenantId : String) : Bool × Counters :=
  let count := counters.on backend tenantId
  match backend with
  | .redis => (decide (count - 1 < 0), counters.write .redis tenantId (count - 1))
  | .process => (false, if 0 < count then counters.write .process tenantId (count - 1) else counters)

theorem Counters.releaseSlot_eq_lower {counters : Counters} :
    (counters.releaseSlot backend tenantId).2 =
      if (counters.lower backend tenantId).1 then
        (counters.lower backend tenantId).2.resetTenantQuota .redis tenantId
      else (counters.lower backend tenantId).2 := by
  cases backend with
  | redis =>
    simp only [releaseSlot, lower, decide_eq_true_eq]
    split <;> rfl
  | process =>
    simp only [releaseSlot, lower, Bool.false_eq_true, if_false]
    split <;> rfl

theorem Counters.on_lower_le (counters : Counters) (backend other : Backend) (tenantId tenant : String) :
    (counters.lower backend tenantId).2.on other tenant ≤ counters.on other tenant := by
  cases backend with
  | redis =>
    simp only [lower, on_write]
    split
    case isTrue same =>
      obtain ⟨rfl, rfl⟩ := same
      omega
    · omega
  | process =>
    simp only [lower]
    split
    · simp only [on_write]
      split
      case isTrue same =>
        obtain ⟨rfl, rfl⟩ := same
        omega
      · omega
    · omega

namespace Admission

structure World (Execution : Type) where
  counters : Counters
  /-- Executions that were admitted and have not started, with the counter that was read. -/
  admitted : List (Execution × Backend)
  running : List Execution
  /-- Tenants whose counter a release has found below zero and not reset yet. -/
  underflowed : List String

inductive Action (Execution : Type) where
  | canExecute (execution : Execution) (backend : Backend)
  | markStarted (execution : Execution) (read backend : Backend)
  /-- The decrement of `mark_completed` or of `mark_waiting`. -/
  | release (execution : Execution) (backend : Backend)
  | resetTenantQuota (tenantId : String) (backend : Backend)

structure Setting (Execution : Type) where
  /-- `MAX_CONCURRENT_PER_TENANT` -/
  limit : Int
  testing : Bool
  tenantOf : Execution → String

variable {Execution : Type}

def World.idle : World Execution := ⟨.zero, [], [], []⟩

def executions [DecidableEq Execution] (setting : Setting Execution) :
    StepSystem (World Execution) (Action Execution) where
  step world
    | .canExecute execution backend =>
      if execution ∈ world.running ∨ execution ∈ world.admitted.map Prod.fst then none
      else if world.counters.canExecute setting.limit setting.testing backend (setting.tenantOf execution) then
        some { world with admitted := (execution, backend) :: world.admitted }
      else some world
    | .markStarted execution read backend =>
      if (execution, read) ∈ world.admitted then
        some
          { world with
            counters := world.counters.markStarted backend (setting.tenantOf execution)
            admitted := world.admitted.erase (execution, read)
            running := execution :: world.running }
      else none
    | .release execution backend =>
      if execution ∈ world.running then
        let tenantId := setting.tenantOf execution
        let lowered := world.counters.lower backend tenantId
        some
          { world with
            counters := lowered.2
            running := world.running.erase execution
            underflowed := if lowered.1 then tenantId :: world.underflowed else world.underflowed }
      else none
    | .resetTenantQuota tenantId backend =>
      if tenantId ∈ world.underflowed then
        some
          { world with
            counters := world.counters.resetTenantQuota backend tenantId
            underflowed := world.underflowed.erase tenantId }
      else none

variable (setting : Setting Execution) (world : World Execution)

def World.between (tenantId : String) : Nat :=
  world.admitted.countP fun entry => setting.tenantOf entry.1 = tenantId

def World.betweenOn (backend : Backend) (tenantId : String) : Nat :=
  world.admitted.countP fun entry => setting.tenantOf entry.1 = tenantId ∧ entry.2 = backend

theorem betweenOn_le (backend : Backend)
    (tenantId : String) : world.betweenOn setting backend tenantId ≤ world.between setting tenantId := by
  refine List.countP_mono_left fun entry _ held => ?_
  simp only [decide_eq_true_eq] at held ⊢
  exact held.1

/-- No execution asks while more than `crowd` others of its tenant are between
their admission and their start, and each starts on the counter that admitted it. -/
def Spaced (crowd : Nat) (world : World Execution) : Action Execution → Prop
  | .canExecute execution _ => world.between setting (setting.tenantOf execution) ≤ crowd
  | .markStarted _ read backend => read = backend
  | _ => True

instance (crowd : Nat) (world : World Execution) : ∀ action, Decidable (Spaced setting crowd world action)
  | .canExecute execution _ =>
    inferInstanceAs (Decidable (world.between setting (setting.tenantOf execution) ≤ crowd))
  | .markStarted _ read backend => inferInstanceAs (Decidable (read = backend))
  | .release .. | .resetTenantQuota .. => inferInstanceAs (Decidable True)

structure Bounded (crowd : Nat) (world : World Execution) : Prop where
  room : ∀ backend tenantId, world.counters.on backend tenantId + world.betweenOn setting backend tenantId ≤
    setting.limit + crowd
  few : ∀ tenantId, world.between setting tenantId ≤ crowd + 1
  /-- A limit of zero lets no execution in. -/
  shut : setting.limit ≤ 0 → world.admitted = [] ∧ world.running = [] ∧ world.underflowed = [] ∧
    ∀ backend tenantId, 0 ≤ world.counters.on backend tenantId

variable {setting : Setting Execution} {crowd : Nat} {world next : World Execution}

theorem Bounded.idle (limit : 0 ≤ setting.limit) : Bounded setting crowd (World.idle : World Execution) := by
  have zero (backend : Backend) (tenantId : String) : Counters.zero.on backend tenantId = 0 := by
    cases backend <;> rfl
  refine ⟨fun backend tenantId => ?_, fun _ => Nat.zero_le _, fun _ => ⟨rfl, rfl, rfl, fun backend tenantId => ?_⟩⟩
  · have none : (World.idle : World Execution).betweenOn setting backend tenantId = 0 := rfl
    have count : (World.idle : World Execution).counters.on backend tenantId = 0 := zero backend tenantId
    omega
  · exact Int.le_of_eq (zero backend tenantId).symm

theorem Bounded.asked (bounded : Bounded setting crowd world)
    (below : world.counters.on backend (setting.tenantOf execution) < setting.limit)
    (alone : world.between setting (setting.tenantOf execution) ≤ crowd) :
    Bounded setting crowd { world with admitted := (execution, backend) :: world.admitted } := by
  refine ⟨fun other tenantId => ?_, fun tenantId => ?_, fun limit => ?_⟩
  · have room := bounded.room other tenantId
    simp only [World.betweenOn, List.countP_cons] at room ⊢
    split
    case isTrue same =>
      simp only [decide_eq_true_eq] at same
      obtain ⟨rfl, rfl⟩ := same
      have own := betweenOn_le setting world backend (setting.tenantOf execution)
      simp only [World.betweenOn] at own
      omega
    · omega
  · have few := bounded.few tenantId
    simp only [World.between, List.countP_cons] at few alone ⊢
    split
    case isTrue same =>
      simp only [decide_eq_true_eq] at same
      subst same
      omega
    · omega
  · obtain ⟨_, _, _, floor⟩ := bounded.shut limit
    have held := floor backend (setting.tenantOf execution)
    omega

theorem Bounded.start [DecidableEq Execution]
    (bounded : Bounded setting crowd world) (member : (execution, backend) ∈ world.admitted) :
    Bounded setting crowd
      { world with
        counters := world.counters.markStarted backend (setting.tenantOf execution)
        admitted := world.admitted.erase (execution, backend)
        running := execution :: world.running } := by
  refine ⟨fun other tenantId => ?_, fun tenantId => ?_, fun limit => ?_⟩
  · have room := bounded.room other tenantId
    simp only [World.betweenOn, Counters.on_markStarted, List.countP_erase] at room ⊢
    by_cases same : other = backend ∧ tenantId = setting.tenantOf execution
    · obtain ⟨rfl, rfl⟩ := same
      have counted : 0 < world.admitted.countP fun entry =>
          setting.tenantOf entry.1 = setting.tenantOf execution ∧ entry.2 = other :=
        List.countP_pos_iff.mpr ⟨_, member, by simp⟩
      simp only [member, and_self, decide_true, if_true]
      omega
    · rw [if_neg same]
      omega
  · have few := bounded.few tenantId
    simp only [World.between, List.countP_erase] at few ⊢
    omega
  · obtain ⟨none, _⟩ := bounded.shut limit
    rw [none] at member
    cases member

theorem Bounded.step [DecidableEq Execution] {action : Action Execution} (outside : setting.testing = false)
    (spaced : Spaced setting crowd world action) (bounded : Bounded setting crowd world)
    (stepped : (executions setting).step world action = some next) : Bounded setting crowd next := by
  cases action <;> simp only [executions] at stepped
  case canExecute =>
    split at stepped
    · cases stepped
    split at stepped
    case isTrue admitted =>
      cases stepped
      simp only [Counters.canExecute, outside, Bool.false_or, Bool.not_eq_true', decide_eq_false_iff_not] at admitted
      exact bounded.asked (by omega) spaced
    case isFalse =>
      cases stepped
      exact bounded
  case markStarted read backend =>
    split at stepped <;> cases stepped
    case isTrue member =>
      have same : read = backend := spaced
      subst same
      exact bounded.start member
  case release execution backend =>
    split at stepped <;> cases stepped
    case isTrue member =>
      refine ⟨fun other tenantId => ?_, bounded.few, fun limit => ?_⟩
      · have room := bounded.room other tenantId
        have lowered := world.counters.on_lower_le backend other (setting.tenantOf execution) tenantId
        simp only [World.betweenOn] at room ⊢
        omega
      · obtain ⟨_, idle, _⟩ := bounded.shut limit
        rw [idle] at member
        cases member
  case resetTenantQuota =>
    split at stepped <;> cases stepped
    case isTrue member =>
      have positive : 0 < setting.limit := by
        by_contra shut
        obtain ⟨_, _, settled, _⟩ := bounded.shut (by omega)
        rw [settled] at member
        cases member
      refine ⟨fun other tenant => ?_, bounded.few, fun limit => absurd limit (by omega)⟩
      have room := bounded.room other tenant
      have few := bounded.few tenant
      have own := betweenOn_le setting world other tenant
      simp only [World.betweenOn, Counters.resetTenantQuota, Counters.on_write] at room own ⊢
      split <;> omega

/-- The count of a tenant passes the limit by no more than the executions that
were between their admission and their start when another was admitted. -/
theorem active_count_le [DecidableEq Execution] {actions : List (Action Execution)} (backend : Backend)
    (tenantId : String) (outside : setting.testing = false) (limit : 0 ≤ setting.limit)
    (spaced : (executions setting).Meets (Spaced setting crowd) .idle actions)
    (ran : (executions setting).run .idle actions = some final) :
    final.counters.on backend tenantId ≤ setting.limit + crowd := by
  have bounded : Bounded setting crowd final :=
    StepSystem.invariant (fun spaced bounded stepped => bounded.step outside spaced stepped) spaced (.idle limit) ran
  have room := bounded.room backend tenantId
  omega

def sixOfOne : Setting (Fin 6) := ⟨5, false, fun _ => "tenant"⟩

def oneByOne : List (Action (Fin 6)) :=
  (List.finRange 5).flatMap (fun execution =>
    [.canExecute execution.castSucc .redis, .markStarted execution.castSucc .redis .redis]) ++
    [.canExecute 5 .redis]

def allAtOnce : List (Action (Fin 6)) :=
  (List.finRange 6).map (fun execution => .canExecute execution .redis) ++
    (List.finRange 6).map (fun execution => .markStarted execution .redis .redis)

theorem active_count_le_one_by_one :
    ∃ final, (executions sixOfOne).run .idle oneByOne = some final ∧ final.counters.redis "tenant" = 5 ∧
      final.counters.redis "tenant" ≤ sixOfOne.limit + (0 : Nat) := by
  have spaced : (executions sixOfOne).Meets (Spaced sixOfOne 0) .idle oneByOne := by decide
  exact ⟨_, rfl, rfl, active_count_le .redis "tenant" rfl (by decide) spaced rfl⟩

theorem active_count_above_limit :
    ∃ final, (executions sixOfOne).run .idle allAtOnce = some final ∧
      sixOfOne.limit < final.counters.redis "tenant" :=
  ⟨_, rfl, by decide⟩

end Admission

end AindyRuntime.ResourceManager
