import Mathlib.Logic.Function.Basic
import Mathlib.Tactic.Tauto

/-! # The dispatch queue

`kernel/scheduler/core.py` and `dispatch.py`: three deques of woken items, the
round-robin cursor of each, and one `schedule()` cycle over them.
-/

namespace AindyRuntime.Scheduler

open List

inductive Priority where
  | high
  | normal
  | low
deriving DecidableEq, Repr

def Priority.rank : Priority → Nat
  | .high => 0
  | .normal => 1
  | .low => 2

structure ScheduledItem where
  (executionUnitId tenantId : String)
  priority : Priority
  runId : Option String
  euType : String
  (enqueuedAtSeq retryCount : Nat)
  maxRetries : Int
deriving DecidableEq, Repr

structure Queues where
  items : Priority → List ScheduledItem
  placed : ∀ {priority item}, item ∈ items priority → item.priority = priority

namespace Queues

variable (queues : Queues)

def size : Nat :=
  (queues.items .high).length + (queues.items .normal).length + (queues.items .low).length

def set (priority : Priority) (items : List ScheduledItem)
    (placed : ∀ item ∈ items, item.priority = priority) : Queues where
  items := Function.update queues.items priority items
  placed := by
    intro level item member
    by_cases same : level = priority
    · subst same
      rw [Function.update_self] at member
      exact placed item member
    · rw [Function.update_of_ne same] at member
      exact queues.placed member

def push (item : ScheduledItem) : Queues :=
  queues.set item.priority (item :: queues.items item.priority) fun other member => by
    rcases mem_cons.mp member with rfl | member
    · rfl
    · exact queues.placed member

def append (item : ScheduledItem) : Queues :=
  queues.set item.priority (queues.items item.priority ++ [item]) fun other member => by
    rcases mem_append.mp member with member | member
    · exact queues.placed member
    · rw [mem_singleton.mp member]

end Queues

/-- The deque as it is popped: the head steps back once where it is of the
tenant that was served last. -/
def rotated (lastTenant : Option String) : List ScheduledItem → List ScheduledItem
  | head :: second :: rest =>
    if lastTenant = some head.tenantId then second :: (rest ++ [head]) else head :: second :: rest
  | queue => queue

theorem mem_rotated : item ∈ rotated lastTenant queue ↔ item ∈ queue := by
  simp only [rotated]
  split
  · split
    · simp only [mem_cons, mem_append, not_mem_nil, or_false]
      tauto
    · rfl
  · rfl

theorem rotated_length : (rotated lastTenant queue).length = queue.length := by
  simp only [rotated]
  split
  · split <;> simp
  · rfl

structure SchedulerEngine where
  queues : Queues
  cursor : Priority → Option String
  (seq totalEnqueued : Nat)
  totalDispatched : Int
  totalDropped : Nat

namespace SchedulerEngine

def fresh : SchedulerEngine where
  queues := ⟨fun _ => [], fun member => absurd member List.not_mem_nil⟩
  cursor := fun _ => none
  seq := 0
  totalEnqueued := 0
  totalDispatched := 0
  totalDropped := 0

variable (scheduler : SchedulerEngine)

def enqueue (item : ScheduledItem) : SchedulerEngine :=
  { scheduler with
    seq := scheduler.seq + 1
    queues := scheduler.queues.append { item with enqueuedAtSeq := scheduler.seq + 1 }
    totalEnqueued := scheduler.totalEnqueued + 1 }

def ready (priority : Priority) : List ScheduledItem :=
  rotated (scheduler.cursor priority) (scheduler.queues.items priority)

def dequeueFrom (priority : Priority) : Option (ScheduledItem × SchedulerEngine) :=
  (scheduler.ready priority).head?.map fun item =>
    (item, { scheduler with
        queues := scheduler.queues.set priority (scheduler.ready priority).tail fun _ member =>
          scheduler.queues.placed (mem_rotated.mp (mem_of_mem_tail member))
        cursor := Function.update scheduler.cursor priority (some item.tenantId)
        totalDispatched := scheduler.totalDispatched + 1 })

def priorityOrder : List Priority := [.high, .normal, .low]

def dequeueNext : Option (ScheduledItem × SchedulerEngine) :=
  priorityOrder.findSome? scheduler.dequeueFrom

def putBack (item : ScheduledItem) : SchedulerEngine :=
  { scheduler with
    queues := scheduler.queues.push item
    totalDispatched := scheduler.totalDispatched - 1 }

end SchedulerEngine

def maxPerScheduleCycle : Nat := 10

structure CycleCalls where
  canExecute : String → Bool
  dispatch : ScheduledItem → Bool

structure Cycle where
  scheduler : SchedulerEngine
  saturatedTenants : List String
  retryItems : List ScheduledItem
  (processed saturatedSkips dispatched : Nat)

inductive Turn where
  | stop (cycle : Cycle)
  | again (cycle : Cycle)

namespace Cycle

def skip (cycle : Cycle) (scheduler : SchedulerEngine) (item : ScheduledItem) : Cycle :=
  { cycle with scheduler := scheduler.putBack item, saturatedSkips := cycle.saturatedSkips + 1 }

def defer (cycle : Cycle) (scheduler : SchedulerEngine) (item : ScheduledItem) : Cycle :=
  { cycle with
    scheduler := scheduler.putBack item
    processed := cycle.processed + 1
    saturatedSkips := 0
    saturatedTenants := item.tenantId :: cycle.saturatedTenants }

def run (calls : CycleCalls) (cycle : Cycle) (scheduler : SchedulerEngine) (item : ScheduledItem) : Cycle :=
  let begun := { cycle with scheduler, processed := cycle.processed + 1, saturatedSkips := 0 }
  if calls.dispatch item then { begun with dispatched := cycle.dispatched + 1 }
  else if item.retryCount < item.maxRetries then
    { begun with
      retryItems := cycle.retryItems ++ [{ item with retryCount := item.retryCount + 1, priority := .low }] }
  else { begun with scheduler := { scheduler with totalDropped := scheduler.totalDropped + 1 } }

def turn (calls : CycleCalls) (cycle : Cycle) : Turn :=
  match cycle.scheduler.dequeueNext with
  | none => .stop cycle
  | some (item, scheduler) =>
    if item.tenantId ∈ cycle.saturatedTenants then
      let skipped := cycle.skip scheduler item
      if skipped.scheduler.queues.size ≤ skipped.saturatedSkips then .stop skipped else .again skipped
    else if !calls.canExecute item.tenantId then .again (cycle.defer scheduler item)
    else .again (cycle.run calls scheduler item)

end Cycle

namespace SchedulerEngine

variable {scheduler after : SchedulerEngine}

structure Popped (scheduler : SchedulerEngine) (item : ScheduledItem) (after : SchedulerEngine) : Prop where
  above : ∀ level : Priority, level.rank < item.priority.rank → scheduler.queues.items level = []
  popped : scheduler.ready item.priority = item :: after.queues.items item.priority
  others : ∀ level, level ≠ item.priority → after.queues.items level = scheduler.queues.items level
  cursor : after.cursor item.priority = some item.tenantId

theorem dequeueFrom_popped (dequeued : scheduler.dequeueFrom priority = some (item, after))
    (above : ∀ level : Priority, level.rank < priority.rank → scheduler.queues.items level = []) :
    scheduler.Popped item after := by
  obtain ⟨head, first, same⟩ := Option.map_eq_some_iff.mp dequeued
  cases same
  obtain ⟨_, shape⟩ := head?_eq_some_iff.mp first
  have placed : item.priority = priority := by
    apply scheduler.queues.placed
    rw [← mem_rotated]
    exact mem_of_mem_head? first
  subst placed
  refine ⟨above, ?_, fun level other => Function.update_of_ne other .., Function.update_self ..⟩
  simp [Queues.set, shape]

theorem Popped.queued (popped : scheduler.Popped item after) : item ∈ scheduler.queues.items item.priority := by
  rw [← mem_rotated]
  exact popped.popped ▸ mem_cons_self

theorem Popped.left (popped : scheduler.Popped item after)
    (member : other ∈ after.queues.items level) : other ∈ scheduler.queues.items level := by
  by_cases same : level = item.priority
  · subst same
    rw [← mem_rotated]
    exact popped.popped ▸ mem_cons_of_mem item member
  · rwa [popped.others level same] at member

theorem dequeueFrom_none (empty : scheduler.dequeueFrom priority = none) :
    scheduler.queues.items priority = [] := by
  rw [dequeueFrom, Option.map_eq_none_iff, head?_eq_none_iff] at empty
  rw [eq_nil_iff_forall_not_mem] at empty ⊢
  exact fun item member => empty item (mem_rotated.mpr member)

theorem dequeueNext_popped (dequeued : scheduler.dequeueNext = some (item, after)) :
    scheduler.Popped item after := by
  simp only [dequeueNext, priorityOrder, List.findSome?] at dequeued
  split at dequeued
  case h_1 high =>
    cases dequeued
    exact dequeueFrom_popped high (by simp [Priority.rank])
  case h_2 high =>
    split at dequeued
    case h_1 normal =>
      cases dequeued
      refine dequeueFrom_popped normal fun level higher => ?_
      cases level <;> simp [Priority.rank] at higher
      exact dequeueFrom_none high
    case h_2 normal =>
      split at dequeued <;> cases dequeued
      case h_1 low =>
        refine dequeueFrom_popped low fun level higher => ?_
        cases level <;> simp [Priority.rank] at higher
        · exact dequeueFrom_none high
        · exact dequeueFrom_none normal

theorem dequeueNext_none (empty : scheduler.dequeueNext = none) : scheduler.queues.items level = [] := by
  have every : ∀ priority ∈ priorityOrder, scheduler.dequeueFrom priority = none := by
    simpa [dequeueNext] using empty
  refine dequeueFrom_none (every level ?_)
  cases level <;> simp [priorityOrder]

theorem dequeueNext_counts (dequeued : scheduler.dequeueNext = some (item, after)) :
    after.seq = scheduler.seq ∧ after.totalDropped = scheduler.totalDropped := by
  obtain ⟨_, _, found⟩ := exists_of_findSome?_eq_some dequeued
  obtain ⟨_, _, same⟩ := Option.map_eq_some_iff.mp found
  cases same
  exact ⟨rfl, rfl⟩

theorem Popped.putBack_items (popped : scheduler.Popped item after) :
    (after.putBack item).queues.items level
      = if level = item.priority then scheduler.ready level else scheduler.queues.items level := by
  simp only [putBack, Queues.push, Queues.set]
  split
  case isTrue same =>
    subst same
    rw [Function.update_self, popped.popped]
  case isFalse other => rw [Function.update_of_ne other, popped.others level other]

theorem Popped.putBack_size (popped : scheduler.Popped item after) :
    (after.putBack item).queues.size = scheduler.queues.size := by
  have same {level : Priority} : ((after.putBack item).queues.items level).length
      = (scheduler.queues.items level).length := by
    rw [popped.putBack_items]
    split
    · exact rotated_length
    · rfl
  simp [Queues.size, same]

end SchedulerEngine

namespace Cycle

variable {cycle next : Cycle}

/-- A turn that goes on has processed an item, or skipped one of those that are left. -/
theorem turn_again (taken : cycle.turn calls = .again next) :
    next.processed = cycle.processed + 1 ∨
      next.processed = cycle.processed ∧
        next.scheduler.queues.size = cycle.scheduler.queues.size ∧
        next.saturatedSkips = cycle.saturatedSkips + 1 ∧
        next.saturatedSkips < next.scheduler.queues.size := by
  simp only [turn] at taken
  split at taken
  · cases taken
  case h_2 dequeued =>
    split at taken
    · split at taken
      · cases taken
      case isFalse left =>
        cases taken
        refine .inr ⟨rfl, (SchedulerEngine.dequeueNext_popped dequeued).putBack_size, rfl, ?_⟩
        exact Nat.lt_of_not_le left
    · split at taken <;> cases taken
      · exact .inl rfl
      · left
        simp only [run]
        split
        · rfl
        · split <;> rfl

def drain (calls : CycleCalls) (cycle : Cycle) : Cycle :=
  if cycle.processed < maxPerScheduleCycle then
    match _taken : cycle.turn calls with
    | .stop last => last
    | .again next => drain calls next
  else cycle
termination_by (maxPerScheduleCycle - cycle.processed, cycle.scheduler.queues.size - cycle.saturatedSkips)
decreasing_by
  rcases turn_again _taken with moved | ⟨same, size, skipped, left⟩
  · exact Prod.Lex.left _ _ (by omega)
  · rw [same, size, skipped]
    exact Prod.Lex.right _ (by omega)

def start (scheduler : SchedulerEngine) : Cycle := ⟨scheduler, [], [], 0, 0, 0⟩

end Cycle

def SchedulerEngine.schedule (calls : CycleCalls) (scheduler : SchedulerEngine) : Nat × SchedulerEngine :=
  let cycle := (Cycle.start scheduler).drain calls
  (cycle.dispatched, cycle.retryItems.foldl SchedulerEngine.enqueue cycle.scheduler)

end AindyRuntime.Scheduler
