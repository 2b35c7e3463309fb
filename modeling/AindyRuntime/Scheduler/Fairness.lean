import AindyRuntime.Lib.StepSystem
import AindyRuntime.Scheduler.Queue

namespace AindyRuntime.Scheduler

open List Option

inductive QueueAction where
  | enqueue (item : ScheduledItem)
  | dequeue
  /-- An item that a cycle does not dispatch after all. -/
  | putBack (item : ScheduledItem)
  | reset

structure Service where
  scheduler : SchedulerEngine
  served : List ScheduledItem

def Service.fresh : Service := ⟨.fresh, []⟩

def serving : StepSystem Service QueueAction where
  step service
    | .enqueue item => some { service with scheduler := service.scheduler.enqueue item }
    | .dequeue => service.scheduler.dequeueNext.map fun (item, after) => ⟨after, item :: service.served⟩
    | .putBack item => some { service with scheduler := service.scheduler.putBack item }
    | .reset => some .fresh

variable {service next : Service}

namespace SchedulerEngine

variable {scheduler after : SchedulerEngine}

theorem dequeueFrom_cursor (dequeued : scheduler.dequeueFrom priority = some (item, after)) :
    after.cursor = Function.update scheduler.cursor priority (some item.tenantId) := by
  obtain ⟨_, _, same⟩ := map_eq_some_iff.mp dequeued
  cases same
  rfl

theorem dequeueFrom_priority (dequeued : scheduler.dequeueFrom priority = some (item, after)) :
    item.priority = priority := by
  obtain ⟨_, first, same⟩ := map_eq_some_iff.mp dequeued
  cases same
  apply scheduler.queues.placed
  exact mem_rotated.mp (mem_of_mem_head? first)

theorem dequeueNext_cursor (dequeued : scheduler.dequeueNext = some (item, after)) :
    after.cursor = Function.update scheduler.cursor item.priority (some item.tenantId) := by
  obtain ⟨_, _, found⟩ := exists_of_findSome?_eq_some dequeued
  rw [dequeueFrom_priority found]
  exact dequeueFrom_cursor found

end SchedulerEngine

def Service.last? (service : Service) (level : Priority) : Option ScheduledItem :=
  service.served.find? fun item => item.priority = level

def Service.Tracked (service : Service) : Prop :=
  ∀ level, service.scheduler.cursor level = (service.last? level).map (·.tenantId)

theorem Service.Tracked.step (tracked : service.Tracked) (stepped : serving.step service action = some next) :
    next.Tracked := by
  intro level
  cases action with
  | enqueue item | putBack item =>
    cases stepped
    exact tracked level
  | dequeue =>
    obtain ⟨⟨item, _⟩, dequeued, same⟩ := map_eq_some_iff.mp stepped
    cases same
    simp only [SchedulerEngine.dequeueNext_cursor dequeued, Service.last?, find?_cons]
    by_cases level = item.priority
    case pos same =>
      subst same
      simp
    case neg other =>
      rw [Function.update_of_ne other]
      simp only [Ne.symm other]
      exact tracked level
  | reset =>
    cases stepped
    rfl

def Doubled (tenant : String) : List ScheduledItem → Prop
  | first :: second :: rest =>
    first.tenantId = tenant ∧ second.tenantId = tenant ∧ ∃ other ∈ rest, other.tenantId ≠ tenant
  | _ => False

/-- What is popped from a deque is of the tenant served last, past items of
others, just where the first two are both of that tenant. -/
theorem popped_repeats_iff (popped : rotated (some tenant) queue = item :: left) :
    (item.tenantId = tenant ∧ ∃ other ∈ queue, other.tenantId ≠ tenant) ↔ Doubled tenant queue := by
  cases queue with
  | nil => cases popped
  | cons first behind =>
    cases behind with
    | nil =>
      cases popped
      simp only [Doubled, mem_singleton, exists_eq_left, iff_false]
      rintro ⟨same, differs⟩
      exact differs same
    | cons =>
      simp only [rotated] at popped
      by_cases same : first.tenantId = tenant
      · rw [if_pos (by rw [same])] at popped
        cases popped
        constructor
        · rintro ⟨repeats, other, member, differs⟩
          simp only [mem_cons] at member
          rcases member with rfl | rfl | member
          · exact absurd same differs
          · exact absurd repeats differs
          · exact ⟨same, repeats, other, member, differs⟩
        · rintro ⟨_, repeats, other, member, differs⟩
          exact ⟨repeats, other, mem_cons_of_mem _ (mem_cons_of_mem _ member), differs⟩
      · have differs : ¬ some tenant = some first.tenantId := fun equal => same (Option.some.inj equal).symm
        rw [if_neg differs] at popped
        cases popped
        simp [Doubled, same]

/-- A dequeue serves the tenant that was served last on the level only if no
other tenant has an item there, exactly unless the first two items are of that
tenant and another tenant's item is behind them. -/
theorem round_robin_fair_iff {item last : ScheduledItem} {after : SchedulerEngine}
    (ran : serving.run .fresh actions = some service)
    (dequeued : service.scheduler.dequeueNext = some (item, after))
    (previous : service.last? item.priority = some last) :
    (item.tenantId = last.tenantId →
        ∀ other ∈ service.scheduler.queues.items item.priority, other.tenantId = last.tenantId)
      ↔ ¬ Doubled last.tenantId (service.scheduler.queues.items item.priority) := by
  have tracked : service.Tracked := StepSystem.invariant_run Service.Tracked.step (fun _ => rfl) ran
  have popped := (SchedulerEngine.dequeueNext_popped dequeued).popped
  rw [SchedulerEngine.ready, tracked, previous] at popped
  rw [← popped_repeats_iff popped]
  constructor
  · rintro fair ⟨repeats, other, member, differs⟩
    exact differs (fair repeats other member)
  · intro unrepeated repeats other member
    by_contra differs
    exact unrepeated ⟨repeats, other, member, differs⟩

def Earlier (first second : ScheduledItem) : Prop :=
  first.tenantId = second.tenantId → first.enqueuedAtSeq < second.enqueuedAtSeq

/-- An enqueue, or a dequeue that does not put an item behind another one of its own tenant. -/
def passesNone (service : Service) : QueueAction → Bool
  | .enqueue _ => true
  | .dequeue =>
    match service.scheduler.dequeueNext with
    | none => true
    | some (item, _) =>
      match service.scheduler.queues.items item.priority with
      | [] => true
      | head :: rest => decide (service.scheduler.cursor item.priority = some head.tenantId →
          ∀ other ∈ rest, other.tenantId ≠ head.tenantId)
  | .putBack _ => false
  | .reset => false

theorem rotated_ordered (ordered : queue.Pairwise Earlier)
    (alone : ∀ head rest, queue = head :: rest → lastTenant = some head.tenantId →
      ∀ other ∈ rest, other.tenantId ≠ head.tenantId) :
    (rotated lastTenant queue).Pairwise Earlier := by
  unfold rotated
  split
  case h_1 head second rest =>
    by_cases turns : lastTenant = some head.tenantId
    · rw [if_pos turns, ← cons_append]
      apply pairwise_append.mpr
      refine ⟨(pairwise_cons.mp ordered).2, pairwise_singleton _ _, ?_⟩
      intro other member moved last
      rw [mem_singleton.mp last]
      intro same
      exact absurd same (alone head (second :: rest) rfl turns other member)
    · rw [if_neg turns]
      exact ordered
  case h_2 => exact ordered

structure Service.InOrder (service : Service) : Prop where
  numbered : ∀ {level item}, item ∈ service.scheduler.queues.items level →
    item.enqueuedAtSeq ≤ service.scheduler.seq
  servedNumbered : ∀ item ∈ service.served, item.enqueuedAtSeq ≤ service.scheduler.seq
  queued : ∀ level, (service.scheduler.queues.items level).Pairwise Earlier
  ahead : ∀ first ∈ service.served, ∀ second ∈ service.scheduler.queues.items first.priority, Earlier first second
  served : service.served.Pairwise fun later earlier => later.priority = earlier.priority → Earlier earlier later

theorem enqueue_items {scheduler : SchedulerEngine} :
    (scheduler.enqueue item).queues.items level
      = scheduler.queues.items level
        ++ (if level = item.priority then [{ item with enqueuedAtSeq := scheduler.seq + 1 }] else []) := by
  simp only [SchedulerEngine.enqueue, Queues.append, Queues.set]
  by_cases same : level = item.priority
  · subst same
    simp
  · rw [Function.update_of_ne same, if_neg same, append_nil]

theorem mem_enqueue {scheduler : SchedulerEngine}
    (member : other ∈ (scheduler.enqueue item).queues.items level) :
    other ∈ scheduler.queues.items level ∨ other.enqueuedAtSeq = scheduler.seq + 1 := by
  rw [enqueue_items] at member
  rcases mem_append.mp member with queued | new
  · exact .inl queued
  · split at new
    · rw [mem_singleton.mp new]
      exact .inr rfl
    · cases new

theorem Service.InOrder.enqueue (inOrder : service.InOrder) :
    Service.InOrder { service with scheduler := service.scheduler.enqueue item } where
  numbered := by
    intro level other member
    rcases mem_enqueue member with queued | new
    · exact Nat.le_succ_of_le (inOrder.numbered queued)
    · exact Nat.le_of_eq new
  servedNumbered other member := Nat.le_succ_of_le (inOrder.servedNumbered other member)
  queued level := by
    rw [enqueue_items]
    apply pairwise_append.mpr
    refine ⟨inOrder.queued level, ?_, ?_⟩
    · split
      · exact pairwise_singleton _ _
      · exact .nil
    · intro first earlier second new _
      split at new
      · rw [mem_singleton.mp new]
        exact Nat.lt_succ_of_le (inOrder.numbered earlier)
      · cases new
  ahead first handed second member := by
    rcases mem_enqueue member with queued | new
    · exact inOrder.ahead first handed second queued
    · intro _
      rw [new]
      exact Nat.lt_succ_of_le (inOrder.servedNumbered first handed)
  served := inOrder.served

theorem passesNone_alone {after : SchedulerEngine}
    (passes : passesNone service .dequeue = true) (dequeued : service.scheduler.dequeueNext = some (item, after)) :
    ∀ head rest, service.scheduler.queues.items item.priority = head :: rest →
      service.scheduler.cursor item.priority = some head.tenantId →
      ∀ other ∈ rest, other.tenantId ≠ head.tenantId := by
  intro head rest shape
  simp only [passesNone, dequeued, shape, decide_eq_true_eq] at passes
  exact passes

theorem Service.InOrder.dequeue {after : SchedulerEngine} (inOrder : service.InOrder)
    (passes : passesNone service .dequeue = true) (dequeued : service.scheduler.dequeueNext = some (item, after)) :
    Service.InOrder ⟨after, item :: service.served⟩ := by
  have popped := SchedulerEngine.dequeueNext_popped dequeued
  have number := (SchedulerEngine.dequeueNext_counts dequeued).1
  have ready : (item :: after.queues.items item.priority).Pairwise Earlier := by
    rw [← popped.popped]
    exact rotated_ordered (inOrder.queued item.priority) (passesNone_alone passes dequeued)
  obtain ⟨first, rest⟩ := pairwise_cons.mp ready
  constructor
  case numbered =>
    intro level other member
    rw [number]
    exact inOrder.numbered (popped.left member)
  case servedNumbered =>
    intro other member
    rw [number]
    rcases mem_cons.mp member with rfl | before
    · exact inOrder.numbered popped.queued
    · exact inOrder.servedNumbered other before
  case queued =>
    intro level
    by_cases same : level = item.priority
    · subst same
      exact rest
    · rw [popped.others level same]
      exact inOrder.queued level
  case ahead =>
    intro earlier handed other member
    rcases mem_cons.mp handed with rfl | before
    · exact first other member
    · exact inOrder.ahead earlier before other (popped.left member)
  case served =>
    apply pairwise_cons.mpr
    refine ⟨fun earlier handed level => ?_, inOrder.served⟩
    apply inOrder.ahead earlier handed item
    rw [← level]
    exact popped.queued

theorem Service.InOrder.step (passes : passesNone service action = true) (inOrder : service.InOrder)
    (stepped : serving.step service action = some next) : next.InOrder := by
  cases action with
  | enqueue =>
    cases stepped
    exact inOrder.enqueue
  | dequeue =>
    obtain ⟨⟨_, _⟩, dequeued, same⟩ := map_eq_some_iff.mp stepped
    cases same
    exact inOrder.dequeue passes dequeued
  | putBack item | reset => cases passes

theorem Service.InOrder.fresh : Service.fresh.InOrder where
  numbered member := absurd member not_mem_nil
  servedNumbered _ member := absurd member not_mem_nil
  queued _ := .nil
  ahead _ member := absurd member not_mem_nil
  served := .nil

/-- Where no dequeue puts an item behind another one of its own tenant, the items
of a tenant are handed out from each level in the order they were enqueued, and
before those that are still queued there. -/
theorem per_tenant_fifo (ran : serving.run .fresh actions = some service)
    (passes : serving.Meets (fun service action => passesNone service action = true) .fresh actions) :
    (service.served.Pairwise fun later earlier => later.tenantId = earlier.tenantId →
        later.priority = earlier.priority → earlier.enqueuedAtSeq < later.enqueuedAtSeq) ∧
      ∀ item ∈ service.served, ∀ waiting ∈ service.scheduler.queues.items item.priority,
        item.tenantId = waiting.tenantId → item.enqueuedAtSeq < waiting.enqueuedAtSeq := by
  have inOrder : service.InOrder := StepSystem.invariant Service.InOrder.step passes .fresh ran
  refine ⟨inOrder.served.imp ?_, inOrder.ahead⟩
  intro later earlier ordered tenant level
  exact ordered level tenant.symm

def flowItem (tenantId : String) : ScheduledItem where
  executionUnitId := tenantId
  tenantId
  priority := .normal
  runId := none
  euType := "flow"
  enqueuedAtSeq := 0
  retryCount := 0
  maxRetries := 2

def bothWait : List QueueAction :=
  [.enqueue (flowItem "a"), .dequeue, .enqueue (flowItem "a"), .enqueue (flowItem "b")]

theorem round_robin_fair_of_bothWait :
    ∃ service item after, serving.run .fresh bothWait = some service ∧
      service.scheduler.dequeueNext = some (item, after) ∧ item.tenantId = "b" ∧
      (item.tenantId = "a" → ∀ other ∈ service.scheduler.queues.items item.priority, other.tenantId = "a") := by
  refine ⟨_, _, _, rfl, rfl, rfl, ?_⟩
  apply (@round_robin_fair_iff _ bothWait _ { flowItem "a" with enqueuedAtSeq := 1 } _ rfl rfl rfl).mpr
  intro doubled
  exact absurd doubled.2.1 (by decide)

/-- The rotation brings up the second item of the tenant that was served last, past the other tenant's. -/
theorem tenant_served_twice :
    ∃ service item after, serving.run .fresh [.enqueue (flowItem "a"), .dequeue, .enqueue (flowItem "a"),
        .enqueue (flowItem "a"), .enqueue (flowItem "b")] = some service ∧
      service.last? .normal = some { flowItem "a" with enqueuedAtSeq := 1 } ∧
      service.scheduler.dequeueNext = some (item, after) ∧ item.priority = .normal ∧ item.tenantId = "a" ∧
      { flowItem "b" with enqueuedAtSeq := 4 } ∈ service.scheduler.queues.items .normal :=
  ⟨_, _, _, rfl, rfl, rfl, rfl, rfl, by decide⟩

def alternating : List QueueAction :=
  [.enqueue (flowItem "a"), .enqueue (flowItem "b"), .enqueue (flowItem "a"), .dequeue, .dequeue, .dequeue]

theorem per_tenant_fifo_of_alternating :
    ∃ service, serving.run .fresh alternating = some service ∧ service.served.length = 3 ∧
      service.served.Pairwise fun later earlier => later.tenantId = earlier.tenantId →
        later.priority = earlier.priority → earlier.enqueuedAtSeq < later.enqueuedAtSeq :=
  ⟨_, rfl, rfl, (@per_tenant_fifo _ alternating rfl (by decide)).1⟩

/-- The older of two items is put behind the newer one. -/
theorem newer_item_served_first :
    (serving.run .fresh [.enqueue (flowItem "a"), .dequeue, .enqueue (flowItem "a"), .enqueue (flowItem "a"),
        .dequeue, .dequeue]).map (fun service => service.served.map (·.enqueuedAtSeq)) = some [2, 3, 1] :=
  rfl

end AindyRuntime.Scheduler
