import AindyRuntime.Scheduler.Queue

namespace AindyRuntime.Scheduler

open Scheduler.Cycle List

variable {calls : CycleCalls} {cycle next last : Cycle} {level : Priority}

theorem Priority.rank_injective {second : Priority} (same : first.rank = second.rank) : first = second := by
  cases first <;> cases second <;> simp [Priority.rank] at same <;> rfl

abbrev Cycle.items (cycle : Cycle) (level : Priority) : List ScheduledItem := cycle.scheduler.queues.items level

variable (calls cycle) in
inductive Taken : Cycle → Prop where
  | empty (none : ∀ level, cycle.items level = []) : Taken cycle
  | skipped (item : ScheduledItem) (scheduler : SchedulerEngine)
      (popped : cycle.scheduler.Popped item scheduler) (known : item.tenantId ∈ cycle.saturatedTenants) :
      Taken (cycle.skip scheduler item)
  | deferred (item : ScheduledItem) (scheduler : SchedulerEngine)
      (popped : cycle.scheduler.Popped item scheduler) (refused : calls.canExecute item.tenantId = false) :
      Taken (cycle.defer scheduler item)
  | ran (item : ScheduledItem) (scheduler : SchedulerEngine)
      (popped : cycle.scheduler.Popped item scheduler) (admitted : calls.canExecute item.tenantId = true) :
      Taken (cycle.run calls scheduler item)

theorem turn_taken (turned : cycle.turn calls = .stop next ∨ cycle.turn calls = .again next) :
    Taken calls cycle next := by
  simp only [turn] at turned
  split at turned
  case h_1 empty =>
    rcases turned with turned | turned
    · cases turned
      exact .empty fun level => SchedulerEngine.dequeueNext_none empty
    · cases turned
  case h_2 item scheduler dequeued =>
    have popped := SchedulerEngine.dequeueNext_popped dequeued
    split at turned
    case isTrue known =>
      have same : cycle.skip scheduler item = next := by
        split at turned <;> rcases turned with turned | turned <;> cases turned <;> rfl
      subst same
      exact .skipped item scheduler popped known
    case isFalse =>
      split at turned
      case isTrue refused =>
        rcases turned with turned | turned
        · cases turned
        · cases turned
          exact .deferred item scheduler popped (by simpa using refused)
      case isFalse admitted =>
        rcases turned with turned | turned
        · cases turned
        · cases turned
          exact .ran item scheduler popped (by simpa using admitted)

theorem turn_stop (turned : cycle.turn calls = .stop last) :
    (∀ level, last.items level = []) ∨ last.scheduler.queues.size ≤ last.saturatedSkips := by
  simp only [turn] at turned
  split at turned
  case h_1 empty =>
    cases turned
    exact .inl fun level => SchedulerEngine.dequeueNext_none empty
  · split at turned
    · split at turned
      case isTrue enough =>
        cases turned
        exact .inr enough
      · cases turned
    · split at turned <;> cases turned

theorem drain_invariant {Invariant : Cycle → Prop}
    (kept : ∀ {cycle next}, Taken calls cycle next → Invariant cycle → Invariant next)
    (holds : Invariant cycle) : Invariant (cycle.drain calls) := by
  fun_induction drain calls cycle with
  | case1 cycle room last turned => exact kept (turn_taken (.inl turned)) holds
  | case2 cycle room next turned ih => exact ih (kept (turn_taken (.inr turned)) holds)
  | case3 cycle full => exact holds

/-- The loop ends with the cycle used up, the queues empty, or as many skips in
a row as there are items. -/
theorem drain_ended (calls : CycleCalls) (cycle : Cycle) :
    maxPerScheduleCycle ≤ (cycle.drain calls).processed ∨
      (∀ level, (cycle.drain calls).items level = []) ∨
      (cycle.drain calls).scheduler.queues.size ≤ (cycle.drain calls).saturatedSkips := by
  fun_induction drain calls cycle with
  | case1 cycle room last turned => exact .inr (turn_stop turned)
  | case2 cycle room next turned ih => exact ih
  | case3 cycle full => exact .inl (Nat.le_of_not_lt full)

/-- The rounds of the cursor over a level: `seen` are the items that the skips
have gone past since the last item that was processed. -/
def Streak (cycle : Cycle) (level : Priority) : Prop :=
  ∃ (head : ScheduledItem) (middle seen : List ScheduledItem),
    cycle.items level = head :: (middle ++ seen) ∧
      cycle.scheduler.cursor level = some head.tenantId ∧
      (∀ item ∈ head :: seen, item.tenantId ∈ cycle.saturatedTenants) ∧
      min cycle.saturatedSkips (cycle.items level).length ≤ seen.length + 1

variable {scheduler : SchedulerEngine} {item : ScheduledItem}

section

variable (popped : cycle.scheduler.Popped item scheduler)
include popped

theorem skip_items :
    (cycle.skip scheduler item).items level
      = if level = item.priority then cycle.scheduler.ready level else cycle.items level :=
  popped.putBack_items

omit popped in
/-- A dispatched item leaves the queues to the pop and ends the streak. -/
theorem run_frame :
    (cycle.run calls scheduler item).scheduler.queues = scheduler.queues ∧
      (cycle.run calls scheduler item).saturatedTenants = cycle.saturatedTenants ∧
      (cycle.run calls scheduler item).saturatedSkips = 0 := by
  simp only [run]
  split
  · exact ⟨rfl, rfl, rfl⟩
  · split <;> exact ⟨rfl, rfl, rfl⟩

theorem skip_streak (known : item.tenantId ∈ cycle.saturatedTenants)
    (streak : cycle.saturatedSkips = 0 ∨ Streak cycle item.priority) :
    Streak (cycle.skip scheduler item) item.priority := by
  have items : (cycle.skip scheduler item).items item.priority
      = item :: scheduler.queues.items item.priority := by
    rw [skip_items popped, if_pos rfl, popped.popped]
  have skips : (cycle.skip scheduler item).saturatedSkips = cycle.saturatedSkips + 1 := rfl
  rcases streak with fresh | ⟨head, middle, seen, shape, cursor, saturated, counted⟩
  · refine ⟨item, scheduler.queues.items item.priority, [], by rw [items, append_nil], popped.cursor, ?_, ?_⟩
    · intro other member
      rw [mem_singleton.mp member]
      exact known
    · rw [skips, fresh]
      exact Nat.min_le_left _ _
  · have turned := popped.popped
    rw [SchedulerEngine.ready, cursor, show cycle.scheduler.queues.items item.priority = _ from shape] at turned
    rw [shape] at counted
    cases middle with
    | cons second middle =>
      simp only [cons_append, rotated, if_true, List.cons.injEq] at turned
      refine ⟨item, middle, seen ++ [head], ?_, popped.cursor, ?_, ?_⟩
      · rw [items, ← turned.2, append_assoc]
      · intro other member
        simp only [mem_cons, mem_append, not_mem_nil, or_false] at member
        rcases member with rfl | member | rfl
        · exact known
        · exact saturated other (mem_cons_of_mem _ member)
        · exact saturated other mem_cons_self
      · simp only [length_cons, length_append] at counted ⊢
        omega
    | nil =>
      refine ⟨item, [], scheduler.queues.items item.priority, items, popped.cursor, ?_, ?_⟩
      · intro other member
        rw [← turned, mem_rotated] at member
        exact saturated other member
      · rw [items]
        exact Nat.min_le_right _ _

end

structure Orderly (calls : CycleCalls) (origin : Queues) (cycle : Cycle) : Prop where
  within : ∀ {level item}, item ∈ cycle.items level → item ∈ origin.items level
  kept : ∀ {level item}, item ∈ origin.items level → calls.canExecute item.tenantId = false →
    item ∈ cycle.items level
  untouched : ∀ {higher lower : Priority}, higher.rank < lower.rank → cycle.items higher ≠ [] →
    cycle.items lower = origin.items lower
  refused : ∀ tenant ∈ cycle.saturatedTenants, calls.canExecute tenant = false
  streak : ∀ {level : Priority}, (∀ higher : Priority, higher.rank < level.rank → cycle.items higher = []) →
    cycle.items level ≠ [] → cycle.saturatedSkips = 0 ∨ Streak cycle level

theorem start_orderly (scheduler : SchedulerEngine) : Orderly calls scheduler.queues (start scheduler) where
  within := id
  kept := by
    intro level item member _
    exact member
  untouched := by
    intro higher lower _ _
    rfl
  refused := by
    intro tenant member
    cases member
  streak := by
    intro level _ _
    exact .inl rfl

/-- The items of a level after one of its items was put back are those of before. -/
theorem mem_putBack :
    other ∈ (if level = item.priority then cycle.scheduler.ready level else cycle.items level)
      ↔ other ∈ cycle.items level := by
  split
  · exact mem_rotated
  · rfl

section

variable (orderly : Orderly calls origin cycle)
include orderly

section

variable (popped : cycle.scheduler.Popped item scheduler)
include popped

/-- A level above the one an item is popped from is empty, and so is no reason to leave a level as it was. -/
theorem putBack_untouched (below : higher.rank < lower.rank)
    (held : (if higher = item.priority then cycle.scheduler.ready higher else cycle.items higher) ≠ []) :
    (if lower = item.priority then cycle.scheduler.ready lower else cycle.items lower) = origin.items lower := by
  obtain ⟨_, member⟩ := exists_mem_of_ne_nil _ held
  have present : cycle.items higher ≠ [] := ne_nil_of_mem (mem_putBack.mp member)
  by_cases same : lower = item.priority
  · subst same
    exact absurd (popped.above higher below) present
  · rw [if_neg same]
    exact orderly.untouched below present

/-- A turn that puts its item back keeps to the order, whatever it counts. -/
theorem Orderly.of_putBack
    (items : ∀ level, next.items level =
      if level = item.priority then cycle.scheduler.ready level else cycle.items level)
    (refused : ∀ tenant ∈ next.saturatedTenants, calls.canExecute tenant = false)
    (streak : ∀ level : Priority, (∀ higher : Priority, higher.rank < level.rank → next.items higher = []) →
      next.items level ≠ [] → next.saturatedSkips = 0 ∨ Streak next level) :
    Orderly calls origin next where
  within := by
    intro level other member
    rw [items] at member
    exact orderly.within (mem_putBack.mp member)
  kept := by
    intro level other member refused
    rw [items]
    exact mem_putBack.mpr (orderly.kept member refused)
  untouched := by
    intro higher lower below held
    rw [items] at held ⊢
    exact putBack_untouched orderly popped below held
  refused := refused
  streak := streak _

theorem skip_orderly
    (known : item.tenantId ∈ cycle.saturatedTenants) : Orderly calls origin (cycle.skip scheduler item) := by
  refine orderly.of_putBack popped (fun _ => skip_items popped) orderly.refused ?_
  intro level above held
  right
  have present : cycle.items item.priority ≠ [] := ne_nil_of_mem popped.queued
  have same : level = item.priority := by
    have notAbove : ¬ level.rank < item.priority.rank := by
      intro higher
      rw [skip_items popped, if_neg (by rintro rfl; omega)] at held
      exact held (popped.above level higher)
    have notBelow : ¬ item.priority.rank < level.rank := by
      intro lower
      have empty := above item.priority lower
      rw [skip_items popped, if_pos rfl, popped.popped] at empty
      cases empty
    exact Priority.rank_injective (by omega)
  subst same
  exact skip_streak popped known (orderly.streak popped.above present)

theorem defer_orderly
    (refused : calls.canExecute item.tenantId = false) : Orderly calls origin (cycle.defer scheduler item) := by
  refine orderly.of_putBack popped (fun _ => popped.putBack_items) ?_ (fun _ _ _ => .inl rfl)
  intro tenant member
  rcases mem_cons.mp member with rfl | member
  · exact refused
  · exact orderly.refused tenant member

theorem run_orderly (admitted : calls.canExecute item.tenantId = true) :
    Orderly calls origin (cycle.run calls scheduler item) := by
  constructor
  case within =>
    intro level other member
    rw [items, run_frame.1] at member
    exact orderly.within (popped.left member)
  case kept =>
    intro level other member refused
    rw [items, run_frame.1]
    have present := orderly.kept member refused
    by_cases same : level = item.priority
    · subst same
      have ready : other ∈ cycle.scheduler.ready item.priority := mem_rotated.mpr present
      rw [popped.popped] at ready
      rcases mem_cons.mp ready with rfl | rest
      · rw [admitted] at refused
        cases refused
      · exact rest
    · rwa [popped.others level same]
  case untouched =>
    intro higher lower below held
    rw [items, run_frame.1] at held ⊢
    obtain ⟨other, member⟩ := exists_mem_of_ne_nil _ held
    have present : cycle.items higher ≠ [] := ne_nil_of_mem (popped.left member)
    have other : lower ≠ item.priority := by
      rintro rfl
      exact present (popped.above higher below)
    rw [popped.others lower other]
    exact orderly.untouched below present
  case refused =>
    rw [run_frame.2.1]
    exact orderly.refused
  case streak =>
    intro level _ _
    exact .inl run_frame.2.2

end

end

theorem taken_orderly (taken : Taken calls cycle next) (orderly : Orderly calls origin cycle) :
    Orderly calls origin next := by
  cases taken with
  | empty => exact orderly
  | skipped item scheduler popped known => exact skip_orderly orderly popped known
  | deferred item scheduler popped refused => exact defer_orderly orderly popped refused
  | ran item scheduler popped admitted => exact run_orderly orderly popped admitted

theorem drain_orderly (calls : CycleCalls) (scheduler : SchedulerEngine) :
    Orderly calls scheduler.queues ((start scheduler).drain calls) :=
  drain_invariant taken_orderly (start_orderly scheduler)

theorem level_le_size (queues : Queues) (level : Priority) : (queues.items level).length ≤ queues.size := by
  cases level <;> simp only [Queues.size] <;> omega

/-- After as many skips as there are items, the top level holds items of
saturated tenants only. -/
theorem Orderly.top_refused (orderly : Orderly calls origin cycle)
    (skipped : cycle.scheduler.queues.size ≤ cycle.saturatedSkips)
    (above : ∀ higher : Priority, higher.rank < level.rank → cycle.items higher = [])
    (member : item ∈ cycle.items level) : calls.canExecute item.tenantId = false := by
  have size := level_le_size cycle.scheduler.queues level
  have some : 0 < (cycle.items level).length := length_pos_of_mem member
  rcases orderly.streak above (ne_nil_of_mem member) with fresh | ⟨head, middle, seen, shape, -, saturated, counted⟩
  · simp only [items] at some
    omega
  · have full : (cycle.items level).length ≤ seen.length + 1 := by
      rw [Nat.min_eq_right (Nat.le_trans size skipped)] at counted
      exact counted
    have none : middle = [] := by
      rw [shape] at full
      simp only [length_cons, length_append] at full
      exact eq_nil_of_length_eq_zero (by omega)
    subst none
    rw [shape] at member
    exact orderly.refused _ (saturated item member)

theorem exists_top (held : ∃ level, cycle.items level ≠ []) :
    ∃ top : Priority, cycle.items top ≠ [] ∧
      ∀ higher : Priority, higher.rank < top.rank → cycle.items higher = [] := by
  by_cases high : cycle.items .high = []
  · by_cases normal : cycle.items .normal = []
    · obtain ⟨level, held⟩ := held
      refine ⟨level, held, fun higher above => ?_⟩
      cases higher
      · exact high
      · exact normal
      · cases level <;> simp [Priority.rank] at above
    · refine ⟨.normal, normal, fun higher above => ?_⟩
      cases higher <;> simp [Priority.rank] at above
      exact high
  · refine ⟨.high, high, fun higher above => ?_⟩
    simp [Priority.rank] at above

/-- A cycle that had room leaves items of refused tenants only, exactly if no
refused item was queued above an item that could run. -/
theorem schedule_conserves_work_iff (calls : CycleCalls) (scheduler : SchedulerEngine)
    (room : ((start scheduler).drain calls).processed < maxPerScheduleCycle) :
    (∀ level, ∀ item ∈ ((start scheduler).drain calls).items level, calls.canExecute item.tenantId = false)
      ↔ ∀ higher lower : Priority, higher.rank < lower.rank →
          ∀ ahead ∈ scheduler.queues.items higher, calls.canExecute ahead.tenantId = false →
            ∀ item ∈ scheduler.queues.items lower, calls.canExecute item.tenantId = false := by
  have orderly := drain_orderly calls scheduler
  constructor
  · intro conserved higher lower below ahead member refused item queued
    have held := ne_nil_of_mem (orderly.kept member refused)
    apply conserved lower item
    rwa [orderly.untouched below held]
  · intro sorted level item member
    obtain ⟨top, held, above⟩ := exists_top ⟨level, ne_nil_of_mem member⟩
    have skipped : ((start scheduler).drain calls).scheduler.queues.size
        ≤ ((start scheduler).drain calls).saturatedSkips := by
      rcases drain_ended calls (start scheduler) with full | empty | skipped
      · omega
      · exact absurd (empty top) held
      · exact skipped
    by_cases below : top.rank < level.rank
    · obtain ⟨ahead, first⟩ := exists_mem_of_ne_nil _ held
      have refused := orderly.top_refused skipped above first
      exact sorted top level below ahead (orderly.within first) refused item (orderly.within member)
    · refine orderly.top_refused skipped (fun higher rank => above higher ?_) member
      omega

theorem drain_again (room : cycle.processed < maxPerScheduleCycle) (turned : cycle.turn calls = .again next) :
    cycle.drain calls = next.drain calls := by
  rw [drain, if_pos room]
  split
  · simp_all
  · simp_all

theorem drain_stop (room : cycle.processed < maxPerScheduleCycle) (turned : cycle.turn calls = .stop last) :
    cycle.drain calls = last := by
  rw [drain, if_pos room]
  split
  · simp_all
  · simp_all

def queued (tenantId : String) (priority : Priority) : ScheduledItem where
  executionUnitId := tenantId
  tenantId
  priority
  runId := none
  euType := "flow"
  enqueuedAtSeq := 0
  retryCount := 0
  maxRetries := 3

def twoLevels : SchedulerEngine where
  queues.items level :=
    if level = .high then [queued "busy" .high] else if level = .low then [queued "idle" .low] else []
  queues.placed := by
    intro level item member
    cases level <;> simp_all [queued]
  cursor := fun _ => none
  seq := 0
  totalEnqueued := 2
  totalDispatched := 0
  totalDropped := 0

def refusing (tenantId : String) : CycleCalls where
  canExecute tenant := tenant != tenantId
  dispatch _ := true

/-- The item of the tenant at its limit stands in the way of the one below it. -/
theorem schedule_leaves_admitted_item :
    ((start twoLevels).drain (refusing "busy")).processed < maxPerScheduleCycle ∧
      queued "idle" .low ∈ ((start twoLevels).drain (refusing "busy")).items .low ∧
      (refusing "busy").canExecute (queued "idle" .low).tenantId = true := by
  rw [drain_again (by decide) rfl, drain_again (by decide) rfl, drain_stop (by decide) rfl]
  exact ⟨by decide, mem_singleton.mpr rfl, by decide⟩

theorem schedule_conserves_work_below :
    ((start twoLevels).drain (refusing "idle")).processed < maxPerScheduleCycle ∧
      ∀ level, ∀ item ∈ ((start twoLevels).drain (refusing "idle")).items level,
        (refusing "idle").canExecute item.tenantId = false := by
  have room : ((start twoLevels).drain (refusing "idle")).processed < maxPerScheduleCycle := by
    rw [drain_again (by decide) rfl, drain_again (by decide) rfl, drain_stop (by decide) rfl]
    decide
  refine ⟨room, (schedule_conserves_work_iff _ _ room).mpr ?_⟩
  intro higher lower below ahead first refused
  cases higher with
  | high =>
    have same : ahead = queued "busy" .high := mem_singleton.mp first
    subst same
    exact absurd refused (by decide)
  | normal => cases first
  | low => cases lower <;> simp [Priority.rank] at below

end AindyRuntime.Scheduler
