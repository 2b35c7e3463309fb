import AindyRuntime.Lib.StepSystem
import AindyRuntime.Scheduler.Queue
import Mathlib.Data.Prod.Lex
import Mathlib.Order.WellFounded

/-! # The dispatch loop ends

`schedule` asks `can_execute` anew at every turn, and what it dispatches may
enqueue further items, at once or while the loop goes on.
-/

namespace AindyRuntime.Scheduler

open List

structure Draining where
  cycle : Cycle
  arriving : List ScheduledItem

/-- What one turn of the loop meets: how many items arrive before it, the answers
to its calls, and what its dispatch goes on to enqueue. -/
structure TurnAnswers where
  arrivals : Nat
  calls : CycleCalls
  enqueues : List ScheduledItem

namespace Draining

def arrive (draining : Draining) (arrivals : Nat) : Draining where
  cycle := { draining.cycle with
    scheduler := (draining.arriving.take arrivals).foldl SchedulerEngine.enqueue draining.cycle.scheduler }
  arriving := draining.arriving.drop arrivals

end Draining

def Cycle.dispatches (calls : CycleCalls) (cycle : Cycle) : Bool :=
  match cycle.scheduler.dequeueNext with
  | none => false
  | some (item, _) => item.tenantId ∉ cycle.saturatedTenants && calls.canExecute item.tenantId

def dispatchLoop : StepSystem Draining TurnAnswers where
  step draining answers :=
    if draining.cycle.processed < maxPerScheduleCycle then
      let arrived := draining.arrive answers.arrivals
      match arrived.cycle.turn answers.calls with
      | .stop _ => none
      | .again next => some ⟨next, arrived.arriving ++
          if arrived.cycle.dispatches answers.calls then answers.enqueues else []⟩
    else none

theorem Cycle.turn_dispatches {cycle next : Cycle} (dispatches : cycle.dispatches calls = true)
    (taken : cycle.turn calls = .again next) : next.processed = cycle.processed + 1 := by
  unfold Cycle.dispatches at dispatches
  split at dispatches
  · cases dispatches
  case h_2 item scheduler dequeued =>
    simp only [Bool.and_eq_true, decide_eq_true_eq] at dispatches
    simp only [Cycle.turn, dequeued, if_neg dispatches.1, dispatches.2, Bool.not_true, Bool.false_eq_true,
      if_false, Turn.again.injEq] at taken
    subst taken
    simp only [Cycle.run]
    split
    · rfl
    · split <;> rfl

/-- An item processed, then an item arrived, then one more of the queued skipped. -/
def Draining.left (draining : Draining) : Nat ×ₗ Nat ×ₗ Nat :=
  toLex (maxPerScheduleCycle - draining.cycle.processed, toLex (draining.arriving.length,
    draining.cycle.scheduler.queues.size - draining.cycle.saturatedSkips))

theorem dispatchLoop_decreases {next : Draining} (stepped : dispatchLoop.step draining answers = some next) :
    next.left < draining.left := by
  simp only [dispatchLoop] at stepped
  split at stepped
  case isTrue room =>
    split at stepped
    · cases stepped
    case h_2 after taken =>
      cases stepped
      simp only [Draining.left, Prod.Lex.toLex_lt_toLex]
      rcases Cycle.turn_again taken with moved | ⟨same, size, skipped, left⟩
      · simp only [moved, Draining.arrive]
        omega
      · right
        have quiet : (draining.arrive answers.arrivals).cycle.dispatches answers.calls = false := by
          by_contra dispatches
          have moved := Cycle.turn_dispatches (by simpa using dispatches) taken
          omega
        simp only [quiet, Bool.false_eq_true, if_false, append_nil]
        refine ⟨by rw [same]; rfl, ?_⟩
        cases arrived : draining.arriving.take answers.arrivals with
        | nil =>
          have rest := take_append_drop answers.arrivals draining.arriving
          rw [arrived, nil_append] at rest
          have unchanged : draining.arrive answers.arrivals = draining := by
            simp [Draining.arrive, arrived, rest]
          rw [unchanged] at size skipped ⊢
          exact .inr ⟨rfl, by omega⟩
        | cons item rest =>
          have shorter := congrArg length arrived
          simp only [length_take, length_cons] at shorter
          simp only [Draining.arrive, length_drop]
          omega
  · cases stepped

/-- Whatever is queued, answered and enqueued in between, `schedule` leaves its
loop. -/
theorem schedule_leaves_loop (scheduler : SchedulerEngine) (arriving : List ScheduledItem)
    (answers : Nat → TurnAnswers) :
    ∃ turns, dispatchLoop.run ⟨.start scheduler, arriving⟩ ((range turns).map answers) = none :=
  StepSystem.stops_of_decreases (InvImage.wf Draining.left wellFounded_lt) dispatchLoop_decreases _ answers

end AindyRuntime.Scheduler
