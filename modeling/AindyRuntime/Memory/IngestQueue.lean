import AindyRuntime.Lib.StepSystem
import Mathlib.Logic.Function.Basic

/-! # The memory ingest queue

`MemoryIngestQueue` with a handler: any number of `enqueue` calls, the worker loop and one
`stop(drain=True)`, one access to a flag or to the queue at a time.
-/

namespace AindyRuntime.Memory

open List Function

inductive EnqueuePhase where
  | called
  /-- `_accepting` was read as true. -/
  | accepted
  | returned (taken : Bool)
deriving DecidableEq

inductive WorkerPhase where
  | looping
  /-- The stop event is set, and the queue is to be tested. -/
  | stopping
  | getting
  | exited
deriving DecidableEq

inductive StopPhase where
  | running
  | refusing
  | joining
  | checking
  | draining
  | stopped
deriving DecidableEq

/-- The payload of a call is named by the call. -/
structure IngestQueue (Call : Type) where
  maxsize : Nat
  accepting : Bool
  stopEvent : Bool
  queue : List Call
  /-- The payloads that the handler was given. -/
  handled : List Call
  enqueues : Call → EnqueuePhase
  worker : WorkerPhase
  stop : StopPhase

variable {Call : Type}

namespace IngestQueue

def start (maxsize : Nat) : IngestQueue Call := ⟨maxsize, true, false, [], [], fun _ => .called, .looping, .running⟩

variable (state : IngestQueue Call)

/-- Taking a payload and handing it to the handler are one step. -/
def workerLoop : Option (IngestQueue Call) :=
  match state.worker, state.queue with
  | .looping, _ => some { state with worker := if state.stopEvent then .stopping else .getting }
  | .stopping, [] => some { state with worker := .exited }
  | .stopping, _ :: _ => some { state with worker := .getting }
  | .getting, [] => some { state with worker := .looping }
  | .getting, call :: rest => some { state with queue := rest, handled := call :: state.handled, worker := .looping }
  | .exited, _ => none

def stopNext : Option (IngestQueue Call) :=
  match state.stop, state.queue with
  | .running, _ => some { state with accepting := false, stop := .refusing }
  | .refusing, _ => some { state with stopEvent := true, stop := .joining }
  | .joining, _ => if state.worker = .exited then some { state with stop := .checking } else none
  | .checking, [] | .draining, [] => some { state with stop := .stopped }
  | .checking, _ :: _ => some { state with stop := .draining }
  | .draining, call :: rest => some { state with queue := rest, handled := call :: state.handled }
  | .stopped, _ => none

variable [DecidableEq Call]

def returnFrom (call : Call) (phase : EnqueuePhase) : IngestQueue Call :=
  { state with enqueues := update state.enqueues call phase }

def enqueue (call : Call) : Option (IngestQueue Call) :=
  match state.enqueues call with
  | .called => some (state.returnFrom call (if state.accepting then .accepted else .returned false))
  | .accepted =>
    if state.queue.length < state.maxsize then
      some { state.returnFrom call (.returned true) with queue := state.queue ++ [call] }
    else some (state.returnFrom call (.returned false))
  | .returned _ => none

end IngestQueue

inductive IngestAction (Call : Type) where
  | enqueue (call : Call)
  | work
  | stop

variable [DecidableEq Call]

def ingestQueue : StepSystem (IngestQueue Call) (IngestAction Call) where
  step state
    | .enqueue call => state.enqueue call
    | .work => state.workerLoop
    | .stop => state.stopNext

/-- No payload is put once `stop` has found the queue empty. -/
def PutInTime (state : IngestQueue Call) : IngestAction Call → Prop
  | .enqueue call => state.stop = .stopped → state.enqueues call = .accepted → state.maxsize ≤ state.queue.length
  | _ => True

structure Accounted (state : IngestQueue Call) : Prop where
  once : ∀ call, state.queue.count call + state.handled.count call =
    if state.enqueues call = .returned true then 1 else 0
  joined : state.stop ∈ [.checking, .draining, .stopped] → state.worker = .exited

def Drained (state : IngestQueue Call) : Prop := state.stop = .stopped → state.queue = []

variable {state next : IngestQueue Call} {action : IngestAction Call} {call : Call}

theorem Accounted.returnFrom (accounted : Accounted state) (open_ : state.enqueues call ≠ .returned true)
    (refused : phase ≠ .returned true) : Accounted (state.returnFrom call phase) := by
  refine ⟨fun other => ?_, accounted.joined⟩
  have once := accounted.once other
  by_cases same : other = call
  · subst same
    simpa [IngestQueue.returnFrom, refused, open_] using once
  · simpa [IngestQueue.returnFrom, same] using once

theorem enqueue_accounted (accounted : Accounted state) (stepped : state.enqueue call = some next) :
    Accounted next ∧ (Drained next ↔ Drained state ∧ PutInTime state (.enqueue call)) := by
  simp only [IngestQueue.enqueue] at stepped
  split at stepped
  case h_1 called =>
    cases stepped
    refine ⟨accounted.returnFrom (by simp [called]) (by split <;> simp), ?_⟩
    simp [Drained, PutInTime, called, IngestQueue.returnFrom]
  case h_2 waits =>
    split at stepped
    case isTrue room =>
      cases stepped
      refine ⟨⟨fun other => ?_, accounted.joined⟩, ?_⟩
      · have once := accounted.once other
        by_cases same : other = call
        · subst same
          simp only [waits, reduceCtorEq, if_false] at once
          simp only [IngestQueue.returnFrom, count_append, count_singleton_self, update_self, if_true]
          omega
        · simpa [IngestQueue.returnFrom, same, Ne.symm same] using once
      · by_cases stopped : state.stop = .stopped <;>
          simp [Drained, PutInTime, IngestQueue.returnFrom, stopped, waits, Nat.not_le.mpr room]
    case isFalse full =>
      cases stepped
      refine ⟨accounted.returnFrom (by simp [waits]) (by simp), ?_⟩
      simp [Drained, PutInTime, IngestQueue.returnFrom, Nat.not_lt.mp full]
  · cases stepped

theorem Accounted.handled (accounted : Accounted state) (queued : state.queue = call :: rest) (other : Call) :
    rest.count other + (call :: state.handled).count other =
      if state.enqueues other = .returned true then 1 else 0 := by
  have once := accounted.once other
  rw [queued] at once
  simp only [count_cons] at once ⊢
  omega

theorem work_accounted (accounted : Accounted state) (stepped : state.workerLoop = some next) :
    Accounted next ∧ (Drained next ↔ Drained state) := by
  have before (works : state.worker ≠ .exited) : state.stop ∉ [.checking, .draining, .stopped] :=
    fun joined => works (accounted.joined joined)
  unfold IngestQueue.workerLoop at stepped
  split at stepped
  case h_2 =>
    cases stepped
    exact ⟨⟨accounted.once, fun _ => rfl⟩, Iff.rfl⟩
  case h_5 call rest getting queued =>
    cases stepped
    have early := before (by simp [getting])
    refine ⟨⟨accounted.handled queued, fun joined => absurd joined early⟩, ?_⟩
    simp only [mem_cons, not_or] at early
    simp [Drained, early]
  case h_6 => cases stepped
  case h_1 works | h_3 _ _ works _ | h_4 works _ =>
    cases stepped
    exact ⟨⟨accounted.once, fun joined => absurd joined (before (by simp [works]))⟩, Iff.rfl⟩

theorem stop_accounted (accounted : Accounted state) (stepped : state.stopNext = some next) :
    Accounted next ∧ (Drained next ↔ Drained state) := by
  unfold IngestQueue.stopNext at stepped
  split at stepped
  case h_1 stage | h_2 stage =>
    cases stepped
    exact ⟨⟨accounted.once, by simp⟩, by simp [Drained, stage]⟩
  case h_3 stage =>
    split at stepped
    case isTrue exited =>
      cases stepped
      exact ⟨⟨accounted.once, fun _ => exited⟩, by simp [Drained, stage]⟩
    · cases stepped
  case h_4 stage empty | h_5 stage empty =>
    cases stepped
    exact ⟨⟨accounted.once, fun _ => accounted.joined (by simp [stage])⟩, by simp [Drained, empty]⟩
  case h_6 stage _ =>
    cases stepped
    exact ⟨⟨accounted.once, fun _ => accounted.joined (by simp [stage])⟩, by simp [Drained, stage]⟩
  case h_7 call rest stage queued =>
    cases stepped
    exact ⟨⟨accounted.handled queued, accounted.joined⟩, by simp [Drained, stage]⟩
  · cases stepped

theorem step_accounted (accounted : Accounted state) (stepped : ingestQueue.step state action = some next) :
    Accounted next ∧ (Drained next ↔ Drained state ∧ PutInTime state action) := by
  cases action with
  | enqueue call => exact enqueue_accounted accounted stepped
  | work => simpa [PutInTime] using work_accounted accounted stepped
  | stop => simpa [PutInTime] using stop_accounted accounted stepped

/-- Once `stop` has returned, exactly the accepted payloads have been handled, each
once, just if none was put after the last look at the queue. -/
theorem accepted_writes_handled_iff {final : IngestQueue Call}
    (ran : ingestQueue.run (.start maxsize) actions = some final) (stopped : final.stop = .stopped) :
    (∀ call, final.handled.count call = if final.enqueues call = .returned true then 1 else 0) ↔
      ingestQueue.Meets PutInTime (.start maxsize) actions := by
  have fresh : Accounted (.start maxsize : IngestQueue Call) := ⟨fun _ => rfl, by simp [IngestQueue.start]⟩
  have accounted : Accounted final :=
    StepSystem.invariant_run (fun held stepped => (step_accounted held stepped).1) fresh ran
  have exact : Drained final ↔ Drained (.start maxsize) ∧ ingestQueue.Meets PutInTime (.start maxsize) actions :=
    StepSystem.invariant_iff_within (fun _ held stepped => (step_accounted held stepped).1)
      (fun held stepped => (step_accounted held stepped).2) (fun _ _ => trivial) fresh ran
  have empty : Drained (.start maxsize : IngestQueue Call) := fun _ => rfl
  rw [and_iff_right empty] at exact
  rw [← exact]
  constructor
  · intro handled _
    refine eq_nil_iff_forall_not_mem.mpr fun call member => ?_
    have queued := count_pos_iff.mpr member
    have once := accounted.once call
    rw [← handled call] at once
    omega
  · intro drained call
    rw [← accounted.once call, drained stopped, count_nil, Nat.zero_add]

def inTimePut : List (IngestAction Unit) :=
  [.enqueue (), .stop, .enqueue (), .stop, .work, .work, .work, .work, .work, .stop, .stop]

theorem accepted_write_handled : ingestQueue.Meets PutInTime (.start 1) inTimePut := by
  have ran : ∃ final, ingestQueue.run (.start 1) inTimePut = some final ∧ final.stop = .stopped ∧
      final.enqueues () = .returned true ∧ final.handled = [()] := ⟨_, rfl, rfl, rfl, rfl⟩
  obtain ⟨final, ran, stopped, accepted, handled⟩ := ran
  exact (accepted_writes_handled_iff ran stopped).mp fun _ => by simp [accepted, handled]

/-- The call has read the flag before `stop` clears it, and puts its payload after
the worker and the drain have left. -/
theorem accepted_write_abandoned :
    ∃ final, ingestQueue.run (.start 1 : IngestQueue Unit)
        [.enqueue (), .stop, .stop, .work, .work, .stop, .stop, .enqueue ()] = some final ∧
      final.stop = .stopped ∧ final.enqueues () = .returned true ∧ final.handled = [] :=
  ⟨_, rfl, rfl, rfl, rfl⟩

/-- At every point of every run an accepted payload is in the queue or was handled, and
that once; a refused one is neither. -/
theorem accepted_writes_once (ran : ingestQueue.run (.start maxsize) actions = some state) (call : Call) :
    state.queue.count call + state.handled.count call = if state.enqueues call = .returned true then 1 else 0 := by
  have fresh : Accounted (.start maxsize : IngestQueue Call) := ⟨fun _ => rfl, by simp [IngestQueue.start]⟩
  have accounted : Accounted state :=
    StepSystem.invariant_run (fun held stepped => (step_accounted held stepped).1) fresh ran
  exact accounted.once call

theorem accepted_writes_once_when_full :
    ∃ state, ingestQueue.run (.start 1 : IngestQueue Bool)
        [.enqueue true, .enqueue false, .enqueue true, .enqueue false]
        = some state ∧ state.queue.count false + state.handled.count false = 0 :=
  ⟨_, rfl, @accepted_writes_once Bool _ _ 1 [.enqueue true, .enqueue false, .enqueue true, .enqueue false] rfl false⟩

end AindyRuntime.Memory
