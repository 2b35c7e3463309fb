import Mathlib.Data.List.Nodup
import AindyRuntime.Lib.StepSystem

/-! # The queue in memory

`InMemoryQueueBackend` of `core/distributed_queue.py`, one call after the other.
-/

namespace AindyRuntime.InMemoryQueue

open List

structure Memory where
  (queue delayed inflight : List String)
  dequeuedAt : String → Int
  (dead accepted acked : List String)
  /-- A timer was refused by the full queue, or a requeue waits for room in it. -/
  stuck : Bool

def Memory.empty : Memory := ⟨[], [], [], fun _ => 0, [], [], [], false⟩

inductive Action where
  | enqueue (jobId : String)
  | enqueueDelayed (jobId : String)
  | fire (jobId : String)
  | dequeue (now : Int)
  | ack (jobId : String)
  | fail (jobId : String)
  | requeueStale (now timeoutSeconds : Int)
deriving DecidableEq, Repr

namespace Memory

def full (capacity : Nat) (memory : Memory) : Bool := capacity ≤ memory.queue.length + memory.delayed.length

def put (capacity : Nat) (memory : Memory) (jobId : String) : Memory :=
  if memory.queue.length < capacity then { memory with queue := memory.queue ++ [jobId] }
  else { memory with stuck := true }

def stale (memory : Memory) (now timeoutSeconds : Int) (jobId : String) : Bool :=
  timeoutSeconds < now - memory.dequeuedAt jobId

def requeueStaleJobs (capacity : Nat) (memory : Memory) (now timeoutSeconds : Int) : Memory :=
  (memory.inflight.filter (memory.stale now timeoutSeconds)).foldl (put capacity)
    { memory with inflight := memory.inflight.filter (!memory.stale now timeoutSeconds ·) }

end Memory

/-- A refused call raises and changes nothing; only a pending timer fires. -/
def backend (capacity : Nat) : StepSystem Memory Action where
  step memory
    | .enqueue jobId => some <|
      if memory.full capacity then memory
      else { memory with queue := memory.queue ++ [jobId], accepted := jobId :: memory.accepted }
    | .enqueueDelayed jobId => some <|
      if memory.full capacity then memory
      else { memory with delayed := memory.delayed ++ [jobId], accepted := jobId :: memory.accepted }
    | .fire jobId =>
      if jobId ∈ memory.delayed then
        some ({ memory with delayed := memory.delayed.erase jobId }.put capacity jobId)
      else none
    | .dequeue now => some <|
      match memory.queue with
      | [] => memory
      | jobId :: rest =>
        { memory with
          queue := rest
          inflight := memory.inflight.erase jobId ++ [jobId]
          dequeuedAt := Function.update memory.dequeuedAt jobId now }
    | .ack jobId => some { memory with inflight := memory.inflight.erase jobId, acked := jobId :: memory.acked }
    | .fail jobId => some { memory with inflight := memory.inflight.erase jobId, dead := memory.dead ++ [jobId] }
    | .requeueStale now timeoutSeconds => some (memory.requeueStaleJobs capacity now timeoutSeconds)

namespace Memory

variable {capacity : Nat} {memory next : Memory}

def places (memory : Memory) (jobId : String) : Nat :=
  memory.queue.count jobId + memory.delayed.count jobId + memory.inflight.count jobId + memory.dead.count jobId
    + memory.acked.count jobId

def load (memory : Memory) : Nat := memory.queue.length + memory.delayed.length + memory.inflight.length

structure Conserved (capacity : Nat) (memory : Memory) : Prop where
  placed : ∀ jobId, memory.places jobId = memory.accepted.count jobId
  distinct : memory.accepted.Nodup
  room : memory.load ≤ capacity
  unstuck : memory.stuck = false

/-- The ids are new, an accepted job finds room beside those in flight, and only those are acked or fail. -/
def Careful (capacity : Nat) (memory : Memory) : Action → Prop
  | .enqueue jobId | .enqueueDelayed jobId =>
    jobId ∉ memory.accepted ∧ (memory.load < capacity ∨ memory.full capacity = true)
  | .ack jobId | .fail jobId => jobId ∈ memory.inflight
  | .fire _ | .dequeue _ | .requeueStale .. => True

theorem putAll_eq (room : memory.queue.length + jobIds.length ≤ capacity) :
    jobIds.foldl (put capacity) memory = { memory with queue := memory.queue ++ jobIds } := by
  induction jobIds generalizing memory with
  | nil => simp
  | cons jobId rest ih =>
    rw [length_cons] at room
    have fits : memory.queue.length < capacity := by omega
    rw [foldl_cons, put, if_pos fits, ih (by simp; omega), append_assoc, singleton_append]

theorem count_moved {from_ : List String} (member : jobId ∈ from_) (other : String) :
    (from_.erase jobId).count other + [jobId].count other = from_.count other := by
  rw [← count_append, (perm_append_singleton _ _).count_eq, (perm_cons_erase member).symm.count_eq]

theorem Conserved.step (careful : Careful capacity memory action) (conserved : Conserved capacity memory)
    (stepped : (backend capacity).step memory action = some next) : Conserved capacity next := by
  have room : memory.queue.length + memory.delayed.length + memory.inflight.length ≤ capacity := conserved.room
  cases action <;> simp only [backend] at stepped
  case enqueue jobId | enqueueDelayed jobId =>
    split at stepped <;> cases stepped
    case isTrue => exact conserved
    case isFalse admitted =>
      have free := careful.2.resolve_right admitted
      refine ⟨fun other => ?_, nodup_cons.mpr ⟨careful.1, conserved.distinct⟩, ?_, conserved.unstuck⟩
      · have placed := conserved.placed other
        simp only [places, count_append, count_cons, count_nil] at placed ⊢
        omega
      · simp only [load, length_append, length_singleton] at free ⊢
        omega
  case fire =>
    split at stepped <;> cases stepped
    case isTrue member =>
      have shorter := length_erase_of_mem member
      have pending := length_pos_of_mem member
      have fits : memory.queue.length < capacity := by omega
      rw [put, if_pos fits]
      refine ⟨fun other => ?_, conserved.distinct, ?_, conserved.unstuck⟩
      · have placed := conserved.placed other
        have moved := count_moved member other
        simp only [places, count_append] at placed ⊢
        omega
      · simp only [load, length_append, length_singleton]
        omega
  case dequeue =>
    cases stepped
    split
    · exact conserved
    case h_2 jobId rest listed =>
      have once := nodup_iff_count_le_one.mp conserved.distinct jobId
      have own := conserved.placed jobId
      simp only [places, listed, count_cons_self] at own
      have elsewhere : jobId ∉ memory.inflight := count_eq_zero.mp (by omega)
      rw [erase_of_not_mem elsewhere]
      rw [listed, length_cons] at room
      refine ⟨fun other => ?_, conserved.distinct, ?_, conserved.unstuck⟩
      · have placed := conserved.placed other
        simp only [places, listed, count_append, count_cons, count_nil] at placed ⊢
        omega
      · simp only [load, length_append, length_singleton]
        omega
  case ack jobId | fail jobId =>
    cases stepped
    have shorter := length_erase_of_mem careful
    refine ⟨fun other => ?_, conserved.distinct, ?_, conserved.unstuck⟩
    · have placed := conserved.placed other
      have moved := count_moved careful other
      simp only [places, count_append, count_cons, count_nil] at placed moved ⊢
      omega
    · simp only [load]
      omega
  case requeueStale now timeoutSeconds =>
    cases stepped
    have parted := filter_append_perm (memory.stale now timeoutSeconds) memory.inflight
    have lengths := parted.length_eq
    rw [length_append] at lengths
    rw [requeueStaleJobs, putAll_eq (by dsimp only; omega)]
    refine ⟨fun other => ?_, conserved.distinct, ?_, conserved.unstuck⟩
    · have placed := conserved.placed other
      have counts := parted.count_eq other
      simp only [places, count_append] at placed counts ⊢
      omega
    · simp only [load, length_append]
      omega

/-- Along every careful run an accepted job is in one place once, and no timer or requeue finds the queue full. -/
theorem in_memory_queue_conserves {actions : List Action}
    (careful : (backend capacity).Meets (Careful capacity) .empty actions)
    (ran : (backend capacity).run .empty actions = some memory) :
    (∀ jobId ∈ memory.accepted, memory.places jobId = 1) ∧ memory.stuck = false := by
  have initial : Conserved capacity .empty := ⟨fun _ => rfl, .nil, Nat.zero_le _, rfl⟩
  have conserved : Conserved capacity memory := StepSystem.invariant Conserved.step careful initial ran
  refine ⟨fun jobId member => ?_, conserved.unstuck⟩
  rw [conserved.placed, count_eq_one_of_mem conserved.distinct member]

theorem in_memory_queue_conserves_requeue :
    ∃ memory, (backend 1).run .empty [.enqueue "a", .dequeue 0, .requeueStale 10 5] = some memory ∧
      memory.queue = ["a"] ∧ memory.stuck = false :=
  ⟨_, rfl, rfl, (@in_memory_queue_conserves 1 _ [.enqueue "a", .dequeue 0, .requeueStale 10 5]
    (.cons ⟨by decide, .inl (by decide)⟩ rfl (.cons trivial rfl (.cons trivial rfl trivial))) rfl).2⟩

/-- A requeue waits for room; and a timer that finds the queue full drops its job. -/
theorem in_memory_queue_sticks :
    (∃ memory, (backend 1).run .empty [.enqueue "a", .dequeue 0, .enqueue "b", .requeueStale 10 5] = some memory ∧
      memory.stuck = true ∧ memory.places "a" = 0) ∧
    ∃ memory, (backend 1).run .empty [.enqueue "a", .dequeue 0, .enqueueDelayed "b", .requeueStale 10 5, .fire "b"]
      = some memory ∧ memory.stuck = true ∧ memory.places "b" = 0 :=
  ⟨⟨_, rfl, rfl, rfl⟩, ⟨_, rfl, rfl, rfl⟩⟩

end Memory

end AindyRuntime.InMemoryQueue
