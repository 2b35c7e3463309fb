import AindyRuntime.Queue.RedisQueue

/-! # Draining the dead letters

`drain_dead_letters` of `worker/worker_loop.py` on either backend, with the letters
that other workers add while it is under way.
-/

namespace AindyRuntime.DistributedQueue

open List

inductive Backend where
  | inMemory
  | redis
deriving DecidableEq, Repr

variable (backend : Backend)

def Backend.arrive (dead arrived : List DeadLetter) : List DeadLetter :=
  match backend with
  | .inMemory => dead ++ arrived
  | .redis => arrived.reverse ++ dead

structure DrainCalls where
  fromJson : String → Except String Unit
  /-- The calls of `enqueue`, by their number. -/
  enqueue : Nat → Except String Unit

structure Drained where
  requeued : List DeadLetter
  errors : List String
  /-- The letters that are left. -/
  dead : List DeadLetter
deriving DecidableEq, Repr

/-- The loop; a letter of the list in memory has its payload as an object and is not parsed. -/
def requeueLetters (calls : DrainCalls) : Nat → List DeadLetter → List DeadLetter × List String
  | _, [] => ([], [])
  | attempts, letter :: rest =>
    let failed (reason : String) (others : List DeadLetter × List String) :=
      (others.1, ("job_id=" ++ letter.jobId ++ reason) :: others.2)
    if letter.payloadRaw = "" then failed " missing payload" (requeueLetters calls attempts rest)
    else
      match if backend = .redis then calls.fromJson letter.payloadRaw else .ok () with
      | .error error => failed (" requeue_failed=" ++ error) (requeueLetters calls attempts rest)
      | .ok () =>
        let others := requeueLetters calls (attempts + 1) rest
        match calls.enqueue attempts with
        | .error error => failed (" requeue_failed=" ++ error) others
        | .ok () => (letter :: others.1, others.2)

def drainLimit (maxItems : Int) : Nat := (max 0 (min maxItems 100)).toNat

def drainDeadLetters (calls : DrainCalls) (maxItems : Int) (requeue : Bool)
    (dead arrived later : List DeadLetter) : Drained :=
  let limit := drainLimit maxItems
  let inspected := dead.take limit
  let found := backend.arrive dead arrived
  if limit = 0 ∨ requeue = false then ⟨[], [], backend.arrive found later⟩
  else
    let left := if backend = .redis ∧ inspected = [] then found else found.drop limit
    let requeued := requeueLetters backend calls 0 inspected
    ⟨requeued.1, requeued.2, backend.arrive left later⟩

/-- Every letter is back on the queue once or still dead, and those that were not inspected are dead. -/
structure NoneLost (inspected all : List DeadLetter) (drained : Drained) : Prop where
  conserved : all.Perm (drained.requeued ++ drained.dead)
  uninspected : drained.requeued.Sublist inspected

variable {backend : Backend} {calls : DrainCalls} {dead arrived : List DeadLetter}

theorem arrive_perm : (backend.arrive dead arrived).Perm (dead ++ arrived) := by
  cases backend with
  | inMemory => exact .refl _
  | redis => exact perm_append_comm.trans ((reverse_perm arrived).append_left dead)

theorem requeueLetters_sublist : (requeueLetters backend calls attempts letters).1.Sublist letters := by
  induction letters generalizing attempts with
  | nil => exact .refl _
  | cons letter rest ih =>
      simp only [requeueLetters]
      repeat' split
      all_goals first
        | exact ih.cons _
        | exact ih.cons_cons _

/-- Every letter has a payload that can be enqueued, and the call of `enqueue` for it succeeds. -/
def Enqueues (backend : Backend) (calls : DrainCalls) (attempts : Nat) (letters : List DeadLetter) : Prop :=
  (∀ letter ∈ letters, letter.payloadRaw ≠ "" ∧ (backend = .redis → calls.fromJson letter.payloadRaw = .ok ())) ∧
    ∀ attempt < letters.length, calls.enqueue (attempts + attempt) = .ok ()

theorem requeueLetters_eq_iff :
    (requeueLetters backend calls attempts letters).1 = letters ↔ Enqueues backend calls attempts letters := by
  induction letters generalizing attempts with
  | nil => simp [requeueLetters, Enqueues]
  | cons letter rest ih =>
      have shorter (attempts : Nat) : (requeueLetters backend calls attempts rest).1 ≠ letter :: rest := by
        intro same
        have short := (@requeueLetters_sublist backend calls attempts rest).length_le
        rw [same, length_cons] at short
        exact Nat.not_succ_le_self _ short
      have next : Enqueues backend calls attempts (letter :: rest) ↔ (letter.payloadRaw ≠ "" ∧
          (backend = .redis → calls.fromJson letter.payloadRaw = .ok ()) ∧ calls.enqueue attempts = .ok ()) ∧
          Enqueues backend calls (attempts + 1) rest := by
        simp only [Enqueues, forall_mem_cons, length_cons, Nat.forall_lt_succ_left, Nat.add_zero, Nat.add_assoc,
          Nat.add_comm 1]
        tauto
      rw [next, ← ih]
      by_cases blank : letter.payloadRaw = ""
      · simp [requeueLetters, blank, shorter]
      cases parsed : if backend = .redis then calls.fromJson letter.payloadRaw else .ok () with
      | error =>
          have unreadable : ¬(backend = .redis → calls.fromJson letter.payloadRaw = .ok ()) := fun reads => by
            split at parsed <;> simp_all
          simp [requeueLetters, blank, parsed, shorter, unreadable]
      | ok =>
          have reads : backend = .redis → calls.fromJson letter.payloadRaw = .ok () := fun same => by
            simpa [same] using parsed
          cases enqueued : calls.enqueue attempts with
          | error => simp [requeueLetters, blank, parsed, shorter, enqueued]
          | ok => simpa [requeueLetters, blank, parsed, enqueued] using fun _ => reads

end AindyRuntime.DistributedQueue
