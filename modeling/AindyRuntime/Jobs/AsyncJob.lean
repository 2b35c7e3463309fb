import AindyRuntime.Lib.StepSystem

/-! # Asynchronous jobs

One job from its submission on.
-/

namespace AindyRuntime.AsyncJob

open Option

inductive JobStatus where
  | pending
  | running
  | success
  | failed
deriving DecidableEq, Repr

def JobStatus.terminal : JobStatus → Bool
  | .success | .failed => true
  | .pending | .running => false

structure JobLog where
  status : JobStatus
  (attemptCount maxAttempts : Int)
  errorMessage : Option String
deriving DecidableEq, Repr

def JobLog.submitted (maxAttempts : Int) : JobLog := ⟨.pending, 0, maxAttempts, none⟩

inductive HandlerOutcome where
  | unregistered (taskName : String)
  | returned
  | raised (message : String)
  /-- A `BaseException` that is not an `Exception`. -/
  | raisedBase
deriving DecidableEq, Repr

def HandlerOutcome.invoked : HandlerOutcome → Bool
  | .unregistered _ => false
  | _ => true

inductive After where
  | ended
  | retry
  | escaped
deriving DecidableEq, Repr

def executeJobInline (log : JobLog) : HandlerOutcome → JobLog × After
  | .returned => ({ log with status := .success, attemptCount := log.attemptCount + 1 }, .ended)
  | .raisedBase =>
    ({ log with status := .running, attemptCount := log.attemptCount + 1 }, .escaped)
  | .unregistered taskName =>
    ({ log with
      status := .failed
      attemptCount := log.attemptCount + 1
      errorMessage := some ("Async job handler '" ++ taskName ++ "' is not registered in this process") }, .ended)
  | .raised message =>
    let counted := { log with attemptCount := log.attemptCount + 1, errorMessage := some message }
    if counted.attemptCount < counted.maxAttempts then ({ counted with status := .pending }, .retry)
    else ({ counted with status := .failed }, .ended)

variable {log : JobLog}

@[simp] theorem executeJobInline_attemptCount :
    (executeJobInline log outcome).1.attemptCount = log.attemptCount + 1 := by
  cases outcome with
  | raised =>
    simp only [executeJobInline]
    split <;> rfl
  | unregistered | returned | raisedBase => rfl

@[simp] theorem executeJobInline_maxAttempts : (executeJobInline log outcome).1.maxAttempts = log.maxAttempts := by
  cases outcome with
  | raised =>
    simp only [executeJobInline]
    split <;> rfl
  | unregistered | returned | raisedBase => rfl

/-- The row says `success` only after a call of the handler that returned. -/
theorem executeJobInline_success (success : (executeJobInline log outcome).1.status = .success) :
    outcome = .returned := by
  cases outcome with
  | returned => rfl
  | unregistered taskName | raisedBase => cases success
  | raised =>
    simp only [executeJobInline] at success
    split at success <;> cases success

/-- The job is run again just when the row says `pending`, and then an attempt is left. -/
theorem executeJobInline_retry (retries : (executeJobInline log outcome).2 = .retry) :
    (executeJobInline log outcome).1.status = .pending ∧ log.attemptCount + 1 < log.maxAttempts := by
  cases outcome with
  | returned | unregistered taskName | raisedBase => cases retries
  | raised =>
    by_cases left : log.attemptCount + 1 < log.maxAttempts
    · simp [executeJobInline, left]
    · simp [executeJobInline, left] at retries

theorem executeJobInline_pending (pending : (executeJobInline log outcome).1.status = .pending) :
    (executeJobInline log outcome).2 = .retry := by
  cases outcome with
  | returned | unregistered taskName | raisedBase => cases pending
  | raised =>
    by_cases left : log.attemptCount + 1 < log.maxAttempts
    · simp [executeJobInline, left]
    · simp [executeJobInline, left] at pending

theorem executeJobInline_of_exception (exception : outcome ≠ .raisedBase) :
    (executeJobInline log outcome).1.status ≠ .running ∧ (executeJobInline log outcome).2 ≠ .escaped := by
  cases outcome with
  | returned | unregistered taskName => exact ⟨by simp [executeJobInline], by simp [executeJobInline]⟩
  | raisedBase => exact absurd rfl exception
  | raised =>
    simp only [executeJobInline]
    split
    · exact ⟨by simp, by simp⟩
    · exact ⟨by simp, by simp⟩

structure Setting where
  /-- The submission runs the job itself. -/
  inline : Bool
  /-- Jobs go through the queue. -/
  distributed : Bool

inductive Submission where
  /-- It runs the job itself. -/
  | executing
  /-- It has the guard of the inline fallback before it. -/
  | guarding
  | returned
deriving DecidableEq, Repr

structure World where
  log : JobLog
  /-- The calls of the handler, the last one first. -/
  invocations : List HandlerOutcome
  submission : Submission
  /-- The executions that are due: in the pool, on a timer or in the queue. -/
  due : Nat
  /-- A thread or a worker runs the job. -/
  executing : Bool
  /-- A message has been put in the queue. -/
  posted : Bool

inductive Action where
  | executeInline (outcome : HandlerOutcome)
  /-- The `finally` of the inline fallback. -/
  | guard
  /-- A thread of the pool or a timer begins to run the job. -/
  | start
  /-- A worker takes a message and tries to claim the row. -/
  | claim
  | execute (outcome : HandlerOutcome)
  /-- A message is delivered once more. -/
  | redeliver

variable (setting : Setting)

def World.submitted (maxAttempts : Int) : World where
  log := .submitted maxAttempts
  invocations := []
  submission := if setting.inline then .executing else .returned
  due := if setting.inline then 0 else 1
  executing := false
  posted := !setting.inline && setting.distributed

variable (world : World)

def World.execute (outcome : HandlerOutcome) : World :=
  let executed := executeJobInline world.log outcome
  { world with
    log := executed.1
    invocations := if outcome.invoked then outcome :: world.invocations else world.invocations
    due := if executed.2 = .retry then world.due + 1 else world.due
    posted := world.posted || setting.distributed && executed.2 = .retry }

def World.guard : World :=
  { world with
    log := if world.log.status.terminal then world.log else { world.log with status := .success }
    submission := .returned }

def jobs : StepSystem World Action where
  step world
    | .executeInline outcome =>
      if world.submission = .executing then some { world.execute setting outcome with submission := .guarding }
      else none
    | .guard => if world.submission = .guarding then some world.guard else none
    | .start =>
      if setting.distributed = false ∧ 0 < world.due then
        some { world with due := world.due - 1, executing := true }
      else none
    | .claim =>
      if setting.distributed = true ∧ 0 < world.due then
        if world.log.status = .pending then
          some
            { world with
              log := { world.log with status := .running }
              due := world.due - 1
              executing := true }
        else some { world with due := world.due - 1 }
      else none
    | .execute outcome =>
      if world.executing then some { world.execute setting outcome with executing := false } else none
    | .redeliver =>
      if setting.distributed = true ∧ world.posted = true then some { world with due := world.due + 1 } else none

/-- An inline attempt is not killed, and one that raises is the last that is allowed. -/
def Settled : Action → Prop
  | .executeInline (.raised _) => world.log.maxAttempts ≤ world.log.attemptCount + 1
  | .executeInline .raisedBase => False
  | _ => True

instance : ∀ action, Decidable (Settled world action)
  | .executeInline (.raised _) => inferInstanceAs (Decidable (_ ≤ _))
  | .executeInline .raisedBase => isFalse id
  | .executeInline (.unregistered _) | .executeInline .returned => isTrue trivial
  | .guard | .start | .claim | .execute _ | .redeliver => isTrue trivial

variable {setting : Setting} {world next : World} {action : Action} {actions : List Action}

structure Attempts (maxAttempts : Int) (log : JobLog) (invocations : List HandlerOutcome) : Prop where
  budget : log.maxAttempts = maxAttempts
  succeeded : log.status = .success → .returned ∈ invocations
  counted : invocations.length ≤ log.attemptCount
  bounded : log.attemptCount ≤ maxAttempts
  /-- An attempt is left for what is pending. -/
  left : log.status = .pending → log.attemptCount < maxAttempts

structure Sound (setting : Setting) (maxAttempts : Int) (world : World) : Prop where
  attempts : Attempts maxAttempts world.log world.invocations
  busy : world.executing = true → world.log.attemptCount < maxAttempts
  /-- Without the queue one execution is due or under way at a time. -/
  threads : setting.distributed = false → 0 < world.due →
    world.due = 1 ∧ world.executing = false ∧ world.log.status = .pending
  inline : world.submission ≠ .returned → world.due = 0 ∧ world.posted = false ∧ world.executing = false
  first : world.submission = .executing → world.log.attemptCount < maxAttempts
  guarded : world.submission = .guarding → world.log.status.terminal = true

theorem Sound.submitted (positive : 1 ≤ maxAttempts) : Sound setting maxAttempts (.submitted setting maxAttempts) := by
  have left : (0 : Int) < maxAttempts := by omega
  refine ⟨⟨rfl, fun success => ?_, Int.le_refl _, Int.le_of_lt left, fun _ => left⟩, fun _ => left, fun _ due => ?_,
    fun inline => ?_, fun _ => left, fun guarding => ?_⟩
  · cases success
  · cases inline : setting.inline with
    | true => simp [World.submitted, inline] at due
    | false => simp [World.submitted, JobLog.submitted, inline]
  · cases isInline : setting.inline with
    | true => simp [World.submitted, isInline]
    | false => simp [World.submitted, isInline] at inline
  · cases isInline : setting.inline <;> simp [World.submitted, isInline] at guarding

theorem length_invocations_execute (world : World) (outcome : HandlerOutcome) :
    (world.execute setting outcome).invocations.length ≤ world.invocations.length + 1 := by
  simp only [World.execute]
  split
  · exact Nat.le_refl _
  · exact Nat.le_succ _

theorem Attempts.execute (attempts : Attempts maxAttempts world.log world.invocations)
    (left : world.log.attemptCount < maxAttempts) :
    Attempts maxAttempts (world.execute setting outcome).log (world.execute setting outcome).invocations := by
  have counted := attempts.counted
  have more : (world.execute setting outcome).invocations.length ≤ world.invocations.length + 1 :=
    length_invocations_execute world outcome
  have used : (world.execute setting outcome).log.attemptCount = world.log.attemptCount + 1 :=
    executeJobInline_attemptCount
  refine ⟨?_, fun success => ?_, ?_, ?_, fun pending => ?_⟩
  · exact executeJobInline_maxAttempts.trans attempts.budget
  · have returned := executeJobInline_success success
    subst returned
    exact List.mem_cons_self
  · omega
  · omega
  · rw [used, ← attempts.budget]
    exact (executeJobInline_retry (executeJobInline_pending pending)).2

theorem Sound.executeInline (settled : (executeJobInline world.log outcome).1.status.terminal = true)
    (sound : Sound setting maxAttempts world) (executing : world.submission = .executing) :
    Sound setting maxAttempts { world.execute setting outcome with submission := .guarding } := by
  have ends : (executeJobInline world.log outcome).2 ≠ .retry := by
    intro retries
    rw [(executeJobInline_retry retries).1] at settled
    cases settled
  obtain ⟨none, unposted, idle⟩ := sound.inline (by rw [executing]; decide)
  have attempts : Attempts maxAttempts (world.execute setting outcome).log
      (world.execute setting outcome).invocations :=
    sound.attempts.execute (sound.first executing)
  refine ⟨attempts, fun busy => ?_, fun _ due => ?_, fun _ => ?_, fun executing => ?_, fun _ => settled⟩
  · simp only [World.execute, idle] at busy
    cases busy
  · simp [World.execute, ends, none] at due
  · simp [World.execute, ends, none, unposted, idle]
  · cases executing

section

variable (sound : Sound setting maxAttempts world)
include sound

theorem Sound.guard (guarding : world.submission = .guarding) : Sound setting maxAttempts world.guard := by
  have terminal := sound.guarded guarding
  have same : world.guard = { world with submission := .returned } := by
    simp [World.guard, terminal]
  rw [same]
  refine ⟨sound.attempts, sound.busy, sound.threads, fun inline => absurd rfl inline, fun executing => ?_,
    fun guarding => ?_⟩
  · cases executing
  · cases guarding

theorem Sound.returned (due : 0 < world.due) : world.submission = .returned := by
  apply Decidable.byContradiction
  intro inline
  have none := (sound.inline inline).1
  omega

theorem Sound.start (threads : setting.distributed = false)
    (due : 0 < world.due) : Sound setting maxAttempts { world with due := world.due - 1, executing := true } := by
  obtain ⟨one, _, pending⟩ := sound.threads threads due
  have returned := sound.returned due
  refine ⟨sound.attempts, fun _ => sound.attempts.left pending, fun _ due => ?_, fun inline => absurd returned inline,
    sound.first, sound.guarded⟩
  simp only [one] at due
  omega

theorem Sound.claim (queued : setting.distributed = true)
    (due : 0 < world.due) (pending : world.log.status = .pending) :
    Sound setting maxAttempts
      { world with log := { world.log with status := .running }, due := world.due - 1, executing := true } := by
  have returned := sound.returned due
  refine ⟨⟨sound.attempts.budget, fun success => ?_, sound.attempts.counted, sound.attempts.bounded, fun running => ?_⟩,
    fun _ => sound.attempts.left pending, fun threads => ?_, fun inline => absurd returned inline, sound.first,
    fun guarding => ?_⟩
  · cases success
  · cases running
  · rw [queued] at threads
    cases threads
  · rw [returned] at guarding
    cases guarding

theorem Sound.messages (queued : setting.distributed = true)
    (returned : world.submission = .returned) : Sound setting maxAttempts { world with due } := by
  refine ⟨sound.attempts, sound.busy, fun threads => ?_, fun inline => absurd returned inline, sound.first,
    sound.guarded⟩
  rw [queued] at threads
  cases threads

theorem Sound.execute (executing : world.executing = true) :
    Sound setting maxAttempts { world.execute setting outcome with executing := false } := by
  have returned : world.submission = .returned := by
    apply Decidable.byContradiction
    intro inline
    have idle := (sound.inline inline).2.2
    rw [executing] at idle
    cases idle
  have attempts : Attempts maxAttempts (world.execute setting outcome).log
      (world.execute setting outcome).invocations :=
    sound.attempts.execute (sound.busy executing)
  refine ⟨attempts, fun busy => ?_, fun threads due => ?_, fun inline => absurd returned inline, fun executing => ?_,
    fun guarding => ?_⟩
  · cases busy
  · have none : world.due = 0 := by
      apply Nat.eq_zero_of_not_pos
      intro due
      have idle := (sound.threads threads due).2.1
      rw [executing] at idle
      cases idle
    simp only [World.execute, none] at due ⊢
    by_cases retries : (executeJobInline world.log outcome).2 = .retry
    · simp only [retries, if_true, true_and]
      exact (executeJobInline_retry retries).1
    · simp [retries] at due
  · simp only [World.execute, returned] at executing
    cases executing
  · simp only [World.execute, returned] at guarding
    cases guarding

end

theorem settled_terminal (settled : Settled world (.executeInline outcome)) :
    (executeJobInline world.log outcome).1.status.terminal = true := by
  cases outcome with
  | returned | unregistered => rfl
  | raisedBase => exact settled.elim
  | raised =>
      simp only [executeJobInline, if_neg (Int.not_lt.mpr settled)]
      rfl

theorem Sound.step (settled : Settled world action) (sound : Sound setting maxAttempts world)
    (stepped : (jobs setting).step world action = some next) : Sound setting maxAttempts next := by
  cases action with
  | executeInline =>
    obtain ⟨executing, same⟩ := ite_none_right_eq_some.mp stepped
    cases same
    exact sound.executeInline (settled_terminal settled) executing
  | guard =>
    obtain ⟨guarding, same⟩ := ite_none_right_eq_some.mp stepped
    cases same
    exact sound.guard guarding
  | start =>
    obtain ⟨enabled, same⟩ := ite_none_right_eq_some.mp stepped
    cases same
    exact sound.start enabled.1 enabled.2
  | claim =>
    obtain ⟨enabled, same⟩ := ite_none_right_eq_some.mp stepped
    by_cases pending : world.log.status = .pending
    · rw [if_pos pending] at same
      cases same
      exact sound.claim enabled.1 enabled.2 pending
    · rw [if_neg pending] at same
      cases same
      exact sound.messages enabled.1 (sound.returned enabled.2)
  | execute =>
    obtain ⟨executing, same⟩ := ite_none_right_eq_some.mp stepped
    cases same
    exact sound.execute executing
  | redeliver =>
    obtain ⟨⟨queued, posted⟩, same⟩ := ite_none_right_eq_some.mp stepped
    cases same
    apply sound.messages queued
    apply Decidable.byContradiction
    intro inline
    have unposted := (sound.inline inline).2.1
    rw [posted] at unposted
    cases unposted

/-- Where the inline fallback leaves its guard nothing to settle and one attempt is allowed at
least, the row says `success` only if a call of the handler returned, and the handler is not
called more often than allowed. -/
theorem success_only_if_returned (positive : 1 ≤ maxAttempts)
    (ran : (jobs setting).run (.submitted setting maxAttempts) actions = some world)
    (met : (jobs setting).Meets Settled (.submitted setting maxAttempts) actions) :
    (world.log.status = .success → .returned ∈ world.invocations) ∧ world.invocations.length ≤ maxAttempts := by
  have sound : Sound setting maxAttempts world := StepSystem.invariant Sound.step met (.submitted positive) ran
  exact ⟨sound.attempts.succeeded, Int.le_trans sound.attempts.counted sound.attempts.bounded⟩

def retried : List Action :=
  [.claim, .execute (.raised "timeout"), .redeliver, .claim, .execute .returned, .claim]

theorem success_only_if_returned_of_retried :
    ∃ world, (jobs ⟨false, true⟩).run (.submitted ⟨false, true⟩ 2) retried = some world ∧
      world.log.status = .success ∧
      (world.log.status = .success → .returned ∈ world.invocations) ∧ world.invocations.length ≤ (2 : Int) :=
  ⟨_, rfl, rfl, @success_only_if_returned ⟨false, true⟩ _ retried 2 (by decide) rfl (by decide)⟩

/-- The inline attempt fails with one attempt left, and the guard writes `success`. -/
theorem guard_forces_success :
    ∃ world, (jobs ⟨true, false⟩).run (.submitted ⟨true, false⟩ 2)
        [.executeInline (.raised "timeout"), .guard] = some world ∧
      world.log.status = .success ∧ world.invocations = [.raised "timeout"] :=
  ⟨_, rfl, rfl, rfl⟩

end AindyRuntime.AsyncJob
