import AindyRuntime.Lib.StepSystem

/-! # Stale job logs

`_cleanup_stale_logs` goes by the status of a row and the time of its creation; a
row can become pending long after that.
-/

namespace AindyRuntime.AsyncJob

inductive LogStatus where
  | pending
  | running
  | deferred
  | ignored
  | success
  | failed
deriving DecidableEq

/-- The row of a job, in seconds, and when it became pending last. -/
structure TimedLog where
  status : LogStatus
  createdAt : Int
  pendingSince : Int
  /-- An attempt has begun. -/
  started : Bool
  now : Int

inductive JobEvent where
  /-- The decisions of `process_deferred_jobs`. -/
  | release
  | postpone
  | ignore
  /-- An attempt begins; without an event to emit, `running` is not committed before its end. -/
  | attempt (commits : Bool)
  | retry
  | finish (succeeds : Bool)
  | cleanup

namespace TimedLog

def submitted (defers : Bool) (now : Int) : TimedLog :=
  ⟨if defers then .deferred else .pending, now, now, false, now⟩

def Stale (log : TimedLog) (now : Int) : Prop := log.status = .pending ∧ log.createdAt < now - 3600

instance (log : TimedLog) (now : Int) : Decidable (log.Stale now) := inferInstanceAs (Decidable (_ ∧ _))

def admits (log : TimedLog) : JobEvent → Bool
  | .release | .postpone | .ignore => log.status = .deferred
  | .attempt _ => log.status ≠ .deferred ∧ log.status ≠ .ignored
  | .retry | .finish _ => log.started
  | .cleanup => true

def after (log : TimedLog) (now : Int) : JobEvent → TimedLog
  | .release | .retry => { log with status := .pending, pendingSince := now, now }
  | .postpone => { log with now }
  | .ignore => { log with status := .ignored, now }
  | .attempt commits => { log with status := if commits then .running else log.status, started := true, now }
  | .finish succeeds => { log with status := if succeeds then .success else .failed, now }
  | .cleanup => { log with status := if log.Stale now then .failed else log.status, now }

/-- Pending for more than an hour, and never attempted. -/
def Unstarted (log : TimedLog) (now : Int) : Prop := log.started = false ∧ log.pendingSince < now - 3600

end TimedLog

def jobHistory : StepSystem TimedLog (JobEvent × Int) where
  step log event :=
    if log.now ≤ event.2 ∧ log.admits event.1 = true then some (log.after event.2 event.1) else none

/-- The event does not leave the row pending behind an attempt, and a release is more than an
hour before the cleanup. -/
def Quiet (cleanup : Int) : JobEvent × Int → Prop
  | (.attempt commits, _) => commits = true
  | (.retry, _) => False
  | (.release, now) => now < cleanup - 3600
  | _ => True

/-- A row that waits for an attempt is unstarted. -/
def Rests (cleanup : Int) (log : TimedLog) : Prop :=
  log.status ∈ [.pending, .deferred, .ignored] → log.Unstarted cleanup

def Dated (created : Int) (log : TimedLog) : Prop := log.createdAt = created ∧ log.pendingSince ≤ log.now

theorem step_dated (dated : Dated created log) (stepped : jobHistory.step log event = some next) :
    Dated created next := by
  obtain ⟨⟨later, -⟩, ended⟩ := Option.ite_none_right_eq_some.mp stepped
  cases ended
  have since : log.pendingSince ≤ event.2 := Int.le_trans dated.2 later
  cases event with
  | mk event now => cases event with
    | release | retry => exact ⟨dated.1, Int.le_refl _⟩
    | postpone | ignore | attempt | finish | cleanup => exact ⟨dated.1, since⟩

theorem step_rests (quiet : Quiet cleanup event) (rests : Rests cleanup log)
    (stepped : jobHistory.step log event = some next) : Rests cleanup next := by
  obtain ⟨event, now⟩ := event
  obtain ⟨⟨-, admits⟩, ended⟩ := Option.ite_none_right_eq_some.mp stepped
  cases ended
  intro waits
  cases event with
  | release =>
      have deferred : log.status = .deferred := of_decide_eq_true admits
      exact ⟨(rests (by simp [deferred])).1, quiet⟩
  | postpone => exact rests waits
  | ignore =>
      have deferred : log.status = .deferred := of_decide_eq_true admits
      exact rests (by simp [deferred])
  | attempt commits =>
      cases (quiet : commits = true)
      simp [TimedLog.after] at waits
  | retry => exact quiet.elim
  | finish succeeds => cases succeeds <;> simp [TimedLog.after] at waits
  | cleanup =>
      simp only [TimedLog.after] at waits
      split at waits
      · simp at waits
      · exact rests waits

theorem step_unstarted (dated : Dated created log) (stepped : jobHistory.step log event = some next)
    (unstarted : next.Unstarted cleanup) : log.Unstarted cleanup ∧ Quiet cleanup event := by
  obtain ⟨event, now⟩ := event
  obtain ⟨⟨later, admits⟩, ended⟩ := Option.ite_none_right_eq_some.mp stepped
  cases ended
  cases event with
  | release =>
      have old : now < cleanup - 3600 := unstarted.2
      exact ⟨⟨unstarted.1, Int.lt_of_le_of_lt (Int.le_trans dated.2 later) old⟩, old⟩
  | retry => exact absurd (unstarted.1.symm.trans admits) Bool.false_ne_true
  | attempt => cases unstarted.1
  | postpone | ignore | finish | cleanup => exact ⟨unstarted, trivial⟩

theorem run_unstarted (dated : Dated created log) (ran : jobHistory.run log events = some final)
    (unstarted : final.Unstarted cleanup) : ∀ event ∈ events, Quiet cleanup event := by
  suffices log.Unstarted cleanup ∧ ∀ event ∈ events, Quiet cleanup event from this.2
  induction events generalizing log with
  | nil =>
      cases ran
      exact ⟨unstarted, by simp⟩
  | cons event rest ih =>
      obtain ⟨next, stepped, ran⟩ := StepSystem.run_cons.mp ran
      obtain ⟨later, quiet⟩ := ih (step_dated dated stepped) ran
      obtain ⟨old, first⟩ := step_unstarted dated stepped later
      exact ⟨old, List.forall_mem_cons.mpr ⟨first, quiet⟩⟩

/-- A job that the cleanup fails has been pending and unstarted for more than an
hour, exactly if no attempt or retry has left it pending, nor a release within that hour. -/
theorem stale_log_unstarted_iff {log : TimedLog} (ran : jobHistory.run (.submitted defers created) events = some log)
    (stale : log.Stale cleanup) : log.Unstarted cleanup ↔ ∀ event ∈ events, Quiet cleanup event := by
  have start : Dated created (.submitted defers created) := ⟨rfl, Int.le_refl _⟩
  refine ⟨run_unstarted start ran, fun quiet => ?_⟩
  have kept := StepSystem.invariant_run step_dated start ran
  have rests : Rests cleanup (.submitted defers created) := fun _ => ⟨rfl, kept.1 ▸ stale.2⟩
  have met : jobHistory.Meets (fun _ event => Quiet cleanup event) (.submitted defers created) events :=
    .of_mem fun event member _ => quiet event member
  exact StepSystem.invariant step_rests met rests ran (by simp [stale.1])

/-- Deferred once more, released, and looked at before the hour is over. -/
theorem stale_log_unstarted_of_released :
    ∃ log, jobHistory.run (.submitted true 0) [(.postpone, 100), (.release, 200), (.cleanup, 300)] = some log ∧
      log.Stale 7200 ∧ log.Unstarted 7200 := by
  have ran : jobHistory.run (.submitted true 0) [(.postpone, 100), (.release, 200), (.cleanup, 300)] = some _ := rfl
  exact ⟨_, ran, by decide, (stale_log_unstarted_iff ran (by decide)).mpr (by simp [Quiet])⟩

/-- A job that was deferred for two hours is failed a second after its release. -/
theorem released_log_failed :
    ∃ log, jobHistory.run (.submitted true 0) [(.release, 7200), (.cleanup, 7201)] = some log ∧
    log.status = .failed ∧ log.pendingSince = 7200 ∧ log.started = false :=
  ⟨_, rfl, rfl, rfl, rfl⟩

end AindyRuntime.AsyncJob
