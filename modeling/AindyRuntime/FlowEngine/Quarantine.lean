import AindyRuntime.FlowEngine.Resume

/-! # Quarantine of a run whose flow has changed

`resume` checks the recorded signature before it claims the row, since the
dead-letter update only finds a waiting row.
-/

namespace AindyRuntime.FlowEngine

variable (runner : Runner)

structure CallbackCalls where
  flowKnown : Bool
  claim : Claim
  resume : ResumeCalls

/-- The closure up to the loop of the `resume` it calls, on the row as its claim
finds it; `none` where it returns before that. -/
def resumeCallback (digest : Json → String) (calls : CallbackCalls) (engine : Engine) : Option Machine :=
  if !calls.flowKnown then none
  else if engine.run.status = .waiting ∧ calls.claim = .won then
    some (resume runner digest calls.resume (engine.commit .claimed { engine.run with status := .executing }))
  else none

inductive Path where
  | callback
  | direct
deriving DecidableEq, Repr

variable (digest run history) in
inductive Resumed :
    Path → Machine → Prop where
  | direct (calls : ResumeCalls) (found : calls.runFound = true) :
      Resumed .direct (resume runner digest calls (Engine.fresh run history))
  | callback (calls : CallbackCalls) (machine : Machine) (found : calls.resume.runFound = true)
      (called : resumeCallback runner digest calls (Engine.fresh run history) = some machine) :
      Resumed .callback machine

variable {runner} {digest : Json → String}

def Conflicts (runner : Runner) (digest : Json → String) (run : FlowRun) : Prop :=
  signaturesConflict run.graphSignature (some (flowTopologySignature digest runner.flow)) = true

structure Halted (before : Engine) (machine : Machine) : Prop where
  outside : ∀ node, machine.control ≠ .at node
  executed : machine.engine.executed = before.executed
  status : machine.engine.run.status
    = if before.run.status = .waiting then .deadLetter else before.run.status

theorem resume_halted (found : calls.runFound = true)
    (conflicts : Conflicts runner digest engine.run) : Halted engine (resume runner digest calls engine) := by
  have entered : (enterResume (flowTopologySignature digest runner.flow) calls).Yields engine
      (fun reached after => Halted engine (Machine.entered (.ok reached, after)))
      (fun error after => Halted engine (Machine.entered (.error error, after))) := by
    have conflict : signaturesConflict engine.run.graphSignature
      (some (flowTopologySignature digest runner.flow)) = true := conflicts
    simp only [enterResume, found, Bool.not_true, Bool.false_eq_true, if_false, conflict,
      moveToDeadLetter, Program.yields_bind, Program.yields_read, Program.yields_ite, Program.yields_pure,
      Program.yields_call]
    refine ⟨fun _ => ?_, fun agreed => absurd trivial agreed⟩
    refine ⟨fun waiting => ⟨fun _ _ => ?_, fun _ _ => ?_⟩, fun other => ⟨fun _ _ => ?_, fun _ _ => ?_⟩⟩
    · exact ⟨by simp [Machine.entered], rfl, (if_pos waiting).symm⟩
    · exact ⟨by simp [Machine.entered], rfl, (if_pos waiting).symm⟩
    · exact ⟨by simp [Machine.entered], rfl, (if_neg other).symm⟩
    · exact ⟨by simp [Machine.entered], rfl, (if_neg other).symm⟩
  simp only [resume]
  generalize ran : (enterResume (flowTopologySignature digest runner.flow) calls).run engine = ended
  obtain ⟨_ | _, _⟩ := ended
  · exact entered.raises ran
  · exact entered.returned ran

theorem Halted.final {final : Machine} (halted : Halted engine machine)
    (ran : (engineLoop runner).run machine iterations = some final) : final = machine := by
  cases iterations with
  | nil =>
    cases ran
    rfl
  | cons =>
    obtain ⟨_, stepped, _⟩ := StepSystem.run_cons.mp ran
    simp only [engineLoop] at stepped
    split at stepped
    case h_1 node located => exact absurd located (halted.outside node)
    · cases stepped

/-- However the loop goes on, no node is executed and the row is dead-lettered. -/
def Quarantined (runner : Runner) (machine : Machine) : Prop :=
  ∀ iterations final, (engineLoop runner).run machine iterations = some final →
    final.engine.executed = [] ∧ final.engine.run.status = .deadLetter

/-- A parked run whose flow has changed is quarantined exactly by a direct call:
the callback has taken the row out of `waiting` before the check. -/
theorem quarantined_iff_direct {run : FlowRun} {history : List FlowHistory} {path : Path}
    (resumed : Resumed runner digest run history path machine) (waiting : run.status = .waiting)
    (conflicts : Conflicts runner digest run) : Quarantined runner machine ↔ path = .direct := by
  cases resumed with
  | direct calls found =>
    have fresh : Conflicts runner digest (Engine.fresh run history).run := conflicts
    have halted := resume_halted found fresh
    refine iff_of_true (fun iterations final ran => ?_) rfl
    rw [halted.final ran]
    exact ⟨halted.executed, halted.status.trans (if_pos waiting)⟩
  | callback calls machine found called =>
    refine iff_of_false (fun quarantined => ?_) (by simp)
    simp only [resumeCallback] at called
    split at called
    · cases called
    · split at called <;> cases called
      · have claimed : Conflicts runner digest ((Engine.fresh run history).commit .claimed
          { run with status := .executing }).run := conflicts
        have halted := resume_halted found claimed
        have stuck : RunStatus.executing = .deadLetter :=
          halted.status.symm.trans (quarantined [] _ rfl).2
        cases stuck

def outdatedRun : FlowRun where
  status := .waiting
  state := ∅
  currentNode := "work"
  waitingFor := some "approval"
  errorMessage := .null
  jobLogId := .null
  graphSignature := some "old"

theorem quarantined_direct_call :
    Quarantined oneNodeRunner
      (resume oneNodeRunner (fun _ => "new") (StartCalls.quiet "t").resume (.fresh outdatedRun [])) := by
  have resumed : Resumed oneNodeRunner (fun _ => "new") outdatedRun [] .direct
      (resume oneNodeRunner (fun _ => "new") (StartCalls.quiet "t").resume (.fresh outdatedRun [])) :=
    .direct _ rfl
  exact (quarantined_iff_direct resumed rfl rfl).mpr rfl

/-- Through the callback the same run returns as quarantined and stays `executing`. -/
theorem quarantine_missed_by_callback :
    ∃ machine, resumeCallback oneNodeRunner (fun _ => "new") ⟨true, .won, (StartCalls.quiet "t").resume⟩
        (.fresh outdatedRun []) = some machine ∧
      Conflicts oneNodeRunner (fun _ => "new") outdatedRun ∧
      (∀ node, machine.control ≠ .at node) ∧ machine.engine.run.status = .executing ∧
      ¬Quarantined oneNodeRunner machine := by
  refine ⟨_, rfl, rfl, fun node located => ?_, rfl, fun quarantined => ?_⟩
  · cases located
  · have dead := (quarantined [] _ rfl).2
    cases dead

end AindyRuntime.FlowEngine
