import AindyRuntime.FlowEngine.NodeEntry
import AindyRuntime.FlowEngine.Resume

/-! # Finality of a completed run

A completion commits `success` and goes on calling out inside the block whose
handler fails the run.  The commit is the runner's last one exactly as long as
none of those calls raises.
-/

namespace AindyRuntime.FlowEngine

open Program

def SuccessFinal (commits : List Commit) : Prop :=
  commits.Pairwise fun later earlier => earlier.run.status = .success → later.run.status = .success

structure NoSuccess (engine : Engine) : Prop where
  row : engine.run.status ≠ .success
  commits : ∀ commit ∈ engine.commits, commit.run.status ≠ .success

section

variable (unfinished : NoSuccess engine)
include unfinished

theorem NoSuccess.final : SuccessFinal engine.commits := by
  apply List.pairwise_of_forall_mem_list
  intro later _ earlier member succeeded
  exact absurd succeeded (unfinished.commits earlier member)

theorem NoSuccess.commit {run : FlowRun}
    (other : run.status ≠ .success) : NoSuccess (engine.commit point run) := by
  refine ⟨other, fun commit member => ?_⟩
  rcases List.mem_cons.mp member with rfl | earlier
  · exact other
  · exact unfinished.commits commit earlier

theorem NoSuccess.releaseSlot : NoSuccess engine.releaseSlot := by
  refine ⟨?_, ?_⟩
  · rw [Engine.releaseSlot_run]
    exact unfinished.row
  · rw [Engine.releaseSlot_commits]
    exact unfinished.commits

theorem NoSuccess.commit_success {run : FlowRun} : SuccessFinal (engine.commit point run).commits := by
  refine List.pairwise_cons.mpr ⟨fun earlier member succeeded => ?_, unfinished.final⟩
  exact absurd succeeded (unfinished.commits earlier member)

end

theorem noSuccess_stable : Stable NoSuccess where
  fail message unfinished := (unfinished.commit (by simp)).releaseSlot
  acquire _ unfinished := ⟨unfinished.row, unfinished.commits⟩
  parkOnResources node unfinished := unfinished.commit (by simp)
  parkOnWait node waitFor unfinished := (unfinished.commit (by simp)).releaseSlot
  enterNode node unfinished := ⟨unfinished.row, unfinished.commits⟩
  withState state unfinished := ⟨unfinished.row, unfinished.commits⟩
  record rows unfinished := ⟨unfinished.row, unfinished.commits⟩

def raisesAfterSuccess (runner : Runner) (calls : CompletionCalls) (state : State) : Bool :=
  match extractExecutionResult runner state with
  | .error _ => false
  | .ok result =>
    match extractAsyncHandoff runner result with
    | none => calls.capture.isOk && !((superstepPartialUnits state).isOk
        && calls.completedEvent.isOk && calls.response.isOk)
    | some handoff => calls.rowUpdated
        && decide (RunStatus.ofName (runner.textCase.lower handoff.status) = .success)
        && !(calls.rowQueued && calls.response.isOk)

def Concluded : NodeResponse → Engine → Prop
  | .final _, after => SuccessFinal after.commits
  | _, after => NoSuccess after

section

variable (unfinished : NoSuccess engine)
include unfinished

theorem failNode_concluded :
    (failNode calls message node).Yields engine Concluded
      (fun _ after => SuccessFinal after.commits) := by
  simp only [failNode, yields_bind]
  refine failExecution_yields.mono ?_ ?_
  · intro _ _ same
    subst same
    exact (noSuccess_stable.fail message unfinished).final
  · intro _ _ same
    subst same
    exact (noSuccess_stable.fail message unfinished).final

theorem maybeFinalizeCompletion_concluded
    (undisturbed : node ∈ runner.flow.endNodes → raisesAfterSuccess runner calls.completion engine.state = false) :
    (maybeFinalizeCompletion runner calls node status).Yields engine Concluded
      (fun _ after => SuccessFinal after.commits) := by
  simp only [maybeFinalizeCompletion]
  split
  · exact unfinished
  case isFalse ends =>
    have quiet := undisturbed (by simpa using ends)
    simp only [yields_attempt, yields_bind, yields_call]
    refine ⟨fun result extracted => ?_, fun error _ => failNode_concluded unfinished⟩
    cases found : extractAsyncHandoff runner result with
    | none =>
      simp only [yields_bind, yields_call, yields_pure]
      refine ⟨fun _ captured => ?_, fun error _ => failNode_concluded unfinished⟩
      have after : (superstepPartialUnits engine.state).isOk = true ∧
          calls.completion.completedEvent.isOk = true ∧ calls.completion.response.isOk = true := by
        simpa [raisesAfterSuccess, extracted, found, captured, Except.toBool, and_assoc] using quiet
      obtain ⟨units, event, response⟩ := after
      refine ⟨fun _ _ => ⟨fun _ _ => ⟨fun _ _ => ?_, fun error raised => ?_⟩, fun error raised => ?_⟩,
        fun error raised => ?_⟩
      · exact unfinished.releaseSlot.commit_success
      · simp [raised, Except.toBool] at response
      · simp [raised, Except.toBool] at event
      · simp [raised, Except.toBool] at units
    | some handoff =>
      simp only [yields_ite, yields_bind, yields_call, yields_modify, yields_pure]
      refine ⟨fun _ => failNode_concluded unfinished, fun updated => ?_⟩
      by_cases succeeds : RunStatus.ofName (runner.textCase.lower handoff.status) = .success
      · have row : calls.completion.rowUpdated = true := by simpa using updated
        have after : calls.completion.rowQueued = true ∧ calls.completion.response.isOk = true := by
          simpa [raisesAfterSuccess, extracted, found, succeeds, row] using quiet
        refine ⟨fun missing => ?_, fun _ => ⟨fun _ _ => ?_, fun error raised => ?_⟩⟩
        · simp [after.1] at missing
        · exact unfinished.commit_success
        · simp [raised, Except.toBool] at after
      · have handed : NoSuccess (engine.handOff (.handedOff status)
            (.ofName (runner.textCase.lower handoff.status)) node handoff.jobLogId) :=
          unfinished.commit succeeds
        refine ⟨fun _ => failNode_concluded handed, fun _ => ⟨fun _ _ => handed.final, fun error _ => ?_⟩⟩
        exact failNode_concluded handed

theorem parkOnWait_concluded :
    (parkOnWait calls node waitFor pending).Yields engine Concluded
      (fun _ after => SuccessFinal after.commits) := by
  have parked : (parkOnWait calls node waitFor pending).Keeps NoSuccess :=
    noSuccess_stable.parkedOnWait
  refine (parked engine unfinished).mono (fun handled after held => ?_) fun _ _ held => held.final
  cases handled with
  | final => exact held.final
  | retry | advance => exact held

theorem handleNodeStatus_concluded
    (undisturbed : completes status = true → node ∈ runner.flow.endNodes →
      raisesAfterSuccess runner calls.completion (completionState status engine.state) = false) :
    (handleNodeStatus runner calls node result status).Yields engine Concluded
      (fun _ after => SuccessFinal after.commits) := by
  refine handleNodeStatus_yields (fun _ => unfinished) (fun _ _ => failNode_concluded unfinished)
    (fun _ _ _ => parkOnWait_concluded unfinished) fun goesOn => ?_
  exact maybeFinalizeCompletion_concluded (noSuccess_stable.withState _ unfinished) (undisturbed goesOn)

end

def TurnConcluded : Turn → Engine → Prop
  | .final _, after => SuccessFinal after.commits
  | .again _, after => NoSuccess after

theorem finishNode_concluded (unfinished : NoSuccess engine)
    (undisturbed : ∀ status, result.status = some status → completes status = true →
      node ∈ runner.flow.endNodes → raisesAfterSuccess runner calls.completion
        (completionState status (mergedState status engine.state result)) = false) :
    (finishNode runner calls node snapshot result).Yields engine TurnConcluded
      (fun _ after => SuccessFinal after.commits) := by
  simp only [finishNode]
  split
  · exact unfinished.final
  case h_2 status reported =>
    simp only [yields_bind, yields_call]
    refine ⟨fun _ _ => ?_, fun _ _ => (noSuccess_stable.record _ unfinished).final⟩
    refine mergeSuperstep_single.mono ?_ fun _ _ absurd => absurd.elim
    intro _ merged same
    subst same
    have recorded (rows : List FlowHistory) :
        NoSuccess ((engine.record rows).withState (mergedState status engine.state result)) :=
      noSuccess_stable.withState _ (noSuccess_stable.record rows unfinished)
    refine (handleNodeStatus_concluded (recorded _) (undisturbed status reported)).mono ?_
      fun _ _ held => held
    intro handled after held
    cases handled with
    | retry | final response => exact held
    | advance =>
      simp only [yields_bind]
      have moved : (advanceToNextNode runner calls node status).Keeps NoSuccess :=
        noSuccess_stable.advanceToNextNode fun _ _ _ other => other.commit other.row
      refine (moved after held).mono (fun reached last open' => ?_) fun _ _ open' => open'.final
      cases reached with
      | inl => exact open'.final
      | inr => exact open'

theorem iteration_concluded (unfinished : NoSuccess engine)
    (undisturbed : ∀ result status, calls.node.outcome = .ok result → result.status = some status →
      completes status = true → node ∈ runner.flow.endNodes → raisesAfterSuccess runner calls.completion
          (completionState status (mergedState status calls.node.after result)) = false) :
    (iteration runner calls node).Yields engine TurnConcluded
      (fun _ after => SuccessFinal after.commits) := by
  simp only [iteration, yields_ite, yields_bind, yields_read, yields_call]
  refine ⟨fun _ => unfinished.final, fun _ => ⟨fun _ _ => ?_, fun _ _ => unfinished.final⟩⟩
  have kept : (executeCurrentNode runner calls node).Keeps NoSuccess :=
    noSuccess_stable.executeCurrentNode
  refine ((kept engine unfinished).and executeCurrentNode_yields).mono ?_ fun _ _ held => held.1.final
  intro answer after held
  obtain ⟨open', reached⟩ := held
  cases answer with
  | inl => exact open'.final
  | inr result =>
    simp only [yields_ite]
    refine ⟨fun _ => open'.final, fun _ => finishNode_concluded open' fun status reported => ?_⟩
    rw [reached.state]
    exact undisturbed result status reached.outcome reported

/-- No call of this iteration raises after it committed `success`: a condition
on what the node did and on the calls of its completion. -/
def Undisturbed (runner : Runner) (machine : Machine) (calls : Calls) : Prop :=
  ∀ node result status, machine.control = .at node → node ∈ runner.flow.endNodes →
    calls.node.outcome = .ok result → result.status = some status → completes status = true →
      raisesAfterSuccess runner calls.completion
        (completionState status (mergedState status calls.node.after result)) = false

structure Machine.Conclusive (machine : Machine) : Prop where
  log : SuccessFinal machine.engine.commits
  inside : ∀ node, machine.control = .at node → NoSuccess machine.engine

theorem step_conclusive (undisturbed : Undisturbed runner machine calls) (conclusive : machine.Conclusive)
    (stepped : (engineLoop runner).step machine calls = some next) : next.Conclusive := by
  simp only [engineLoop] at stepped
  split at stepped <;> cases stepped
  case h_1 node located =>
    have concluded := iteration_concluded (conclusive.inside node located)
      fun result status outcome reported goesOn ends =>
        undisturbed node result status located ends outcome reported goesOn
    generalize ran : (iteration runner calls node).run machine.engine = ended
    obtain ⟨outcome, after⟩ := ended
    rcases outcome with error | next | response
    · exact ⟨concluded.raises ran, by simp [Machine.after]⟩
    · have open' : NoSuccess after := concluded.returned ran
      exact ⟨open'.final, fun _ _ => open'⟩
    · exact ⟨concluded.returned ran, by simp [Machine.after]⟩

theorem entered_noSuccess {run : FlowRun} (entered : Entered runner run machine)
    (unfinished : run.status ≠ .success) : NoSuccess machine.engine := by
  have stable : EntryStable NoSuccess := by
    refine ⟨fun {engine point} after _ allowed other => other.commit ?_, fun state other => ?_⟩
    · rcases allowed with same | executing | failed | dead
      · rw [same]
        exact other.row
      all_goals simp_all
    · exact ⟨other.row, other.commits⟩
  exact stable.entered entered fun _ => ⟨unfinished, by simp [Engine.fresh]⟩

/-- A committed `success` is final: in every call on a run that is not `success`
yet, whose iterations raise nothing after such a commit, no commit after it
writes another status. -/
theorem success_commit_final {run : FlowRun} {initial final : Machine} {iterations : List Calls}
    (entered : Entered runner run initial) (unfinished : run.status ≠ .success)
    (met : (engineLoop runner).Meets (Undisturbed runner) initial iterations)
    (ran : (engineLoop runner).run initial iterations = some final) : SuccessFinal final.engine.commits := by
  have start := entered_noSuccess entered unfinished
  have conclusive : final.Conclusive :=
    StepSystem.invariant step_conclusive met ⟨start.final, fun _ _ => start⟩ ran
  exact conclusive.log

theorem success_commit_final_of_quiet :
    ∃ final, (engineLoop oneNodeRunner).run
        (start oneNodeRunner (fun _ => "s") ∅ .null (.quiet "t")) [workReturning ∅] = some final ∧
      final.engine.commits.map (·.run.status) = [.success, .running, .running] ∧
      SuccessFinal final.engine.commits := by
  refine ⟨_, rfl, rfl, @success_commit_final oneNodeRunner _ _ _ [workReturning ∅]
    (.started (fun _ => "s") ∅ .null (.quiet "t")) (by simp [startedRun]) ?_ rfl⟩
  refine .cons ?_ rfl trivial
  intro node result status first _ second third _
  cases second
  cases third
  rfl

/-- The completion event cannot be emitted: the run is committed as `success`
and then as `failed`. -/
theorem success_commit_not_final :
    ∃ final, (engineLoop oneNodeRunner).run
        (start oneNodeRunner (fun _ => "s") ∅ .null (.quiet "t"))
        [{ workReturning ∅ with
            completion := ⟨.ok (), .error ⟨.other, "event store down"⟩, .ok (), true, true⟩ }]
          = some final ∧
      final.engine.commits.map (·.run.status) = [.failed, .success, .running, .running] ∧
      ¬SuccessFinal final.engine.commits := by
  refine ⟨_, rfl, rfl, fun final => ?_⟩
  have last := List.rel_of_pairwise_cons final List.mem_cons_self rfl
  cases last

end AindyRuntime.FlowEngine
