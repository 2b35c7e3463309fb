import AindyRuntime.FlowEngine.Stable

namespace AindyRuntime.FlowEngine

open Program Engine

variable {engine : Engine}

def quotaRefused (calls : Calls) : Bool :=
  match calls.checkQuota with
  | .ok (false, _) => true
  | _ => false

def admitted (engine : Engine) (calls : Calls) : Bool :=
  engine.holdsSlot || match calls.canExecute with
    | .ok (true, _) => true
    | _ => false

def holdsAtNode (engine : Engine) (calls : Calls) : Bool :=
  admitted engine calls && !quotaRefused calls

@[simp] theorem Engine.releaseSlot_holdsSlot : engine.releaseSlot.holdsSlot = false := by
  simp only [releaseSlot]
  split <;> simp_all

@[simp] theorem Engine.releaseSlot_state : engine.releaseSlot.state = engine.state := by
  simp only [releaseSlot]
  split <;> rfl

@[simp] theorem Engine.releaseSlot_history : engine.releaseSlot.history = engine.history := by
  simp only [releaseSlot]
  split <;> rfl

@[simp] theorem Engine.releaseSlot_run : engine.releaseSlot.run = engine.run := by
  simp only [releaseSlot]
  split <;> rfl

@[simp] theorem Engine.releaseSlot_commits : engine.releaseSlot.commits = engine.commits := by
  simp only [releaseSlot]
  split <;> rfl

@[simp] theorem Engine.fail_holdsSlot : (engine.fail message).holdsSlot = false := by
  simp [fail]

@[simp] theorem Engine.fail_state : (engine.fail message).state = engine.state := by
  simp [fail, commit]

@[simp] theorem Engine.fail_history : (engine.fail message).history = engine.history := by
  simp [fail, commit]

theorem failExecution_yields {failure : FailureCalls} :
    (failExecution failure message node).Yields engine
      (fun _ after => after = engine.fail message) (fun _ after => after = engine.fail message) := by
  simp [failExecution]

def SameWork (before after : Engine) : Prop :=
  after.state = before.state ∧ after.history = before.history

theorem admit_yields :
    (takeSlot calls).Yields engine
      (fun answer after => after.holdsSlot = admitted engine calls ∧
        answer.1 = admitted engine calls ∧ SameWork engine after ∧ after.attempts = engine.attempts)
      (fun _ after => admitted engine calls = false ∧ after = engine) := by
  simp only [takeSlot, yields_bind, yields_ite, yields_pure, yields_call, yields_modify]
  refine ⟨fun held => ?_, fun free => ⟨fun answer answered => ⟨fun yes => ?_, fun no => ?_⟩, ?_⟩⟩
  · simp [admitted, held, SameWork]
  · obtain ⟨answer, reason⟩ := answer
    simp_all [admitted, acquireSlot, SameWork]
  · obtain ⟨answer, reason⟩ := answer
    simp_all [admitted, SameWork]
  · simp_all [admitted]

theorem checkResources_yields :
    (checkResources calls node).Returns engine
      (fun answer after => SameWork engine after ∧ after.holdsSlot = holdsAtNode engine calls ∧
        (answer ≠ none → holdsAtNode engine calls = false)) := by
  simp only [checkResources, yields_attempt, yields_bind]
  refine admit_yields.mono ?_ ?_
  · intro answer entered held
    obtain ⟨slot, _, same, _⟩ := held
    simp only [yields_ite, yields_bind, yields_call, yields_pure, yields_raise]
    refine ⟨fun refused => ?_, fun passed => ⟨fun quota asked => ⟨fun exceeded => ?_, fun within => ?_⟩, ?_⟩⟩
    · have free : admitted engine calls = false := by simp_all
      have atNode : holdsAtNode engine calls = false := by simp [holdsAtNode, free]
      have slotless : (entered.parkOnResources node).holdsSlot = holdsAtNode engine calls :=
        slot.trans (free.trans atNode.symm)
      exact ⟨fun _ _ => ⟨same, slotless, fun _ => atNode⟩,
        fun error _ => ⟨fun _ => ⟨same, slotless, fun _ => atNode⟩, fun _ => trivial⟩⟩
    · obtain ⟨_, reason⟩ := quota
      have atNode : holdsAtNode engine calls = false := by simp_all [holdsAtNode, quotaRefused]
      have failed : SameWork engine (entered.fail (.str reason)) := by simpa [SameWork] using same
      refine failExecution_yields.mono ?_ ?_
      · intro response _ same
        subst same
        exact ⟨failed, fail_holdsSlot.trans atNode.symm, fun _ => atNode⟩
      · intro error _ same
        subst same
        exact ⟨fun _ => ⟨failed, fail_holdsSlot.trans atNode.symm, fun _ => atNode⟩, fun _ => trivial⟩
    · obtain ⟨within, reason⟩ := quota
      exact ⟨same, by simp_all [holdsAtNode, quotaRefused], fun some => absurd rfl some⟩
    · intro error raised
      exact ⟨fun _ => ⟨same, by simp [holdsAtNode, quotaRefused, raised, slot],
        fun some => absurd rfl some⟩, fun _ => trivial⟩
  · intro error after held
    obtain ⟨free, rfl⟩ := held
    simp only [yields_ite, yields_raise]
    refine ⟨fun _ => ⟨⟨rfl, rfl⟩, ?_, fun some => absurd rfl some⟩, fun _ => trivial⟩
    have slotless : after.holdsSlot = false := by
      simp only [admitted, Bool.or_eq_false_iff] at free
      exact free.1
    simp [holdsAtNode, free, slotless]

structure Answered (runner : Runner) (calls : Calls) (node : String) (result : NodeResult)
    (before after : Engine) : Prop where
  slot : after.holdsSlot = holdsAtNode before calls
  state : after.state = calls.node.after
  history : after.history = before.history
  known : admitNode runner node = .ok ()
  outcome : calls.node.outcome = .ok result

def nodeReturns (runner : Runner) (calls : Calls) (node : String) : Bool :=
  (admitNode runner node).isOk && calls.node.outcome.isOk

structure Unanswered (runner : Runner) (calls : Calls) (node : String) (before after : Engine) :
    Prop where
  slot : after.holdsSlot = false
  cause : (holdsAtNode before calls && nodeReturns runner calls node) = false

theorem executeCurrentNode_yields :
    (executeCurrentNode runner calls node).Returns engine
      (fun answer after => match answer with
        | .inl _ => Unanswered runner calls node engine after
        | .inr result => Answered runner calls node result engine after) := by
  simp only [executeCurrentNode, yields_bind]
  refine checkResources_yields.into ?_
  intro answer entered held
  obtain ⟨⟨_, history⟩, slot, refused⟩ := held
  cases answer with
  | some response =>
    have atNode := refused (Option.some_ne_none response)
    exact ⟨slot.trans atNode, by simp [atNode]⟩
  | none =>
    simp only [executeNode, yields_attempt, yields_bind, yields_call, yields_pure]
    have failing {after : Engine} {error : PyError} (raised : nodeReturns runner calls node = false) :
        (failExecution calls.failure (.str error.text) node).Returns after
          (fun _ after => Unanswered runner calls node engine after) := by
      refine failExecution_yields.into ?_
      intro _ _ same
      subst same
      exact ⟨fail_holdsSlot, by simp [raised]⟩
    refine ⟨fun _ known => ⟨fun result outcome => ?_, fun error raised => ?_⟩, fun error raised => ?_⟩
    · exact ⟨slot, rfl, history, known, outcome⟩
    · exact ⟨fun _ _ => failing (by simp [nodeReturns, raised, Except.toBool]), fun _ _ => trivial⟩
    · exact ⟨fun _ _ => failing (by simp [nodeReturns, raised, Except.toBool]), fun _ _ => trivial⟩

def mergedState (status : String) (state : State) (result : NodeResult) : State :=
  if status = "SUCCESS" ∨ status = "WAIT" then state.update (result.outputPatch.getD ∅) else state

theorem mergeSuperstep_single :
    (mergeSuperstep runner [⟨node, result.outputPatch.getD ∅, status⟩]).Yields engine
      (fun _ after => after = engine.withState (mergedState status engine.state result))
      (fun _ _ => False) := by
  by_cases lands : status = "SUCCESS" ∨ status = "WAIT" <;>
    simp [mergeSuperstep, landed, mergeState, mergedState, lands]

def completionState (status : String) (state : State) : State :=
  if status = "SUCCESS" then state.erase pendingRequestKey else state

def completes (status : String) : Bool :=
  match status with
  | "RETRY" | "FAILURE" | "WAIT" => false
  | _ => true

section Handled

variable {Post : NodeResponse → Engine → Prop}

/-- The status decides whether the node is run again, fails, parks the run or completes. -/
theorem handleNodeStatus_yields (retried : status = "RETRY" → Post .retry engine)
    (failed : completes status = false → ∀ message, (failNode calls message node).Yields engine Post Raised)
    (parked : status = "WAIT" → ∀ waitFor pending,
      (parkOnWait calls node waitFor pending).Yields engine Post Raised)
    (completed : completes status = true → (maybeFinalizeCompletion runner calls node status).Yields
      (engine.withState (completionState status engine.state)) Post Raised) :
    (handleNodeStatus runner calls node result status).Yields engine Post Raised := by
  simp only [handleNodeStatus]
  split
  · exact completed rfl
  · simp only [yields_bind, yields_ite, yields_pure]
    exact ⟨fun _ => retried rfl, fun _ => failed rfl _⟩
  · exact failed rfl _
  · split
    · exact failed rfl _
    · exact failed rfl _
    · split
      · exact failed rfl _
      · exact parked rfl _ _
  case h_5 success retry failure wait =>
    have goesOn : completes status = true := by
      unfold completes
      split <;> simp_all
    have same : completionState status engine.state = engine.state := if_neg success
    rw [same] at completed
    exact completed goesOn

section

variable (final : ∀ response after, Post (.final response) after)
include final

theorem failNode_final : (failNode calls message node).Returns engine Post := by
  simp only [failNode, yields_bind]
  exact yields_true.into fun _ _ _ => final _ _

theorem maybeFinalizeCompletion_passes (passed : Post .advance engine) :
    (maybeFinalizeCompletion runner calls node status).Returns engine Post := by
  simp only [maybeFinalizeCompletion, yields_ite, yields_attempt, yields_bind,
    yields_read, yields_call]
  refine ⟨fun _ => passed, fun _ => ⟨fun result _ => ?_, fun error _ => failNode_final final⟩⟩
  split
  · simp only [yields_ite, yields_bind, yields_modify, yields_call, yields_pure]
    refine ⟨fun _ => failNode_final final, fun _ => ⟨fun _ => failNode_final final, fun _ => ?_⟩⟩
    exact ⟨fun _ _ => final _ _, fun _ _ => failNode_final final⟩
  · simp only [yields_bind, yields_call, yields_pure]
    refine ⟨fun _ _ => ⟨fun _ _ => ⟨fun _ _ => ⟨fun _ _ => final _ _, ?_⟩, ?_⟩, ?_⟩, ?_⟩
    all_goals exact fun _ _ => failNode_final final

/-- Where only the way on matters: a node that completes leaves the engine as it was. -/
theorem handleNodeStatus_passes (retried : status = "RETRY" → Post .retry engine)
    (passed : completes status = true → Post .advance (engine.withState (completionState status engine.state))) :
    (handleNodeStatus runner calls node result status).Returns engine Post := by
  refine handleNodeStatus_yields retried (fun _ _ => failNode_final final) (fun _ _ _ => ?_)
    fun goesOn => maybeFinalizeCompletion_passes final (passed goesOn)
  simp only [parkOnWait, yields_bind, yields_call, yields_pure]
  exact ⟨fun _ _ => ⟨fun _ _ => final _ _, fun _ _ => trivial⟩, fun _ _ => trivial⟩

end

end Handled

end AindyRuntime.FlowEngine
