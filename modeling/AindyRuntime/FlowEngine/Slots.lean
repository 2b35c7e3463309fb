import AindyRuntime.FlowEngine.NodeEntry
import AindyRuntime.FlowEngine.Resume

/-! # Tenant slots

The runner's counters agree with the slot it holds throughout, and every return
gives the slot back but two: the return of an async handoff, and the return
that finds the row gone.
-/

namespace AindyRuntime.FlowEngine

open Program Engine StepSystem

variable {engine : Engine}

def Engine.Balanced (engine : Engine) : Prop :=
  engine.acquired = engine.released + engine.holdsSlot.toNat

theorem Engine.Balanced.releaseSlot (balanced : engine.Balanced) : engine.releaseSlot.Balanced := by
  simp only [Engine.releaseSlot]
  split
  · simp_all [Engine.Balanced]
  · exact balanced

theorem balanced_stable : Stable Engine.Balanced where
  fail message balanced := Engine.Balanced.releaseSlot balanced
  acquire free balanced := by simp_all [Engine.Balanced, acquireSlot]
  parkOnResources node balanced := balanced
  parkOnWait node waitFor balanced := Engine.Balanced.releaseSlot balanced
  enterNode node balanced := balanced
  withState state balanced := balanced
  record rows balanced := balanced

theorem iteration_balanced : (iteration runner calls node).Keeps Engine.Balanced := by
  refine balanced_stable.iteration (fun status => ?_) fun point engine next balanced => balanced
  exact balanced_stable.maybeFinalizeCompletion (fun engine point balanced => balanced.releaseSlot)
    fun engine point status node jobLogId balanced => balanced

def handsOff (runner : Runner) (calls : Calls) (state : State) : Bool :=
  match extractExecutionResult runner state with
  | .error _ => false
  | .ok result =>
    (extractAsyncHandoff runner result).isSome && calls.completion.rowUpdated
      && calls.completion.rowQueued && calls.completion.response.isOk

def endsInHandoff (runner : Runner) (calls : Calls) (node status : String) (state : State) : Bool :=
  match status with
  | "RETRY" | "FAILURE" | "WAIT" => false
  | "SUCCESS" => decide (node ∈ runner.flow.endNodes) &&
      handsOff runner calls (state.erase pendingRequestKey)
  | _ => decide (node ∈ runner.flow.endNodes) && handsOff runner calls state

/-- A node that returned `result` ends the call with its slot still taken: the
row is gone by then, or the run is handed off. -/
def keepsSlot (runner : Runner) (calls : Calls) (node : String) (result : NodeResult) : Bool :=
  !calls.runFoundAfter || match result.status with
    | none => false
    | some status => endsInHandoff runner calls node status (mergedState status calls.node.after result)

/-- The iteration returns without giving its slot back: the row is gone while
the runner holds a slot, or an end node hands off. -/
def leaksSlot (runner : Runner) (calls : Calls) (node : String) (engine : Engine) : Bool :=
  if !calls.runFound then engine.holdsSlot
  else holdsAtNode engine calls && nodeReturns runner calls node &&
    match calls.node.outcome with
    | .ok result => keepsSlot runner calls node result
    | .error _ => false

def LeavesSlot (expected : Bool) : NodeResponse → Engine → Prop
  | .retry, _ => True
  | .advance, _ => expected = false
  | .final _, after => after.holdsSlot = expected

theorem failNode_slot (free : expected = false) :
    (failNode calls message node).Returns engine (LeavesSlot expected) := by
  simp only [failNode, yields_bind]
  refine failExecution_yields.into ?_
  intro response _ same
  subst same
  exact fail_holdsSlot.trans free.symm

theorem maybeFinalizeCompletion_slot :
    (maybeFinalizeCompletion runner calls node status).Returns engine
      (LeavesSlot (engine.holdsSlot &&
        (decide (node ∈ runner.flow.endNodes) && handsOff runner calls engine.state))) := by
  simp only [maybeFinalizeCompletion]
  split
  case isTrue passes => simp [LeavesSlot, passes]
  case isFalse ends =>
    simp only [yields_attempt, yields_bind, yields_call]
    refine ⟨fun result extracted => ?_, fun error extracted => ?_⟩
    · cases found : extractAsyncHandoff runner result with
      | none =>
        have stays : handsOff runner calls engine.state = false := by
          simp [handsOff, extracted, found]
        simp only [yields_bind, yields_call, yields_pure, stays, Bool.and_false]
        refine ⟨fun _ _ => ⟨fun units _ => ⟨fun _ _ => ⟨fun _ _ => ?_, ?_⟩, ?_⟩, ?_⟩, ?_⟩
        · exact releaseSlot_holdsSlot
        all_goals exact fun error _ => failNode_slot rfl
      | some =>
        simp only [yields_ite, yields_bind, yields_call, yields_modify, yields_pure]
        refine ⟨fun missing => failNode_slot ?_, fun updated => ⟨fun missing => failNode_slot ?_,
          fun queued => ⟨fun _ responded => ?_, fun error raised => failNode_slot ?_⟩⟩⟩
        · simp_all [handsOff]
        · simp_all [handsOff]
        · have hands : handsOff runner calls engine.state = true := by
            simp_all [handsOff, Except.toBool]
          have ending : node ∈ runner.flow.endNodes := by simpa using ends
          simp [LeavesSlot, hands, ending, handOff, commit]
        · simp_all [handsOff, Except.toBool]
    · exact failNode_slot (by simp [handsOff, extracted])

theorem parkOnWait_slot :
    (parkOnWait calls node waitFor pending).Returns engine (LeavesSlot false) := by
  simp only [parkOnWait, yields_bind, yields_call, yields_pure]
  refine ⟨fun _ _ => ⟨fun _ _ => ?_, fun _ _ => trivial⟩, fun _ _ => trivial⟩
  exact releaseSlot_holdsSlot

theorem endsInHandoff_eq {state : State} :
    endsInHandoff runner calls node status state = (completes status &&
      (decide (node ∈ runner.flow.endNodes) && handsOff runner calls (completionState status state))) := by
  unfold endsInHandoff completes completionState
  split <;> simp_all

theorem handleNodeStatus_slot :
    (handleNodeStatus runner calls node result status).Returns engine
      (LeavesSlot (engine.holdsSlot && endsInHandoff runner calls node status engine.state)) := by
  rw [endsInHandoff_eq]
  refine handleNodeStatus_yields (fun _ => trivial) (fun stops _ => failNode_slot (by simp [stops]))
    (fun waits _ _ => ?_) fun goesOn => ?_
  · subst waits
    simp only [completes, Bool.false_and, Bool.and_false]
    exact parkOnWait_slot
  · rw [goesOn]
    exact maybeFinalizeCompletion_slot

def FreeAtResponse {Value : Type} : Response ⊕ Value → Engine → Prop
  | .inl _, after => after.holdsSlot = false
  | .inr _, _ => True

theorem failedResponse_slot {Value : Type} {failure : FailureCalls} :
    (failExecution failure message node).Returns engine
      (fun response after => FreeAtResponse (.inl response : Response ⊕ Value) after) := by
  refine failExecution_yields.into ?_
  intro _ _ same
  subst same
  exact fail_holdsSlot

theorem noNextNode_slot : (noNextNode calls node).Returns engine FreeAtResponse := by
  simp only [noNextNode, yields_bind, yields_pure]
  exact failedResponse_slot

theorem proceed_slot :
    (proceed calls node point successor).Returns engine FreeAtResponse := by
  simp only [proceed, yields_ite, yields_bind]
  refine ⟨fun _ => noNextNode_slot, fun _ => ?_⟩
  exact yields_true.into fun _ _ _ => trivial

theorem trySuperstep_slot {frontier : FanOutEdgeGroup} :
    (trySuperstep runner calls node frontier).Returns engine FreeAtResponse := by
  simp only [trySuperstep, yields_attempt, yields_bind, yields_pure]
  exact yields_true.mono (fun _ _ _ => trivial) fun _ _ _ => failedResponse_slot

theorem advanceToNextNode_slot :
    (advanceToNextNode runner calls node status).Returns engine FreeAtResponse := by
  simp only [advanceToNextNode, yields_bind, yields_read]
  split
  · simp only [yields_ite, yields_bind, yields_pure]
    exact ⟨fun _ => failedResponse_slot, fun _ => trivial⟩
  · exact noNextNode_slot
  · exact proceed_slot
  · simp only [yields_bind]
    refine trySuperstep_slot.into fun reached after free => ?_
    cases reached with
    | inl => exact free
    | inr => exact proceed_slot

def EndsWithSlot (expected : Bool) : Turn → Engine → Prop
  | .again _, _ => True
  | .final _, after => after.holdsSlot = expected

theorem finishNode_slot (reported : result.status = some status) (state : engine.state = calls.node.after) :
    (finishNode runner calls node snapshot result).Returns engine
      (EndsWithSlot (engine.holdsSlot &&
        endsInHandoff runner calls node status (mergedState status calls.node.after result))) := by
  simp only [finishNode, reported, yields_bind, yields_call]
  refine ⟨fun _ _ => ?_, fun _ _ => trivial⟩
  refine mergeSuperstep_single.into ?_
  intro _ merged same
  subst same
  rw [← state]
  refine handleNodeStatus_slot.into ?_
  intro handled after leaves
  cases handled with
  | retry => trivial
  | final => exact leaves
  | advance =>
    simp only [yields_bind]
    refine advanceToNextNode_slot.into ?_
    intro reached last free
    cases reached with
    | inl => exact free.trans (Eq.symm leaves)
    | inr => trivial

/-- An iteration that ends the call keeps its slot exactly when it leaks it. -/
theorem iteration_slot :
    (iteration runner calls node).Returns engine
      (EndsWithSlot (leaksSlot runner calls node engine)) := by
  simp only [iteration, yields_ite, yields_bind, yields_read, yields_call]
  refine ⟨fun gone => by simp [EndsWithSlot, disappeared, leaksSlot, gone], fun found => ?_⟩
  refine ⟨fun _ _ => ?_, fun _ _ => trivial⟩
  refine executeCurrentNode_yields.into ?_
  intro answer after reached
  have here : leaksSlot runner calls node engine = (holdsAtNode engine calls &&
      nodeReturns runner calls node && match calls.node.outcome with
        | .ok result => keepsSlot runner calls node result
        | .error _ => false) := by simp [leaksSlot, found]
  cases answer with
  | inl =>
    have kept : leaksSlot runner calls node engine = false := by simp [here, reached.cause]
    exact reached.slot.trans kept.symm
  | inr result =>
    have leaks : leaksSlot runner calls node engine =
        (after.holdsSlot && keepsSlot runner calls node result) := by
      simp [here, reached.slot, reached.outcome, reached.known, nodeReturns, Except.toBool]
    simp only [yields_ite]
    refine ⟨fun gone => ?_, fun present => ?_⟩
    · simp [EndsWithSlot, disappeared, leaks, keepsSlot, gone]
    · cases reported : result.status with
      | none => simp [finishNode, reported]
      | some =>
        refine (finishNode_slot reported reached.state).into ?_
        rw [leaks]
        simp [keepsSlot, present, reported]

def Engine.SlotsConserved (engine : Engine) : Prop :=
  engine.holdsSlot = false ∧ engine.released = engine.acquired

theorem Engine.Balanced.conserved_iff (balanced : engine.Balanced) :
    engine.SlotsConserved ↔ engine.holdsSlot = false := by
  refine ⟨And.left, fun free => ⟨free, ?_⟩⟩
  simp only [Engine.Balanced, free, Bool.toNat_false] at balanced
  omega

theorem entered_slotsConserved {run : FlowRun}
    (entered : Entered runner run machine) : machine.engine.SlotsConserved := by
  have stable : EntryStable SlotsConserved :=
    ⟨fun _ _ _ conserved => conserved, fun _ conserved => conserved⟩
  exact stable.entered entered fun _ => ⟨rfl, rfl⟩

def Machine.Balanced (machine : Machine) : Prop := machine.engine.Balanced

def LeakyExit (runner : Runner) (initial : Machine) (iterations : List Calls) : Prop :=
  ∃ earlier calls engine node, iterations = earlier ++ [calls] ∧
    (engineLoop runner).run initial earlier = some ⟨engine, .at node⟩ ∧
      leaksSlot runner calls node engine = true

theorem step_returned_slot (stepped : (engineLoop runner).step machine calls = some final)
    (returned : final.control = .returned response) :
    ∃ node, machine.control = .at node ∧
      final.engine.holdsSlot = leaksSlot runner calls node machine.engine := by
  simp only [engineLoop] at stepped
  split at stepped
  case h_1 node located =>
    refine ⟨node, located, ?_⟩
    cases stepped
    generalize ran : (iteration runner calls node).run machine.engine = ended at returned ⊢
    obtain ⟨outcome, _⟩ := ended
    rcases outcome with error | next | answer
    · cases returned
    · cases returned
    · exact iteration_slot.returned ran
  · cases stepped

/-- A call that returns has given its slots back unless its last iteration
leaks one. -/
theorem slots_conserved_iff {run : FlowRun} {initial final : Machine} {iterations : List Calls}
    {response : Response} (entered : Entered runner run initial)
    (ran : (engineLoop runner).run initial iterations = some final)
    (returned : final.control = .returned response) :
    final.engine.SlotsConserved ↔ ¬LeakyExit runner initial iterations := by
  have start := entered_slotsConserved entered
  have balanced : final.Balanced := by
    refine loop_keeps (fun _ _ => iteration_balanced) ?_ ran
    simp [Engine.Balanced, start.1, start.2]
  rw [Engine.Balanced.conserved_iff balanced]
  rcases List.eq_nil_or_concat iterations with rfl | ⟨earlier, calls, rfl⟩
  · cases ran
    refine ⟨fun _ => ?_, fun _ => start.1⟩
    intro held
    obtain ⟨_, _, _, _, split, _⟩ := held
    simp at split
  · rw [List.concat_eq_append] at ran ⊢
    obtain ⟨last, reached, lastStep⟩ := run_append.mp ran
    obtain ⟨_, stepped, ended⟩ := run_cons.mp lastStep
    cases ended
    obtain ⟨node, located, slot⟩ := step_returned_slot stepped returned
    obtain ⟨engine, _⟩ := last
    cases located
    constructor
    · intro free held
      obtain ⟨_, _, _, _, split, reached', leaks⟩ := held
      obtain ⟨rfl, same⟩ := List.append_inj' split rfl
      cases same
      rw [reached] at reached'
      cases reached'
      simp [slot, leaks] at free
    · intro conserved
      by_contra held
      exact conserved ⟨earlier, calls, engine, node, rfl, reached, by simpa [slot] using held⟩

theorem slots_conserved_of_success :
    ∃ final, (engineLoop oneNodeRunner).run
        (start oneNodeRunner (fun _ => "s") ∅ .null (.quiet "t")) [workReturning ∅] = some final ∧
      (∃ response, final.control = .returned response) ∧ final.engine.acquired = 1 ∧
      (final.engine.SlotsConserved ↔ ¬LeakyExit oneNodeRunner
        (start oneNodeRunner (fun _ => "s") ∅ .null (.quiet "t")) [workReturning ∅]) :=
  ⟨_, rfl, ⟨_, rfl⟩, rfl, slots_conserved_iff (.started _ _ _ _) rfl rfl⟩

/-- A result whose status is `queued` hands the run off, and the call returns
with its slot. -/
theorem slots_not_conserved_on_handoff :
    ∃ final, (engineLoop oneNodeRunner).run
        (start oneNodeRunner (fun _ => "s") ∅ .null (.quiet "t"))
          [workReturning (Dict.ofList [("status", .str "queued")])] = some final ∧
      (∃ response, final.control = .returned response) ∧
      final.engine.holdsSlot = true ∧ final.engine.acquired = 1 ∧ final.engine.released = 0 :=
  ⟨_, rfl, ⟨_, rfl⟩, rfl, rfl, rfl⟩

end AindyRuntime.FlowEngine
