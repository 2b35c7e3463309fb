import AindyRuntime.Continuation.Driving
import AindyRuntime.FlowEngine.HistoryFidelity

namespace AindyRuntime.Continuation

open FlowEngine Program

variable {runner : Runner} {calls : Calls} {node : String} {engine : Engine}
variable {textCase : TextCase} {result : NodeResult}

/-- The fold of the engine's history is its dictionary, apart from the counter. -/
def Told (textCase : TextCase) (engine : Engine) : Prop :=
  Agree (reconstructState textCase engine.history) engine.state

def nodeRow (engine : Engine) (node : String) (result : NodeResult) (status : String) : FlowHistory where
  nodeName := node
  status := status
  inputState := engine.state
  outputPatch := result.outputPatch
  errorMessage := result.error.getD .null
  sequenceNumber := some engine.nextSequence

def Inert (textCase : TextCase) (state : State) (result : NodeResult) (status : String) : Prop :=
  foldsPatch textCase status = true → Agree (state.update (result.outputPatch.getD ∅)) state

theorem reconstructState_nodeRow :
    reconstructState textCase (engine.history ++ [nodeRow engine node result status]) =
      if foldsPatch textCase status then engine.state.update (result.outputPatch.getD ∅)
      else engine.state := by
  apply reconstructState_concat
  intro other member
  have below := Engine.rank_lt_nextSequence member
  simpa [FlowHistory.rank, nodeRow] using below

theorem Inert.nodeRow (inert : Inert textCase engine.state result status) :
    Agree (reconstructState textCase (engine.history ++ [nodeRow engine node result status]))
      engine.state := by
  rw [reconstructState_nodeRow]
  split
  case isTrue folds => exact inert folds
  case isFalse => exact .refl

/-- The row tells what a node that goes on alone leaves: a SUCCESS lands its
patch and takes a pending request out, and any other status changes nothing. -/
def RowTells (textCase : TextCase) (state : State) (result : NodeResult) (status : String) : Prop :=
  if status = "SUCCESS" then (state.update (result.outputPatch.getD ∅)).get? pendingRequestKey = none
  else Inert textCase state result status

theorem erase_of_absent (absent : state.get? key = none) : Agree (state.erase key) state := by
  intro cell _
  rw [Dict.get?_erase]
  split
  case isTrue same => rw [← same, absent]
  case isFalse => rfl

theorem RowTells.told (tells : RowTells textCase engine.state result status) (unparked : status ≠ "WAIT") :
    Told textCase ((engine.record [nodeRow engine node result status]).withState
      (completionState status (mergedState status engine.state result))) := by
  by_cases succeeded : status = "SUCCESS"
  · have absent : (engine.state.update (result.outputPatch.getD ∅)).get? pendingRequestKey = none := by
      simpa [RowTells, succeeded] using tells
    have folded := @reconstructState_nodeRow node engine textCase result status
    rw [succeeded, foldsPatch_success] at folded
    simp only [Told, Engine.withState, Engine.record, mergedState, succeeded,
      folded, if_true, true_or]
    exact (erase_of_absent absent).symm
  · have inert : Inert textCase engine.state result status := by
      simpa [RowTells, succeeded] using tells
    have kept : completionState status (mergedState status engine.state result) = engine.state := by
      simp [completionState, mergedState, succeeded, unparked]
    rw [kept]
    exact inert.nodeRow

theorem told_of_retry :
    Told textCase ((engine.record [nodeRow engine node result "RETRY"]).withState engine.state) := by
  have unfolded : foldsPatch textCase "RETRY" = false := by
    have upper : textCase.upper "RETRY" = "RETRY" := textCase.upper_ascii "RETRY" (by decide)
    simp [foldsPatch, upper]
  have inert : Inert textCase engine.state result "RETRY" := by
    intro folds
    simp [unfolded] at folds
  exact inert.nodeRow

/-- The last branch of a group tells what the group left: every branch succeeded,
so that nothing is noted as partial, and the last one speaks for every cell. -/
structure GroupTells (runner : Runner) (calls : Calls) (targets : List String) : Prop where
  succeeded : ∀ target ∈ targets, (branchResult runner calls target).outcome.status = "SUCCESS"
  speaks : ∀ front last, targets = front ++ [last] → ∀ cell,
    LastSpeaks runner (front.map fun target => (branchResult runner calls target).outcome)
      (branchResult runner calls last).outcome cell

theorem GroupTells.told {frontier : FanOutEdgeGroup}
    {branches : List BranchResult} {merged : State} (tells : GroupTells runner calls frontier.targets)
    (came : branches = frontier.targets.map (branchResult runner calls))
    (passed : refuseWaits superstep branches = .ok ())
    (ran : mergeState runner.flow.statePolicies engine.state
      (landed (branches.map BranchResult.outcome)) = (.ok (), merged)) :
    Told textCase
      ((engine.record (branchRows engine.state engine.nextSequence branches)).withState merged) := by
  intro cell _
  obtain ⟨front, last, split⟩ := frontier.exists_last
  have succeeded := tells.succeeded last (by simp [split])
  rw [split] at came
  have agreed := lastBranch_get? (tells.speaks front last split cell) came passed ran
  rw [succeeded, foldsPatch_success] at agreed
  have folded := @reconstructState_superstep engine textCase engine.state
    (front.map (branchResult runner calls)) (branchResult runner calls last)
  rw [succeeded, foldsPatch_success] at folded
  rw [came, List.map_append]
  exact (congrArg (·.get? cell) folded).trans agreed

theorem GroupTells.whole (tells : GroupTells runner calls group.targets) :
    (resolveJoin group (Dict.ofList ((group.targets.map (branchResult runner calls)).map
      fun branch => (branch.1, branch.outcome.status)))).isPartial = false := by
  have none : (resolveJoin group (Dict.ofList ((group.targets.map (branchResult runner calls)).map
      fun branch => (branch.1, branch.outcome.status)))).failed = [] := by
    simp only [resolveJoin, List.filter_eq_nil_iff]
    intro target listed
    rw [statuses_get? listed, tells.succeeded target listed]
    simp
  rw [JoinOutcome.isPartial, none]
  simp

theorem executeSuperstep_tells {frontier : FanOutEdgeGroup}
    (declared : fanOutGroupFor runner.flow engine.run.currentNode = some frontier)
    (tells : GroupTells runner calls frontier.targets) :
    (executeSuperstep runner calls frontier).Returns engine (fun _ => Told textCase) := by
  simp only [executeSuperstep, declared, Option.getD_some, yields_bind, yields_read]
  refine runFanOutBranches_yields.mono ?_ fun _ _ never => never.elim
  intro branches after held
  obtain ⟨came, -⟩ := held
  have whole := tells.whole
  rw [← came] at whole
  simp only [yields_call, mergeSuperstep, yields_bind, yields_read, notePartial,
    whole, Bool.false_eq_true, if_false, yields_pure]
  refine ⟨fun _ passed => ⟨fun _ merged => ⟨fun _ _ => ?_, fun _ _ => trivial⟩, fun _ _ => trivial⟩,
    fun _ _ => trivial⟩
  have told := @GroupTells.told runner calls after textCase _ _ branches _ tells came passed
    (Prod.ext merged rfl)
  exact ⟨fun _ _ => ⟨fun _ _ => told, fun _ _ => trivial⟩, fun _ _ => trivial⟩

/-- The iteration's last row tells what the iteration left: the node's own, or
that of the last branch of the group behind it. -/
structure IterationTells (runner : Runner) (textCase : TextCase) (calls : Calls) (node : String)
    (state : State) (result : NodeResult) (status : String) : Prop where
  alone : fanOutGroupFor runner.flow node = none → RowTells textCase state result status
  group : ∀ group, fanOutGroupFor runner.flow node = some group → GroupTells runner calls group.targets

theorem proceed_tells (told : Told textCase engine) :
    (proceed calls node point successor).Returns engine
      (fun reached after => ∀ next, reached = .inr next → Told textCase after) := by
  simp only [proceed, yields_ite, yields_bind, yields_pure]
  refine ⟨fun _ => ?_, fun _ => ?_⟩
  · simp only [noNextNode, yields_bind, yields_pure]
    exact failExecution_yields.into fun _ _ _ _ other => by cases other
  · cases successor with
    | group => trivial
    | node => exact fun _ _ => told

theorem advanceToNextNode_tells (here : engine.run.currentNode = node)
    (alone : fanOutGroupFor runner.flow node = none → Told textCase engine)
    (group : ∀ group, fanOutGroupFor runner.flow node = some group → GroupTells runner calls group.targets) :
    (advanceToNextNode runner calls node status).Returns engine
      (fun reached after => ∀ next, reached = .inr next → Told textCase after) := by
  have failing {message : Json} {after : Engine} :
      (failExecution calls.failure message node >>= fun response =>
        (pure (.inl response) : EngineM (Response ⊕ String))).Returns after
        (fun reached after => ∀ next, reached = .inr next → Told textCase after) := by
    simp only [yields_bind]
    exact failExecution_yields.into fun _ _ _ _ other => by cases other
  rw [advanceToNextNode]
  refine yields_bind.mpr (yields_read.mpr ?_)
  split
  · exact yields_ite.mpr ⟨fun _ => failing, fun _ => trivial⟩
  · exact failing
  case h_3 resolved => exact proceed_tells (alone (resolveFrontier_single resolved))
  case h_4 frontier resolved =>
    have declared := resolveFrontier_superstep resolved
    simp only [trySuperstep, yields_bind, yields_attempt]
    have branched : (executeSuperstep runner calls frontier).Returns engine (fun _ => Told textCase) :=
      executeSuperstep_tells (here ▸ declared) (group frontier declared)
    refine branched.mono ?_ ?_
    · exact fun _ _ told => proceed_tells told
    · exact fun _ _ _ => failExecution_yields.into fun _ _ _ _ other => by cases other

def LeftBy (status : String) (before : Engine) : NodeResponse → Engine → Prop
  | .retry, after => status = "RETRY" ∧ after = before
  | .final _, _ => True
  | .advance, after => status ≠ "WAIT" ∧
      after = before.withState (completionState status before.state)

theorem handleNodeStatus_left :
    (handleNodeStatus runner calls node result status).Returns engine (LeftBy status engine) := by
  refine handleNodeStatus_passes (fun _ _ => trivial) (fun retry => ⟨retry, rfl⟩) fun goesOn => ⟨?_, rfl⟩
  rintro rfl
  cases goesOn

/-- Where the loop goes on after the node's result, its history tells its state. -/
theorem finishNode_tells (here : engine.run.currentNode = node)
    (tells : ∀ status, result.status = some status →
      IterationTells runner textCase calls node engine.state result status) :
    (finishNode runner calls node engine.state result).Returns engine
      (fun turn after => ∀ next, turn = .again next → Told textCase after) := by
  simp only [finishNode]
  split
  · trivial
  case h_2 status reported =>
    have tells := tells status reported
    simp only [yields_bind, yields_call]
    refine ⟨fun _ _ => ?_, fun _ _ => trivial⟩
    refine mergeSuperstep_single.mono ?_ fun _ _ never => never.elim
    intro _ merged same
    subst same
    refine handleNodeStatus_left.into ?_
    intro handled after left
    cases handled with
    | retry =>
      obtain ⟨rfl, rfl⟩ := left
      exact fun _ _ => told_of_retry
    | final => exact fun _ other => by cases other
    | advance =>
      obtain ⟨unparked, rfl⟩ := left
      rw [yields_bind]
      refine (@advanceToNextNode_tells runner calls node _ textCase status ?_ ?_ tells.group).mono ?_
        fun _ _ _ => trivial
      · exact here
      · exact fun undeclared => (tells.alone undeclared).told unparked
      · intro reached last told
        cases reached with
        | inl => exact fun _ other => by cases other
        | inr next => exact fun _ _ => told next rfl

def TellingAt (runner : Runner) (functions : Functions) (textCase : TextCase) (node : String)
    (state : State) : Prop :=
  ∀ result status, functions node state = .ok result → result.status = some status →
    IterationTells runner textCase (answers functions node state) node state result status

theorem drive_tells (standing : machine.control = .at node) (here : machine.engine.run.currentNode = node)
    (tells : TellingAt runner functions textCase node machine.engine.state)
    (driven : drive runner functions machine = some next) (standing' : next.control = .at node') :
    Told textCase next.engine := by
  refine @drive_goes_on runner functions (fun _ => Told textCase) machine next node node' ?_ standing
    driven standing'
  refine iteration_yields (fun _ _ _ _ _ other => by cases other) fun called returned => ?_
  rw [← called.state]
  refine finishNode_tells (called.run ▸ here) fun status reported => ?_
  rw [called.state]
  exact tells _ status returned reported

end AindyRuntime.Continuation
