import AindyRuntime.Continuation.Counter

namespace AindyRuntime.Continuation

open FlowEngine
open Program (Couples Matched)

variable {runner : Runner} {functions : Functions} {node : String} {first second : State}

def SameStatus (left right : Response) : Prop := left.status = right.status

abbrev SameAnswer {Value : Type} : Response ⊕ Value → Response ⊕ Value → Prop := Sum.LiftRel SameStatus Eq

inductive SameResponse : NodeResponse → NodeResponse → Prop where
  | retry : SameResponse .retry .retry
  | final {left right : Response} (same : SameStatus left right) : SameResponse (.final left) (.final right)
  | advance : SameResponse .advance .advance

inductive SameTurn : Turn → Turn → Prop where
  | again (node : String) : SameTurn (.again node) (.again node)
  | final {left right : Response} (same : SameStatus left right) : SameTurn (.final left) (.final right)

theorem failExecution_couples {failure : FailureCalls} :
    (failExecution failure message node).Couples (failExecution failure message' node') AlikeEngine
      SameStatus := by
  refine .bind_eq (.modify fun alike => alike.fail) fun _ => .bind_eq .call fun _ => ?_
  exact .bind_eq .call fun _ => .bind_eq .call fun _ => .pure rfl

theorem failing_couples {Value : Type} {failure : FailureCalls} :
    (failExecution failure message node >>= fun response =>
        (pure (.inl response) : EngineM (Response ⊕ Value))).Couples
      (failExecution failure message' node >>= fun response => pure (.inl response)) AlikeEngine
      SameAnswer :=
  failExecution_couples.bind fun same => .pure (.inl same)

theorem failNode_couples :
    (failNode (answers functions node first) message node).Couples
      (failNode (answers functions node second) message' node) AlikeEngine SameResponse :=
  failExecution_couples.bind fun same => .pure (.final same)

structure Kept (before after : Engine) : Prop where
  state : after.state = before.state
  run : after.run = before.run
  commits : after.commits = before.commits
  attempts : after.attempts = before.attempts

/-- Whoever does not hold a slot is granted one, and no quota is exceeded. -/
theorem checkResources_grants (engine : Engine) :
    (checkResources (answers functions node state) node).Yields engine
      (fun answer after => answer = none ∧ Kept engine after) (fun _ _ => False) := by
  have within : (answers functions node state).checkQuota = .ok (true, "") := rfl
  have granted : (answers functions node state).canExecute = .ok (true, "") := rfl
  have same : Kept engine engine := ⟨rfl, rfl, rfl, rfl⟩
  have acquired : Kept engine engine.acquireSlot := ⟨rfl, rfl, rfl, rfl⟩
  simp only [checkResources, takeSlot, Program.yields_attempt, Program.yields_bind, Program.yields_ite,
    Program.yields_pure, Program.yields_call, Program.yields_modify]
  simp [within, granted, same, acquired]

theorem checkResources_couples :
    (checkResources (answers functions node first) node).Couples
      (checkResources (answers functions node second) node) AlikeEngine
      (fun answer answer' => answer = none ∧ answer' = none) := by
  refine .of_returns checkResources_grants checkResources_grants ?_
  rintro before before' _ _ after after' alike ⟨free, kept⟩ ⟨free', kept'⟩
  refine ⟨⟨free, free'⟩, ?_, ?_⟩
  · rw [kept.state, kept'.state]
    exact alike.state
  · rw [kept.run, kept'.run]
    exact alike.run

def SameResult (functions : Functions) (node : String) (state : State) (left right : NodeResult) : Prop :=
  left = right ∧ functions node state = .ok left

section

variable (blind : Blind runner functions)
include blind

theorem executeNode_couples (agree : Agree first second) :
    (executeNode runner node ⟨first, functions node first⟩).Couples
      (executeNode runner node ⟨second, functions node second⟩) AlikeEngine
      (SameResult functions node first) := by
  rw [← blind.function node agree]
  refine .bind_eq .call fun _ => .bind_eq (.modify fun alike => ⟨agree, alike.run⟩) fun _ => ?_
  cases outcome : functions node first with
  | error error => exact .call_matched .error
  | ok => exact .call_matched (.value ⟨rfl, outcome⟩)

theorem executeCurrentNode_couples (agree : Agree first second) :
    (executeCurrentNode runner (answers functions node first) node).Couples
      (executeCurrentNode runner (answers functions node second) node) AlikeEngine
      (Sum.LiftRel SameStatus (SameResult functions node first)) := by
  refine checkResources_couples.bind ?_
  rintro _ _ ⟨rfl, rfl⟩
  refine .attempt ((executeNode_couples blind agree).bind fun same => .pure (.inr same)) fun error => ?_
  exact .bind_eq .call fun _ => failExecution_couples.bind fun same => .pure (.inl same)

omit blind in
theorem mergeSuperstep_couples {outcomes : List NodeOutcome} :
    (mergeSuperstep runner outcomes).Couples (mergeSuperstep runner outcomes) AlikeEngine Eq := by
  refine .bind .read fun {engine engine'} alike => ?_
  obtain ⟨same, agree⟩ :=
    @Agree.mergeState _ _ alike.state runner.flow.statePolicies (landed outcomes)
  dsimp only
  rw [same]
  exact .bind_eq (.modify fun alike => alike.withState agree) fun _ => .call

omit blind in
theorem superstepPartialUnits_blind (agree : Agree first second) :
    superstepPartialUnits first = superstepPartialUnits second := by
  simp only [superstepPartialUnits]
  rw [agree superstepPartialsKey (by decide)]

theorem maybeFinalizeCompletion_couples :
    (maybeFinalizeCompletion runner (answers functions node first) node status).Couples
      (maybeFinalizeCompletion runner (answers functions node second) node status) AlikeEngine
      SameResponse := by
  refine .ite (fun _ => .pure .advance) fun _ => .attempt ?_ fun error => failNode_couples
  refine .bind .read fun {engine engine'} alike => ?_
  refine .bind (.call_matched (Matched.of_map (blind.result alike.state))) fun {result result'} same => ?_
  rw [same]
  split
  case h_1 =>
    refine .ite (fun _ => .raise) fun _ => .bind_eq (.modify fun alike => alike.handOff) fun _ => ?_
    exact .ite (fun _ => .raise) fun _ => .bind_eq .call fun _ => .pure (.final rfl)
  case h_2 =>
    refine .bind_eq .call fun _ => .bind_eq (.modify fun alike => alike.complete) fun _ => ?_
    rw [superstepPartialUnits_blind alike.state]
    exact .bind_eq .call fun _ => .bind_eq .call fun _ => .bind_eq .call fun _ => .pure (.final rfl)

omit blind in
theorem parkOnWait_couples {waitFor : String} {pending : Option Json} :
    (parkOnWait (answers functions node first) node waitFor pending).Couples
      (parkOnWait (answers functions node second) node waitFor pending) AlikeEngine SameResponse := by
  refine .bind_eq (.modify fun alike => alike.withState ?_) fun _ => ?_
  · cases pending with
    | some => exact alike.state.set
    | none => exact alike.state.erase
  · refine .bind_eq (.modify fun alike => alike.parkOnWait) fun _ => ?_
    exact .bind_eq .call fun _ => .bind_eq .call fun _ => .pure (.final rfl)

theorem handleNodeStatus_couples (settled : status ≠ "RETRY") :
    (handleNodeStatus runner (answers functions node first) node result status).Couples
      (handleNodeStatus runner (answers functions node second) node result status) AlikeEngine
      SameResponse := by
  simp only [handleNodeStatus]
  split
  · refine .bind_eq (.modify fun alike => alike.withState alike.state.erase) fun _ => ?_
    exact maybeFinalizeCompletion_couples blind
  · exact absurd rfl settled
  · exact failNode_couples
  · split
    · exact failNode_couples
    · exact failNode_couples
    · split
      · exact failNode_couples
      · exact parkOnWait_couples
  · exact maybeFinalizeCompletion_couples blind

theorem runBranch_couples (agree : Agree first second) :
    (runBranch runner (answers functions node first) branch).Couples
      (runBranch runner (answers functions node second) branch) AlikeEngine Eq := by
  have same : ((answers functions node first).branches branch).outcome =
      ((answers functions node second).branches branch).outcome :=
    blind.function branch (blind.groupState agree)
  simp only [runBranch, same]
  split
  · exact .pure rfl
  · exact .bind_eq (.modify fun alike => ⟨alike.state, alike.run⟩) fun _ => .pure rfl

theorem runFanOutBranches_couples (agree : Agree first second) :
    (runFanOutBranches runner (answers functions node first) targets).Couples
      (runFanOutBranches runner (answers functions node second) targets) AlikeEngine Eq := by
  induction targets with
  | nil => exact .pure rfl
  | cons target rest ih =>
    refine .bind_eq (runBranch_couples blind agree) fun _ => .bind_eq ih fun _ => ?_
    exact .pure rfl

omit blind in
theorem notePartial_couples {outcome : JoinOutcome} {branches : List BranchResult} :
    (notePartial outcome branches).Couples (notePartial outcome branches) AlikeEngine Eq := by
  refine .ite (fun _ => .bind .read fun {engine engine'} alike => ?_) fun _ => .pure rfl
  rw [alike.state superstepPartialsKey (by decide)]
  refine .bind_eq .call fun known => .modify fun alike => ?_
  rw [alike.run.currentNode]
  exact alike.withState alike.state.set

theorem resolveNextNode_blind (agree : Agree first second) {nodes : List String} :
    (nodes.mapM fun node =>
        (resolveNextNode runner.predicates runner.flow node first).map fun next => (node, next)) =
      nodes.mapM fun node =>
        (resolveNextNode runner.predicates runner.flow node second).map fun next => (node, next) := by
  have same : (fun node => (resolveNextNode runner.predicates runner.flow node first).map
      fun next => (node, next)) = fun node =>
        (resolveNextNode runner.predicates runner.flow node second).map fun next => (node, next) := by
    funext node
    rw [blind.edges node agree]
  rw [same]

theorem executeSuperstep_couples (agree : Agree first second) {frontier : FanOutEdgeGroup} :
    (executeSuperstep runner (answers functions node first) frontier).Couples
      (executeSuperstep runner (answers functions node second) frontier) AlikeEngine Eq := by
  refine .bind .read fun {engine engine'} alike => ?_
  rw [alike.run.currentNode]
  refine .bind_eq (runFanOutBranches_couples blind agree) fun branches => .bind_eq .call fun _ => ?_
  refine .bind_eq (.modify fun alike => ⟨alike.state, alike.run⟩) fun _ => ?_
  refine .bind_eq mergeSuperstep_couples fun _ => .bind_eq .call fun _ => ?_
  refine .bind_eq notePartial_couples fun _ => .bind .read fun {merged merged'} alike => ?_
  rw [resolveNextNode_blind blind alike.state]
  exact .bind_eq .call fun _ => .call

omit blind in
theorem noNextNode_couples :
    (noNextNode (answers functions node first) node).Couples
      (noNextNode (answers functions node second) node) AlikeEngine SameAnswer :=
  failing_couples

omit blind in
theorem proceed_couples {point : CommitPoint} {successor : Successor} :
    (proceed (answers functions node first) node point successor).Couples
      (proceed (answers functions node second) node point successor) AlikeEngine SameAnswer := by
  refine .ite (fun _ => noNextNode_couples) fun _ => .bind_eq ?_ fun _ => .pure (.inr rfl)
  cases successor with
  | node => exact .bind_eq (.modify fun alike => alike.moveTo) fun _ => .pure rfl
  | group => exact .raise

theorem advanceToNextNode_couples (agree : Agree first second) :
    (advanceToNextNode runner (answers functions node first) node status).Couples
      (advanceToNextNode runner (answers functions node second) node status) AlikeEngine
      SameAnswer := by
  refine .bind .read fun {engine engine'} alike => ?_
  rw [blind.frontier alike.state]
  split
  · exact .ite (fun _ => failing_couples) fun _ => .raise
  · exact noNextNode_couples
  · exact proceed_couples
  · refine .bind (.attempt ?_ fun error => failing_couples) fun {reached reached'} same => ?_
    · exact .bind_eq (executeSuperstep_couples blind agree) fun _ => .pure (.inr rfl)
    · cases same with
      | inl same => exact .pure (.inl same)
      | inr same =>
        cases same
        exact proceed_couples

end

def Settled (functions : Functions) (node : String) (state : State) : Prop :=
  ∀ result, functions node state = .ok result → result.status ≠ some "RETRY"

theorem finishNode_couples (blind : Blind runner functions) (agree : Agree first second)
    (settled : result.status ≠ some "RETRY") :
    (finishNode runner (answers functions node first) node snapshot result).Couples
      (finishNode runner (answers functions node second) node snapshot' result) AlikeEngine
      SameTurn := by
  simp only [finishNode]
  split
  · exact .raise
  case h_2 status reported =>
    have settled : status ≠ "RETRY" := fun retry => settled (reported.trans (congrArg some retry))
    refine .bind_eq (.modify fun alike => ⟨alike.state, alike.run⟩) fun _ => .bind_eq .call fun _ => ?_
    refine .bind_eq mergeSuperstep_couples fun _ => ?_
    refine .bind (handleNodeStatus_couples blind settled) fun {handled handled'} same => ?_
    cases same with
    | retry => exact .pure (.again node)
    | final same => exact .pure (.final same)
    | advance =>
      refine .bind (advanceToNextNode_couples blind agree) fun {reached reached'} same => ?_
      cases same with
      | inl same => exact .pure (.final same)
      | inr same =>
        cases same
        exact .pure (.again _)

theorem iteration_couples (blind : Blind runner functions) (agree : Agree first second)
    (settled : Settled functions node first) :
    (iteration runner (answers functions node first) node).Couples
      (iteration runner (answers functions node second) node) AlikeEngine SameTurn := by
  refine .ite (fun _ => .pure (.final rfl)) fun _ => .bind .read fun {engine engine'} alike => ?_
  refine .bind_eq .call fun _ => ?_
  refine .bind (executeCurrentNode_couples blind agree) fun {answer answer'} same => ?_
  cases same with
  | inl same => exact .pure (.final same)
  | inr same =>
    obtain ⟨rfl, returned⟩ := same
    exact finishNode_couples blind agree (settled _ returned)

end AindyRuntime.Continuation
