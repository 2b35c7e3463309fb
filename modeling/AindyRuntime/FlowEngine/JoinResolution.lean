import AindyRuntime.FlowEngine.HistoryFidelity

namespace AindyRuntime.FlowEngine

open Program List

variable {runner : Runner} {calls : Calls} {group : FanOutEdgeGroup} {engine after : Engine}

def succeeds (runner : Runner) (calls : Calls) (target : String) : Bool :=
  (branchResult runner calls target).outcome.status = "SUCCESS"

def successPatches (runner : Runner) (calls : Calls) (group : FanOutEdgeGroup) : List Patch :=
  (group.targets.filter (succeeds runner calls)).map fun target =>
    (target, (branchResult runner calls target).outcome.patch)

def isMutable : Json → Bool
  | .arr _ | .obj _ => true
  | _ => false

/-- What the branches leave of the state before their patches are merged:
`dict(state)` copies the outer dict only, so a list or a dict that a branch changes in
place is changed for the runner too. -/
def touch (change : String → Json → Json) (state : State) : State :=
  state.keys.foldl (fun state cell => state.alter cell fun value =>
    if isMutable value then change cell value else value) state

def executeSuperstepInPlace (runner : Runner) (calls : Calls) (change : String → Json → Json)
    (frontier : FanOutEdgeGroup) : EngineM Successor := do
  modify fun engine => engine.withState (touch change engine.state)
  executeSuperstep runner calls frontier

/-- The state the successors were chosen in: the SUCCESS patches merged and, if
a branch did not succeed, an entry appended that names each such branch once. -/
inductive JoinedState (runner : Runner) (calls : Calls) (group : FanOutEdgeGroup) (superstep : String)
    (merged : State) : State → Prop
  | whole (all : ∀ target ∈ group.targets, succeeds runner calls target) :
      JoinedState runner calls group superstep merged merged
  | partly {failed : List String}
      (known : listOf (((merged.get? superstepPartialsKey).getD .null).orElse (.arr [])) = .ok previous)
      (once : ∀ target, failed.count target =
        if target ∈ group.targets ∧ ¬succeeds runner calls target then 1 else 0) :
      JoinedState runner calls group superstep merged (merged.set superstepPartialsKey (.arr (previous ++
        [.obj [("superstep", .str superstep), ("join", .str group.joinLabel),
          ("succeeded", .arr ((group.targets.filter (succeeds runner calls)).map .str)),
          ("failed", .arr (failed.map fun branch =>
            .obj [("branch", .str branch), ("error", (branchResult runner calls branch).error)]))]])))

/-- A cell that no SUCCESS patch writes has the value it had. -/
def OnlyPatches (runner : Runner) (calls : Calls) (group : FanOutEdgeGroup) (before after : State) : Prop :=
  ∀ cell, (∀ patch ∈ successPatches runner calls group, patch.2.get? cell = none) →
    after.get? cell = before.get? cell

theorem outcome_node : (branchResult runner calls target).outcome.node = target := by
  simp only [branchResult]
  split
  · rfl
  · cases (calls.branches target).outcome <;> rfl

theorem landed_eq_successPatches
    (passed : refuseWaits superstep (group.targets.map (branchResult runner calls)) = .ok ()) :
    landed ((group.targets.map (branchResult runner calls)).map BranchResult.outcome)
      = successPatches runner calls group := by
  have unparked := refuseWaits_ok passed
  simp only [landed, map_map, filter_map, Function.comp_def, outcome_node]
  congr 1
  apply filter_congr
  intro target member
  have plain := unparked _ (mem_map_of_mem (mem_map_of_mem member))
  simp [succeeds, plain]

theorem resolveJoin_branches :
    resolveJoin group (Dict.ofList ((group.targets.map (branchResult runner calls)).map fun branch =>
      (branch.1, branch.outcome.status)))
      = ⟨group.joinLabel, group.requiredSuccesses, group.targets.filter (succeeds runner calls),
        group.targets.filter fun target => !succeeds runner calls target⟩ := by
  simp only [resolveJoin, JoinOutcome.mk.injEq, true_and]
  refine ⟨filter_congr fun target member => ?_, filter_congr fun target member => ?_⟩ <;>
    rw [statuses_get? member] <;> simp [succeeds]

theorem mapM_ok {Item Error Result : Type} {function : Item → Except Error Result} {items : List Item}
    {results : List Result} (mapped : items.mapM function = .ok results) {item : Item} (member : item ∈ items) :
    ∃ result ∈ results, function item = .ok result := by
  induction items generalizing results with
  | nil => cases member
  | cons first rest ih =>
    rw [mapM_cons] at mapped
    cases head : function first with
    | error => simp [head, bind, Except.bind] at mapped
    | ok result =>
      cases tail : rest.mapM function with
      | error => simp [head, tail, bind, Except.bind] at mapped
      | ok =>
        simp only [head, tail, bind, Except.bind, pure, Except.pure, Except.ok.injEq] at mapped
        subst mapped
        cases member with
        | head => exact ⟨result, mem_cons_self, head⟩
        | tail _ later =>
          obtain ⟨found, listed, given⟩ := ih tail later
          exact ⟨found, mem_cons_of_mem _ listed, given⟩

theorem converge_ok (converged : converge superstep successors = .ok successor) :
    ∀ entry ∈ successors, entry.2 = some successor := by
  unfold converge at converged
  split at converged
  case h_1 =>
    split at converged <;> cases converged
    case isTrue agreed =>
      intro entry member
      cases member with
      | head => rfl
      | tail _ later => simpa using all_eq_true.mp agreed entry later
  · cases converged

theorem errorOf_branches (member : target ∈ group.targets) :
    partialEntry.errorOf (group.targets.map (branchResult runner calls)) target
      = (branchResult runner calls target).error := by
  cases found : (group.targets.map (branchResult runner calls)).find? fun result => result.1 = target with
  | none => simpa [branchResult_fst] using find?_eq_none.mp found _ (mem_map_of_mem member)
  | some branch =>
      obtain ⟨other, _, rfl⟩ := mem_map.mp (mem_of_find?_eq_some found)
      have same : other = target := by simpa [branchResult_fst] using find?_some found
      subst same
      simp [partialEntry.errorOf, found]

theorem notePartial_joined {outcome : JoinOutcome}
    (resolved : outcome = ⟨group.joinLabel, group.requiredSuccesses, group.targets.filter (succeeds runner calls),
      group.targets.filter fun target => !succeeds runner calls target⟩)
    (satisfied : outcome.satisfied = true) :
    (notePartial outcome (group.targets.map (branchResult runner calls))).Returns engine
      (fun _ after => JoinedState runner calls group engine.run.currentNode engine.state after.state) := by
  simp only [notePartial, yields_ite, yields_bind, yields_call, yields_modify, yields_pure]
  refine ⟨fun _ => ⟨fun previous known => ?_, fun _ _ => trivial⟩, fun unbroken => .whole fun target member => ?_⟩
  · have errors := map_congr_left (l := outcome.failed) fun target member =>
      congrArg (fun error => Json.obj [("branch", .str target), ("error", error)])
        (@errorOf_branches runner calls group target (by simp_all))
    subst resolved
    simp only [partialEntry, errors]
    exact .partly known fun target => by simp [(group.distinct.filter _).count, mem_filter]
  · subst resolved
    simp only [JoinOutcome.isPartial, satisfied, Bool.true_and, Bool.not_eq_true,
      Bool.not_eq_false', List.isEmpty_iff, filter_eq_nil_iff] at unbroken
    simpa using unbroken target member

/-- How a superstep that goes on to a successor was joined. -/
structure Joined (runner : Runner) (calls : Calls) (group : FanOutEdgeGroup) (superstep : String) (before : State)
    (successor : Successor) (merged after : State) : Prop where
  unparked : ∀ target ∈ group.targets, (branchResult runner calls target).outcome.status ≠ "WAIT"
  enough : group.requiredSuccesses ≤ (group.targets.filter (succeeds runner calls)).length
  common : ∀ target ∈ group.targets, succeeds runner calls target →
    resolveNextNode runner.predicates runner.flow target after = .ok (some successor)
  patched : mergeState runner.flow.statePolicies before (successPatches runner calls group) = (.ok (), merged)
  joined : JoinedState runner calls group superstep merged after

theorem runFanOutBranches_stays :
    (runFanOutBranches runner calls targets).Keeps fun engine => engine.run.currentNode = superstep := by
  induction targets with
  | nil => exact .pure
  | cons target rest ih =>
      refine .bind ?_ fun _ => .bind ih fun _ => .pure
      simp only [runBranch]
      split
      · exact .pure
      · exact .bind (.modify fun _ same => same) fun _ => .pure

theorem executeSuperstep_joined (declared : fanOutGroupFor runner.flow engine.run.currentNode = some group) :
    (executeSuperstep runner calls group).Returns engine fun successor after => ∃ merged,
      Joined runner calls group engine.run.currentNode engine.state successor merged after.state := by
  simp only [executeSuperstep, yields_bind, yields_read, declared, Option.getD_some]
  refine (runFanOutBranches_yields.and (runFanOutBranches_stays engine rfl)).mono ?_ fun _ _ absurd => absurd.1.elim
  rintro branches entered ⟨⟨rfl, kept⟩, stays⟩
  simp only [yields_call, mergeSuperstep, yields_bind, yields_read]
  refine ⟨fun _ passed => ⟨fun _ merged => ⟨fun _ joined => ?_, fun _ _ => trivial⟩, fun _ _ => trivial⟩,
    fun _ _ => trivial⟩
  rw [resolveJoin_branches] at joined ⊢
  have enough : group.requiredSuccesses ≤ (group.targets.filter (succeeds runner calls)).length := by
    by_contra few
    simp [requireJoin, JoinOutcome.satisfied, few] at joined
  refine (notePartial_joined rfl (by simpa [JoinOutcome.satisfied] using enough)).into ?_
  intro _ last noted
  refine ⟨fun successors resolved => ⟨fun successor converged => ?_, fun _ _ => trivial⟩, fun _ _ => trivial⟩
  have start (rows : List FlowHistory) : (entered.record rows).state = engine.state := kept.1
  have node (rows : List FlowHistory) (state : State) :
      ((entered.record rows).withState state).run.currentNode = engine.run.currentNode := stays
  rw [landed_eq_successPatches passed, start] at merged noted
  rw [node] at noted
  refine ⟨_, fun target member => ?_, enough, fun target member succeeded => ?_, Prod.ext merged rfl, noted⟩
  · exact refuseWaits_ok passed _ (mem_map_of_mem (mem_map_of_mem member))
  · obtain ⟨entry, listed, given⟩ := mapM_ok resolved (mem_filter.mpr ⟨member, succeeded⟩)
    have agreed := converge_ok converged entry listed
    cases next : resolveNextNode runner.predicates runner.flow target last.state with
    | error => simp [next, Except.map] at given
    | ok =>
        simp only [next, Except.map, Except.ok.injEq] at given
        rw [← given] at agreed
        exact congrArg _ agreed

def racing : Runner :=
  Runner.plain
    ⟨"split", ["done"], Dict.ofList [("split", .group ⟨["fetch", "audit"], .any, by decide, by decide, trivial⟩),
        ("fetch", .list [.bare "done"])], ∅, ∅⟩
    ["split", "fetch", "audit", "done"]

def auditFails : Calls :=
  { workReturning ∅ with branches := fun target => .returning ∅ (if target = "fetch" then "SUCCESS" else "FAILURE") ∅ }

def logging : Engine :=
  (start racing (fun _ => "s") (Dict.ofList [("log", .arr [])]) .null (.quiet "t")).engine

end AindyRuntime.FlowEngine
