import AindyRuntime.FlowEngine.History

/-! # When the history reconstructs the state

The fold looks at one row.  It reads back what the engine persisted after a
node as long as the node's patch says all the node did, and after a superstep
as long as the group's last branch has written every cell the group wrote.
-/

namespace AindyRuntime.FlowEngine

open Program List

variable {runner : Runner} {calls : Calls} {node : String} {engine : Engine}

def runnerOwned (cell : String) : Prop := cell = pendingRequestKey ∨ cell = superstepPartialsKey

def Reconstructs (textCase : TextCase) (history : List FlowHistory) (state : State) : Prop :=
  ∀ cell, ¬runnerOwned cell → (reconstructState textCase history).get? cell = state.get? cell

def CommitPoint.checkpoint : CommitPoint → Bool
  | .advanced status | .handedOff status | .completed status => status = "SUCCESS"
  | .superstep => true
  | _ => false

def Faithful (runner : Runner) (engine : Engine) : Prop :=
  ∀ commit ∈ engine.commits, commit.point.checkpoint = true →
    Reconstructs runner.textCase commit.history commit.run.state

theorem Faithful.commit (faithful : Faithful runner engine) {run : FlowRun}
    (new : point.checkpoint = true → Reconstructs runner.textCase engine.history run.state) :
    Faithful runner (engine.commit point run) := by
  intro commit member
  rcases mem_cons.mp member with rfl | earlier
  · exact new
  · exact faithful commit earlier

theorem Faithful.releaseSlot (faithful : Faithful runner engine) : Faithful runner engine.releaseSlot := by
  simp only [Faithful]
  rw [Engine.releaseSlot_commits]
  exact faithful

theorem faithful_stable : Stable (Faithful runner) where
  fail message faithful := (faithful.commit (by simp [CommitPoint.checkpoint])).releaseSlot
  acquire _ faithful := faithful
  parkOnResources node faithful := faithful.commit (by simp [CommitPoint.checkpoint])
  parkOnWait node waitFor faithful := (faithful.commit (by simp [CommitPoint.checkpoint])).releaseSlot
  enterNode node faithful := faithful
  withState state faithful := faithful
  record rows faithful := faithful

theorem foldsPatch_success : foldsPatch textCase "SUCCESS" = true := by
  have upper : textCase.upper "SUCCESS" = "SUCCESS" := textCase.upper_ascii "SUCCESS" (by decide)
  simp [foldsPatch, upper]

def PatchCovers (before after patch : State) : Prop :=
  ∀ cell, ¬runnerOwned cell → patch.get? cell = none → after.get? cell = before.get? cell

theorem reconstructs_node {after : State}
    (numbered : row.sequenceNumber = some engine.nextSequence) (succeeded : row.status = "SUCCESS")
    (covers : PatchCovers row.inputState after (row.outputPatch.getD ∅)) :
    Reconstructs textCase (engine.history ++ [row]) (after.update (row.outputPatch.getD ∅)) := by
  intro cell foreign
  have newest : ∀ other ∈ engine.history, other.rank < row.rank := by
    intro other member
    have below := Engine.rank_lt_nextSequence member
    simpa [FlowHistory.rank, numbered] using below
  rw [reconstructState_concat newest, foldRow, succeeded, foldsPatch_success, if_pos rfl,
    Dict.get?_update, Dict.get?_update]
  cases written : (row.outputPatch.getD ∅).get? cell with
  | some => rfl
  | none => simpa using (covers cell foreign written).symm

section

variable (reconstructs : Reconstructs textCase history state)
include reconstructs

theorem Reconstructs.erase_pending : Reconstructs textCase history (state.erase pendingRequestKey) := by
  intro cell foreign
  have kept : pendingRequestKey ≠ cell := fun same => foreign (.inl same.symm)
  rw [reconstructs cell foreign, Dict.get?_erase, if_neg kept]

theorem Reconstructs.set_partials : Reconstructs textCase history (state.set superstepPartialsKey value) := by
  intro cell foreign
  have kept : superstepPartialsKey ≠ cell := fun same => foreign (.inr same.symm)
  rw [reconstructs cell foreign, Dict.get?_set, if_neg kept]

end

def branchResult (runner : Runner) (calls : Calls) (node : String) : BranchResult :=
  match admitNode runner node with
  | .error error => (node, .error error.text)
  | .ok () => (node, (calls.branches node).outcome.mapError (·.text))

theorem branchResult_fst : (branchResult runner calls target).1 = target := by
  simp only [branchResult]
  split <;> rfl

theorem runBranch_yields :
    (runBranch runner calls target).Yields engine
      (fun branch after => branch = branchResult runner calls target ∧ SameWork engine after)
      (fun _ _ => False) := by
  simp only [runBranch, branchResult]
  cases admitNode runner target with
  | error error | ok _ => exact ⟨rfl, rfl, rfl⟩

theorem runFanOutBranches_yields :
    (runFanOutBranches runner calls targets).Yields engine
      (fun branches after => branches = targets.map (branchResult runner calls) ∧ SameWork engine after)
      (fun _ _ => False) := by
  induction targets generalizing engine with
  | nil => exact ⟨rfl, rfl, rfl⟩
  | cons target rest ih =>
    simp only [runFanOutBranches, yields_bind]
    refine runBranch_yields.mono ?_ fun _ _ absurd => absurd
    rintro _ entered ⟨rfl, first⟩
    refine ih.mono ?_ fun _ _ absurd => absurd
    rintro _ after ⟨rfl, others⟩
    exact ⟨rfl, others.1.trans first.1, others.2.trans first.2⟩

theorem statuses_get? {group : FanOutEdgeGroup} (member : target ∈ group.targets) :
    (Dict.ofList ((group.targets.map (branchResult runner calls)).map fun branch =>
      (branch.1, branch.outcome.status))).get? target = some (branchResult runner calls target).outcome.status := by
  simp only [map_map, Function.comp_def, branchResult_fst]
  exact Dict.get?_ofList_map group.distinct member

theorem branchRows_concat :
    branchRows snapshot ordinal (front ++ [last])
      = branchRows snapshot ordinal front ++ branchRows snapshot (ordinal + front.length) [last] := by
  induction front generalizing ordinal with
  | nil => rfl
  | cons first rest ih =>
    have shifted : ordinal + 1 + rest.length = ordinal + (first :: rest).length := by
      simp only [length_cons]
      omega
    simp [branchRows, ih, shifted]

theorem branchRows_rank (member : row ∈ branchRows snapshot ordinal branches) :
    row.rank < ordinal + branches.length + 1 := by
  induction branches generalizing ordinal with
  | nil => cases member
  | cons first rest ih =>
    rcases mem_cons.mp member with rfl | later
    · simp only [FlowHistory.rank, length_cons]
      omega
    · have below := ih later
      simp only [length_cons]
      omega

theorem reconstructState_superstep :
    reconstructState textCase
        (engine.history ++ branchRows snapshot engine.nextSequence (front ++ [last]))
      = if foldsPatch textCase last.outcome.status then snapshot.update last.outcome.patch
        else snapshot := by
  rw [branchRows_concat, ← append_assoc]
  apply reconstructState_concat
  intro other member
  rcases mem_append.mp member with older | sibling
  · have below := Engine.rank_lt_nextSequence older
    change other.rank < engine.nextSequence + front.length + 1
    omega
  · have below := branchRows_rank sibling
    simpa [FlowHistory.rank] using below

/-- The last branch speaks for its group: it succeeded and wrote every cell a
sibling wrote, its patch counts in the fold only if it counts in the merge, and
no cell with several writers is reduced. -/
structure LastSpeaks (runner : Runner) (front : List NodeOutcome) (last : NodeOutcome) (cell : String) :
    Prop where
  writes : ∀ outcome ∈ front, outcome.status = "SUCCESS" → outcome.patch.get? cell ≠ none →
    last.status = "SUCCESS" ∧ last.patch.get? cell ≠ none
  counts : foldsPatch runner.textCase last.status = true → last.patch.get? cell ≠ none →
    last.status = "SUCCESS"
  unreduced : 2 ≤ (valuesOf cell (landed (front ++ [last]))).length →
    ∀ policy, runner.flow.statePolicies.get? cell = some policy → policy.policy ≠ "reduce"

section Merge

theorem valuesOf_landed_concat :
    valuesOf cell (landed (front ++ [last]))
      = valuesOf cell (landed front) ++ valuesOf cell (landed [last]) := by
  simp [valuesOf, landed]

theorem valuesOf_landed_eq_nil
    (silent : ∀ outcome ∈ front, outcome.status = "SUCCESS" ∨ outcome.status = "WAIT" →
      outcome.patch.get? cell = none) : valuesOf cell (landed front) = [] := by
  simp only [valuesOf, landed, filterMap_eq_nil_iff, mem_map, mem_filter, decide_eq_true_eq]
  intro patch held
  obtain ⟨outcome, ⟨member, lands⟩, rfl⟩ := held
  exact silent outcome member lands

theorem LastSpeaks.merged_get? (speaks : LastSpeaks runner front last cell)
    (unparked : ∀ outcome ∈ front ++ [last], outcome.status ≠ "WAIT")
    (ran : mergeState runner.flow.statePolicies snapshot (landed (front ++ [last])) = (.ok (), merged)) :
    (if foldsPatch runner.textCase last.status then snapshot.update last.patch else snapshot).get? cell
      = merged.get? cell := by
  obtain ⟨_, resolved, result⟩ := @mergeState_get? _ _ _ _ cell ran
  have decided := cellValue_eq_last resolved speaks.unreduced
  rw [valuesOf_landed_concat] at decided
  by_cases counted : last.status = "SUCCESS" ∧ last.patch.get? cell ≠ none
  · obtain ⟨succeeded, written⟩ := counted
    obtain ⟨final, writes⟩ := Option.ne_none_iff_exists'.mp written
    have lastValue : valuesOf cell (landed [last]) = [final] := by
      simp [valuesOf, landed, succeeded, writes]
    rw [lastValue, getLast?_concat] at decided
    rw [succeeded, foldsPatch_success, if_pos rfl, Dict.get?_update, writes, result, decided]
  · have silent : valuesOf cell (landed (front ++ [last])) = [] := by
      apply valuesOf_landed_eq_nil
      intro outcome member lands
      have succeeded : outcome.status = "SUCCESS" := lands.resolve_right (unparked outcome member)
      by_contra written
      rcases mem_append.mp member with sibling | same
      · exact counted (speaks.writes outcome sibling succeeded written)
      · obtain rfl := mem_singleton.mp same
        exact counted ⟨succeeded, written⟩
    rw [← valuesOf_landed_concat, silent] at decided
    rw [result, decided]
    split
    case isTrue folds =>
      have absent : last.patch.get? cell = none := by
        by_contra written
        exact counted ⟨speaks.counts folds written, written⟩
      rw [Dict.get?_update, absent]
      rfl
    · rfl

end Merge

def GroupSpeaks (runner : Runner) (calls : Calls) (targets : List String) : Prop :=
  ∀ front last, targets = front ++ [last] → ∀ cell, ¬runnerOwned cell →
    LastSpeaks runner (front.map fun target => (branchResult runner calls target).outcome)
      (branchResult runner calls last).outcome cell

theorem refuseWaits_ok (passed : refuseWaits superstep branches = .ok ()) :
    ∀ outcome ∈ branches.map BranchResult.outcome, outcome.status ≠ "WAIT" := by
  intro outcome member waits
  obtain ⟨branch, listed, rfl⟩ := mem_map.mp member
  have parked : branch.waits = true := by
    obtain ⟨_, result | result⟩ := branch
    · simp [BranchResult.outcome] at waits
    · cases reported : result.status with
      | none => simp [BranchResult.outcome, reported] at waits
      | some => simpa [BranchResult.outcome, BranchResult.waits, reported] using waits
  have present : branch ∈ branches.filter BranchResult.waits := mem_filter.mpr ⟨listed, parked⟩
  simp only [refuseWaits] at passed
  split at passed
  case isTrue none =>
    rw [List.isEmpty_iff, map_eq_nil_iff] at none
    rw [none] at present
    cases present
  · cases passed

def Current (runner : Runner) (engine : Engine) : Prop :=
  Reconstructs runner.textCase engine.history engine.state

theorem notePartial_current (current : Current runner engine) :
    (notePartial outcome branches).Returns engine (fun _ => Current runner) := by
  simp only [notePartial, yields_ite, yields_bind, yields_call, yields_modify, yields_pure]
  exact ⟨fun _ => ⟨fun _ _ => current.set_partials, fun _ _ => trivial⟩, fun _ => current⟩

/-- On a cell for which the last branch speaks, its row gives the merged value. -/
theorem lastBranch_get?
    (speaks : LastSpeaks runner (front.map fun target => (branchResult runner calls target).outcome)
      (branchResult runner calls last).outcome cell)
    (came : branches = (front ++ [last]).map (branchResult runner calls))
    (passed : refuseWaits superstep branches = .ok ())
    (ran : mergeState runner.flow.statePolicies snapshot
      (landed (branches.map BranchResult.outcome)) = (.ok (), merged)) :
    (if foldsPatch runner.textCase (branchResult runner calls last).outcome.status then
        snapshot.update (branchResult runner calls last).outcome.patch
      else snapshot).get? cell = merged.get? cell := by
  have unparked := refuseWaits_ok passed
  have outcomes : branches.map BranchResult.outcome
      = front.map (fun target => (branchResult runner calls target).outcome)
        ++ [(branchResult runner calls last).outcome] := by
    simp [came]
  rw [outcomes] at unparked ran
  exact speaks.merged_get? unparked ran

/-- The rows and the merge of a group that speaks through its last branch. -/
theorem superstep_current {frontier : FanOutEdgeGroup}
    {branches : List BranchResult} {merged : State} (speaks : GroupSpeaks runner calls frontier.targets)
    (came : branches = frontier.targets.map (branchResult runner calls))
    (passed : refuseWaits superstep branches = .ok ())
    (ran : mergeState runner.flow.statePolicies engine.state
      (landed (branches.map BranchResult.outcome)) = (.ok (), merged)) :
    Current runner
      ((engine.record (branchRows engine.state engine.nextSequence branches)).withState merged) := by
  intro cell foreign
  obtain ⟨front, last, split⟩ := frontier.exists_last
  rw [split] at came
  have agreed := lastBranch_get? (speaks front last split cell foreign) came passed ran
  rw [came, map_append]
  exact (congrArg (·.get? cell) reconstructState_superstep).trans agreed

theorem executeSuperstep_current {frontier : FanOutEdgeGroup}
    (speaks : GroupSpeaks runner calls frontier.targets) :
    (executeSuperstep runner calls frontier).Returns engine (fun _ => Current runner) := by
  simp only [executeSuperstep, yields_bind]
  refine runFanOutBranches_yields.mono ?_ fun _ _ absurd => absurd.elim
  intro branches after held
  obtain ⟨came, -⟩ := held
  simp only [yields_call, mergeSuperstep, yields_bind, yields_read]
  refine ⟨fun _ passed => ⟨fun _ merged => ⟨fun _ _ => ?_, fun _ _ => trivial⟩, fun _ _ => trivial⟩,
    fun _ _ => trivial⟩
  have current := @superstep_current runner calls after _ _ branches _ speaks came passed
    (Prod.ext merged rfl)
  refine (notePartial_current current).into fun _ last reached => ?_
  exact ⟨fun _ _ => ⟨fun _ _ => reached, fun _ _ => trivial⟩, fun _ _ => trivial⟩

def Handled (runner : Runner) (status : String) : NodeResponse → Engine → Prop
  | .advance, after => Faithful runner after ∧ (status = "SUCCESS" → Current runner after)
  | _, after => Faithful runner after

section

variable (faithful : Faithful runner engine)
include faithful

theorem failNode_handled {message : Json} :
    (failNode calls message node).Yields engine (Handled runner status) (fun _ => Faithful runner) := by
  simp only [failNode, yields_bind]
  refine failExecution_yields.mono ?_ ?_
  · intro _ _ same
    subst same
    exact faithful_stable.fail message faithful
  · intro _ _ same
    subst same
    exact faithful_stable.fail message faithful

section

variable (current : status = "SUCCESS" → Current runner engine)
include current

theorem maybeFinalizeCompletion_handled :
    (maybeFinalizeCompletion runner calls node status).Yields engine (Handled runner status)
      (fun _ => Faithful runner) := by
  simp only [maybeFinalizeCompletion]
  split
  · exact ⟨faithful, current⟩
  · simp only [yields_attempt, yields_bind, yields_call]
    refine ⟨fun result _ => ?_, fun error _ => failNode_handled faithful⟩
    split
    case h_1 handoff _ =>
      have handed (point : RunStatus) : Faithful runner
          (engine.handOff (.handedOff status) point node handoff.jobLogId) := by
        apply faithful.commit
        intro checkpoint
        exact current (by simpa [CommitPoint.checkpoint] using checkpoint)
      simp only [yields_ite, yields_bind, yields_call, yields_modify, yields_pure]
      refine ⟨fun _ => failNode_handled faithful, fun _ => ⟨fun _ => failNode_handled (handed _), ?_⟩⟩
      exact fun _ => ⟨fun _ _ => handed _, fun _ _ => failNode_handled (handed _)⟩
    · have completed : Faithful runner (engine.complete (.completed status)) := by
        apply faithful.releaseSlot.commit
        intro checkpoint
        rw [Engine.releaseSlot_history]
        exact current (by simpa [CommitPoint.checkpoint] using checkpoint)
      have failed {message : Json} := @failNode_handled runner calls node _ completed status message
      simp only [yields_bind, yields_call, yields_pure]
      refine ⟨fun _ _ => ⟨fun _ _ => ⟨fun _ _ => ⟨fun _ _ => completed, ?_⟩, ?_⟩, ?_⟩, ?_⟩
      · exact fun _ _ => failed
      · exact fun _ _ => failed
      · exact fun _ _ => failed
      · exact fun _ _ => failNode_handled faithful

theorem handleNodeStatus_handled :
    (handleNodeStatus runner calls node result status).Yields engine (Handled runner status)
      (fun _ => Faithful runner) := by
  refine handleNodeStatus_yields (fun _ => faithful) (fun _ _ => failNode_handled faithful)
    (fun _ waitFor pending => ?_) fun _ => ?_
  · have parked (state : State) : Faithful runner ((engine.withState state).parkOnWait node waitFor) :=
      faithful_stable.parkOnWait node waitFor (faithful_stable.withState state faithful)
    simp only [parkOnWait, yields_bind, yields_call, yields_pure]
    exact ⟨fun _ _ => ⟨fun _ _ => parked _, fun _ _ => parked _⟩, fun _ _ => parked _⟩
  · refine maybeFinalizeCompletion_handled (faithful_stable.withState _ faithful) fun succeeded => ?_
    rw [completionState, if_pos succeeded]
    exact (current succeeded).erase_pending

end

theorem proceed_faithful (current : point.checkpoint = true → Current runner engine) :
    (proceed calls node point successor).Yields engine (fun _ => Faithful runner)
      (fun _ => Faithful runner) := by
  simp only [proceed]
  split
  · exact faithful_stable.noNextNode engine faithful
  · cases successor with
    | node => exact faithful.commit current
    | group => exact faithful

omit faithful in
theorem trySuperstep_current {frontier : FanOutEdgeGroup} (speaks : GroupSpeaks runner calls frontier.targets) :
    (trySuperstep runner calls node frontier).Returns engine
      (fun reached after => ∀ successor, reached = .inr successor → Current runner after) := by
  simp only [trySuperstep, yields_attempt, yields_bind]
  refine (executeSuperstep_current speaks).mono (fun _ _ current => ?_) fun error after _ => ?_
  · exact fun _ _ => current
  · exact failExecution_yields.into fun _ _ _ _ other => by cases other

theorem advanceToNextNode_faithful (current : status = "SUCCESS" → Current runner engine)
    (speaks : ∀ group, fanOutGroupFor runner.flow node = some group → GroupSpeaks runner calls group.targets) :
    (advanceToNextNode runner calls node status).Yields engine (fun _ => Faithful runner)
      (fun _ => Faithful runner) := by
  simp only [advanceToNextNode, yields_bind, yields_read]
  split
  · simp only [yields_ite, yields_bind, yields_pure]
    exact ⟨fun _ => faithful_stable.failExecution engine faithful, fun _ => faithful⟩
  · exact faithful_stable.noNextNode engine faithful
  · apply proceed_faithful faithful
    intro checkpoint
    exact current (by simpa [CommitPoint.checkpoint] using checkpoint)
  case h_4 group resolved =>
    have declared := speaks group (resolveFrontier_superstep resolved)
    simp only [yields_bind]
    have kept : (trySuperstep runner calls node group).Keeps (Faithful runner) :=
      faithful_stable.trySuperstep
    refine ((kept engine faithful).and (trySuperstep_current declared)).mono ?_ fun _ _ held => held.1
    intro reached after given
    obtain ⟨held, current⟩ := given
    cases reached with
    | inl => exact held
    | inr successor => exact proceed_faithful held fun _ => current successor rfl

theorem finishNode_faithful
    (covers : result.status = some "SUCCESS" → PatchCovers snapshot engine.state (result.outputPatch.getD ∅))
    (speaks : ∀ group, fanOutGroupFor runner.flow node = some group → GroupSpeaks runner calls group.targets) :
    (finishNode runner calls node snapshot result).Yields engine (fun _ => Faithful runner)
      (fun _ => Faithful runner) := by
  simp only [finishNode]
  split
  · exact faithful
  case h_2 reported =>
    simp only [yields_bind, yields_call]
    refine ⟨fun _ _ => ?_, fun _ _ => faithful⟩
    refine mergeSuperstep_single.mono ?_ fun _ _ absurd => absurd.elim
    intro _ merged same
    subst same
    have recorded (row : FlowHistory) (state : State) :
        Faithful runner ((engine.record [row]).withState state) := faithful
    refine (handleNodeStatus_handled (recorded _ _) ?_).mono ?_ fun _ _ held => held
    · intro same
      subst same
      exact reconstructs_node rfl rfl (covers reported)
    · intro handled after held
      cases handled with
      | retry | final response => exact held
      | advance =>
        simp only [yields_bind]
        refine (advanceToNextNode_faithful held.1 held.2 speaks).mono ?_ fun _ _ last => last
        intro reached last kept
        cases reached <;> exact kept

end

/-- The rows this iteration leaves tell what it does to the dictionary: a node
that succeeds puts what it changes into its patch, and the group behind the
node speaks through its last branch. -/
structure RowsTell (runner : Runner) (machine : Machine) (calls : Calls) : Prop where
  patch : ∀ result, calls.node.outcome = .ok result → result.status = some "SUCCESS" →
    PatchCovers machine.engine.state calls.node.after (result.outputPatch.getD ∅)
  group : ∀ node group, machine.control = .at node → fanOutGroupFor runner.flow node = some group →
    GroupSpeaks runner calls group.targets

theorem step_faithful {next : Machine} (tell : RowsTell runner machine calls)
    (faithful : Faithful runner machine.engine)
    (stepped : (engineLoop runner).step machine calls = some next) : Faithful runner next.engine := by
  refine step_engine stepped fun node located => ?_
  simp only [iteration, yields_ite, yields_bind, yields_read, yields_call]
  refine ⟨fun _ => faithful, fun _ => ⟨fun _ _ => ?_, fun _ _ => faithful⟩⟩
  have executed : (executeCurrentNode runner calls node).Keeps (Faithful runner) :=
    faithful_stable.executeCurrentNode
  refine ((executed _ faithful).and executeCurrentNode_yields).mono ?_ fun _ _ held => held.1
  intro answer after given
  obtain ⟨held, reached⟩ := given
  cases answer with
  | inl => exact held
  | inr result =>
    simp only [yields_ite]
    refine ⟨fun _ => held, fun _ => finishNode_faithful held ?_ (tell.group node · located)⟩
    rw [reached.state]
    exact tell.patch result reached.outcome

/-- Every checkpoint of a call whose iterations leave such rows is what the
history folds to. -/
theorem history_reconstructs_checkpoints {run : FlowRun} {initial final : Machine}
    {iterations : List Calls} (entered : Entered runner run initial)
    (met : (engineLoop runner).Meets (RowsTell runner) initial iterations)
    (ran : (engineLoop runner).run initial iterations = some final) : Faithful runner final.engine := by
  have stable : EntryStable (Faithful runner) := by
    refine ⟨fun {engine point} after entry _ faithful => faithful.commit fun checkpoint => ?_,
      fun _ faithful => faithful⟩
    cases point <;> simp [CommitPoint.entry, CommitPoint.checkpoint] at entry checkpoint
  have start : Faithful runner initial.engine := by
    apply stable.entered entered
    intro _ commit logged
    cases logged
  exact @StepSystem.invariant _ _ (engineLoop runner) _ _ _ _
    (fun machine => Faithful runner machine.engine) step_faithful met start ran

def splitRunner : Runner :=
  Runner.plain
    ⟨"split", ["done"], Dict.ofList [("split", .group ⟨["left", "right"], .all, by decide, by decide, trivial⟩),
        ("left", .list [.bare "done"]), ("right", .list [.bare "done"])], ∅, ∅⟩
    ["split", "left", "right", "done"]

def splitting (patch : String → State) : Calls :=
  { workReturning ∅ with branches := fun target => .returning ∅ "SUCCESS" (patch target) }

def rightWrites (target : String) : State :=
  if target = "right" then Dict.ofList [("right", .bool true)] else ∅

theorem history_reconstructs_checkpoints_of_last_writer :
    ∃ final, (engineLoop splitRunner).run
        (start splitRunner (fun _ => "s") ∅ .null (.quiet "t")) [splitting rightWrites] = some final ∧
      final.engine.commits.map (·.point) = [.superstep, .resumed, .resumed] ∧
      Faithful splitRunner final.engine := by
  refine ⟨_, rfl, rfl, @history_reconstructs_checkpoints splitRunner _ _ _ [splitting rightWrites]
    (.started (fun _ => "s") ∅ .null (.quiet "t")) ?_ rfl⟩
  refine .cons ⟨?_, ?_⟩ rfl trivial
  · intro result first _ cell _ _
    rfl
  · intro node group first second front last listed cell _
    cases first
    cases second
    have ended : ["left"] ++ ["right"] = front ++ [last] := listed
    obtain ⟨rfl, single⟩ := append_inj' ended rfl
    cases single
    refine ⟨?_, fun _ _ => rfl, ?_⟩
    · intro outcome member _ written
      rw [mem_singleton.mp member] at written
      exact absurd rfl written
    · intro _ policy declared
      cases declared

/-- Two branches write a cell each: the fold has only the last branch's. -/
theorem history_loses_sibling_patch :
    ∃ final commit, (engineLoop splitRunner).run
        (start splitRunner (fun _ => "s") ∅ .null (.quiet "t"))
        [splitting fun target => Dict.ofList [(target, .bool true)]] = some final ∧
      commit ∈ final.engine.commits ∧ commit.point = .superstep ∧
      commit.run.state.get? "left" = some (.bool true) ∧
      (reconstructState splitRunner.textCase commit.history).get? "left" = none := by
  refine ⟨_, _, rfl, mem_cons_self, rfl, rfl, rfl⟩

end AindyRuntime.FlowEngine
