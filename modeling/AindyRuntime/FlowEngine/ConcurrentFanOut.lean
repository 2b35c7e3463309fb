import AindyRuntime.FlowEngine.Runner
import AindyRuntime.Lib.Coupling
import AindyRuntime.Lib.Threads

/-! # Supersteps with and without concurrency

`run_fan_out_branches` and what a branch shares with its siblings.
-/

namespace AindyRuntime.FlowEngine

open Thread
open Program (Couples Paired)

structure Shared (Memories : Type) where
  attempts : Dict String Nat
  state : State
  /-- The values of the runner's context other than the attempts. -/
  context : State
  memories : Memories

structure MemoryStore (Memories : Type) where
  recallFor : Memories → String → List Json
  feedback : Memories → List Json → String → Memories

variable {Memories : Type}

/-- A node function, given the memories recalled for it.  All else that it is
given it reads, and may change in place, step by step. -/
abbrev NodeFunction (Memories : Type) : Type :=
  List Json → Thread (Shared Memories) (Except PyError NodeResult)

def Shared.countAttempt (node : String) (attempt : Nat) (shared : Shared Memories) : Shared Memories :=
  { shared with attempts := shared.attempts.set node attempt }

def feedbackOutcome (result : NodeResult) : String :=
  match result.status with
  | some "SUCCESS" => "success"
  | some "FAILURE" => "failure"
  | _ => "neutral"

def Shared.recordFeedback (store : MemoryStore Memories) (recalled : List Json)
    (result : NodeResult) (shared : Shared Memories) : Shared Memories :=
  if recalled.isEmpty then shared
  else { shared with
    memories := store.feedback shared.memories recalled (feedbackOutcome result) }

variable (runner : Runner) (store : MemoryStore Memories) (functions : String → NodeFunction Memories)

def runOneBranch (node : String) : Thread (Shared Memories) BranchResult :=
  match admitNode runner node with
  | .error error => .done (node, .error error.text)
  | .ok () =>
    .look fun shared =>
    .change (Shared.countAttempt node ((shared.attempts.get? node).getD 0 + 1)) <|
    .look fun shared =>
      let recalled := store.recallFor shared.memories node
      (functions node recalled).bind fun outcome =>
        match outcome with
        | .error error => .done (node, .error error.text)
        | .ok result => .change (Shared.recordFeedback store recalled result) (.done (node, .ok result))

def maxFanOutWidth (setting : Option Nat) : Nat :=
  match setting with
  | some (width + 1) => width + 1
  | _ => 4

theorem maxFanOutWidth_pos (setting : Option Nat) : 0 < maxFanOutWidth setting := by
  rcases setting with _ | _ | width <;> simp [maxFanOutWidth]

variable (frontier : FanOutEdgeGroup)

def joinBranches (superstep : String) (branches : List BranchResult) : EngineM Successor := do
  let group := (fanOutGroupFor runner.flow superstep).getD { frontier with join := .all, bounded := trivial }
  Program.call (refuseWaits superstep branches)
  Program.modify fun engine => engine.record (branchRows engine.state engine.nextSequence branches)
  mergeSuperstep runner (branches.map BranchResult.outcome)
  let outcome := resolveJoin group
    (Dict.ofList (branches.map fun branch => (branch.1, branch.outcome.status)))
  Program.call (requireJoin superstep group.targets.length outcome)
  notePartial outcome branches
  let merged ← Program.read
  let successors ← Program.call (outcome.succeeded.mapM fun node =>
    (resolveNextNode runner.predicates runner.flow node merged.state).map fun next => (node, next))
  Program.call (converge superstep successors)

variable (engine : Engine)

def Engine.share (context : State) (memories : Memories) : Shared Memories :=
  ⟨engine.attempts, engine.state, context, memories⟩

def Engine.join (runner : Runner) (frontier : FanOutEdgeGroup)
    (branches : List BranchResult) (shared : Shared Memories) : Except PyError Successor × Engine :=
  (joinBranches runner frontier engine.run.currentNode branches).run
    { engine with attempts := shared.attempts, state := shared.state }

def sequentialSuperstep (shared : Shared Memories) : Except PyError Successor × Engine :=
  let ran := solos (runOneBranch runner store functions) frontier.targets shared
  engine.join runner frontier ran.1 ran.2

def submitted (shared : Shared Memories) : Pool String (Shared Memories) BranchResult :=
  .submit (runOneBranch runner store functions) frontier.targets shared

def observed (ended : Except PyError Successor × Engine) : Except PyError Successor × List FlowHistory × State :=
  (ended.1, ended.2.history, ended.2.state)

/-- The values of the state and the context are common to the branches; its own
attempts are a branch's own. -/
def views : Views String (Shared Memories) (State × State) (Option Nat) where
  common shared := (shared.state, shared.context)
  own node shared := shared.attempts.get? node

/-- Whatever was recalled, and whatever its siblings have done, the function
goes on in the same way; and it changes nothing that it shares with them. -/
def Independent (node : String) : Prop :=
  ∀ recalled recalled',
    (functions node recalled).Alike views node (functions node recalled')

section Branches

variable {runner : Runner} {store : MemoryStore Memories}
variable {functions : String → NodeFunction Memories}

theorem countAttempt_leaves {attempt : Nat} :
    (@views Memories).Leaves node (Shared.countAttempt node attempt) where
  common _ := rfl
  others other foreign shared := by
    simp [views, Shared.countAttempt, Ne.symm foreign]

theorem recordFeedback_leaves : views.Leaves node (Shared.recordFeedback store recalled result) where
  common shared := by
    simp only [Shared.recordFeedback]
    split <;> rfl
  others other foreign shared := by
    simp only [Shared.recordFeedback]
    split <;> rfl

theorem recordFeedback_own :
    views.own node (shared.recordFeedback store recalled result) = views.own node shared := by
  simp only [Shared.recordFeedback]
  split <;> rfl

theorem runOneBranch_confined (independent : Independent functions node) :
    (runOneBranch runner store functions node).Confined views node := by
  simp only [runOneBranch]
  cases admitNode runner node with
  | error => exact .done _
  | ok =>
    apply Alike.look
    intro shared shared' same
    have attempt : shared.attempts.get? node = shared'.attempts.get? node := same.2
    rw [attempt]
    apply Alike.step countAttempt_leaves countAttempt_leaves
    · simp [views, Shared.countAttempt]
    · intro _ _ _
      apply Alike.look
      intro seen seen' _
      refine (independent _ _).bind fun outcome => ?_
      cases outcome with
      | error => exact .done _
      | ok =>
        apply Alike.step recordFeedback_leaves recordFeedback_leaves
        · intro _ _ same
          rw [recordFeedback_own, recordFeedback_own]
          exact same.2
        · intro _ _ _
          exact .done _

end Branches

structure Aligned (engine engine' : Engine) : Prop where
  run : engine.run = engine'.run
  history : engine.history = engine'.history
  state : engine.state = engine'.state

section Join

variable {runner : Runner} {frontier : FanOutEdgeGroup}

theorem Aligned.withState {engine : Engine} (aligned : Aligned engine engine')
    (state : State) : Aligned (engine.withState state) (engine'.withState state) :=
  ⟨aligned.run, aligned.history, rfl⟩

theorem mergeSuperstep_aligned :
    (mergeSuperstep runner outcomes).Couples (mergeSuperstep runner outcomes) Aligned Eq := by
  refine .bind .read fun {engine engine'} aligned => ?_
  rw [aligned.state]
  exact .bind_eq (.modify fun aligned => aligned.withState _) fun _ => .call

theorem notePartial_aligned :
    (notePartial outcome branches).Couples (notePartial outcome branches) Aligned Eq := by
  refine .ite (fun _ => .bind .read fun {engine engine'} aligned => ?_) fun _ => .pure rfl
  rw [aligned.state]
  refine .bind_eq .call fun known => .modify fun {before before'} aligned => ?_
  rw [aligned.run, aligned.state]
  exact aligned.withState _

theorem joinBranches_aligned :
    (joinBranches runner frontier superstep branches).Couples
      (joinBranches runner frontier superstep branches) Aligned Eq := by
  refine .bind_eq .call fun _ => .bind_eq (.modify fun {before before'} aligned => ?_) fun _ => ?_
  · refine ⟨aligned.run, ?_, aligned.state⟩
    simp [Engine.record, Engine.nextSequence, aligned.history, aligned.state]
  · refine .bind_eq mergeSuperstep_aligned fun _ => .bind_eq .call fun _ => ?_
    refine .bind_eq notePartial_aligned fun _ => .bind .read fun {merged merged'} aligned => ?_
    rw [aligned.state]
    exact .bind_eq .call fun _ => .call

theorem Aligned.observed_eq
    (paired : Program.Paired Aligned Eq ended ended') : observed ended = observed ended' := by
  cases paired with
  | returned same aligned => simp [observed, same, aligned.history, aligned.state]
  | raised aligned => simp [observed, aligned.history, aligned.state]

theorem Engine.join_observed {engine : Engine}
    {shared shared' : Shared Memories} (same : shared.state = shared'.state) :
    observed (engine.join runner frontier branches shared)
      = observed (engine.join runner frontier branches shared') :=
  Aligned.observed_eq (joinBranches_aligned _ _ ⟨rfl, rfl, same⟩)

end Join

/-- Whatever order its branches are run in, the superstep ends as it does with
concurrency off; and it does end. -/
theorem concurrency_changes_timing_only
    (context : State) (memories : Memories) (width : Option Nat) (schedule : List (PoolAction String))
    (reached : Pool String (Shared Memories) BranchResult)
    (independent : ∀ node ∈ frontier.targets, Independent functions node)
    (ran : (pool (maxFanOutWidth width)).run
      (submitted runner store functions frontier (engine.share context memories)) schedule = some reached) :
    (∀ branches, reached.results? = some branches → observed (engine.join runner frontier branches reached.shared)
        = observed (sequentialSuperstep runner store functions frontier engine (engine.share context memories)))
      ∧ (reached.results? = none →
        ∃ action next, (pool (maxFanOutWidth width)).step reached action = some next) := by
  have confined : ∀ node ∈ frontier.targets,
      (runOneBranch runner store functions node).Confined views node :=
    fun node member => runOneBranch_confined (independent node member)
  refine ⟨?_, Pool.goes_on (maxFanOutWidth_pos width)⟩
  intro branches ended
  have destined := Destined.run confined ran
  have results := destined.results ended
  have alone : (solos (runOneBranch runner store functions) frontier.targets
      (engine.share context memories)).1 = branches :=
    (solos_eq frontier.distinct confined).trans results.symm
  have unchanged := @solos_common _ _ _ _ _ views (engine.share context memories) _ _ confined
  simp only [sequentialSuperstep, alone]
  apply Engine.join_observed
  exact (congrArg Prod.fst destined.common).trans (congrArg Prod.fst unchanged).symm

def fanFrontier : FanOutEdgeGroup := ⟨["fetch", "index"], .all, by decide, by decide, trivial⟩

def fanRunner : Runner :=
  Runner.plain
    ⟨"split", ["done"], Dict.ofList [("split", .group fanFrontier), ("fetch", .list [.bare "done"]),
      ("index", .list [.bare "done"])], ∅, ∅⟩
    ["split", "fetch", "index", "done"]

def fanEngine : Engine where
  run := ⟨.executing, ∅, "split", none, .null, .null, none⟩
  history := []
  state := ∅
  attempts := Dict.ofList [("split", 1)]
  holdsSlot := true
  acquired := 1
  released := 0
  executed := []
  commits := []

def noMemories : MemoryStore Unit := ⟨fun _ _ => [], fun memories _ _ => memories⟩

def reporting (count : String → Dict String Nat → Nat) (node : String) : NodeFunction Unit :=
  fun _ => .look fun shared => .done (.ok
    ⟨some "SUCCESS", some (Dict.ofList [(node, .int (count node shared.attempts))]), none, .null, none⟩)

def ownAttempts (node : String) (attempts : Dict String Nat) : Nat := (attempts.get? node).getD 0

def indexFirst : List (PoolAction String) :=
  [.start, .start] ++ List.replicate 6 (.turn "index") ++ List.replicate 6 (.turn "fetch")

theorem concurrency_changes_timing_only_of_ownAttempts :
    ∃ reached branches,
      (pool (maxFanOutWidth none)).run
          (submitted fanRunner noMemories (reporting ownAttempts) fanFrontier (fanEngine.share ∅ ()))
          indexFirst = some reached
        ∧ reached.results? = some branches
        ∧ observed (fanEngine.join fanRunner fanFrontier branches reached.shared)
          = observed (sequentialSuperstep fanRunner noMemories (reporting ownAttempts) fanFrontier
              fanEngine (fanEngine.share ∅ ())) := by
  refine ⟨_, _, rfl, rfl, (concurrency_changes_timing_only fanRunner noMemories
    (reporting ownAttempts) fanFrontier fanEngine ∅ () none indexFirst _ ?_ rfl).1 _ rfl⟩
  intro node _ recalled recalled'
  apply Alike.look
  intro shared shared' same
  have own : shared.attempts.get? node = shared'.attempts.get? node := same.2
  simp only [ownAttempts, own]
  exact .done _

/-- The attempts are one table for all branches: a branch that looks at it sees
how far its siblings have come. -/
theorem branch_reads_sibling_attempts :
    ∃ reached branches,
      (pool (maxFanOutWidth none)).run
          (submitted fanRunner noMemories (reporting fun _ attempts => attempts.entries.length)
            fanFrontier (fanEngine.share ∅ ()))
          indexFirst = some reached
        ∧ reached.results? = some branches
        ∧ (fanEngine.join fanRunner fanFrontier branches reached.shared).2.history.map
            (·.outputPatch)
          = [some (Dict.ofList [("fetch", .int 3)]), some (Dict.ofList [("index", .int 2)])]
        ∧ (sequentialSuperstep fanRunner noMemories
            (reporting fun _ attempts => attempts.entries.length) fanFrontier fanEngine
            (fanEngine.share ∅ ())).2.history.map (·.outputPatch)
          = [some (Dict.ofList [("fetch", .int 2)]), some (Dict.ofList [("index", .int 3)])] :=
  ⟨_, _, rfl, rfl, rfl, rfl⟩

end AindyRuntime.FlowEngine
