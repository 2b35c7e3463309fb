import AindyRuntime.FlowEngine.NodeEntry
import AindyRuntime.FlowEngine.Resume

/-! # The retry budget of a node

`execute_node` counts the executions of a node name in the context of one call
of `resume`; `_handle_node_status` compares that count with the budget.
-/

namespace AindyRuntime.FlowEngine

open Program

variable {runner : Runner} {calls : Calls} {node : String} {engine : Engine}

/-- The count of a node is the number of its executions in this call of `resume`. -/
def Counted (engine : Engine) : Prop :=
  ∀ node, (engine.attempts.get? node).getD 0 = engine.executed.count node

theorem Counted.enterNode (counted : Counted engine) : Counted (engine.enterNode node) := by
  intro other
  have before := counted other
  by_cases same : other = node <;> simp_all [Engine.enterNode, Engine.countAttempt, eq_comm]

theorem Counted.releaseSlot (counted : Counted engine) : Counted engine.releaseSlot := by
  simp only [Engine.releaseSlot]
  split
  · exact counted
  · exact counted

theorem counted_stable : Stable Counted where
  fail _ counted := .releaseSlot counted
  acquire _ counted := counted
  parkOnResources _ counted := counted
  parkOnWait _ _ counted := .releaseSlot counted
  enterNode _ counted := counted.enterNode
  withState _ counted := counted
  record _ counted := counted

theorem counted_loop {run : FlowRun} {start : Machine}
    (entered : Entered runner run start) (ran : (engineLoop runner).run start iterations = some machine) :
    Counted machine.engine := by
  have entry : EntryStable fun engine => engine.attempts = ∅ ∧ engine.executed = [] :=
    ⟨fun _ _ _ fresh => fresh, fun _ fresh => ⟨rfl, fresh.2⟩⟩
  obtain ⟨attempts, executed⟩ := entry.entered entered fun _ => ⟨rfl, rfl⟩
  refine loop_keeps (fun calls node => ?_) ?_ ran
  · refine counted_stable.iteration (fun status => ?_) fun _ _ _ counted => counted
    exact counted_stable.maybeFinalizeCompletion (fun _ _ counted => counted.releaseSlot)
      fun _ _ _ _ _ counted => counted
  · intro node
    rw [attempts, executed]
    rfl

/-- The turn comes to the node, which asks for a retry of a retryable failure. -/
structure Retries (runner : Runner) (calls : Calls) (node : String) (engine : Engine) : Prop where
  found : calls.runFound = true
  started : calls.nodeStarted = .ok ()
  slot : admitted engine calls = true
  quota : ∃ reason, calls.checkQuota = .ok (true, reason)
  known : admitNode runner node = .ok ()
  result : ∃ result, calls.node.outcome = .ok result ∧ result.status = some "RETRY" ∧
    runner.retryable result = true
  foundAfter : calls.runFoundAfter = true
  completed : calls.nodeCompleted = .ok ()

theorem executeCurrentNode_retries (retries : Retries runner calls node engine)
    (counted : (engine.attempts.get? node).getD 0 = attempts) (outcome : calls.node.outcome = .ok result) :
    (executeCurrentNode runner calls node).Yields engine
      (fun answer after => answer = .inr result ∧ (after.attempts.get? node).getD 0 = attempts + 1)
      (fun _ _ => False) := by
  obtain ⟨_, quota⟩ := retries.quota
  simp only [executeCurrentNode, checkResources, yields_bind, yields_attempt]
  refine admit_yields.mono ?_ ?_
  · intro answer entered held
    obtain ⟨_, passed, _, same⟩ := held
    simp [passed, retries.slot, quota, executeNode, retries.known, outcome, Engine.withState,
      Engine.enterNode, Engine.countAttempt, same, counted]
  · intro error after held
    simp [retries.slot] at held

theorem handleNodeStatus_retry (retryable : runner.retryable result = true)
    (counted : (engine.attempts.get? node).getD 0 = attempts) :
    (handleNodeStatus runner calls node result "RETRY").Yields engine
      (fun handled _ => match handled with
        | .retry => (attempts : Int) < maxAttempts runner node
        | .final _ => maxAttempts runner node ≤ attempts
        | .advance => False)
      (fun _ _ => maxAttempts runner node ≤ attempts) := by
  simp only [handleNodeStatus, yields_bind, yields_read, yields_ite, yields_pure, counted, retryable,
    Bool.and_true, decide_eq_true_eq, not_lt, failNode]
  refine ⟨id, fun spent => ?_⟩
  exact failExecution_yields.mono (fun _ _ _ => spent) fun _ _ _ => spent

theorem iteration_retries (retries : Retries runner calls node engine)
    (counted : (engine.attempts.get? node).getD 0 = attempts) :
    (iteration runner calls node).Yields engine
      (fun turn _ => turn = .again node ↔ (attempts + 1 : Nat) < maxAttempts runner node)
      (fun _ _ => maxAttempts runner node ≤ (attempts + 1 : Nat)) := by
  obtain ⟨_, outcome, status, retryable⟩ := retries.result
  simp only [iteration, yields_ite, yields_bind, yields_read, yields_call, retries.found, retries.started]
  refine ⟨by simp, fun _ => ⟨fun _ _ => ?_, by simp⟩⟩
  refine (executeCurrentNode_retries retries counted outcome).mono ?_ fun _ _ absurd => absurd.elim
  intro answer entered held
  obtain ⟨rfl, entry⟩ := held
  simp only [finishNode, status, yields_ite, yields_bind, yields_modify, yields_call, retries.foundAfter,
    retries.completed]
  refine ⟨by simp, fun _ => ⟨fun _ _ => ?_, by simp⟩⟩
  refine mergeSuperstep_single.mono ?_ fun _ _ absurd => absurd.elim
  intro _ merged written
  subst written
  refine Yields.mono (handleNodeStatus_retry retryable (by exact entry)) ?_ fun _ _ spent => spent
  intro handled after held
  cases handled with
  | retry => simpa using held
  | final => simpa using held
  | advance => exact held.elim

variable (runner) in
/-- The nodes at which the turns of a call of `resume` begin. -/
def heads : Machine → List Calls → List String
  | _, [] => []
  | machine, calls :: rest =>
    match machine.control, (engineLoop runner).step machine calls with
    | .at node, some next => node :: heads next rest
    | _, _ => []

variable (runner) in
/-- The turns of the node since the flow last came to it from another one, over the
calls of `resume` from the last one back. -/
def visit : List (Machine × List Calls) → String → Nat
  | [], _ => 0
  | (start, iterations) :: earlier, node =>
    ((heads runner start iterations).reverse.takeWhile (· = node)).length +
      if (heads runner start iterations).all (· = node) then visit earlier node else 0

def cycleRunner : Runner :=
  { Runner.plain ⟨"draft", [], Dict.ofList [("draft", .list [.bare "review"]),
      ("review", .list [.bare "draft"])], ∅, Dict.ofList [("draft", 2)]⟩ ["draft", "review"] with
    retryable := fun _ => true }

def draftStart : Machine := start cycleRunner (fun _ => "s") ∅ .null (.quiet "t")

def retrying : Calls := .quiet (.returning ∅ "RETRY" ∅)

end AindyRuntime.FlowEngine
