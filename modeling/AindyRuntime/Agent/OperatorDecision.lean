import AindyRuntime.Agent.Verified

/-! # The operator's decision at the authority gate -/

namespace AindyRuntime.Agent

open Program AgentFlowLife FlowWorld List Option StepSystem

/-- The row of the run has not ended. -/
def FlowWorld.Live (world : FlowWorld) : Prop :=
  ∃ run, world.run = some run ∧ (run.status = .waiting ∨ run.status = .executing)

/-- A run that has left its request is at the gate of a step. -/
structure AtOpenGate (items : List Json) (index : Nat) (pending : Json) (life : AgentFlowLife) : Prop where
  steps : life.world.state.steps = .arr items
  gate : pendingAt life.world.state index = some pending
  found : ∃ entries, items[index]? = some (.obj entries)
  index : life.world.state.currentStepIndex = index
  unattended : life.attended = false
  row : life.world.Live

/-- An abort ends the run as failed, and a skip goes on with the next step. -/
structure Honoured (items : List Json) (index : Nat) (payload : Json) (next : AgentFlowLife) : Prop where
  aborts : (readGateDecision payload).1 = .abort →
    next.control = .ended ∧ ∃ left, next.world.run = some left ∧ left.status = .failed
  skips : (readGateDecision payload).1 = .skip →
    next.control = .at (if index + 1 < items.length then .executeStep else .finalizeRun) ∧
    next.world.state.currentStepIndex = index + 1 ∧ ∃ left, next.world.run = some left ∧ left.status = .executing

/-- The check denies the step again, and the events of the negotiation and the gate are recorded. -/
structure StepCalls.Denies (calls : StepCalls) : Prop where
  denied : ∃ error, calls.authority = .error error
  negotiated : calls.fallback.isSome = true → calls.negotiated = .ok ()
  announced : calls.announced = .ok ()

/-- The calls of a turn in which the step's references and its tool give these. -/
def NodeCalls.answering (calls : NodeCalls) (tool : Nat → ToolResult) (unresolved : Option ToolResult) : NodeCalls :=
  { calls with step := { calls.step with tool, unresolved } }

variable {items : List Json} {index : Nat} {pending payload : Json} {life next : AgentFlowLife} {world : FlowWorld}
variable {calls : NodeCalls}

/-- A check that denies again reads the decision, and nothing of the tool. -/
theorem agentExecuteStep_decided {calls : StepCalls} (steps : world.state.steps = .arr items)
    (found : items[world.state.currentStepIndex]? = some (.obj entries))
    (granted : calls.fallback.isSome = true → calls.negotiated = .ok ()) (denied : calls.authority = .error error)
    (gated : pendingAt world.state world.state.currentStepIndex = some pending)
    (delivered : world.state.event = some payload) :
    (agentExecuteStep calls).run world = (decideAtGate calls world.state.currentStepIndex
      (calls.fallback.getD (stepTool (.obj entries))) pending payload).run world := by
  rw [agentExecuteStep_authorized steps found granted]
  simp only [authorizedStep, denied, authorityGate, run_bind, run_read, gated, delivered]
  generalize (decideAtGate calls _ _ pending payload).run world = decided
  obtain ⟨_ | _, _⟩ := decided <;> rfl

theorem reopen_status {run : AgentRun} (live : run.status = .waiting ∨ run.status = .executing) :
    run.reopen.status = .executing := by
  rcases live with status | status <;> simp [AgentRun.reopen, status]

theorem decideAtGate_honours {calls : StepCalls} (live : world.Live) :
    (decideAtGate calls index tool pending payload).Yields world (fun answer after =>
      ((readGateDecision payload).1 = .abort → calls.announced = .ok () ∧
        (∃ error, answer = .failure error) ∧ ∃ left, after.run = some left ∧ left.status = .failed) ∧
      ((readGateDecision payload).1 = .skip → calls.announced = .ok () ∧
        (∃ results, answer = .success (index + 1) results) ∧ after.state.steps = world.state.steps ∧
        ∃ left, after.run = some left ∧ left.status = .executing))
      (fun _ after => calls.announced ≠ .ok () ∧ after.Live) := by
  obtain ⟨_, row, live⟩ := live
  simp only [decideAtGate, yields_bind, yields_modify]
  split
  all_goals
    cases announced : calls.announced
    all_goals
      simp [*, Live, writeRun, addStep, AgentRun.markFailed, AgentRun.stepTaken, reopen_status live]

theorem leave_failed {control : FlowControl} {run : AgentRun} (row : life.world.run = some run)
    (failed : run.status = .failed) :
    ∃ left, (life.leave control (.failed error)).world.run = some left ∧ left.status = .failed := by
  simp only [AgentFlowLife.leave]
  split
  · simp [mirror, writeRun, row, AgentRun.failFlow, failed]
  · exact ⟨run, row, failed⟩

theorem honoured_of_denies (gate : AtOpenGate items index pending life) (event : life.world.state.event = some payload)
    (denies : calls.step.Denies) :
    ∃ next, (∀ tool unresolved, life.turn .executeStep (calls.answering tool unresolved) = next) ∧
      Honoured items index payload next := by
  obtain ⟨steps, gate, ⟨entries, found⟩, rfl, -, live⟩ := gate
  obtain ⟨⟨error, denied⟩, negotiated, announced⟩ := denies
  have decided tool unresolved : (agentExecuteStep (calls.answering tool unresolved).step).run life.world
      = (decideAtGate calls.step life.world.state.currentStepIndex
        (calls.step.fallback.getD (stepTool (.obj entries))) pending payload).run life.world :=
    agentExecuteStep_decided steps found negotiated denied gate event
  generalize ran : (decideAtGate calls.step _ _ pending payload).run life.world = result at decided
  obtain ⟨_ | _, _⟩ := result
  · exact absurd announced ((decideAtGate_honours live).raises ran).1
  obtain ⟨aborts, skips⟩ := (decideAtGate_honours live).returned ran
  refine ⟨life.turn .executeStep (calls.answering calls.step.tool none), ?_, ?_, ?_⟩
  · intro tool unresolved
    simp only [turn, agentNode]
    rw [decided tool, decided calls.step.tool]
  all_goals
    intro decision
    simp only [turn, agentNode]
    rw [decided]
  · obtain ⟨-, ⟨_, rfl⟩, _, found, failed⟩ := aborts decision
    exact ⟨rfl, leave_failed found failed⟩
  · obtain ⟨-, ⟨_, rfl⟩, kept, left⟩ := skips decision
    exact ⟨congrArg FlowControl.at (successor_executeStep (kept.trans steps)), rfl, left⟩

/-- Unattended, a step that raises ends the flow and leaves the row as it is. -/
theorem raised_not_honoured (unattended : life.attended = false)
    (decision : (readGateDecision payload).1 = .abort ∨ (readGateDecision payload).1 = .skip)
    (honoured : Honoured items index payload next) (ended : life.turn .executeStep calls = next) :
    ¬ (agentExecuteStep calls.step).Yields life.world (fun _ _ => False) fun _ after => after.Live := by
  intro raised
  subst ended
  obtain ⟨aborts, skips⟩ := honoured
  simp only [turn, agentNode] at aborts skips
  generalize ran : (agentExecuteStep calls.step).run life.world = ended at aborts skips
  obtain ⟨_ | _, after⟩ := ended
  · obtain ⟨left, row, live⟩ := raised.raises ran
    simp only [AgentFlowLife.leave, unattended] at aborts skips
    rcases decision with abort | skip
    · obtain ⟨-, _, same, failed⟩ := aborts abort
      cases row.symm.trans same
      simp [failed] at live
    · exact FlowControl.noConfusion (skips skip).1
  · exact raised.returned ran

theorem turn_rows : (life.turn node calls).world.rows = ((agentNode calls node).run life.world).2.rows := by
  simp only [turn]
  split <;> simp only [*, AgentFlowLife.leave] <;> split <;> rfl

theorem performStep_rows (known : resolveMaxAttempts risk = .ok maxAttempts) :
    ((performStep (calls.answering (fun _ => returned) none).step index tool risk).run world).2.rows =
      world.rows ++ [(index, ⟨tool, returned.status, returned.result, returned.error⟩)] := by
  refine @Yields.left_state _ _ _ _ _ (fun after : FlowWorld => after.rows = _) ?_
  simp [performStep, NodeCalls.answering, known, attemptTool_const, addStep, writeRun]

/-- A check that passes runs the tool, and the row of the step tells what it returned. -/
theorem denied_of_honoured (gate : AtOpenGate items index pending life)
    (negotiated : calls.step.fallback.isSome = true → calls.step.negotiated = .ok ())
    (same : ∀ tool unresolved, life.turn .executeStep (calls.answering tool unresolved) = next)
    (quiet : ¬ (agentExecuteStep (calls.answering tool none).step).Yields life.world (fun _ _ => False)
      fun _ after => after.Live) : ∃ error, calls.step.authority = .error error := by
  obtain ⟨steps, -, ⟨entries, found⟩, rfl, -, live⟩ := gate
  cases checked : calls.step.authority with
  | error error => exact ⟨error, rfl⟩
  | ok =>
      exfalso
      have performed (tool) : (agentExecuteStep (calls.answering tool none).step).run life.world =
          (performStep (calls.answering tool none).step life.world.state.currentStepIndex
            (calls.step.fallback.getD (stepTool (.obj entries))) (stepRisk (.obj entries))).run life.world := by
        rw [show (agentExecuteStep (calls.answering tool none).step).run _ = _ from
          agentExecuteStep_authorized steps found negotiated, authorizedStep]
        simp only [show (calls.answering tool none).step.authority = .ok () from checked]
        rfl
      cases risk : resolveMaxAttempts (stepRisk (.obj entries)) with
      | error =>
          refine quiet ?_
          rw [Yields, performed]
          simp [performStep, risk, live]
      | ok =>
          have rows (returned : ToolResult) := congrArg (·.world.rows) (same (fun _ => returned) none)
          simp only [turn_rows, agentNode, performed, performStep_rows risk] at rows
          simpa [ToolResult.status] using
            (rows ⟨true, .null, .null, false⟩).trans (rows ⟨false, .null, .null, false⟩).symm

/-- A decision is honoured, whatever the step's references and its tool would give, just if
the check denies again. -/
theorem operator_decision_honoured (gate : AtOpenGate items index pending life)
    (parked : life.control = .parked .executeStep)
    (decision : (readGateDecision payload).1 = .abort ∨ (readGateDecision payload).1 = .skip) (calls : NodeCalls) :
    (∃ next, (∀ tool unresolved, agentFlowLife.run life
        [.resume (some payload), .turn (calls.answering tool unresolved)] = some next) ∧
      Honoured items index payload next) ↔ calls.step.Denies := by
  let state := { life.world.state with event := some payload }
  obtain ⟨resumed, ran, gate, event⟩ : ∃ resumed : AgentFlowLife,
      (∀ calls, agentFlowLife.run life [.resume (some payload), .turn calls] =
        some (resumed.turn .executeStep calls)) ∧
      AtOpenGate items index pending resumed ∧ resumed.world.state.event = some payload := by
    refine ⟨{ life with world := { life.world with state }, control := .at .executeStep }, fun calls => ?_, ?_, rfl⟩
    · simp only [StepSystem.run, agentFlowLife, parked, some_or, bind_some, state]
    · exact ⟨gate.steps, gate.gate, gate.found, gate.index, gate.unattended, gate.row⟩
  simp only [ran, some.injEq]
  refine ⟨?_, honoured_of_denies gate event⟩
  rintro ⟨next, same, honoured⟩
  have quiet := raised_not_honoured gate.unattended decision honoured (same calls.step.tool none)
  obtain ⟨entries, found⟩ := gate.found
  obtain rfl := gate.index
  have negotiated : calls.step.fallback.isSome = true → calls.step.negotiated = .ok () := by
    intro granted
    cases ended : calls.step.negotiated with
    | ok => rfl
    | error =>
        have inside := (List.getElem?_eq_some_iff.mp found).1
        refine (quiet ?_).elim
        simp [NodeCalls.answering, agentExecuteStep, countSteps, stepAt, gate.steps, inside, granted, ended,
          gate.row]
  obtain ⟨error, denied⟩ := denied_of_honoured gate negotiated same quiet
  refine ⟨⟨error, denied⟩, negotiated, ?_⟩
  by_contra failed
  refine quiet ?_
  rw [Yields, show (agentExecuteStep (calls.answering calls.step.tool none).step).run _ = _ from
    agentExecuteStep_decided gate.steps found negotiated denied gate.gate event]
  exact (decideAtGate_honours gate.row).mono
    (fun _ _ told => failed (decision.elim (fun abort => (told.1 abort).1) fun skip => (told.2 skip).1))
    fun _ _ raised => raised.2

def sendPlan : Json := .obj [("steps", .arr [.obj [("tool", .str "send")]])]

def sendCalls : StepCalls := { StepCalls.refused "send" with fallback := none }

def gatedLife : AgentFlowLife :=
  ((started "flow" (.ok ()) sendPlan).turn .validateSteps ⟨sendCalls, .quiet⟩).turn .executeStep ⟨sendCalls, .quiet⟩

theorem gatedLife_gate : ∃ items pending, AtOpenGate items 0 pending gatedLife :=
  ⟨_, _, rfl, rfl, ⟨_, rfl⟩, rfl, rfl, _, rfl, .inl rfl⟩

def abortDecision : Json := .obj [("decision", .str "abort")]

theorem operator_decision_honoured_abort : ∃ next,
    agentFlowLife.run gatedLife [.resume (some abortDecision), turnOf sendCalls] = some next ∧
      next.control = .ended := by
  obtain ⟨_, _, gate⟩ := gatedLife_gate
  obtain ⟨next, ran, aborted, _⟩ := (@operator_decision_honoured _ _ _ abortDecision _ gate rfl (.inl rfl)
    ⟨sendCalls, .quiet⟩).mpr ⟨⟨_, rfl⟩, fun _ => rfl, rfl⟩
  exact ⟨next, ran _ _, (aborted rfl).1⟩

/-- The tool is granted while the run is parked: the abort is not read, the tool
runs and the run completes. -/
theorem abort_after_grant_runs_tool : (readGateDecision abortDecision).1 = .abort ∧
    (∃ items pending, AtOpenGate items 0 pending gatedLife) ∧
    ∃ next left, agentFlowLife.run gatedLife [.resume (some abortDecision),
        turnOf { sendCalls with authority := .ok () }, turnOf sendCalls] = some next ∧
      next.world.rows = [(0, ⟨"send", .success, .null, .null⟩)] ∧
      next.world.run = some left ∧ left.status = .completed :=
  ⟨rfl, gatedLife_gate, _, _, rfl, rfl, rfl, rfl⟩

end AindyRuntime.Agent
