import AindyRuntime.Agent.Lifecycle

namespace AindyRuntime.Agent

variable {deployment : Deployment} {chain : Chain} {plan : Json} {segments : List Segment}
variable {world after : World} {run : AgentRun} {life next : Life}

inductive Stands (segments : List Segment) (run : AgentRun) : Prop where
  | executing (status : run.status = .executing)
  | finished (status : run.status.terminal = true)
  | waiting (status : run.status = .waiting) (waitState : WaitState)
      (parked : run.waitState = some waitState) (named : waitState.eventType ≠ "")
      (bound : waitState.resumeSegmentIndex < segments.length)

structure Regular (plan : Json) (segments : List Segment) (world : World) : Prop where
  row : ∃ run, world.run = some run ∧ run.plan = plan ∧ Stands segments run
  flows : ∀ {id kind}, world.flowRuns.get? id = some kind → kind = nodusVmWorkflow

theorem Regular.same (regular : Regular plan segments world) (run : after.run = world.run)
    (flows : ∀ {id kind}, after.flowRuns.get? id = some kind →
      kind = nodusVmWorkflow ∨ world.flowRuns.get? id = some kind) : Regular plan segments after := by
  refine ⟨?_, fun found => ?_⟩
  · rw [run]
    exact regular.row
  · rcases flows found with nodus | known
    · exact nodus
    · exact regular.flows known

theorem AgentRun.cancel_plan : run.cancel.plan = run.plan := by
  simp only [AgentRun.cancel, AgentRun.cancelFor]
  split <;> rfl

theorem Stands.cancel (stands : Stands segments run) : Stands segments run.cancel := by
  simp only [AgentRun.cancel, AgentRun.cancelFor]
  split
  · exact .finished rfl
  · exact stands

theorem Regular.cancel (regular : Regular plan segments world) :
    Regular plan segments { world with run := world.run.map AgentRun.cancel } := by
  obtain ⟨run, row, planned, stands⟩ := regular.row
  refine ⟨⟨run.cancel, by simp [row], ?_, stands.cancel⟩, regular.flows⟩
  rw [AgentRun.cancel_plan, planned]

theorem conclusion_wait {segment : Segment}
    (parked : conclusion chain row segment ran steps = .parked wait) : segment.wait = some wait := by
  cases conclusion_arises parked with
  | parked _ _ waits => exact waits

theorem AgentRun.conclude_plan : (run.conclude index ran before decided).plan = run.plan := by
  cases decided <;> rfl

theorem Stands.conclude {segment : Segment} (sound : Sound segments)
    (found : segments[index]? = some segment) (waits : ∀ wait, decided = .parked wait → segment.wait = some wait)
    (stands : Stands segments run) : Stands segments (run.conclude index ran before decided) := by
  have bound : index < segments.length := (List.getElem?_eq_some_iff.mp found).1
  cases decided with
  | cancelled => exact stands
  | gated =>
    have named : authorityDecisionEvent ≠ "" := by decide
    exact .waiting rfl _ rfl named bound
  | failed | verifyFailed verdict => exact .finished rfl
  | parked wait =>
    have follows := waits wait rfl
    exact .waiting rfl _ rfl (sound.events (List.mem_of_getElem? found) follows)
      (sound.next_lt found (by simp [follows]))
  | finished completedOk =>
    refine .finished ?_
    cases completedOk <;> rfl

theorem Regular.called (sound : Sound chain.segments)
    (regular : Regular plan chain.segments world) (called : Called chain drive world response after) :
    Regular plan chain.segments after := by
  cases called with
  | gaveUp error after touched => exact regular.same touched.run touched.flows
  | halted => exact regular
  | concluded segment ran middle found whole touched row =>
    have left : Regular plan chain.segments middle := by
      rcases row with same | cancelled
      · exact regular.same same touched.flows
      · have cut := regular.cancel
        exact cut.same cancelled touched.flows
    obtain ⟨run, row, planned, stands⟩ := left.row
    generalize decision : conclusion chain middle.run segment ran
      (drive.accumulated ++ ran.results) = decided
    refine ⟨⟨run.conclude drive.segment ran drive.accumulated decided, ?_, ?_, ?_⟩, left.flows⟩
    · exact World.conclude_run row
    · rw [AgentRun.conclude_plan, planned]
    · exact stands.conclude sound found fun wait parked => conclusion_wait (decision.trans parked)

theorem Regular.claim (regular : Regular plan segments world)
    (claimed : world.claim status = some after) : Regular plan segments after := by
  obtain ⟨_, row, planned, _⟩ := regular.row
  simp only [World.claim, row] at claimed
  split at claimed <;> cases claimed
  exact ⟨⟨_, rfl, planned, .executing rfl⟩, regular.flows⟩

/-- No FlowRun of the chain is an `agent_execution`, so the scan passes the run by. -/
theorem Regular.scan (regular : Regular plan segments world) : scanAndRecover startup world = world := by
  simp only [scanAndRecover]
  split
  · rfl
  · split
    · rfl
    · split
      case isTrue stuck =>
        have kind := regular.flows stuck.1
        simp [nodusVmWorkflow] at kind
      · rfl

theorem rehydrateWaiting_cases :
    rehydrateWaiting deployment world = world ∨
      ∃ registration, rehydrateWaiting deployment world
        = { world with registered := some registration } := by
  simp only [rehydrateWaiting]
  split
  · split
    · split
      · split
        · exact .inl rfl
        · exact .inr ⟨_, rfl⟩
      · exact .inl rfl
    · exact .inl rfl
  · exact .inl rfl

theorem rehydrateWaiting_run : (rehydrateWaiting deployment world).run = world.run := by
  rcases @rehydrateWaiting_cases deployment world with same | ⟨registration, armed⟩
  · rw [same]
  · rw [armed]

theorem rehydrateWaiting_flows : (rehydrateWaiting deployment world).flowRuns = world.flowRuns := by
  rcases @rehydrateWaiting_cases deployment world with same | ⟨registration, armed⟩
  · rw [same]
  · rw [armed]

theorem rehydrateWaiting_registered
    (split : splitAgentPlan deployment.stepGranularity run.plan = .ok segments)
    (row : world.run = some run) (unregistered : world.registered = none)
    (waiting : run.status = .waiting) (parked : run.waitState = some waitState)
    (named : waitState.eventType ≠ "") (bound : waitState.resumeSegmentIndex < segments.length) :
    (rehydrateWaiting deployment world).registered.isSome = true := by
  have inRange : ¬segments.length ≤ waitState.resumeSegmentIndex := by omega
  simp [rehydrateWaiting, row, unregistered, waiting, parked, split, named, inRange]

theorem Regular.rehydrate (regular : Regular plan segments world) :
    Regular plan segments (rehydrateWaiting deployment world) :=
  regular.same rehydrateWaiting_run fun found => .inr (rehydrateWaiting_flows ▸ found)

theorem countCompleted_lt_iff {total index : Nat} (covered : total ≤ completed) :
    countCompleted completed total index segments < index + segments.length ↔
      completed < total + totalToolSteps segments := by
  induction segments generalizing total index with
  | nil => simp [countCompleted, covered]
  | cons segment rest ih =>
    simp only [countCompleted, totalToolSteps_cons, List.length_cons]
    split
    case isTrue passed =>
      have later := @ih (total + segment.toolSteps.length) (index + 1) passed
      omega
    case isFalse => omega

theorem countCompletedSegments_lt_iff :
    countCompletedSegments segments completed < segments.length ↔
      completed < totalToolSteps segments := by
  have counted := @countCompleted_lt_iff segments completed 0 0 (Nat.zero_le _)
  simpa [countCompletedSegments] using counted

structure Picked (deployment : Deployment) (startup : Startup) (segments : List Segment)
    (world : World) (run : AgentRun) : Prop where
  enabled : deployment.durableContinuation = true
  executing : run.status = .executing
  listed : startup.runId ∈ startup.executing.take maxScan
  permitted : deployment.permitted = true
  linked : isNodusVmRun world run = true
  unfinished : countCompletedSegments segments run.recorded.length < segments.length

theorem Picked.of_not_skipped (split : splitAgentPlan deployment.stepGranularity run.plan = .ok segments)
    (taken : continuation deployment startup world run ≠ .skipped) :
    Picked deployment startup segments world run := by
  simp only [continuation] at taken
  constructor <;> grind

theorem Picked.not_skipped (split : splitAgentPlan deployment.stepGranularity run.plan = .ok segments)
    (picked : Picked deployment startup segments world run) :
    continuation deployment startup world run ≠ .skipped := by
  obtain ⟨_, executing, listed, permitted, linked, _⟩ := picked
  have left : ¬segments.length ≤ countCompletedSegments segments run.recorded.length := by omega
  simp only [continuation, executing, listed, permitted, linked, split, left]
  grind

theorem Regular.continued (regular : Regular plan segments world)
    (split : splitAgentPlan deployment.stepGranularity plan = .ok segments) :
    Regular plan segments (continueCrashed deployment startup world).1 := by
  obtain ⟨run, row, planned, _⟩ := regular.row
  simp only [continueCrashed, row]
  split
  · exact regular
  · exact ⟨⟨_, rfl, planned, .finished rfl⟩, regular.flows⟩
  case h_3 redriven =>
    subst planned
    have picked : Picked deployment startup segments world run :=
      .of_not_skipped split (by simp [redriven])
    exact ⟨⟨_, rfl, rfl, .executing picked.executing⟩, regular.flows⟩

theorem Life.recover_world (regular : Regular plan segments life.world) :
    (life.recover deployment startup).world =
      (continueCrashed deployment startup (rehydrateWaiting deployment life.world)).1 := by
  simp only [Life.recover, regular.scan]
  split
  case h_1 passed => rw [passed]
  case h_2 passed => rw [passed]

theorem Regular.recovered (regular : Regular plan segments life.world)
    (split : splitAgentPlan deployment.stepGranularity plan = .ok segments) :
    Regular plan segments (life.recover deployment startup).world := by
  have armed : Regular plan segments (rehydrateWaiting deployment life.world) := regular.rehydrate
  rw [Life.recover_world regular]
  exact armed.continued split

theorem step_regular (split : splitAgentPlan deployment.stepGranularity plan = .ok chain.segments)
    (regular : Regular plan chain.segments life.world) (stepped : Stepped deployment chain life event next) :
    Regular plan chain.segments next.world := by
  have sound : Sound chain.segments := splitAgentPlan_sound split
  cases stepped with
  | called calls drive response world driving called => exact regular.called sound called
  | delivered registration idle registered =>
    have taken : Regular plan chain.segments { life.world with registered := none } :=
      regular.same rfl .inr
    simp only [Life.deliver]
    split
    case h_1 won => exact taken.claim won
    · exact taken
  | cancelled => exact regular.cancel
  | cut calls drive world driving touched => exact regular.same touched.run touched.flows
  | stopped => exact regular.same rfl .inr
  | restarted => exact regular.recovered split

theorem Regular.started : Regular plan segments (.started plan) := by
  refine ⟨⟨_, rfl, rfl, .executing rfl⟩, fun found => ?_⟩
  cases found

theorem run_regular (split : splitAgentPlan deployment.stepGranularity plan = .ok chain.segments)
    (ran : (planLife deployment chain).run (.started plan) events = some life) :
    Regular plan chain.segments life.world :=
  @StepSystem.invariant_run _ _ _ _ _ _ (fun life => Regular plan chain.segments life.world)
    (fun regular stepped => step_regular split regular (planLife_stepped stepped)) Regular.started ran

end AindyRuntime.Agent
