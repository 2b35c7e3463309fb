import AindyRuntime.Agent.Rows

/-! # Runs left behind by a crash

After a startup a run is waiting with its wait registered, being driven, or
over, unless it was found in `executing` and the continuation passed it by: it
is not linked to a segment's FlowRun yet, its recorded steps are all the plan
has, or the scan does not get to it.
-/

namespace AindyRuntime.Agent

variable {deployment : Deployment} {chain : Chain} {plan : Json}
variable {world : World} {life next : Life}

def Life.settled (life : Life) : Prop :=
  (∃ drive, life.position = .driving drive) ∨
    ∃ run, life.world.run = some run ∧
      (run.status.terminal = true ∨ run.status = .waiting ∧ life.world.registered.isSome = true)

/-- A run found in `executing` is linked to the FlowRun of a segment, has tool
steps that are not recorded, and is among the rows the scan reads. -/
def Recoverable (segments : List Segment) (startup : Startup) (world : World) : Prop :=
  ∀ run, world.run = some run → run.status = .executing →
    isNodusVmRun world run = true ∧ run.recorded.length < totalToolSteps segments
      ∧ startup.runId ∈ startup.executing.take maxScan

theorem isNodusVmRun_rehydrate :
    isNodusVmRun (rehydrateWaiting deployment world) run = isNodusVmRun world run := by
  simp [isNodusVmRun, rehydrateWaiting_flows]

theorem continueCrashed_settled (row : world.run = some run)
    (taken : continuation deployment startup world run ≠ .skipped) :
    (∃ drive, (continueCrashed deployment startup world).2 = some drive) ∨
      ∃ run, (continueCrashed deployment startup world).1.run = some run
        ∧ run.status.terminal = true := by
  simp only [continueCrashed, row]
  split
  case h_1 skipped => exact absurd skipped taken
  · exact .inr ⟨_, rfl, rfl⟩
  · exact .inl ⟨_, rfl⟩

theorem continueCrashed_skipped (row : world.run = some run)
    (skipped : continuation deployment startup world run = .skipped) :
    continueCrashed deployment startup world = (world, none) := by
  simp [continueCrashed, row, skipped]

theorem Life.recover_skipped (regular : Regular plan segments life.world) (row : life.world.run = some run)
    (skipped : continuation deployment startup (rehydrateWaiting deployment life.world) run = .skipped) :
    life.recover deployment startup =
      { life with world := rehydrateWaiting deployment life.world } := by
  have passed := continueCrashed_skipped (rehydrateWaiting_run.trans row) skipped
  simp [Life.recover, regular.scan, passed]

theorem Life.recover_taken (regular : Regular plan segments life.world) (row : life.world.run = some run)
    (taken : continuation deployment startup (rehydrateWaiting deployment life.world) run ≠ .skipped) :
    (life.recover deployment startup).settled := by
  have left := continueCrashed_settled (rehydrateWaiting_run.trans row) taken
  simp only [Life.recover, regular.scan]
  split
  case h_1 drive passed => exact .inl ⟨drive, rfl⟩
  case h_2 passed =>
    rw [passed] at left
    rcases left with ⟨drive, driven⟩ | ⟨finished, found, terminal⟩
    · cases driven
    · exact .inr ⟨finished, found, .inl terminal⟩

/-- A startup settles the run unless it passes it by in `executing`. -/
theorem recover_settled_iff (enabled : deployment.durableContinuation = true)
    (permitted : deployment.permitted = true)
    (split : splitAgentPlan deployment.stepGranularity plan = .ok segments)
    (regular : Regular plan segments life.world) (resting : ∀ drive, life.position ≠ .driving drive)
    (unregistered : life.world.registered = none) :
    (life.recover deployment startup).settled ↔ Recoverable segments startup life.world := by
  obtain ⟨run, row, planned, stands⟩ := regular.row
  subst planned
  by_cases picked : Picked deployment startup segments (rehydrateWaiting deployment life.world) run
  · have settled := Life.recover_taken regular row (picked.not_skipped split)
    refine ⟨fun _ found same _ => ?_, fun _ => settled⟩
    rw [row] at same
    cases same
    exact ⟨isNodusVmRun_rehydrate ▸ picked.linked,
      countCompletedSegments_lt_iff.mp picked.unfinished, picked.listed⟩
  · have skipped : continuation deployment startup (rehydrateWaiting deployment life.world) run
        = .skipped := by
      by_contra taken
      exact picked (.of_not_skipped split taken)
    rw [Life.recover_skipped regular row skipped]
    have kept : (rehydrateWaiting deployment life.world).run = some run :=
      rehydrateWaiting_run.trans row
    cases stands with
    | executing status =>
      constructor
      · intro given
        rcases given with ⟨drive, driven⟩ | ⟨other, found, finished⟩
        · exact absurd driven (resting drive)
        · have same : other = run := Option.some.inj (found.symm.trans kept)
          subst same
          simp [status, AgentStatus.terminal] at finished
      · intro recoverable
        obtain ⟨linked, short, listed⟩ := recoverable run row status
        refine absurd ⟨enabled, status, listed, permitted, ?_, ?_⟩ picked
        · rw [isNodusVmRun_rehydrate, linked]
        · exact countCompletedSegments_lt_iff.mpr short
    | finished terminal =>
      refine ⟨fun _ found same executing => ?_, fun _ => .inr ⟨run, kept, .inl terminal⟩⟩
      rw [row] at same
      cases same
      simp [executing, AgentStatus.terminal] at terminal
    | waiting status waitState parked named bound =>
      refine ⟨fun _ found same executing => ?_, fun _ => ?_⟩
      · rw [row] at same
        cases same
        simp [status] at executing
      · have armed := rehydrateWaiting_registered split row unregistered status parked named bound
        exact .inr ⟨run, kept, .inr ⟨status, armed⟩⟩

/-- At every point of every life at which a process starts. -/
theorem crashed_run_settled_iff {events : List Event}
    (enabled : deployment.durableContinuation = true) (permitted : deployment.permitted = true)
    (split : splitAgentPlan deployment.stepGranularity plan = .ok chain.segments)
    (ran : (planLife deployment chain).run (.started plan) events = some life)
    (recovered : (planLife deployment chain).step life (.startup startup) = some next) :
    next.settled ↔ Recoverable chain.segments startup life.world := by
  have regular := run_regular split ran
  have stepped := planLife_stepped recovered
  cases stepped with
  | restarted _ resting unregistered =>
    exact recover_settled_iff enabled permitted split regular resting unregistered

theorem crashed_run_settled_in_second_segment :
    ∃ life next,
      splitAgentPlan false (planOf [toolStep "a", waitStep "go", toolStep "b"])
        = .ok awaiting.segments ∧
      (planLife continuing awaiting).run
          (.started (planOf [toolStep "a", waitStep "go", toolStep "b"]))
          [.call ⟨succeeding, false⟩, .deliver, .crash succeeding] = some life ∧
      (planLife continuing awaiting).step life (.startup onlyRun) = some next ∧
      next.settled := by
  refine ⟨_, _, rfl, rfl, rfl, ?_⟩
  refine (@crashed_run_settled_iff continuing awaiting _ _ _ onlyRun
    [.call ⟨succeeding, false⟩, .deliver, .crash succeeding] rfl rfl rfl rfl rfl).mpr ?_
  intro run same executing
  cases same
  decide

/-- The process stops in the first segment, whose FlowRun the row is not linked
to before the segment's end: the passes leave the run in `executing`. -/
theorem crashed_run_stranded_in_first_segment :
    ∃ segments life run,
      splitAgentPlan false (planOf [toolStep "a"]) = .ok segments ∧
      (planLife continuing ⟨segments, passing⟩).run (.started (planOf [toolStep "a"]))
          [.crash succeeding, .startup onlyRun] = some life ∧
      life.world.run = some run ∧ run.status = .executing ∧ life.world.registered = none ∧
      life.position = .stalled ⟨0, [], false⟩ ∧ ¬life.settled := by
  refine ⟨_, _, _, rfl, rfl, rfl, rfl, rfl, rfl, ?_⟩
  intro given
  rcases given with ⟨drive, driven⟩ | ⟨run, same, finished⟩
  · cases driven
  · cases same
    simp [AgentStatus.terminal] at finished

end AindyRuntime.Agent
