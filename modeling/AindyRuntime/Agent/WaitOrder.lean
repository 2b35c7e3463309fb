import AindyRuntime.Agent.Rows

namespace AindyRuntime.Agent

open AgentRun List Option

variable {deployment : Deployment} {chain : Chain} {plan : Json}
variable {world after : World} {run : AgentRun} {life next : Life}
variable {drive : Drive} {segment : Segment} {index : Nat}

def stepsBefore (segments : List Segment) (index : Nat) : Nat := totalToolSteps (segments.take index)

theorem totalToolSteps_append :
    totalToolSteps (front ++ rest) = totalToolSteps front + totalToolSteps rest := by
  induction front with
  | nil => simp
  | cons segment front ih =>
    simp only [cons_append, totalToolSteps_cons]
    omega

theorem stepsBefore_succ (found : segments[index]? = some segment) :
    stepsBefore segments (index + 1) = stepsBefore segments index + segment.toolSteps.length := by
  have taken : segments.take (index + 1) = segments.take index ++ [segment] := by
    rw [take_add_one, found, toList_some]
  rw [stepsBefore, taken, totalToolSteps_append]
  rfl

theorem countCompleted_append {total : Nat} {front rest : List Segment}
    (covered : total + totalToolSteps front = completed) (steps : segment.toolSteps ≠ []) :
    countCompleted completed total index (front ++ segment :: rest) = index + front.length := by
  induction front generalizing total index with
  | nil =>
    have positive : 0 < segment.toolSteps.length := length_pos_iff.mpr steps
    have short : ¬total + segment.toolSteps.length ≤ completed := by
      rw [totalToolSteps_nil] at covered
      omega
    simp [countCompleted, if_neg short]
  | cons head front ih =>
    rw [totalToolSteps_cons] at covered
    have passed : total + head.toolSteps.length ≤ completed := by omega
    have later := @ih (index + 1) (total + head.toolSteps.length) (by omega)
    simp only [cons_append, countCompleted, if_pos passed, length_cons]
    omega

theorem countCompletedSegments_at (found : segments[index]? = some segment) (steps : segment.toolSteps ≠ []) :
    countCompletedSegments segments (stepsBefore segments index) = index := by
  obtain ⟨bound, here⟩ := List.getElem?_eq_some_iff.mp found
  have split : segments = segments.take index ++ segment :: segments.drop (index + 1) := by
    rw [← here, getElem_cons_drop, take_append_drop]
  have counted := @countCompleted_append segment 0 (stepsBefore segments index) 0
    (segments.take index) (segments.drop (index + 1)) (Nat.zero_add _) steps
  rw [← split, length_take_of_le bound.le, Nat.zero_add] at counted
  exact counted

def Delivered (segments : List Segment) (delivered : List Nat) (index : Nat) : Prop :=
  ∀ earlier segment, earlier < index → segments[earlier]? = some segment →
    segment.wait.isSome = true → earlier ∈ delivered

theorem Delivered.succ (waits : Delivered segments delivered index) :
    Delivered segments (index :: delivered) (index + 1) := by
  intro earlier segment before found waited
  rcases Nat.lt_succ_iff_lt_or_eq.mp before with lower | same
  · exact mem_cons_of_mem _ (waits earlier segment lower found waited)
  · rw [same]
    exact mem_cons_self

structure Reached (segments : List Segment) (delivered : List Nat) (drive : Drive) : Prop where
  steps : drive.accumulated.length = stepsBefore segments drive.segment
  waits : Delivered segments delivered drive.segment

def Position.drive? : Position → Option Drive
  | .idle => none
  | .driving drive | .stalled drive => some drive

def WaitState.resume (waitState : WaitState) (run : AgentRun) : Drive :=
  ⟨waitState.resumeSegmentIndex, run.recorded, waitState.continuation⟩

structure InOrder (segments : List Segment) (life : Life) : Prop where
  driven : ∀ {drive}, life.position.drive? = some drive → Reached segments life.delivered drive
  live : ∀ {drive}, life.position = .driving drive → ∃ run, life.world.run = some run ∧
    (run.status = .executing ∨ run.status = .cancelled)
  executing : ∀ {run}, life.world.run = some run → run.status = .executing → ∃ drive,
    life.position.drive? = some drive ∧ run.recorded.length = stepsBefore segments drive.segment
  waiting : ∀ {run waitState}, life.world.run = some run → run.status = .waiting →
    run.waitState = some waitState →
      Reached segments ((waitState.resume run).awaited ++ life.delivered) (waitState.resume run)
  registered : ∀ {run registration}, life.world.run = some run → run.status = .waiting →
    life.world.registered = some registration →
      ∃ waitState, run.waitState = some waitState ∧ registration.resume = waitState.resume run
  redriven : ∀ entry ∈ life.redriven, Delivered segments entry.2 entry.1

section

variable (redriven : ∀ entry ∈ life.redriven, Delivered segments entry.2 entry.1) (idle : life.position = .idle)
include redriven idle

theorem InOrder.of_over (finished : ∀ run, life.world.run = some run → run.status.terminal = true) :
    InOrder segments life where
  driven found := by simp [idle, Position.drive?] at found
  live driving := by simp [idle] at driving
  executing row status := by simpa [status, AgentStatus.terminal] using finished _ row
  waiting row status := by simpa [status, AgentStatus.terminal] using finished _ row
  registered row status := by simpa [status, AgentStatus.terminal] using finished _ row
  redriven

theorem InOrder.of_waiting {waitState : WaitState} (row : life.world.run = some run) (status : run.status = .waiting)
    (parked : run.waitState = some waitState)
    (registered : ∀ registration, life.world.registered = some registration →
      registration.resume = waitState.resume run)
    (reached : Reached segments ((waitState.resume run).awaited ++ life.delivered)
      (waitState.resume run)) : InOrder segments life where
  driven found := by simp [idle, Position.drive?] at found
  live driving := by simp [idle] at driving
  executing found executing := by
    cases row.symm.trans found
    simp [status] at executing
  waiting found _ same := by
    cases row.symm.trans found
    cases parked.symm.trans same
    exact reached
  registered found _ armed := by
    cases row.symm.trans found
    exact ⟨waitState, parked, registered _ armed⟩
  redriven

end

theorem AgentRun.cancel_live (live : run.status = .executing ∨ run.status = .cancelled) :
    run.cancel.status = .cancelled := by
  rcases live with executing | cancelled
  · simp [AgentRun.cancel, cancelFor, executing, AgentStatus.cancellable]
  · simp [AgentRun.cancel, cancelFor, cancelled, AgentStatus.cancellable]

section Conclusion

variable (row : world.run = some run)
include row

theorem conclusion_cancelled (decided : conclusion chain world.run segment ran steps = .cancelled) :
    run.status = .cancelled := by
  cases conclusion_arises decided with
  | cancelled status =>
    rw [row] at status
    exact Option.some.inj status

theorem conclusion_parked_passed (live : run.status = .executing ∨ run.status = .cancelled)
    (decided : conclusion chain world.run segment ran steps = .parked wait) : ran.gate = none ∧ ran.failed = false := by
  rcases live with executing | cancelled
  · cases conclusion_arises decided with
    | parked ungated passed => exact ⟨ungated (by rw [row, map_some, executing]), passed⟩
  · simp [conclusion, row, cancelled] at decided

end Conclusion

theorem InOrder.conclude (reached : Reached segments life.delivered drive)
    (redriven : ∀ entry ∈ life.redriven, Delivered segments entry.2 entry.1)
    (idle : position = .idle) (row : world.run = some run)
    (cancelled : decided = .cancelled → run.status = .cancelled)
    (parked : ∀ wait, decided = .parked wait → ran.results.length + stepsBefore segments drive.segment
        = stepsBefore segments (drive.segment + 1)) :
    InOrder segments { life with world := world.conclude drive ran decided, position } := by
  subst idle
  have left : (world.conclude drive ran decided).run
      = some (run.conclude drive.segment ran drive.accumulated decided) := World.conclude_run row
  cases decided with
  | cancelled =>
    refine .of_over redriven rfl fun other found => ?_
    have same := Option.some.inj (left.symm.trans found)
    rw [← same]
    simp [AgentRun.conclude, cancelled rfl, AgentStatus.terminal]
  | failed | verifyFailed verdict =>
    refine .of_over redriven rfl fun other found => ?_
    rw [← Option.some.inj (left.symm.trans found)]
    rfl
  | finished completedOk =>
    refine .of_over redriven rfl fun other found => ?_
    rw [← Option.some.inj (left.symm.trans found)]
    cases completedOk <;> rfl
  | gated =>
    refine .of_waiting redriven rfl left rfl rfl ?_ ⟨reached.steps, reached.waits⟩
    intro registration armed
    rw [← Option.some.inj armed]
    rfl
  | parked wait =>
    refine .of_waiting redriven rfl left rfl rfl ?_ ⟨?_, reached.waits.succ⟩
    · intro registration armed
      rw [← Option.some.inj armed]
      rfl
    · have counted := parked wait rfl
      have before := reached.steps
      simp only [WaitState.resume, recorded, AgentRun.conclude, length_append]
      omega

theorem InOrder.stalled (ordered : InOrder segments life) (driving : life.position = .driving drive)
    (row : after.run = life.world.run)
    (registered : ∀ registration, after.registered = some registration →
      life.world.registered = some registration) :
    InOrder segments { life with world := after, position := .stalled drive } := by
  have driven : life.position.drive? = some drive := by rw [driving, Position.drive?]
  refine ⟨fun found => ?_, by simp, fun found status => ?_, fun found => ?_, fun found status armed => ?_,
    ordered.redriven⟩
  · cases found
    exact ordered.driven driven
  · obtain ⟨_, called, steps⟩ := ordered.executing (row ▸ found) status
    cases driven.symm.trans called
    exact ⟨drive, rfl, steps⟩
  · exact ordered.waiting (row ▸ found)
  · exact ordered.registered (row ▸ found) status (registered _ armed)

theorem Position.after_response {decided : Conclusion} : Position.after drive (.ok decided.response) = .idle := by
  cases decided <;> rfl

theorem InOrder.called (ordered : InOrder chain.segments life)
    (driving : life.position = .driving drive) (called : Called chain drive life.world response after) :
    InOrder chain.segments { life with world := after, position := .after drive (.ok response) } := by
  have reached : Reached chain.segments life.delivered drive :=
    ordered.driven (by rw [driving, Position.drive?])
  cases called with
  | gaveUp error after touched => exact ordered.stalled driving touched.run fun _ => touched.registered ▸ id
  | halted cancelled =>
    refine .of_over ordered.redriven rfl fun run row => ?_
    rw [row] at cancelled
    rw [Option.some.inj cancelled]
    rfl
  | concluded segment ran middle found whole touched changed =>
    obtain ⟨before, row, status⟩ := ordered.live driving
    obtain ⟨run, kept, live⟩ : ∃ run, middle.run = some run ∧
        (run.status = .executing ∨ run.status = .cancelled) := by
      rcases changed with same | cut
      · exact ⟨before, same.trans row, status⟩
      · exact ⟨before.cancel, by rw [cut, row, map_some], .inr (cancel_live status)⟩
    refine InOrder.conclude reached ordered.redriven Position.after_response kept ?_ ?_
    · exact conclusion_cancelled kept
    · intro wait decided
      obtain ⟨ungated, passed⟩ := conclusion_parked_passed kept live decided
      have length := whole ungated passed
      have next := stepsBefore_succ found
      omega

theorem AgentRun.cancel_inactive : run.cancel.status ≠ .executing ∧ run.cancel.status ≠ .waiting := by
  simp only [AgentRun.cancel, cancelFor]
  split
  · simp
  case isFalse kept =>
    refine ⟨fun status => kept ?_, fun status => kept ?_⟩
    · simp [status, AgentStatus.cancellable]
    · simp [status, AgentStatus.cancellable]

theorem InOrder.cancel (ordered : InOrder segments life) :
    InOrder segments
      { life with world := { life.world with run := life.world.run.map AgentRun.cancel } } := by
  have inactive {run : AgentRun} (found : life.world.run.map AgentRun.cancel = some run) :
      run.status ≠ .executing ∧ run.status ≠ .waiting := by
    obtain ⟨_, _, rfl⟩ := map_eq_some_iff.mp found
    exact cancel_inactive
  refine ⟨ordered.driven, fun driving => ?_, fun found status => ?_, fun found status => ?_,
    fun found status => ?_, ordered.redriven⟩
  · obtain ⟨run, row, status⟩ := ordered.live driving
    exact ⟨run.cancel, by simp [row], .inr (cancel_live status)⟩
  · exact absurd status (inactive found).1
  · exact absurd status (inactive found).2
  · exact absurd status (inactive found).2

theorem InOrder.forget (ordered : InOrder segments life) :
    InOrder segments { life with world := { life.world with registered := none } } :=
  ⟨ordered.driven, ordered.live, ordered.executing, ordered.waiting, by simp, ordered.redriven⟩

theorem InOrder.deliver (ordered : InOrder segments life)
    (registered : life.world.registered = some registration) : InOrder segments (life.deliver registration) := by
  simp only [Life.deliver]
  split
  case h_2 => exact ordered.forget
  case h_1 won =>
    simp only [World.claim] at won
    split at won
    case h_2 => cases won
    case h_1 row =>
      split at won <;> cases won
      case isTrue status =>
        obtain ⟨_, parked, same⟩ := ordered.registered row status registered
        have reached := ordered.waiting row status parked
        rw [← same] at reached
        refine ⟨fun found => ?_, fun _ => ⟨_, rfl, .inl rfl⟩, fun found _ => ?_, fun found waiting => ?_,
          by simp, ordered.redriven⟩
        · cases found
          exact reached
        · cases found
          refine ⟨registration.resume, rfl, ?_⟩
          have steps := reached.steps
          rw [same] at steps ⊢
          exact steps
        · cases found
          cases waiting

/-- The segment that was being driven when the process stopped has a tool step,
or no segment from there on has. -/
def StopsAtStep (segments : List Segment) (life : Life) : Event → Prop
  | .startup _ => ∀ run drive, life.world.run = some run → run.status = .executing →
      life.position = .stalled drive →
        (∃ segment, segments[drive.segment]? = some segment ∧ segment.toolSteps ≠ [])
          ∨ totalToolSteps (segments.drop drive.segment) = 0
  | _ => True

theorem rehydrateWaiting_resume (unregistered : world.registered = none)
    (row : world.run = some run) (armed : (rehydrateWaiting deployment world).registered = some registration) :
    ∃ waitState, run.waitState = some waitState ∧ registration.resume = waitState.resume run := by
  simp only [rehydrateWaiting, row, unregistered] at armed
  split at armed
  · split at armed
    case h_1 waitState segments parked split =>
      split at armed
      · simp [unregistered] at armed
      · cases armed
        exact ⟨waitState, parked, rfl⟩
    · simp [unregistered] at armed
  · simp [unregistered] at armed

theorem InOrder.rehydrate (ordered : InOrder segments life) (unregistered : life.world.registered = none) :
    InOrder segments { life with world := rehydrateWaiting deployment life.world } := by
  have same : (rehydrateWaiting deployment life.world).run = life.world.run := rehydrateWaiting_run
  refine ⟨ordered.driven, fun driving => ?_, fun found => ?_, fun found => ?_,
    fun found _ armed => ?_, ordered.redriven⟩
  · rw [same]
    exact ordered.live driving
  · exact ordered.executing (same ▸ found)
  · exact ordered.waiting (same ▸ found)
  · exact rehydrateWaiting_resume unregistered (same ▸ found) armed

theorem continuation_redriven (split : splitAgentPlan deployment.stepGranularity run.plan = .ok segments)
    (redriven : continuation deployment startup world run = .redriven index) :
    index = countCompletedSegments segments run.recorded.length := by
  simp only [continuation] at redriven
  grind

theorem continuation_reached (split : splitAgentPlan deployment.stepGranularity run.plan = .ok segments)
    (steps : run.recorded.length = stepsBefore segments drive.segment)
    (careful : (∃ segment, segments[drive.segment]? = some segment ∧ segment.toolSteps ≠ [])
      ∨ totalToolSteps (segments.drop drive.segment) = 0)
    (redriven : continuation deployment startup world run = .redriven index) : index = drive.segment := by
  have counted := continuation_redriven split redriven
  have picked : Picked deployment startup segments world run :=
    .of_not_skipped split (by simp [redriven])
  rw [steps] at counted
  rcases careful with ⟨segment, found, some⟩ | none
  · rw [counted, countCompletedSegments_at found some]
  · have unfinished := countCompletedSegments_lt_iff.mp picked.unfinished
    have whole : totalToolSteps segments
        = stepsBefore segments drive.segment + totalToolSteps (segments.drop drive.segment) := by
      rw [stepsBefore, ← totalToolSteps_append, take_append_drop]
    omega

theorem InOrder.exhaust (ordered : InOrder segments life)
    (resting : ∀ drive, life.position ≠ .driving drive) (finished : failed.status = .failed) :
    InOrder segments { life with world := { life.world with run := some failed } } := by
  refine ⟨ordered.driven, fun driving => absurd driving (resting _), fun found status => ?_,
    fun found status => ?_, fun found status => ?_, ordered.redriven⟩
  all_goals
    cases found
    simp [finished] at status

theorem InOrder.redrive (ordered : InOrder segments life)
    (reached : Reached segments life.delivered drive) (status : counted.status = .executing)
    (steps : counted.recorded.length = stepsBefore segments drive.segment) :
    InOrder segments
      { life with
        world := { life.world with run := some counted }
        position := .driving drive
        redriven := (drive.segment, life.delivered) :: life.redriven } := by
  refine ⟨fun found => ?_, fun _ => ⟨counted, rfl, .inl status⟩, fun found _ => ?_,
    fun found waiting => ?_, fun found waiting => ?_, fun entry listed => ?_⟩
  · cases found
    exact reached
  · cases found
    exact ⟨drive, rfl, steps⟩
  · cases found
    simp [status] at waiting
  · cases found
    simp [status] at waiting
  · rcases mem_cons.mp listed with now | before
    · rw [now]
      exact reached.waits
    · exact ordered.redriven entry before

theorem InOrder.recovered (regular : Regular plan segments life.world)
    (split : splitAgentPlan deployment.stepGranularity plan = .ok segments)
    (resting : ∀ drive, life.position ≠ .driving drive) (unregistered : life.world.registered = none)
    (careful : StopsAtStep segments life (.startup startup)) (ordered : InOrder segments life) :
    InOrder segments (life.recover deployment startup) := by
  have armed : InOrder segments { life with world := rehydrateWaiting deployment life.world } :=
    ordered.rehydrate unregistered
  obtain ⟨run, row, planned, _⟩ := regular.row
  subst planned
  have kept : (rehydrateWaiting deployment life.world).run = some run := rehydrateWaiting_run.trans row
  simp only [Life.recover, regular.scan, continueCrashed, kept]
  cases decided : continuation deployment startup (rehydrateWaiting deployment life.world) run with
  | skipped => exact armed
  | exhausted => exact armed.exhaust resting rfl
  | redriven =>
    have picked : Picked deployment startup segments (rehydrateWaiting deployment life.world) run :=
      .of_not_skipped split (by simp [decided])
    obtain ⟨drive, driven, steps⟩ := ordered.executing row picked.executing
    have stalled : life.position = .stalled drive := by
      cases position : life.position with
      | idle => simp [position, Position.drive?] at driven
      | driving other => exact absurd position (resting other)
      | stalled =>
        rw [position] at driven
        rw [Option.some.inj driven]
    have same := continuation_reached split steps
      (careful run drive row picked.executing stalled) decided
    subst same
    have reached : Reached segments life.delivered ⟨drive.segment, run.recorded, true⟩ :=
      ⟨steps, (ordered.driven driven).waits⟩
    exact armed.redrive reached picked.executing steps

theorem step_inOrder (split : splitAgentPlan deployment.stepGranularity plan = .ok chain.segments)
    (careful : StopsAtStep chain.segments life event)
    (regular : Regular plan chain.segments life.world) (ordered : InOrder chain.segments life)
    (stepped : Stepped deployment chain life event next) : InOrder chain.segments next := by
  cases stepped with
  | called calls drive response world driving called => exact ordered.called driving called
  | delivered registration idle registered => exact ordered.deliver registered
  | cancelled => exact ordered.cancel
  | cut calls drive world driving touched => exact ordered.stalled driving touched.run (by simp)
  | stopped => exact ordered.forget
  | restarted startup resting unregistered => exact ordered.recovered regular split resting unregistered careful

theorem InOrder.started : InOrder segments (.started plan) := by
  refine ⟨fun found => ?_, fun _ => ⟨_, rfl, .inl rfl⟩, fun found _ => ?_, fun found status => ?_,
    fun _ _ armed => ?_, fun entry listed => ?_⟩
  · cases found
    exact ⟨rfl, fun earlier _ before => absurd before (Nat.not_lt_zero earlier)⟩
  · cases found
    exact ⟨_, rfl, rfl⟩
  · cases found
    cases status
  · cases armed
  · cases listed

theorem redriven_after_waits {events : List Event}
    (split : splitAgentPlan deployment.stepGranularity plan = .ok chain.segments)
    (met : (planLife deployment chain).Meets (StopsAtStep chain.segments) (.started plan) events)
    (ran : (planLife deployment chain).run (.started plan) events = some life) :
    ∀ entry ∈ life.redriven, Delivered chain.segments entry.2 entry.1 := by
  have held : Regular plan chain.segments life.world ∧ InOrder chain.segments life := by
    refine @StepSystem.invariant _ _ (planLife deployment chain) _ _ _ _
      (fun life => Regular plan chain.segments life.world ∧ InOrder chain.segments life)
      ?_ met ⟨.started, .started⟩ ran
    intro life next event careful held taken
    obtain ⟨regular, ordered⟩ := held
    have stepped := planLife_stepped taken
    exact ⟨step_regular split regular stepped, step_inOrder split careful regular ordered stepped⟩
  exact held.2.redriven

/-- The process stops in the segment behind the wait, which has a tool step. -/
theorem redriven_after_waits_at_step :
    ∃ life,
      splitAgentPlan false (planOf [toolStep "a", waitStep "go", toolStep "b"])
        = .ok awaiting.segments ∧
      (planLife continuing awaiting).run
          (.started (planOf [toolStep "a", waitStep "go", toolStep "b"]))
          [.call ⟨succeeding, false⟩, .deliver, .crash succeeding, .startup onlyRun] = some life ∧
      life.redriven = [(1, [0])] ∧
      ∀ entry ∈ life.redriven, Delivered awaiting.segments entry.2 entry.1 := by
  refine ⟨_, rfl, rfl, rfl, ?_⟩
  refine @redriven_after_waits continuing awaiting
    (planOf [toolStep "a", waitStep "go", toolStep "b"]) _
    [.call ⟨succeeding, false⟩, .deliver, .crash succeeding, .startup onlyRun] rfl ?_ rfl
  refine .cons trivial rfl (.cons trivial rfl (.cons trivial rfl (.cons ?_ rfl trivial)))
  intro run drive _ _ stalled
  cases stalled
  exact .inl ⟨_, rfl, by simp⟩

def awaitingTwice : Chain :=
  ⟨[⟨[toolStep "a"], 0, some ⟨"go", none⟩⟩, ⟨[], 1, some ⟨"on", none⟩⟩, ⟨[toolStep "b"], 1, none⟩], passing⟩

/-- The process stops after the first of two waits in a row and before the run
is parked on the second: the run is re-driven behind both. -/
theorem redriven_past_wait :
    ∃ life,
      splitAgentPlan false (planOf [toolStep "a", waitStep "go", waitStep "on", toolStep "b"])
        = .ok awaitingTwice.segments ∧
      (planLife continuing awaitingTwice).run
          (.started (planOf [toolStep "a", waitStep "go", waitStep "on", toolStep "b"]))
          [.call ⟨succeeding, false⟩, .deliver, .crash succeeding, .startup onlyRun] = some life ∧
      life.redriven = [(2, [0])] ∧ life.position = .driving ⟨2, life.world.run.elim [] (·.recorded), true⟩ ∧
      ¬Delivered awaitingTwice.segments [0] 2 := by
  refine ⟨_, rfl, rfl, rfl, rfl, fun waits => ?_⟩
  have second := waits 1 _ (by decide) rfl rfl
  simp at second

end AindyRuntime.Agent
