import AindyRuntime.Agent.Replay
import AindyRuntime.Agent.WaitOrder

namespace AindyRuntime.Agent

open AgentRun List Option

variable {deployment : Deployment} {chain : Chain} {plan : Json} {segments : List Segment}
variable {world after : World} {run : AgentRun} {life next : Life} {startup : Startup}
variable {drive : Drive} {segment : Segment} {index : Nat}

theorem totalToolSteps_eq : totalToolSteps segments = (toolStepsOf segments).length := by
  induction segments with
  | nil => rfl
  | cons segment rest ih =>
    simp only [toolStepsOf, flatMap_cons, length_append, totalToolSteps_cons] at ih ⊢
    omega

theorem stepsBefore_mono (fewer : index ≤ more) : stepsBefore segments index ≤ stepsBefore segments more := by
  induction more, fewer using Nat.le_induction with
  | base => exact Nat.le_refl _
  | succ more _ ih =>
    apply ih.trans
    cases found : segments[more]? with
    | some =>
      rw [stepsBefore_succ found]
      exact Nat.le_add_right _ _
    | none =>
      have past : segments.length ≤ more := List.getElem?_eq_none_iff.mp found
      rw [stepsBefore, stepsBefore, take_of_length_le past,
        take_of_length_le (past.trans (Nat.le_succ _))]

theorem Indexed.at (indexed : Indexed base segments) (found : segments[index]? = some segment) :
    segment.baseIndex = base + stepsBefore segments index := by
  induction segments generalizing base index with
  | nil => cases found
  | cons head rest ih =>
    obtain ⟨place, later⟩ := indexed
    cases index with
    | zero =>
      cases found
      exact place
    | succ =>
      have there := ih later found
      simp only [stepsBefore, take_succ_cons, totalToolSteps_cons] at there ⊢
      omega

/-- The continuation starts at the furthest segment whose earlier steps are all
among the completed ones. -/
theorem countCompleted_furthest {total : Nat} (covered : total ≤ completed) :
    ∃ count, countCompleted completed total index segments = index + count ∧
      total + stepsBefore segments count ≤ completed ∧
      ∀ other, other ≤ segments.length → total + stepsBefore segments other ≤ completed →
        other ≤ count := by
  induction segments generalizing total index with
  | nil => exact ⟨0, rfl, covered, fun other bound _ => bound⟩
  | cons segment rest ih =>
    simp only [countCompleted]
    split
    case isTrue passed =>
      obtain ⟨count, _, reached, furthest⟩ := @ih (index + 1) _ passed
      refine ⟨count + 1, by omega, ?_, ?_⟩
      · simp only [stepsBefore, take_succ_cons, totalToolSteps_cons] at reached ⊢
        omega
      · intro other bound held
        cases other with
        | zero => exact Nat.zero_le _
        | succ other =>
          simp only [length_cons] at bound
          have further := furthest other (by omega)
          simp only [stepsBefore, take_succ_cons, totalToolSteps_cons] at held further
          omega
    case isFalse =>
      refine ⟨0, rfl, covered, ?_⟩
      intro other _ held
      cases other with
      | zero => exact Nat.le_refl _
      | succ =>
        simp only [stepsBefore, take_succ_cons, totalToolSteps_cons] at held
        omega

/-- The segments a continuation passes over have no tool steps. -/
theorem stepsBefore_countCompletedSegments (bound : index ≤ segments.length) :
    index ≤ countCompletedSegments segments (stepsBefore segments index) ∧
      stepsBefore segments (countCompletedSegments segments (stepsBefore segments index))
        = stepsBefore segments index := by
  obtain ⟨count, counted, reached, furthest⟩ := @countCompleted_furthest segments 0
    (stepsBefore segments index) 0 (Nat.zero_le _)
  simp only [Nat.zero_add] at counted reached furthest
  have ahead := furthest index bound (Nat.le_refl _)
  have least := @stepsBefore_mono segments index count ahead
  rw [countCompletedSegments, counted]
  exact ⟨ahead, Nat.le_antisymm reached least⟩

def plannedBefore (segments : List Segment) (index : Nat) : List (Nat × Json) :=
  planned 0 (toolStepsOf (segments.take index))

def plannedAll (segments : List Segment) : List (Nat × Json) := planned 0 (toolStepsOf segments)

theorem plannedBefore_length : (plannedBefore segments index).length = stepsBefore segments index := by
  rw [plannedBefore, planned_length, stepsBefore, totalToolSteps_eq]

theorem plannedAll_length : (plannedAll segments).length = totalToolSteps segments := by
  rw [plannedAll, planned_length, totalToolSteps_eq]

theorem plannedBefore_initial : plannedBefore segments index <+: plannedAll segments := by
  have whole : toolStepsOf segments
      = toolStepsOf (segments.take index) ++ toolStepsOf (segments.drop index) := by
    rw [toolStepsOf, toolStepsOf, toolStepsOf, ← flatMap_append, take_append_drop]
  rw [plannedAll, whole, planned_append]
  exact prefix_append _ _

theorem initial_of_eq (same : names = plannedBefore segments index) : names <+: plannedAll segments := by
  rw [same]
  exact plannedBefore_initial

theorem plannedBefore_eq (same : stepsBefore segments index = stepsBefore segments other) :
    plannedBefore segments index = plannedBefore segments other := by
  have lengths : (plannedBefore segments index).length = (plannedBefore segments other).length := by
    rw [plannedBefore_length, plannedBefore_length, same]
  exact (prefix_of_prefix_length_le plannedBefore_initial plannedBefore_initial
    lengths.le).eq_of_length lengths

theorem plannedBefore_succ (indexed : Indexed 0 segments) (found : segments[index]? = some segment) :
    plannedBefore segments (index + 1)
      = plannedBefore segments index ++ planned segment.baseIndex segment.toolSteps := by
  have taken : segments.take (index + 1) = segments.take index ++ [segment] := by
    rw [take_add_one, found, toList_some]
  have place := indexed.at found
  rw [stepsBefore, totalToolSteps_eq] at place
  rw [plannedBefore, taken, toolStepsOf, flatMap_append, planned_append, place]
  simp [plannedBefore, toolStepsOf]

theorem indices_lt (indexed : Indexed 0 segments) (found : segments[index]? = some segment)
    (member : step ∈ segment.indices) :
    stepsBefore segments index ≤ step ∧ step < stepsBefore segments (index + 1) := by
  have place := indexed.at found
  rw [Segment.indices, mem_range'_1] at member
  rw [stepsBefore_succ found]
  omega

def RowsBelow (worker : Worker) (bound : Nat) : Prop :=
  ∀ index row, worker.rows.get? index = some row → index < bound

theorem RowsBelow.mono (below : RowsBelow worker bound) (fewer : bound ≤ more) :
    RowsBelow worker more := fun index row found => (below index row found).trans_le fewer

structure Handed (segments : List Segment) (worker : Worker) (drive : Drive) : Prop where
  results : drive.accumulated.map StepResult.name = plannedBefore segments drive.segment
  behind : RowsBelow worker (stepsBefore segments (drive.segment + 1))
  fresh : drive.continuation = false → RowsBelow worker (stepsBefore segments drive.segment)

def AtGate (segments : List Segment) (waitState : WaitState) : Prop :=
  ∀ gate, waitState.gate = some gate → waitState.continuation = true ∧
    ∃ index, gate.get "step_index" = .int (Int.ofNat index) ∧
      index < stepsBefore segments (waitState.resumeSegmentIndex + 1)

def Armed (world : World) (resume : Drive) : Prop :=
  ∀ {registration}, world.registered = some registration → registration.resume = resume

inductive Phase (segments : List Segment) (life : Life) : Prop where
  | driving (drive : Drive) (run : AgentRun) (position : life.position = .driving drive)
      (row : life.world.run = some run)
      (live : run.status = .executing ∨ run.status = .cancelled)
      (recorded : run.recorded.map StepResult.name = plannedBefore segments drive.segment)
      (handed : Handed segments life.world.worker drive)
  | stalled (drive : Drive) (run : AgentRun) (position : life.position = .stalled drive)
      (row : life.world.run = some run) (status : run.status = .executing)
      (recorded : run.recorded.map StepResult.name = plannedBefore segments drive.segment)
      (behind : RowsBelow life.world.worker (stepsBefore segments (drive.segment + 1)))
  | waiting (waitState : WaitState) (run : AgentRun) (position : life.position = .idle)
      (row : life.world.run = some run) (status : run.status = .waiting)
      (parked : run.waitState = some waitState)
      (handed : Handed segments life.world.worker (waitState.resume run))
      (armed : ∀ {registration}, life.world.registered = some registration →
        registration.resume = waitState.resume run)
      (gate : AtGate segments waitState)
  | finished (run : AgentRun) (resting : ∀ drive, life.position ≠ .driving drive)
      (row : life.world.run = some run) (terminal : run.status.terminal = true)
      (first : run.recorded.map StepResult.name <+: plannedAll segments)
      (whole : run.status = .completed ∨ run.status = .verifyFailed →
        run.recorded.map StepResult.name = plannedAll segments)

theorem RowsBelow.worked {continuation : Bool} (indexed : Indexed 0 segments)
    (found : segments[index]? = some segment) (worked : Worked continuation segment.indices worker later)
    (below : RowsBelow worker (stepsBefore segments (index + 1))) :
    RowsBelow later (stepsBefore segments (index + 1)) := by
  intro step row written
  by_cases member : step ∈ segment.indices
  · exact (indices_lt indexed found member).2
  · rw [(worked.outside member).row] at written
    exact below step row written

variable {ran : SegmentRun} {registration : Registration} {waitState : WaitState}
variable {decision : Decision} {note : Json}

theorem names_append (indexed : Indexed 0 segments)
    (found : segments[index]? = some segment) (fits : ran.Fits segment)
    (results : before.map StepResult.name = plannedBefore segments index) :
    (before ++ ran.results).map StepResult.name <+: plannedBefore segments (index + 1) := by
  rw [map_append, results, plannedBefore_succ indexed found]
  exact (prefix_append_right_inj _).mpr fits.names

theorem conclusion_completes (decision : conclusion chain row segment ran steps = decided)
    (completes : decided = .finished true ∨ ∃ verdict, decided = .verifyFailed verdict) :
    steps.length = totalToolSteps chain.segments := by
  have arises := conclusion_arises decision
  rcases completes with rfl | ⟨verdict, rfl⟩
  · cases arises with
    | finished counted => exact of_decide_eq_true counted.symm
  · cases arises with
    | verifyFailed whole => exact whole

section

variable (resting : ∀ drive, life.position ≠ .driving drive) (row : life.world.run = some run)
include resting row

theorem Phase.of_over (terminal : run.status.terminal = true)
    (open_ : run.status ≠ .completed ∧ run.status ≠ .verifyFailed)
    (first : run.recorded.map StepResult.name <+: plannedAll segments) : Phase segments life := by
  refine .finished run resting row terminal first fun closed => ?_
  rcases closed with completed | rejected
  · exact absurd completed open_.1
  · exact absurd rejected open_.2

theorem Phase.of_cancelled (cancelled : run.status = .cancelled)
    (recorded : run.recorded.map StepResult.name = plannedBefore segments index) : Phase segments life :=
  .of_over resting row (by simp [cancelled, AgentStatus.terminal]) (by simp [cancelled])
    (initial_of_eq recorded)

end

theorem Phase.conclude (indexed : Indexed 0 segments) (found : segments[drive.segment]? = some segment)
    (idle : position = .idle) (row : world.run = some run)
    (recorded : run.recorded.map StepResult.name = plannedBefore segments drive.segment)
    (results : drive.accumulated.map StepResult.name = plannedBefore segments drive.segment)
    (behind : RowsBelow world.worker (stepsBefore segments (drive.segment + 1))) (fits : ran.Fits segment)
    (gated : ∀ gate, decided = .gated gate → ran.gate = some gate)
    (cancelled : decided = .cancelled → run.status = .cancelled)
    (parked : ∀ wait, decided = .parked wait → ran.results.length = segment.toolSteps.length)
    (completes : decided = .finished true ∨ (∃ verdict, decided = .verifyFailed verdict) →
      (drive.accumulated ++ ran.results).length = totalToolSteps segments) :
    Phase segments { life with world := world.conclude drive ran decided, position } := by
  subst idle
  have left : (world.conclude drive ran decided).run
      = some (run.conclude drive.segment ran drive.accumulated decided) := World.conclude_run row
  have names := names_append indexed found fits results
  have first := names.trans plannedBefore_initial
  have whole (all : (drive.accumulated ++ ran.results).length = totalToolSteps segments) :
      (drive.accumulated ++ ran.results).map StepResult.name = plannedAll segments := by
    apply first.eq_of_length
    rw [length_map, all, plannedAll_length]
  cases decided with
  | cancelled => exact .of_cancelled (by simp) left (cancelled rfl) recorded
  | failed => exact .of_over (by simp) left rfl (by simp [AgentRun.conclude]) first
  | verifyFailed verdict =>
    exact .finished _ (by simp) left rfl first fun _ => whole (completes (.inr ⟨verdict, rfl⟩))
  | finished completedOk =>
    cases completedOk with
    | true => exact .finished _ (by simp) left rfl first fun _ => whole (completes (.inl rfl))
    | false => exact .of_over (by simp) left rfl (by simp [AgentRun.conclude]) first
  | gated gate =>
    refine .waiting _ _ rfl left rfl rfl ⟨results, behind, by simp [WaitState.resume]⟩ ?_ ?_
    · intro registration armed
      rw [← Option.some.inj armed]
      rfl
    · intro other stands
      cases stands
      obtain ⟨step, _, member, built⟩ := fits.gate (gated gate rfl)
      refine ⟨rfl, step, ?_, (indices_lt indexed found member).2⟩
      rw [built]
      rfl
  | parked wait =>
    have all : (drive.accumulated ++ ran.results).map StepResult.name
        = plannedBefore segments (drive.segment + 1) := by
      apply names.eq_of_length
      have before : drive.accumulated.length = stepsBefore segments drive.segment := by
        rw [← plannedBefore_length, ← results, length_map]
      rw [length_map, length_append, parked wait rfl, before, plannedBefore_length,
        stepsBefore_succ found]
    refine .waiting _ _ rfl left rfl rfl ⟨all, ?_, fun _ => behind⟩ ?_ ?_
    · exact behind.mono (stepsBefore_mono (Nat.le_succ _))
    · intro registration armed
      rw [← Option.some.inj armed]
      rfl
    · intro other stands
      cases stands

theorem conclusion_gated
    (decided : conclusion chain row segment ran steps = .gated gate) : ran.gate = some gate := by
  cases conclusion_arises decided with
  | gated stands => exact stands

def Left (chain : Chain) (drive : Drive) (world after : World) : Prop :=
  ∃ segment, chain.segments[drive.segment]? = some segment ∧ Touched world after ∧
    Worked drive.continuation segment.indices world.worker after.worker

theorem executeAgentSegmentChain_left {calls : ChainCalls} :
    (executeAgentSegmentChain chain drive (calls.through seam)).Yields world
      (Ended chain drive (calls.through seam) world
        (fun segment ran after => (Touched world after ∧ ran.whole segment)
          ∧ Worked drive.continuation segment.indices world.worker after.worker ∧ ran.Fits segment)
        (Left chain drive world)) (fun _ _ => False) := by
  apply executeAgentSegmentChain_ended
  intro segment found
  have touched := @runSegment_yields world segment drive.continuation (calls.through seam).segment
  have worked := @runSegment_worked world segment drive.continuation seam calls.segment
  exact (touched.and worked).mono (fun _ _ held => held)
    fun _ _ held => ⟨segment, found, held.1, held.2⟩

theorem Chain.interrupted_left {calls : SegmentCalls} :
    chain.interrupted drive (calls.through seam) world = world ∨
      Left chain drive world (chain.interrupted drive (calls.through seam) world) := by
  simp only [Chain.interrupted]
  split
  case h_1 segment found =>
    have touched := @runSegment_yields world segment drive.continuation (calls.through seam)
    have worked := @runSegment_worked world segment drive.continuation seam calls
    have left := (touched.and worked).mono (fun _ _ held => And.intro held.1.1 held.2.1)
      (fun _ _ held => held)
    exact .inr ⟨segment, found, left.left_state⟩
  · exact .inl rfl

theorem ChainCalls.settled_worker {calls : ChainCalls} : (calls.settled world).worker = world.worker := by
  simp only [ChainCalls.settled]
  split <;> rfl

section

variable (indexed : Indexed 0 chain.segments) (row : life.world.run = some run)
  (live : run.status = .executing ∨ run.status = .cancelled)
  (recorded : run.recorded.map StepResult.name = plannedBefore chain.segments drive.segment)
  (handed : Handed chain.segments life.world.worker drive)
include indexed row live recorded handed

theorem Phase.stall (left : touched = life.world ∨ Left chain drive life.world touched)
    (kept : after.run = touched.run) (same : after.worker = touched.worker) :
    Phase chain.segments { life with world := after, position := .stalled drive } := by
  have found : after.run = some run := by
    rcases left with unchanged | ⟨_, _, touched, _⟩
    · rw [kept, unchanged, row]
    · rw [kept, touched.run, row]
  have behind : RowsBelow after.worker (stepsBefore chain.segments (drive.segment + 1)) := by
    rw [same]
    rcases left with unchanged | ⟨segment, place, _, worked⟩
    · rw [unchanged]
      exact handed.behind
    · exact handed.behind.worked indexed place worked
  rcases live with executing | cancelled
  · exact .stalled drive run rfl found executing recorded behind
  · exact .of_cancelled (by simp) found cancelled recorded

theorem Phase.called {calls : ChainCalls} {response : ChainResponse}
    {Ran : Segment → SegmentRun → World → Prop}
    (known : ∀ {segment ran middle}, Ran segment ran middle → (Touched life.world middle ∧ ran.whole segment)
        ∧ Worked drive.continuation segment.indices life.world.worker middle.worker ∧ ran.Fits segment)
    (ended : Ended chain drive (calls.through seam) life.world Ran (Left chain drive life.world) response after) :
    Phase chain.segments { life with world := after, position := .after drive (.ok response) } := by
  cases ended with
  | gaveUp error after raised => exact Phase.stall indexed row live recorded handed raised rfl rfl
  | halted cancelled =>
    rw [row, map_some, Option.some.injEq] at cancelled
    exact .of_cancelled (by simp [Position.after]) row cancelled recorded
  | concluded segment ran middle found left decided decision =>
    obtain ⟨⟨touched, whole⟩, worked, fits⟩ := known left
    obtain ⟨current, kept, status, steps⟩ : ∃ current,
        ((calls.through seam).settled middle).run = some current ∧
        (current.status = .executing ∨ current.status = .cancelled) ∧
        current.recorded = run.recorded := by
      simp only [ChainCalls.settled]
      split
      · refine ⟨run.cancel, by rw [touched.run, row, map_some], .inr ?_, ?_⟩
        · exact cancel_live live
        · simp only [AgentRun.cancel, cancelFor]
          split <;> rfl
      · exact ⟨run, touched.run.trans row, live, rfl⟩
    refine Phase.conclude indexed found Position.after_response kept (steps ▸ recorded)
      handed.results ?_ fits ?_ ?_ ?_ ?_
    · rw [ChainCalls.settled_worker]
      exact handed.behind.worked indexed found worked
    · intro gate decided
      exact conclusion_gated (decision.trans decided)
    · intro halted
      exact conclusion_cancelled kept (decision.trans halted)
    · intro wait parked
      obtain ⟨ungated, passed⟩ := conclusion_parked_passed kept status (decision.trans parked)
      exact whole ungated passed
    · exact conclusion_completes decision

end

theorem AgentRun.cancel_terminal (terminal : run.status.terminal = true) : run.cancel = run := by
  rw [AgentRun.cancel, cancelFor]
  cases status : run.status <;> simp [status, AgentStatus.terminal] at terminal <;>
    simp [AgentStatus.cancellable]

theorem AgentRun.cancel_recorded : run.cancel.recorded = run.recorded := by
  simp only [AgentRun.cancel, cancelFor]
  split <;> rfl

/-- A cancelled run is over, unless the call that drives it has yet to see it. -/
theorem Phase.cancel (phase : Phase segments life) :
    Phase segments
      { life with world := { life.world with run := life.world.run.map AgentRun.cancel } } := by
  have cancelled {run : AgentRun} (row : life.world.run = some run) :
      life.world.run.map AgentRun.cancel = some run.cancel := by rw [row, map_some]
  cases phase with
  | driving drive run position row live recorded handed =>
    refine .driving drive run.cancel position (cancelled row) (.inr (cancel_live live)) ?_ handed
    rw [cancel_recorded, recorded]
  | stalled drive run position row status recorded =>
    exact .of_cancelled (by simp [position]) (cancelled row) (cancel_live (.inl status))
      (cancel_recorded ▸ recorded)
  | waiting waitState run position row status parked handed =>
    have ended : run.cancel.status = .cancelled := by
      simp [AgentRun.cancel, cancelFor, status, AgentStatus.cancellable]
    have results : run.recorded.map StepResult.name = plannedBefore segments _ := handed.results
    exact .of_cancelled (by simp [position]) (cancelled row) ended (cancel_recorded ▸ results)
  | finished run resting row terminal first whole =>
    have same : run.cancel = run := cancel_terminal terminal
    refine .finished run resting ?_ terminal first whole
    rw [cancelled row, same]

theorem Phase.same (phase : Phase segments life) (position : next.position = life.position)
    (kept : next.world.run = life.world.run) (worker : next.world.worker = life.world.worker)
    (rearmed : ∀ {run waitState}, life.world.run = some run → run.waitState = some waitState →
      Armed life.world (waitState.resume run) → Armed next.world (waitState.resume run)) :
    Phase segments next := by
  cases phase with
  | driving drive run driving row live recorded handed =>
    exact .driving drive run (position.trans driving) (kept.trans row) live recorded (worker ▸ handed)
  | stalled drive run stalled row status recorded behind =>
    exact .stalled drive run (position.trans stalled) (kept.trans row) status recorded (worker ▸ behind)
  | waiting waitState run idle row status parked handed armed gate =>
    exact .waiting waitState run (position.trans idle) (kept.trans row) status parked (worker ▸ handed)
      (rearmed row parked armed) gate
  | finished run resting row terminal first whole =>
    exact .finished run (position ▸ resting) (kept.trans row) terminal first whole

theorem Phase.forget (phase : Phase segments life) :
    Phase segments { life with world := { life.world with registered := none } } :=
  phase.same rfl rfl rfl fun _ _ _ _ found => nomatch found

theorem World.claim_waiting (row : world.run = some run) (status : run.status ≠ .waiting) :
    world.claim .waiting = none := by
  simp [World.claim, row, if_neg status]

theorem terminal_ne {status : AgentStatus} (terminal : status.terminal = true) :
    status ≠ .waiting ∧ status ≠ .executing := by
  cases status <;> simp [AgentStatus.terminal] at terminal ⊢

theorem Phase.deliver (phase : Phase segments life)
    (idle : life.position = .idle) (registered : life.world.registered = some registration) :
    Phase segments (life.deliver registration) := by
  have forgotten := phase.forget
  cases phase with
  | driving drive run position | stalled drive run position => simp [position] at idle
  | waiting waitState run position row status parked handed armed =>
    have resumes := armed registered
    have claimed : ({ life.world with registered := none } : World).claim .waiting
        = some { life.world with
            registered := none
            run := some { run with status := .executing, waitState := none } } := by
      simp [World.claim, row, if_pos status]
    simp only [Life.deliver, claimed]
    rw [resumes]
    exact .driving _ _ rfl rfl (.inl rfl) handed.results handed
  | finished run resting row terminal =>
    have missed : ({ life.world with registered := none } : World).claim .waiting = none :=
      World.claim_waiting row (terminal_ne terminal).1
    simp only [Life.deliver, missed]
    exact forgotten

theorem rehydrateWaiting_worker : (rehydrateWaiting deployment world).worker = world.worker := by
  rcases @rehydrateWaiting_cases deployment world with same | ⟨registration, armed⟩
  · rw [same]
  · rw [armed]

theorem continuation_resting (status : run.status ≠ .executing) :
    continuation deployment startup world run = .skipped := by
  simp [continuation, status]

/-- The wait of a parked run is registered with the resume that its row holds. -/
theorem rehydrateWaiting_armed (row : world.run = some run) (parked : run.waitState = some waitState)
    (armed : Armed world (waitState.resume run)) :
    Armed (rehydrateWaiting deployment world) (waitState.resume run) := by
  intro registration found
  cases before : world.registered with
  | some =>
    have same : rehydrateWaiting deployment world = world := by
      simp [rehydrateWaiting, before]
    rw [same] at found
    exact armed found
  | none =>
    obtain ⟨_, known, resumes⟩ := rehydrateWaiting_resume before row found
    cases parked.symm.trans known
    exact resumes

theorem Phase.rehydrate (phase : Phase segments life) :
    Phase segments { life with world := rehydrateWaiting deployment life.world } :=
  phase.same rfl rehydrateWaiting_run rehydrateWaiting_worker rehydrateWaiting_armed

/-- A run found in `executing` at a startup was cut short in some segment. -/
theorem Phase.cut (phase : Phase segments life) (resting : ∀ drive, life.position ≠ .driving drive)
    (row : life.world.run = some run) (executing : run.status = .executing) :
    ∃ drive, life.position = .stalled drive ∧
      run.recorded.map StepResult.name = plannedBefore segments drive.segment ∧
      RowsBelow life.world.worker (stepsBefore segments (drive.segment + 1)) := by
  cases phase with
  | driving drive other position => exact absurd position (resting drive)
  | stalled drive other position found status recorded behind =>
    cases row.symm.trans found
    exact ⟨drive, position, recorded, behind⟩
  | waiting waitState other position found status =>
    cases row.symm.trans found
    simp [executing] at status
  | finished other _ found terminal =>
    cases row.symm.trans found
    exact absurd executing (terminal_ne terminal).2

/-- The segment a continuation picks is the one that was cut short, or the next
one with a tool step. -/
theorem Handed.redriven (split : splitAgentPlan deployment.stepGranularity run.plan = .ok segments)
    (recorded : run.recorded.map StepResult.name = plannedBefore segments drive.segment)
    (behind : RowsBelow worker (stepsBefore segments (drive.segment + 1)))
    (redriven : continuation deployment startup world run = .redriven index) :
    Handed segments worker ⟨index, run.recorded, true⟩ := by
  have counted := continuation_redriven split redriven
  have picked : Picked deployment startup segments world run :=
    .of_not_skipped split (by simp [redriven])
  have length : run.recorded.length = stepsBefore segments drive.segment := by
    rw [← plannedBefore_length, ← recorded, length_map]
  have bound : drive.segment ≤ segments.length := by
    have unfinished := countCompletedSegments_lt_iff.mp picked.unfinished
    by_contra past
    have all : stepsBefore segments drive.segment = totalToolSteps segments := by
      rw [stepsBefore, take_of_length_le (by omega)]
    omega
  obtain ⟨ahead, same⟩ := stepsBefore_countCompletedSegments bound
  rw [← length, ← counted] at ahead same
  refine ⟨?_, ?_, by simp⟩
  · rw [recorded]
    exact plannedBefore_eq (length.symm.trans same.symm)
  · exact behind.mono (stepsBefore_mono (Nat.succ_le_succ ahead))

theorem Phase.recovered (regular : Regular plan segments life.world)
    (split : splitAgentPlan deployment.stepGranularity plan = .ok segments)
    (resting : ∀ drive, life.position ≠ .driving drive) (phase : Phase segments life) :
    Phase segments (life.recover deployment startup) := by
  have armed : Phase segments { life with world := rehydrateWaiting deployment life.world } :=
    phase.rehydrate
  obtain ⟨run, row, planned, _⟩ := regular.row
  subst planned
  have kept : (rehydrateWaiting deployment life.world).run = some run := rehydrateWaiting_run.trans row
  simp only [Life.recover, regular.scan, continueCrashed, kept]
  generalize decided : continuation deployment startup (rehydrateWaiting deployment life.world) run
    = choice
  by_cases executing : run.status = .executing
  case neg =>
    rw [continuation_resting executing] at decided
    subst decided
    exact armed
  case pos =>
    obtain ⟨_, _, recorded, behind⟩ := phase.cut resting row executing
    cases choice with
    | skipped => exact armed
    | exhausted => exact .of_over resting rfl rfl (by simp) (initial_of_eq recorded)
    | redriven index =>
      have handed : Handed segments life.world.worker ⟨index, run.recorded, true⟩ :=
        Handed.redriven split recorded behind decided
      refine .driving _ _ rfl rfl (.inl executing) handed.results ?_
      simp only [rehydrateWaiting_worker]
      exact handed

theorem refuseDecision_stepIndex : (refuseDecision gate text).get "step_index" = gate.get "step_index" := by
  cases gate with
  | obj =>
    simp only [refuseDecision, Json.get, Dict.Entries.find?_assign]
    rw [if_neg (by decide)]
  | _ => rfl

theorem RowsBelow.set (below : RowsBelow worker bound)
    (inside : index < bound) : RowsBelow { worker with rows := worker.rows.set index row } bound := by
  intro other found written
  rw [Dict.get?_set] at written
  split at written
  case isTrue same => exact same ▸ inside
  · exact below other found written

section

variable (phase : Phase segments life) (decided : life.decide deployment decision note = some next)
include phase decided

/-- A decision is on a parked run, at the step its gate stands at. -/
theorem Phase.decide_cases :
    ∃ run waitState gate index, life.position = .idle ∧ life.world.run = some run ∧
      run.status = .waiting ∧ run.waitState = some waitState ∧ waitState.gate = some gate ∧
      gate.get "step_index" = .int (Int.ofNat index) ∧ waitState.continuation = true ∧
      index < stepsBefore segments (waitState.resumeSegmentIndex + 1) ∧
      Handed segments life.world.worker (waitState.resume run) ∧
      Armed life.world (waitState.resume run) ∧
      next = { life with
        world := (if decision = .abort then life.world
          else rehydrateWaiting deployment life.world).decide run waitState gate index decision note } := by
  simp only [Life.decide] at decided
  split at decided
  · cases decided
  case h_2 run row =>
    split at decided
    · cases decided
    case isFalse waits =>
      rw [not_not] at waits
      split at decided
      · cases decided
      case h_2 waitState parked =>
        split at decided
        · cases decided
        case h_2 gate stands =>
          cases phase with
          | waiting known other position found status held handed armed gated =>
            cases row.symm.trans found
            cases parked.symm.trans held
            obtain ⟨continued, index, place, inside⟩ := gated gate stands
            rw [place] at decided
            simp only [Json.toInt, Int.ofNat_eq_natCast, Option.some.injEq] at decided
            exact ⟨run, waitState, gate, index, position, row, waits, parked, stands, place, continued,
              inside, handed, armed, decided.symm⟩
          | driving drive other position found live =>
            cases row.symm.trans found
            rcases live with live | live <;> simp [live] at waits
          | stalled drive other position found status =>
            cases row.symm.trans found
            simp [status] at waits
          | finished other _ found terminal =>
            cases row.symm.trans found
            exact absurd waits (terminal_ne terminal).1

theorem Phase.decide : Phase segments next := by
  obtain ⟨run, waitState, gate, index, position, row, status, parked, stands, place, continued, inside,
    handed, armed, rfl⟩ := phase.decide_cases decided
  have results : run.recorded.map StepResult.name <+: plannedAll segments := initial_of_eq handed.results
  have kept : (rehydrateWaiting deployment life.world).run = some run := rehydrateWaiting_run.trans row
  have rearmed : Armed (rehydrateWaiting deployment life.world) (waitState.resume run) :=
    rehydrateWaiting_armed row parked armed
  have gated : AtGate segments waitState := by
    intro other found
    cases stands.symm.trans found
    exact ⟨continued, index, place, inside⟩
  cases decision with
  | skip =>
    simp only [reduceCtorEq, if_false, World.decide]
    refine .waiting waitState run position kept status parked ?_ rearmed gated
    refine ⟨handed.results, ?_, by simp [WaitState.resume, continued]⟩
    rw [rehydrateWaiting_worker]
    exact handed.behind.set inside
  | abort => exact .of_over (by simp [position]) rfl rfl (by simp) results
  | unknown text =>
    simp only [reduceCtorEq, if_false, World.decide]
    refine .waiting { waitState with gate := some (refuseDecision gate text) } _ position rfl status rfl
      ?_ rearmed ?_
    · simp only [rehydrateWaiting_worker]
      exact handed
    · intro other found
      cases found
      refine ⟨continued, index, ?_, inside⟩
      rw [refuseDecision_stepIndex, place]

end

theorem Regular.decide (regular : Regular plan segments life.world)
    (phase : Phase segments life) (decided : life.decide deployment decision note = some next) :
    Regular plan segments next.world := by
  obtain ⟨_, waitState, gate, _, _, row, status, parked, _, _, _, _, _, _, rfl⟩ :=
    phase.decide_cases decided
  obtain ⟨_, found, planned, stands⟩ := regular.row
  cases row.symm.trans found
  cases decision with
  | skip => exact regular.same rehydrateWaiting_run fun found => .inr (rehydrateWaiting_flows ▸ found)
  | abort => exact ⟨⟨_, rfl, planned, .finished rfl⟩, regular.flows⟩
  | unknown text =>
    refine ⟨⟨_, rfl, planned, ?_⟩, fun found => regular.flows (rehydrateWaiting_flows ▸ found)⟩
    cases stands with
    | executing executing => simp [status] at executing
    | finished terminal => exact absurd status (terminal_ne terminal).1
    | waiting waits known held named bound =>
      cases parked.symm.trans held
      exact .waiting waits { waitState with gate := some (refuseDecision gate text) } rfl named bound

variable (deployment chain life) in
inductive Operated : Life → Prop where
  | called (seam : Seam) (calls : ChainCalls) (drive : Drive) (response : ChainResponse)
      (world : World) (driving : life.position = .driving drive)
      (ended : Ended chain drive (calls.through seam) life.world
        (fun segment ran after => (Touched life.world after ∧ ran.whole segment)
          ∧ Worked drive.continuation segment.indices life.world.worker after.worker ∧ ran.Fits segment)
        (Left chain drive life.world) response world) :
      Operated { life with world, position := .after drive (.ok response) }
  | delivered (registration : Registration) (idle : life.position = .idle)
      (registered : life.world.registered = some registration) :
      Operated (life.deliver registration)
  | cancelled :
      Operated
        { life with world := { life.world with run := life.world.run.map AgentRun.cancel } }
  | cut (drive : Drive) (world : World) (driving : life.position = .driving drive)
      (left : world = life.world ∨ Left chain drive life.world world) :
      Operated
        { life with world := { world with registered := none }, position := .stalled drive }
  | stopped : Operated { life with world := { life.world with registered := none } }
  | restarted (startup : Startup) (resting : ∀ drive, life.position ≠ .driving drive) :
      Operated (life.recover deployment startup)
  | decided (decision : Decision) (note : Json) (next : Life)
      (decides : life.decide deployment decision note = some next) :
      Operated next

theorem operatedLife_operated (stepped : (operatedLife deployment chain).step life occurrence = some next) :
    Operated deployment chain life next := by
  cases occurrence with
  | call seam calls =>
    simp only [operatedLife, planLife] at stepped
    split at stepped <;> cases stepped
    case h_1 drive driving =>
      have yields := @executeAgentSegmentChain_left chain life.world drive seam calls
      generalize ran : (executeAgentSegmentChain chain drive (calls.through seam)).run life.world = result
      obtain ⟨outcome, world⟩ := result
      cases outcome with
      | error => exact absurd (yields.raises ran) not_false
      | ok response => exact .called seam calls drive response world driving (yields.returned ran)
  | crash =>
    simp only [operatedLife, planLife] at stepped
    split at stepped <;> cases stepped
    case h_1 drive driving => exact .cut drive _ driving Chain.interrupted_left
    · exact .stopped
  | deliver =>
    simp only [operatedLife] at stepped
    cases planLife_stepped stepped with
    | delivered registration idle registered => exact .delivered registration idle registered
  | cancel =>
    cases stepped
    exact .cancelled
  | startup startup =>
    simp only [operatedLife] at stepped
    cases planLife_stepped stepped with
    | restarted _ resting => exact .restarted startup resting
  | decide decision note => exact .decided decision note next stepped

theorem Phase.of_driving (phase : Phase segments life) (driving : life.position = .driving drive) :
    ∃ run, life.world.run = some run ∧ (run.status = .executing ∨ run.status = .cancelled) ∧
      run.recorded.map StepResult.name = plannedBefore segments drive.segment ∧
      Handed segments life.world.worker drive := by
  cases phase with
  | driving other run position row live recorded handed =>
    cases driving.symm.trans position
    exact ⟨run, row, live, recorded, handed⟩
  | stalled other run position | waiting waitState run position => simp [driving] at position
  | finished run resting => exact absurd driving (resting drive)

structure Accounted (plan : Json) (segments : List Segment) (life : Life) : Prop where
  regular : Regular plan segments life.world
  phase : Phase segments life

section

variable (split : splitAgentPlan deployment.stepGranularity plan = .ok chain.segments)
include split

section

variable (accounted : Accounted plan chain.segments life)
  (stepped : (operatedLife deployment chain).step life occurrence = some next)
include accounted stepped

theorem step_phase : Phase chain.segments next := by
  obtain ⟨regular, phase⟩ := accounted
  have indexed : Indexed 0 chain.segments := (splitAgentPlan_layout split).2
  cases operatedLife_operated stepped with
  | called seam calls drive response world driving ended =>
    obtain ⟨_, row, live, recorded, handed⟩ := phase.of_driving driving
    exact Phase.called indexed row live recorded handed id ended
  | delivered registration idle registered => exact phase.deliver idle registered
  | cancelled => exact phase.cancel
  | cut drive world driving left =>
    obtain ⟨_, row, live, recorded, handed⟩ := phase.of_driving driving
    exact Phase.stall indexed row live recorded handed left rfl rfl
  | stopped => exact phase.forget
  | restarted startup resting => exact phase.recovered regular split resting
  | decided decision note _ decides => exact phase.decide decides

theorem step_accounted : Accounted plan chain.segments next := by
  refine ⟨?_, step_phase split accounted stepped⟩
  cases occurrence with
  | decide => exact accounted.regular.decide accounted.phase stepped
  | _ =>
    simp only [operatedLife] at stepped
    exact step_regular split accounted.regular (planLife_stepped stepped)

end

end

theorem Accounted.started : Accounted plan segments (.started plan) := by
  refine ⟨.started, .driving _ _ rfl rfl (.inl rfl) rfl ⟨rfl, ?_, fun _ => ?_⟩⟩
  all_goals
    intro index row found
    cases found

theorem run_accounted (split : splitAgentPlan deployment.stepGranularity plan = .ok chain.segments)
    (accounted : Accounted plan chain.segments life)
    (ran : (operatedLife deployment chain).run life occurrences = some next) :
    Accounted plan chain.segments next :=
  @StepSystem.invariant_run _ _ _ _ _ _ (Accounted plan chain.segments)
    (fun held stepped => step_accounted split held stepped) accounted ran

def gatedPlan : Json := planOf [toolStep "a", toolStep "b", toolStep "c"]

def gatedChain : Chain := ⟨[⟨[toolStep "a", toolStep "b", toolStep "c"], 0, none⟩], passing⟩

def refusing (refused : Option Nat) : Seam := fun index _ =>
  if refused = some index then
    ⟨false, .null, .str "denied", false, some ⟨"b", .str "denied", "unrecovered", .null, .obj []⟩, true⟩
  else ⟨true, .null, .null, false, none, true⟩

/-- Whatever crashes, startups and decisions came before, the row of a parked run has
the results of the tool steps before the segment it names, no step behind that
segment has a row, and a registered resume is the one that the row describes. -/
theorem parked_row_tells (split : splitAgentPlan deployment.stepGranularity plan = .ok chain.segments)
    (ran : (operatedLife deployment chain).run (.started plan) occurrences = some life)
    (row : life.world.run = some run) (waiting : run.status = .waiting) :
    ∃ waitState, run.waitState = some waitState ∧
      run.recorded.map StepResult.name = plannedBefore chain.segments waitState.resumeSegmentIndex ∧
      RowsBelow life.world.worker (stepsBefore chain.segments (waitState.resumeSegmentIndex + 1)) ∧
      ∀ registration, life.world.registered = some registration → registration.resume = waitState.resume run := by
  cases (run_accounted split Accounted.started ran).phase with
  | driving _ _ _ found live =>
    cases row.symm.trans found
    simp [waiting] at live
  | stalled _ _ _ found executing =>
    cases row.symm.trans found
    simp [waiting] at executing
  | waiting waitState _ _ found _ parked handed armed =>
    cases row.symm.trans found
    exact ⟨waitState, parked, handed.results, handed.behind, fun _ => armed⟩
  | finished _ _ found terminal =>
    cases row.symm.trans found
    simp [waiting, AgentStatus.terminal] at terminal

theorem parked_row_tells_at_gate :
    ∃ life run, (operatedLife continuing gatedChain).run (.started gatedPlan)
        [.call (refusing (some 1)) ⟨succeeding, false⟩] = some life ∧ life.world.run = some run ∧
      ∃ waitState, run.waitState = some waitState ∧
        RowsBelow life.world.worker (stepsBefore gatedChain.segments (waitState.resumeSegmentIndex + 1)) :=
  ⟨_, _, rfl, rfl, (@parked_row_tells continuing gatedChain gatedPlan _ _
    [.call (refusing (some 1)) ⟨succeeding, false⟩] rfl rfl rfl rfl).imp fun _ held => ⟨held.1, held.2.2.1⟩⟩

end AindyRuntime.Agent
