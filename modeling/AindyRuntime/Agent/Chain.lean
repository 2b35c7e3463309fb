import AindyRuntime.Agent.Segment
import AindyRuntime.Lib.Program

/-! # The segment chain

`_execute_agent_segment_chain` of `runtime/nodus_execution_service.py`: one call
runs one segment and then completes, fails or parks the run.
-/

namespace AindyRuntime.Agent

open Program

inductive AgentStatus where
  | pendingApproval
  | approved
  | awaitingDelegation
  | executing
  | waiting
  | delegated
  | completed
  | failed
  | cancelled
  | verifyFailed
deriving DecidableEq, Repr

def AgentStatus.terminal : AgentStatus → Bool
  | .completed | .failed | .cancelled | .verifyFailed => true
  | _ => false

def AgentStatus.cancellable : AgentStatus → Bool
  | .pendingApproval | .approved | .executing | .waiting | .delegated => true
  | _ => false

structure WaitState where
  eventType : String
  correlationKey : Option String
  resumeSegmentIndex : Nat
  continuation : Bool
  gate : Option Json
deriving DecidableEq

structure Verdict where
  ok : Bool
  (checked failures : Nat)
deriving DecidableEq

structure RunResult where
  steps : List StepResult
  continuationAttempts : Option Int
  verify : Option Verdict
deriving DecidableEq

structure AgentRun where
  status : AgentStatus
  plan : Json
  result : Option RunResult
  waitState : Option WaitState
  flowRunId : Option String
  (stepsCompleted currentStep : Nat)
  errorMessage : Json
deriving DecidableEq

structure Drive where
  segment : Nat
  accumulated : List StepResult
  continuation : Bool
deriving DecidableEq

structure Registration where
  wait : Wait
  resume : Drive
deriving DecidableEq

structure World where
  run : Option AgentRun
  worker : Worker
  flowRuns : Dict String String
  registered : Option Registration
  /-- Every wait the run was parked on, oldest first. -/
  parks : List Wait

structure ChainCalls where
  segment : SegmentCalls
  /-- `sys.v1.agent.cancel` wins its update while the segment runs. -/
  cancelled : Bool

abbrev Verifier := Json → List StepResult → Verdict

def passing : Verifier := fun _ _ => ⟨true, 0, 0⟩

structure Chain where
  segments : List Segment
  verifier : Verifier

inductive ChainResponse where
  | cancelled
  | waiting (eventType : String)
  | flow
  | verifyFailed
  | failed (error : String)
deriving DecidableEq

abbrev ChainM := Program PyError World

def nodusVmWorkflow : String := "nodus_agent_execution"

def authorityDecisionEvent : String := "agent.authority.decision"

def AgentRun.cancelFor (reason : String) (run : AgentRun) : AgentRun :=
  if run.status.cancellable then
    { run with
      status := .cancelled
      waitState := none
      errorMessage := .str (if reason = "" then "cancelled" else "cancelled: " ++ reason) }
  else run

def AgentRun.cancel : AgentRun → AgentRun := AgentRun.cancelFor ""

def SegmentRun.nothing : SegmentRun := ⟨[], false, none, none, .null⟩

def runSegment (segment : Segment) (continuation : Bool) (calls : SegmentCalls) : ChainM SegmentRun :=
  if segment.toolSteps.isEmpty then return .nothing
  else do
    let compiled ← Program.call (compileAgentSegment segment.toolSteps segment.baseIndex)
    let world ← read
    let guest := runGuest continuation calls compiled world.worker
    modify fun world =>
      { world with
        worker := guest.2
        flowRuns := match calls.flowRunId with
          | some id => world.flowRuns.set id nodusVmWorkflow
          | none => world.flowRuns }
    match calls.raises with
    | some error => raise error
    | none =>
      let ran := segmentRun calls compiled guest.1
      modify fun world =>
        { world with worker := { world.worker with rows := fillGaps world.worker.rows ran.results } }
      return ran

inductive Conclusion where
  | cancelled
  | gated (gate : Json)
  | failed
  | parked (wait : Wait)
  | verifyFailed (verdict : Verdict)
  | finished (completedOk : Bool)

def conclusion (chain : Chain) (run : Option AgentRun) (segment : Segment) (ran : SegmentRun)
    (accumulated : List StepResult) : Conclusion :=
  let status := run.map AgentRun.status
  if status = some .cancelled then .cancelled
  else
    match ran.gate, status with
    | some gate, some .executing => .gated gate
    | _, _ =>
      if ran.failed then .failed
      else
        match segment.wait with
        | some wait => .parked wait
        | none =>
          let completedOk := decide (accumulated.length = totalToolSteps chain.segments)
          let verdict := chain.verifier ((run.map (·.plan)).getD .null) accumulated
          if completedOk && !verdict.ok then .verifyFailed verdict
          else .finished completedOk

def succeeded (steps : List StepResult) : Nat := steps.countP (·.status = .success)

def failureText (ran : SegmentRun) : Json :=
  match ran.results.find? (·.status = .failed) with
  | some entry =>
    if entry.error.truthy then
      .str ("step " ++ toString entry.stepIndex ++ " (" ++ entry.tool ++ ") failed: " ++ entry.error.text)
    else ran.flowError.orElse (.str "one or more agent steps failed")
  | none => ran.flowError.orElse (.str "one or more agent steps failed")

def AgentRun.note (run : AgentRun) (ran : SegmentRun) (accumulated : List StepResult) : AgentRun :=
  { run with
    flowRunId := (ran.flowRunId.filter (· ≠ "")).or run.flowRunId
    stepsCompleted := succeeded accumulated
    currentStep := accumulated.length }

def AgentRun.conclude (run : AgentRun) (index : Nat) (ran : SegmentRun)
    (before : List StepResult) : Conclusion → AgentRun
  | .cancelled => run
  | .gated gate =>
    { run.note ran (before ++ ran.results) with
      result := some ⟨before, none, none⟩
      status := .waiting
      waitState := some ⟨authorityDecisionEvent, none, index, true, some gate⟩ }
  | .failed =>
    { run.note ran (before ++ ran.results) with
      result := some ⟨before ++ ran.results, none, none⟩
      status := .failed
      waitState := none
      errorMessage := failureText ran }
  | .parked wait =>
    { run.note ran (before ++ ran.results) with
      result := some ⟨before ++ ran.results, none, none⟩
      status := .waiting
      waitState := some ⟨wait.eventType, wait.correlationKey, index + 1, false, none⟩ }
  | .verifyFailed verdict =>
    { run.note ran (before ++ ran.results) with
      result := some ⟨before ++ ran.results, none, some verdict⟩
      status := .verifyFailed
      waitState := none
      errorMessage := .str ("post-condition verification failed: " ++ toString verdict.failures
        ++ " check(s) did not hold") }
  | .finished completedOk =>
    { run.note ran (before ++ ran.results) with
      result := some ⟨before ++ ran.results, none, none⟩
      status := if completedOk then .completed else .failed
      waitState := none
      errorMessage := if completedOk then run.errorMessage
        else .str "one or more agent steps did not run" }

def Conclusion.registration (index : Nat) (ran : SegmentRun) (before : List StepResult) :
    Conclusion → Option Registration
  | .gated _ => some ⟨⟨authorityDecisionEvent, none⟩, ⟨index, before, true⟩⟩
  | .parked wait => some ⟨wait, ⟨index + 1, before ++ ran.results, false⟩⟩
  | _ => none

def Conclusion.response : Conclusion → ChainResponse
  | .cancelled => .cancelled
  | .gated _ => .waiting authorityDecisionEvent
  | .parked wait => .waiting wait.eventType
  | .verifyFailed _ => .verifyFailed
  | .failed | .finished _ => .flow

def World.conclude (world : World) (drive : Drive) (ran : SegmentRun) (decided : Conclusion) : World :=
  let registration := decided.registration drive.segment ran drive.accumulated
  { world with
    run := world.run.map fun run => run.conclude drive.segment ran drive.accumulated decided
    registered := registration.or world.registered
    parks := world.parks ++ (registration.map (·.wait)).toList }

theorem World.conclude_run {world : World} {run : AgentRun} (row : world.run = some run) :
    (world.conclude drive ran decided).run =
      some (run.conclude drive.segment ran drive.accumulated decided) := by
  simp [World.conclude, row]

def executeAgentSegmentChain (chain : Chain) (drive : Drive) (calls : ChainCalls) : ChainM ChainResponse :=
  attempt
    (do
      let world ← read
      if world.run.map AgentRun.status = some .cancelled then return .cancelled
      else
        match chain.segments[drive.segment]? with
        | none => raise ⟨.lookup, "list index out of range"⟩
        | some segment =>
          let ran ← runSegment segment drive.continuation calls.segment
          if calls.cancelled then modify fun world => { world with run := world.run.map AgentRun.cancel }
          let world ← read
          let decided := conclusion chain world.run segment ran (drive.accumulated ++ ran.results)
          modify fun world => world.conclude drive ran decided
          return decided.response)
    fun error => return .failed error.text

def World.started (plan : Json) : World where
  run := some ⟨.executing, plan, none, none, none, 0, 0, .null⟩
  worker := ⟨∅, []⟩
  flowRuns := ∅
  registered := none
  parks := []

variable {chain : Chain} {drive : Drive} {world after : World} {segment : Segment}

variable (chain : Chain) (row : Option AgentRun) (segment : Segment) (ran : SegmentRun) (steps : List StepResult) in
inductive Conclusion.Arises : Conclusion → Prop where
  | cancelled (status : row.map AgentRun.status = some .cancelled) :
      Conclusion.Arises .cancelled
  | gated {gate : Json} (stands : ran.gate = some gate) :
      Conclusion.Arises (.gated gate)
  | failed (failed : ran.failed = true) : Conclusion.Arises .failed
  | parked {wait : Wait} (ungated : row.map AgentRun.status = some .executing → ran.gate = none)
      (passed : ran.failed = false) (waits : segment.wait = some wait) :
      Conclusion.Arises (.parked wait)
  | verifyFailed {verdict : Verdict} (whole : steps.length = totalToolSteps chain.segments) :
      Conclusion.Arises (.verifyFailed verdict)
  | finished {completedOk : Bool}
      (counted : completedOk = decide (steps.length = totalToolSteps chain.segments))
      (verified : completedOk = true → (chain.verifier ((row.map (·.plan)).getD .null) steps).ok = true) :
      Conclusion.Arises (.finished completedOk)

theorem conclusion_arises (decision : conclusion chain row segment ran steps = decided) :
    Conclusion.Arises chain row segment ran steps decided := by
  subst decision
  simp only [conclusion]
  split
  case isTrue status => exact .cancelled status
  case isFalse =>
    split
    case h_1 stands _ => exact .gated stands
    case h_2 ungated =>
      split
      case isTrue failed => exact .failed failed
      case isFalse passed =>
        split
        case h_1 waits =>
          refine .parked (fun executing => ?_) (by simpa using passed) waits
          cases gate : ran.gate with
          | none => rfl
          | some gate => exact absurd executing (ungated _ gate)
        case h_2 =>
          split
          case isTrue rejected =>
            simp only [Bool.and_eq_true, decide_eq_true_eq] at rejected
            exact .verifyFailed rejected.1
          case isFalse accepted =>
            refine .finished rfl fun whole => ?_
            simpa [whole] using accepted

structure Touched (world after : World) : Prop where
  run : after.run = world.run
  registered : after.registered = world.registered
  flows : ∀ {id kind}, after.flowRuns.get? id = some kind →
    kind = nodusVmWorkflow ∨ world.flowRuns.get? id = some kind

theorem Touched.refl : Touched world world := ⟨rfl, rfl, .inr⟩

def SegmentRun.whole (ran : SegmentRun) (segment : Segment) : Prop :=
  ran.gate = none → ran.failed = false → ran.results.length = segment.toolSteps.length

theorem segmentRun_whole (compiles : compiled.length = segment.toolSteps.length) :
    (segmentRun calls compiled guest).whole segment := by
  intro ungated passed
  simp only [segmentRun] at ungated passed ⊢
  simp only [ungated, Option.isNone_none, Bool.true_and, Bool.or_eq_false_iff,
    decide_eq_false_iff_not, not_not] at passed
  exact passed.2.trans compiles

theorem compileSteps_length
    (compiles : compileSteps index steps = .ok compiled) : compiled.length = steps.length := by
  induction steps generalizing index compiled with
  | nil =>
    cases compiles
    rfl
  | cons step rest ih =>
    simp only [compileSteps] at compiles
    split at compiles
    · cases compiles
    · cases later : compileSteps (index + 1) rest with
      | error => simp [later, Except.map] at compiles
      | ok =>
        simp only [later, Except.map, Except.ok.injEq] at compiles
        subst compiles
        simp [ih later]

theorem runSegment_yields {continuation : Bool} {calls : SegmentCalls} :
    (runSegment segment continuation calls).Yields world
      (fun ran after => Touched world after ∧ ran.whole segment) (fun _ after => Touched world after) := by
  simp only [runSegment]
  split
  case isTrue empty =>
    rw [List.isEmpty_iff] at empty
    exact ⟨.refl, fun _ _ => by simp [SegmentRun.nothing, empty]⟩
  case isFalse present =>
    have flows {id kind : String} (found : (match calls.flowRunId with
          | some id => world.flowRuns.set id nodusVmWorkflow
          | none => world.flowRuns).get? id = some kind) :
        kind = nodusVmWorkflow ∨ world.flowRuns.get? id = some kind := by
      split at found
      · rw [Dict.get?_set] at found
        split at found
        · exact .inl (Option.some.inj found).symm
        · exact .inr found
      · exact .inr found
    simp only [yields_bind, yields_call, yields_modify]
    refine ⟨fun compiled compiles => ?_, fun _ _ => .refl⟩
    rw [compileAgentSegment, if_neg present] at compiles
    split
    · exact ⟨rfl, rfl, flows⟩
    · exact ⟨⟨rfl, rfl, flows⟩, segmentRun_whole (compileSteps_length compiles)⟩

def ChainCalls.settled (calls : ChainCalls) (world : World) : World :=
  if calls.cancelled then { world with run := world.run.map AgentRun.cancel } else world

variable (chain : Chain) (drive : Drive) (calls : ChainCalls) (world : World)
  (Ran : Segment → SegmentRun → World → Prop) (Raised : World → Prop) in
inductive Ended :
    ChainResponse → World → Prop where
  | gaveUp (error : String) (after : World) (raised : after = world ∨ Raised after) :
      Ended (.failed error) after
  | halted (cancelled : world.run.map AgentRun.status = some .cancelled) :
      Ended .cancelled world
  | concluded (segment : Segment) (ran : SegmentRun) (middle : World)
      (found : chain.segments[drive.segment]? = some segment) (left : Ran segment ran middle)
      (decided : Conclusion)
      (decision : conclusion chain (calls.settled middle).run segment ran
        (drive.accumulated ++ ran.results) = decided) :
      Ended decided.response
        ((calls.settled middle).conclude drive ran decided)

theorem executeAgentSegmentChain_ended {Ran : Segment → SegmentRun → World → Prop} {Raised : World → Prop}
    (runs : ∀ segment, chain.segments[drive.segment]? = some segment →
      (runSegment segment drive.continuation calls.segment).Yields world (Ran segment) (fun _ => Raised)) :
    (executeAgentSegmentChain chain drive calls).Yields world
      (Ended chain drive calls world Ran Raised) (fun _ _ => False) := by
  simp only [executeAgentSegmentChain, yields_attempt, yields_bind, yields_ite, yields_pure]
  refine ⟨.halted, fun _ => ?_⟩
  split
  · exact .gaveUp _ _ (.inl rfl)
  case h_2 segment found =>
    simp only [yields_bind]
    refine (runs segment found).mono ?_ fun error after raised => .gaveUp _ _ (.inr raised)
    intro ran middle left
    have concluded := @Ended.concluded chain drive calls world Ran Raised segment ran middle found left
      _ rfl
    simp only [yields_ite, yields_bind, yields_modify, yields_read, yields_pure]
    refine ⟨fun cancelled => ?_, fun going => ?_⟩
    · simpa [ChainCalls.settled, if_pos cancelled] using concluded
    · simpa [ChainCalls.settled, if_neg going] using concluded

variable (chain drive world) in
/-- The ways a chain call ends: on an exception, at a cancelled row, or with a
decision on the row as the segment and a cancel have left it. -/
inductive Called : ChainResponse → World → Prop where
  | gaveUp (error : String) (after : World) (touched : Touched world after) :
      Called (.failed error) after
  | halted (cancelled : world.run.map AgentRun.status = some .cancelled) :
      Called .cancelled world
  | concluded (segment : Segment) (ran : SegmentRun) (middle : World)
      (found : chain.segments[drive.segment]? = some segment) (whole : ran.whole segment)
      (touched : Touched world { middle with run := world.run })
      (row : middle.run = world.run ∨ middle.run = world.run.map AgentRun.cancel) :
      Called
        (conclusion chain middle.run segment ran (drive.accumulated ++ ran.results)).response
        (middle.conclude drive ran (conclusion chain middle.run segment ran (drive.accumulated ++ ran.results)))

theorem executeAgentSegmentChain_called :
    (executeAgentSegmentChain chain drive calls).Yields world (Called chain drive world)
      (fun _ _ => False) := by
  have ends := @executeAgentSegmentChain_ended chain drive world calls _ _
    fun segment _ => @runSegment_yields world segment drive.continuation calls.segment
  refine ends.mono ?_ fun _ _ never => never
  intro response after ended
  cases ended with
  | gaveUp error after raised =>
    apply Called.gaveUp
    rcases raised with same | touched
    · rw [same]
      exact .refl
    · exact touched
  | halted cancelled => exact .halted cancelled
  | concluded segment ran middle found left decided decision =>
    obtain ⟨touched, whole⟩ := left
    subst decision
    refine .concluded segment ran (calls.settled middle) found whole ?_ ?_
    · simp only [ChainCalls.settled]
      split <;> exact ⟨rfl, touched.registered, touched.flows⟩
    · simp only [ChainCalls.settled]
      split
      · exact .inr (by rw [touched.run])
      · exact .inl touched.run

end AindyRuntime.Agent
