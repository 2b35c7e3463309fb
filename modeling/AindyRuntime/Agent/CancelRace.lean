import AindyRuntime.Agent.AgentFlow
import AindyRuntime.Lib.Sessions

/-! # Cancelling a run that is executed

`sys.v1.agent.cancel` against the code that executes the run: the segment
chain, its resumes, and the nodes of `AGENT_FLOW`.  A step is one statement that
reaches the row.  The cancel is one conditional update; the executors decide
what to write from the object they have loaded, and write it by the run's id.
-/

namespace AindyRuntime.Agent

open AgentRun

def AgentRun.writeBack (loaded assigned current : AgentRun) : AgentRun where
  status := UnitOfWork.writeBack loaded.status assigned.status current.status
  plan := UnitOfWork.writeBack loaded.plan assigned.plan current.plan
  result := UnitOfWork.writeBack loaded.result assigned.result current.result
  waitState := UnitOfWork.writeBack loaded.waitState assigned.waitState current.waitState
  flowRunId := UnitOfWork.writeBack loaded.flowRunId assigned.flowRunId current.flowRunId
  stepsCompleted := UnitOfWork.writeBack loaded.stepsCompleted assigned.stepsCompleted current.stepsCompleted
  currentStep := UnitOfWork.writeBack loaded.currentStep assigned.currentStep current.currentStep
  errorMessage := UnitOfWork.writeBack loaded.errorMessage assigned.errorMessage current.errorMessage

def AgentRun.failEarly (message : String) (run : AgentRun) : AgentRun :=
  if run.status = .executing then
    { run with status := .failed, errorMessage := .str message, result := some ⟨[], none, none⟩ }
  else run

inductive RowWrite where
  | failEarly (message : String)
  | conclude (chain : Chain) (drive : Drive) (segment : Segment) (ran : SegmentRun)
  | stepTaken (index : Nat) (status : StepStatus)
  | reopen
  | markFailed (error : String) (stepResults : List StepResult)
  | finalize (stepResults : List StepResult)
  | link (flowRunId : String)
  | parkFlow (event : String) (gate : Option Json)
  | failFlow (error : String) (rows : List (Nat × StepRow))

def RowWrite.assign : RowWrite → AgentRun → AgentRun
  | .failEarly message, run => run.failEarly message
  | .conclude chain drive segment ran, run =>
    run.conclude drive.segment ran drive.accumulated
      (conclusion chain (some run) segment ran (drive.accumulated ++ ran.results))
  | .stepTaken index status, run => run.stepTaken index status
  | .reopen, run => run.reopen
  | .markFailed error stepResults, run => run.markFailed error stepResults
  | .finalize stepResults, run => run.finalize stepResults
  | .link flowRunId, run => { run with flowRunId := some flowRunId }
  | .parkFlow event gate, run => run.parkFlow event gate
  | .failFlow error rows, run => run.failFlow error rows

inductive RowStep where
  /-- The claim of a resume, from `executing` where the run has crashed and else from `waiting`. -/
  | claim (crashed : Bool)
  /-- The check of the status before a segment. -/
  | check
  | query
  | commit (write : RowWrite)
  /-- A commit that assigns nothing to the row. -/
  | expire

/-- `_execute_agent_segment_chain`, with what its segment brings; the commits of
a segment with tool steps expire the session. -/
def chainCall (chain : Chain) (drive : Drive) (segment : Segment) (ran : SegmentRun) : List RowStep :=
  .check :: ((if segment.toolSteps.isEmpty then [] else [.expire]) ++
    [.query, .commit (.conclude chain drive segment ran)])

inductive NodeTurn where
  | validated
  | stepped (index : Nat)
  | failed (index : Nat) (error : String) (stepResults : List StepResult)
  | gated
  | skipped (index : Nat)
  | aborted (index : Nat) (error : String) (stepResults : List StepResult)
  /-- The hooks of the completion may commit in the node's session. -/
  | finalized (stepResults : List StepResult) (hooksCommit : Bool)

def NodeTurn.rowSteps : NodeTurn → List RowStep
  | .validated => []
  | .stepped index => [.query, .commit (.stepTaken index .success), .expire]
  | .failed index error stepResults =>
    [.query, .commit (.stepTaken index .failed), .expire, .query, .commit (.markFailed error stepResults)]
  | .gated => [.expire]
  | .skipped index => [.query, .commit .reopen, .commit (.stepTaken index .skipped)]
  | .aborted index error stepResults =>
    [.query, .commit .reopen, .commit (.stepTaken index .failed), .query, .commit (.markFailed error stepResults)]
  | .finalized stepResults hooksCommit =>
    .query :: ((if hooksCommit then [.expire] else []) ++ [.commit (.finalize stepResults)])

def mirrorSteps (flowRunId : String) (rows : List (Nat × StepRow)) (ended : FlowEnd) : List RowStep :=
  .query :: .commit (.link flowRunId) ::
    match ended with
    | .success => []
    | .waiting event gate => [.query, .commit (.parkFlow event gate)]
    | .failed error => [.query, .commit (.failFlow error rows)]

inductive ExecutingCall where
  | refused (message : String)
  | execute (chain : Chain) (drive : Drive) (segment : Segment) (ran : SegmentRun)
  /-- A callback; an expired token is refreshed in a commit of its own. -/
  | resume (crashed refreshes : Bool) (chain : Chain) (drive : Drive) (segment : Segment) (ran : SegmentRun)
  | flow (turns : List NodeTurn) (flowRunId : String) (rows : List (Nat × StepRow)) (ended : FlowEnd)
  | flowResume (turns : List NodeTurn)

def ExecutingCall.rowSteps : ExecutingCall → List RowStep
  | .refused message => [.query, .commit (.failEarly message)]
  | .execute chain drive segment ran => chainCall chain drive segment ran
  | .resume crashed refreshes chain drive segment ran =>
    .claim crashed :: ((if refreshes then [.query, .expire] else []) ++ chainCall chain drive segment ran)
  | .flow turns flowRunId rows ended => turns.flatMap NodeTurn.rowSteps ++ mirrorSteps flowRunId rows ended
  | .flowResume turns => turns.flatMap NodeTurn.rowSteps

structure CancelWorld (Party : Type) where
  sessions : Sessions Party AgentRun
  /-- What each call has still to do. -/
  ahead : Party → List RowStep
  /-- The update of a cancel has found the row. -/
  cancelled : Bool

variable {Party : Type}

namespace CancelWorld

def start (calls : Party → ExecutingCall) (row : AgentRun) (object : Party → Option AgentRun) :
    CancelWorld Party :=
  ⟨⟨row, object⟩, fun party => (calls party).rowSteps, false⟩

def cancel (world : CancelWorld Party) (reason : String) : CancelWorld Party :=
  { world with
    sessions := { world.sessions with row := world.sessions.row.cancelFor reason }
    cancelled := world.cancelled || world.sessions.row.status.cancellable }

variable [DecidableEq Party]

def proceed (world : CancelWorld Party) (party : Party) (rest : List RowStep) (sessions : Sessions Party AgentRun) :
    CancelWorld Party :=
  { world with sessions, ahead := fun other => if other = party then rest else world.ahead other }

/-- A party's next statement; a claim that finds nothing and a check that finds the cancel end the call. -/
def take (world : CancelWorld Party) (party : Party) (rest : List RowStep) : RowStep → CancelWorld Party
  | .claim crashed =>
    let accepted : AgentRun → Bool := fun run => run.status = if crashed then .executing else .waiting
    world.proceed party (if accepted world.sessions.row then rest else [])
      (world.sessions.update party accepted fun run => { run with status := .executing, waitState := none })
  | .check => world.proceed party (if world.sessions.row.status = .cancelled then [] else rest) world.sessions
  | .query => world.proceed party rest (world.sessions.query party)
  | .commit write => world.proceed party rest (world.sessions.commit writeBack party write.assign)
  | .expire => world.proceed party rest (world.sessions.expire party)

end CancelWorld

inductive CancelAction (Party : Type) where
  | cancel (reason : String)
  | step (party : Party)

def cancelRace [DecidableEq Party] : StepSystem (CancelWorld Party) (CancelAction Party) where
  step world
    | .cancel reason => some (world.cancel reason)
    | .step party =>
      match world.ahead party with
      | [] => none
      | next :: rest => some (world.take party rest next)

/-- A cancel finds no executor between its query and its commit, and the flow
does not finalise a run that is cancelled. -/
def Undisturbed (world : CancelWorld Party) : CancelAction Party → Prop
  | .cancel _ => ∀ party, world.sessions.object party = none
  | .step party => ∀ stepResults rest, world.ahead party = .commit (.finalize stepResults) :: rest →
      world.sessions.row.status ≠ .cancelled

variable {world next last : CancelWorld Party} {write : RowWrite}

/-- Every assignment but that of the finalising node leaves a cancelled run alone. -/
theorem RowWrite.assign_cancelled (other : ∀ stepResults, write ≠ .finalize stepResults)
    (status : run.status = .cancelled) : (write.assign run).status = .cancelled := by
  cases write with
  | failEarly => simp [RowWrite.assign, AgentRun.failEarly, status]
  | conclude =>
    simp [RowWrite.assign, conclusion, status, AgentRun.conclude]
  | stepTaken => simp [RowWrite.assign, AgentRun.stepTaken, status]
  | reopen => simp [RowWrite.assign, AgentRun.reopen, status]
  | markFailed => simp [RowWrite.assign, AgentRun.markFailed, status]
  | finalize stepResults => exact absurd rfl (other stepResults)
  | link => simp [RowWrite.assign, status]
  | parkFlow => simp [RowWrite.assign, AgentRun.parkFlow, status]
  | failFlow => simp [RowWrite.assign, AgentRun.failFlow, status]

def CancelWorld.Settled (world : CancelWorld Party) : Prop :=
  world.cancelled = true → world.sessions.All fun run => run.status = .cancelled

theorem cancel_settled (undisturbed : Undisturbed world (.cancel reason))
    (settled : world.Settled) : (world.cancel reason).Settled := by
  intro cancelled
  refine .of_unloaded ?_ undisturbed
  simp only [CancelWorld.cancel, Bool.or_eq_true] at cancelled
  rcases cancelled with earlier | found
  · have status := (settled earlier).row
    simp [CancelWorld.cancel, cancelFor, status, AgentStatus.cancellable]
  · simp [CancelWorld.cancel, cancelFor, found]

variable [DecidableEq Party]

theorem take_settled
    (ahead : world.ahead party = step :: rest) (undisturbed : Undisturbed world (.step party))
    (settled : world.Settled) : (world.take party rest step).Settled := by
  cases step with
  | claim crashed =>
    intro cancelled
    simp only [CancelWorld.take, CancelWorld.proceed]
    refine (settled cancelled).update fun {row} status => ?_
    cases crashed <;> simp [status]
  | check => exact settled
  | query => exact fun cancelled => (settled cancelled).query
  | expire => exact fun cancelled => (settled cancelled).expire
  | commit write =>
    intro cancelled
    have all := settled cancelled
    have other : ∀ stepResults, write ≠ .finalize stepResults := by
      rintro stepResults rfl
      exact undisturbed stepResults rest ahead all.row
    refine all.commit fun {loaded current} loadedStatus currentStatus => ?_
    have kept := RowWrite.assign_cancelled other loadedStatus
    simp [writeBack, kept, loadedStatus, currentStatus]

theorem step_settled_cancel (undisturbed : Undisturbed world action)
    (settled : world.Settled) (stepped : cancelRace.step world action = some next) : next.Settled := by
  cases action with
  | cancel =>
    cases stepped
    exact cancel_settled undisturbed settled
  | step =>
    simp only [cancelRace] at stepped
    split at stepped <;> cases stepped
    case h_2 ahead => exact take_settled ahead undisturbed settled

/-- A cancel is final in every run whose steps are all `Undisturbed`. -/
theorem cancel_absorbing (calls : Party → ExecutingCall) (row : AgentRun) (object : Party → Option AgentRun)
    {actions : List (CancelAction Party)}
    (undisturbed : cancelRace.Meets Undisturbed (.start calls row object) actions)
    (ran : cancelRace.run (.start calls row object) actions = some last) :
    last.cancelled = true → last.sessions.row.status = .cancelled := by
  have started : (CancelWorld.start calls row object).Settled := by
    intro cancelled
    cases cancelled
  intro cancelled
  exact (StepSystem.invariant step_settled_cancel undisturbed started ran cancelled).row

def onlyStep : Json := .obj [("tool", .str "a")]

def onlyResult : StepResult := ⟨0, "a", .success, .null, .null, false⟩

def executingRow : AgentRun := ⟨.executing, .obj [("steps", .arr [onlyStep])], none, none, none, 0, 0, .null⟩

def flowOfOne : ExecutingCall :=
  .flow [.validated, .stepped 0, .finalized [onlyResult] false] "flow" [] .success

def chainOfOne : ExecutingCall :=
  .execute ⟨[⟨[onlyStep], 0, none⟩], passing⟩ ⟨0, [], false⟩ ⟨[onlyStep], 0, none⟩
    ⟨[onlyResult], false, none, none, .null⟩

/-- The cancel comes after the flow's last step, and between the chain's query and its commit. -/
theorem cancel_overwritten :
    (∃ last, cancelRace.run (.start (fun () => flowOfOne) executingRow fun _ => none)
        [.step (), .step (), .step (), .cancel "", .step (), .step ()] = some last ∧
      last.cancelled = true ∧ last.sessions.row.status = .completed) ∧
    ∃ last, cancelRace.run (.start (fun () => chainOfOne) executingRow fun _ => none)
        [.step (), .step (), .step (), .cancel "", .step ()] = some last ∧
      last.cancelled = true ∧ last.sessions.row.status = .completed :=
  ⟨⟨_, rfl, rfl, rfl⟩, _, rfl, rfl, rfl⟩

/-- The cancel comes while the chain's tools run. -/
theorem cancel_absorbing_during_segment :
    ∃ last, cancelRace.run (.start (fun () => chainOfOne) executingRow fun _ => none)
        [.step (), .step (), .cancel "", .step (), .step ()] = some last ∧
      last.cancelled = true ∧ last.sessions.row.status = .cancelled := by
  have undisturbed : cancelRace.Meets Undisturbed (.start (fun () => chainOfOne) executingRow fun _ => none)
      [.step (), .step (), .cancel "", .step (), .step ()] := by
    refine .cons ?_ rfl (.cons ?_ rfl (.cons (fun _ => rfl) rfl (.cons ?_ rfl (.cons ?_ rfl trivial))))
    all_goals
      intro stepResults rest ahead
      cases ahead
  refine ⟨_, rfl, rfl, ?_⟩
  exact cancel_absorbing (fun () => chainOfOne) executingRow (fun _ => none) undisturbed rfl rfl

end AindyRuntime.Agent
