import AindyRuntime.FlowEngine.GraphSignature
import AindyRuntime.FlowEngine.Runner

/-! # Entering the loop

`PersistentFlowRunner.start` and `resume` up to the first iteration, and the
scheduler's callback around `resume`.
-/

namespace AindyRuntime.FlowEngine

open Program (raise read modify call)

variable (runner : Runner)

inductive Claim where
  | won
  | lost
  | commitFailed
deriving DecidableEq, Repr

structure ResumeCalls where
  runFound : Bool
  claim : Claim
  traceId : String
  quarantineResponse : Except PyError Unit

def topologyChanged (recorded current : String) : String :=
  "flow topology changed while run was suspended: planned against "
    ++ String.ofList (recorded.toList.take 12) ++ "…, definition loaded now is "
    ++ String.ofList (current.toList.take 12) ++ "…. Resuming would execute this run against a "
    ++ "graph it was never planned for."

def moveToDeadLetter (reason : String) : EngineM Bool := do
  let engine ← read
  if engine.run.status = .waiting then
    modify fun engine => engine.commit .deadLettered
      { engine.run with status := .deadLetter, waitingFor := none, errorMessage := .str reason }
    return true
  else return false

def skipped (reason : String) : Response :=
  ⟨"SKIPPED", .obj [("skipped", .bool true), ("reason", .str reason)], []⟩

def claimWaitingRun (claim : Claim) : EngineM (Option Response) := do
  let engine ← read
  if engine.run.status ≠ .waiting then return none
  else
    match claim with
    | .won =>
      modify fun engine => engine.commit .claimed
        { engine.run with status := .executing, waitingFor := none }
      return none
    | .lost => return some (skipped "already claimed by another instance")
    | .commitFailed => return some (skipped "claim commit failed - concurrent resume likely")

def hasTraceId (state : State) : Bool := ((state.get? "trace_id").getD .null).truthy

def withTraceId (state : State) (traceId : String) : State :=
  if hasTraceId state then state else state.set "trace_id" (.str traceId)

def loadState (traceId : String) : EngineM String := do
  let engine ← read
  modify fun engine =>
    { engine.withState (withTraceId engine.run.state traceId) with attempts := ∅ }
  if !hasTraceId engine.run.state then
    modify fun engine => engine.commit .resumed { engine.run with state := engine.state }
  return engine.run.currentNode

def enterResume (signature : String) (calls : ResumeCalls) : EngineM (Response ⊕ String) := do
  if !calls.runFound then
    return .inl ⟨"FAILED", .obj [("error", .str "FlowRun not found")], []⟩
  else
    let engine ← read
    if signaturesConflict engine.run.graphSignature (some signature) then
      let reason := topologyChanged (engine.run.graphSignature.getD "") signature
      let _ ← moveToDeadLetter reason
      call calls.quarantineResponse
      return .inl ⟨"FAILED", .obj [("error", .str reason), ("quarantined", .bool true)], []⟩
    else
      match ← claimWaitingRun calls.claim with
      | some response => return .inl response
      | none =>
        let node ← loadState calls.traceId
        return .inr node

def Machine.entered : Except PyError (Response ⊕ String) × Engine → Machine
  | (.ok (.inl response), engine) => ⟨engine, .returned response⟩
  | (.ok (.inr node), engine) => ⟨engine, .at node⟩
  | (.error error, engine) => ⟨engine, .raised error⟩

variable (digest : Json → String)

def resume (calls : ResumeCalls) (engine : Engine) : Machine :=
  Machine.entered ((enterResume (flowTopologySignature digest runner.flow) calls).run engine)

def Engine.fresh (run : FlowRun) (history : List FlowHistory) : Engine where
  run
  history
  state := ∅
  attempts := ∅
  holdsSlot := false
  acquired := 0
  released := 0
  executed := []
  commits := []

structure StartCalls where
  unitCreated : Bool
  startedEvent : Except PyError String
  resume : ResumeCalls

def StartCalls.quiet (traceId : String) : StartCalls where
  unitCreated := true
  startedEvent := .ok "e"
  resume := ⟨true, .won, traceId, .ok ()⟩

def startedState (traceId : String) : State :=
  Dict.ofList [("trace_id", .str traceId), ("root_event_id", .str "e")]

def oneNodeRunner : Runner := Runner.plain ⟨"work", ["work"], ∅, ∅, ∅⟩ ["work"]

def workReturning (patch : State) : Calls := .quiet (.returning (startedState "t") "SUCCESS" patch)

def startedRun (initialState : State) (jobLogId : Json) : FlowRun where
  status := .running
  state := initialState
  currentNode := runner.flow.start
  waitingFor := none
  errorMessage := .null
  jobLogId
  graphSignature := some (flowTopologySignature digest runner.flow)

def initializeRun (calls : StartCalls) : EngineM Unit := do
  if !calls.unitCreated then
    modify fun engine => engine.commit .failed
      { engine.run with
        status := .failed
        errorMessage := .str "ExecutionUnit creation failed - execution aborted" }
    raise ⟨.other, "ExecutionUnit creation returned None"⟩
  else
    modify fun engine => engine.commit .resumed
      { engine.run with state := withTraceId engine.run.state calls.resume.traceId }
    let eventId ← call calls.startedEvent
    if eventId ≠ "" then
      modify fun engine => engine.commit .resumed
        { engine.run with state := engine.run.state.set "root_event_id" (.str eventId) }

def start (initialState : State) (jobLogId : Json) (calls : StartCalls) : Machine :=
  match (initializeRun calls).run
      (Engine.fresh (startedRun runner digest initialState jobLogId) []) with
  | (.ok (), engine) => resume runner digest calls.resume engine
  | (.error error, engine) => ⟨engine, .raised error⟩

/-- The machine that a call of `start` or `resume` makes of a run. -/
inductive Entered : FlowRun → Machine → Prop where
  | resumed (digest : Json → String) (calls : ResumeCalls) (run : FlowRun)
      (history : List FlowHistory) :
      Entered run (resume runner digest calls (Engine.fresh run history))
  | started (digest : Json → String) (initialState : State) (jobLogId : Json) (calls : StartCalls) :
      Entered (startedRun runner digest initialState jobLogId)
        (start runner digest initialState jobLogId calls)

/-- The statuses that entering a run can give it. -/
def EntryStatus (before after : RunStatus) : Prop :=
  after = before ∨ after = .executing ∨ after = .failed ∨ after = .deadLetter

def CommitPoint.entry : CommitPoint → Bool
  | .claimed | .resumed | .failed | .deadLettered => true
  | _ => false

/-- An invariant that entering a run keeps. -/
structure EntryStable (Invariant : Engine → Prop) : Prop where
  commit : ∀ {engine point} run, point.entry = true → EntryStatus engine.run.status run.status →
    Invariant engine → Invariant (engine.commit point run)
  load : ∀ {engine} state,
    Invariant engine → Invariant { engine.withState state with attempts := ∅ }

namespace EntryStable

variable {runner} {Invariant : Engine → Prop}

section

variable (stable : EntryStable Invariant)
include stable

theorem enterResume : (enterResume signature calls).Keeps Invariant := by
  refine .ite .pure (.bind .read fun engine => .ite (.bind ?_ fun _ => ?_) (.bind ?_ fun claimed => ?_))
  · refine .bind .read fun _ => .ite (.bind ?_ fun _ => .pure) .pure
    exact .modify fun _ => stable.commit _ rfl (.inr (.inr (.inr rfl)))
  · exact .bind .call fun _ => .pure
  · refine .bind .read fun _ => .ite .pure ?_
    split
    · refine .bind (.modify fun _ => ?_) fun _ => .pure
      exact stable.commit _ rfl (.inr (.inl rfl))
    · exact .pure
    · exact .pure
  · cases claimed with
    | some => exact .pure
    | none =>
      refine .bind (.bind .read fun _ => .bind (.modify fun _ => stable.load _) fun _ => ?_) fun _ => .pure
      exact .ite (.bind (.modify fun _ => stable.commit _ rfl (.inl rfl)) fun _ => .pure) .pure

theorem initializeRun : (initializeRun calls).Keeps Invariant := by
  refine .ite ?_ (.bind ?_ fun _ => .bind .call fun _ => .ite ?_ .pure)
  · exact .bind (.modify fun _ => stable.commit _ rfl (.inr (.inr (.inl rfl)))) fun _ => .raise
  · exact .modify fun _ => stable.commit _ rfl (.inl rfl)
  · exact .modify fun _ => stable.commit _ rfl (.inl rfl)

theorem resume {digest : Json → String} (holds : Invariant engine) :
    Invariant (FlowEngine.resume runner digest calls engine).engine := by
  simp only [FlowEngine.resume]
  generalize ran : (FlowEngine.enterResume (flowTopologySignature digest runner.flow) calls).run engine
    = ended
  obtain ⟨outcome, _⟩ := ended
  have kept := stable.enterResume.at_end holds ran
  rcases outcome with error | response | node <;> exact kept

theorem entered {run : FlowRun} {machine : Machine} (entered : Entered runner run machine)
    (fresh : ∀ history, Invariant (Engine.fresh run history)) : Invariant machine.engine := by
  cases entered with
  | resumed digest calls run history => exact stable.resume (fresh history)
  | started =>
    simp only [start]
    split
    case h_1 ran => exact stable.resume (stable.initializeRun.at_end (fresh _) ran)
    case h_2 ran => exact stable.initializeRun.at_end (fresh _) ran

end

end EntryStable

end AindyRuntime.FlowEngine
