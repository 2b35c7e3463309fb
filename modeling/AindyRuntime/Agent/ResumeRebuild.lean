import AindyRuntime.Agent.Continued
import AindyRuntime.FlowEngine.Serialization

/-! # Two rebuilds of an agent resume

`rehydrate_waiting_agent_runs` and `resume_reconstruction._build_agent` decode
the same row, each by itself, and hand what they read to
`_build_agent_resume_callback`.
-/

namespace AindyRuntime.Agent

abbrev Column := Option (List (String × Json))

def Column.get (column : Column) (key : String) : Json := (Json.obj (column.getD [])).get key

structure AgentRow where
  id : String
  status : AgentStatus
  plan : Json
  (result waitState : Column)
  userId : String
  (correlationId capabilityToken : Json)
deriving DecidableEq

structure ResumeCallback where
  runId : String
  segments : List Segment
  nextSegmentIndex : Int
  accumulated : List Json
  userId : String
  (correlationId scopedToken : Json)
  totalToolSteps : Nat
  claimStatus : AgentStatus
  continuation : Bool
deriving DecidableEq

def AgentRow.nextSegmentIndex (row : AgentRow) : Except PyError Int :=
  ((row.waitState.get "resume_segment_index").orElse (.int 0)).toInt

def AgentRow.accumulated (row : AgentRow) : Except PyError (List Json) :=
  FlowEngine.listOf ((row.result.get "steps").orElse (.arr []))

def AgentRow.callback (row : AgentRow) (segments : List Segment) (nextSegmentIndex : Int)
    (accumulated : List Json) (continuation : Bool) : ResumeCallback where
  runId := row.id
  segments
  nextSegmentIndex
  accumulated
  userId := row.userId
  correlationId := row.correlationId
  scopedToken := row.capabilityToken
  totalToolSteps := totalToolSteps segments
  claimStatus := .waiting
  continuation

def buildAgent (granular : Bool) (row : AgentRow) : Except PyError (Option ResumeCallback) :=
  match splitAgentPlan granular row.plan with
  | .error error => if error.kind = .value then .ok none else .error error
  | .ok segments =>
    match row.nextSegmentIndex with
    | .error error => .error error
    | .ok index =>
      if 0 ≤ index ∧ index < segments.length then
        match row.accumulated with
        | .error error => .error error
        | .ok accumulated => .ok (some (row.callback segments index accumulated false))
      else .ok none

structure RegisteredWait where
  (eventType correlationId : Json)
  callback : ResumeCallback
deriving DecidableEq

/-- The loop body of `rehydrate_waiting_agent_runs`, on a run that has no live
registration; whatever raises skips the run. -/
def rehydrateRun (granular : Bool) (row : AgentRow) : Option RegisteredWait :=
  let eventType := row.waitState.get "event_type"
  if row.status ≠ .waiting ∨ eventType.truthy = false then none
  else
    match splitAgentPlan granular row.plan, row.nextSegmentIndex, row.accumulated with
    | .ok segments, .ok index, .ok accumulated =>
      if segments.length ≤ index then none
      else
        some
          ⟨eventType, (row.waitState.get "correlation_key").orElse row.correlationId,
            row.callback segments index accumulated (row.waitState.get "continuation").truthy⟩
    | _, _, _ => none

variable {granular : Bool} {row : AgentRow} {rebuilt : ResumeCallback}

theorem buildAgent_callback (built : buildAgent granular row = .ok (some rebuilt)) :
    ∃ segments index accumulated, splitAgentPlan granular row.plan = .ok segments ∧
      row.nextSegmentIndex = .ok index ∧ row.accumulated = .ok accumulated ∧
      rebuilt = row.callback segments index accumulated false := by
  simp only [buildAgent] at built
  split at built
  · split at built <;> cases built
  case h_2 segments split =>
    split at built
    · cases built
    case h_2 index found =>
      split at built
      · split at built <;> cases built
        case h_2 accumulated listed => exact ⟨segments, index, accumulated, split, found, listed, rfl⟩
      · cases built

theorem rehydrateRun_callback (waits : rehydrateRun granular row = some registered) :
    ∃ segments index accumulated, splitAgentPlan granular row.plan = .ok segments ∧
      row.nextSegmentIndex = .ok index ∧ row.accumulated = .ok accumulated ∧
      registered.callback
        = row.callback segments index accumulated (row.waitState.get "continuation").truthy := by
  simp only [rehydrateRun] at waits
  split at waits
  · cases waits
  · split at waits
    case h_1 segments index accumulated split found listed =>
      split at waits <;> cases waits
      · exact ⟨segments, index, accumulated, split, found, listed, rfl⟩
    · cases waits

/-- The two rebuilds differ in the continuation flag only. -/
theorem rebuilt_eq (built : buildAgent granular row = .ok (some rebuilt))
    (waits : rehydrateRun granular row = some registered) :
    rebuilt = { registered.callback with continuation := false } := by
  obtain ⟨_, _, _, split, found, listed, rfl⟩ := buildAgent_callback built
  obtain ⟨_, _, _, same, equal, again, callback⟩ := rehydrateRun_callback waits
  cases split.symm.trans same
  cases found.symm.trans equal
  cases listed.symm.trans again
  rw [callback]
  rfl

/-- Both rebuilds make the same resume exactly where the row's wait is no
continuation. -/
theorem resume_rebuilds_agree_iff (built : buildAgent granular row = .ok (some rebuilt))
    (waits : rehydrateRun granular row = some registered) :
    rebuilt = registered.callback ↔ (row.waitState.get "continuation").truthy = false := by
  obtain ⟨_, _, _, _, _, _, callback⟩ := rehydrateRun_callback waits
  have flag : registered.callback.continuation = (row.waitState.get "continuation").truthy := by
    rw [callback]
    rfl
  have same := rebuilt_eq built waits
  rw [← flag]
  constructor
  · intro agree
    rw [← agree, same]
  · intro first
    rw [same, ← first]

def StepResult.json (entry : StepResult) : Json :=
  .obj ([("step_index", .int entry.stepIndex), ("tool", .str entry.tool),
    ("status", .str entry.status.name), ("result", entry.result), ("error", entry.error)]
    ++ if entry.replayed then [("replayed", .bool true)] else [])

def WaitState.entries (waitState : WaitState) : List (String × Json) :=
  [("event_type", .str waitState.eventType), ("correlation_key", (waitState.correlationKey.map .str).getD .null),
    ("resume_segment_index", .int waitState.resumeSegmentIndex)]
    ++ (if waitState.continuation then [("continuation", .bool true)] else [])
    ++ (waitState.gate.map fun gate => ("authority_gate", gate)).toList

def AgentRun.columns (run : AgentRun) (identity : AgentRow) : AgentRow :=
  { identity with
    status := run.status
    plan := run.plan
    result := run.result.map fun result => [("steps", .arr (result.steps.map StepResult.json))]
    waitState := run.waitState.map WaitState.entries }

structure ResumeCallback.Makes (callback : ResumeCallback) (drive : Drive) : Prop where
  segment : callback.nextSegmentIndex = drive.segment
  accumulated : callback.accumulated = drive.accumulated.map StepResult.json
  continuation : callback.continuation = drive.continuation

variable {run : AgentRun} {identity : AgentRow} {waitState : WaitState}

theorem columns_waitState (parked : run.waitState = some waitState) :
    (run.columns identity).waitState.get key = (Json.obj waitState.entries).get key := by
  simp [AgentRun.columns, parked, Column.get]

theorem entries_continuation :
    ((Json.obj waitState.entries).get "continuation").truthy = waitState.continuation := by
  obtain ⟨_, _, _, continuation, gate⟩ := waitState
  cases continuation <;> cases gate <;> rfl

theorem columns_nextSegmentIndex (parked : run.waitState = some waitState) :
    (run.columns identity).nextSegmentIndex = .ok waitState.resumeSegmentIndex := by
  have read : (run.columns identity).waitState.get "resume_segment_index" = .int waitState.resumeSegmentIndex := by
    rw [columns_waitState parked]
    rfl
  simp only [AgentRow.nextSegmentIndex, read, Json.orElse]
  split
  · rfl
  case isFalse zero =>
    have none : (waitState.resumeSegmentIndex : Int) = 0 := by simpa [Json.truthy] using zero
    rw [none]
    rfl

theorem columns_accumulated : (run.columns identity).accumulated = .ok (run.recorded.map StepResult.json) := by
  simp only [AgentRow.accumulated, AgentRun.columns, AgentRun.recorded]
  cases run.result with
  | none => rfl
  | some result =>
    have read : Column.get (some [("steps", .arr (result.steps.map StepResult.json))]) "steps"
        = .arr (result.steps.map StepResult.json) := rfl
    simp only [Option.map_some, read, Json.orElse]
    split
    · rfl
    case isFalse empty =>
      have none : result.steps = [] := by simpa [Json.truthy] using empty
      rw [none]
      rfl

section

variable {deployment : Deployment} {world : World} {registration : Registration} (found : world.run = some run)
  (unregistered : world.registered = none)
  (armed : (rehydrateWaiting deployment world).registered = some registration)
include found unregistered armed

/-- On the rows of the chain the rehydration registers the resume that
`rehydrateWaiting` does. -/
theorem rehydrateRun_makes :
    ∃ registered, rehydrateRun deployment.stepGranularity (run.columns identity) = some registered ∧
      registered.callback.Makes registration.resume := by
  simp only [rehydrateWaiting, found, unregistered] at armed
  split at armed
  case isTrue status =>
    split at armed
    case h_1 waitState segments parked split =>
      split at armed
      · cases unregistered.symm.trans armed
      case isFalse inside =>
        cases armed
        rw [not_or, Nat.not_le] at inside
        have event : ((run.columns identity).waitState.get "event_type").truthy = true := by
          rw [columns_waitState parked]
          simpa [WaitState.entries, Json.get, Dict.Entries.find?, Json.truthy] using inside.1
        have known : splitAgentPlan deployment.stepGranularity (run.columns identity).plan = .ok segments := split
        have waiting : (run.columns identity).status = .waiting := status
        have within : ¬((segments.length : Int) ≤ waitState.resumeSegmentIndex) := by omega
        simp only [rehydrateRun, waiting, event, known, columns_nextSegmentIndex parked, columns_accumulated,
          ne_eq, not_true_eq_false, Bool.true_eq_false, or_self, if_false, if_neg within]
        refine ⟨_, rfl, rfl, rfl, ?_⟩
        simp [AgentRow.callback, columns_waitState parked, entries_continuation]
    · cases unregistered.symm.trans armed
  · cases unregistered.symm.trans armed

/-- The resume rebuilt from the identifier drives the same segment, and never as
a continuation. -/
theorem buildAgent_makes
    (built : buildAgent deployment.stepGranularity (run.columns identity) = .ok (some rebuilt)) :
    rebuilt.Makes { registration.resume with continuation := false } := by
  obtain ⟨_, waits, makes⟩ := @rehydrateRun_makes run identity deployment world registration
    found unregistered armed
  rw [rebuilt_eq built waits]
  exact ⟨makes.segment, makes.accumulated, rfl⟩

end

def someIdentity : AgentRow := ⟨"run", .waiting, .null, none, none, "user", .str "corr", .obj [("token", .str "t")]⟩

def parkedRow : AgentRow :=
  match (operatedLife continuing awaiting).run (.started (planOf [toolStep "a", waitStep "go", toolStep "b"]))
    [.call (refusing none) ⟨succeeding, false⟩] with
  | some ⟨⟨some run, _, _, _, _⟩, _, _, _⟩ => run.columns someIdentity
  | _ => someIdentity

theorem resume_rebuilds_agree_behind_wait :
    ∃ rebuilt registered, parkedRow.status = .waiting ∧ buildAgent false parkedRow = .ok (some rebuilt) ∧
      rehydrateRun false parkedRow = some registered ∧ rebuilt = registered.callback ∧
      rebuilt.nextSegmentIndex = 1 :=
  ⟨_, _, rfl, rfl, rfl, (@resume_rebuilds_agree_iff false parkedRow _ _ rfl rfl).mpr rfl, rfl⟩

/-- A run parked at an authority gate: the resume rebuilt from its identifier
calls the recorded first step again, the registered one replays it. -/
theorem resume_rebuilds_differ_at_gate :
    ∃ life run claimed rebuilt registered,
      (operatedLife continuing gatedChain).run (.started gatedPlan)
          [.call (refusing (some 1)) ⟨succeeding, false⟩, .decide .skip .null] = some life ∧
      life.world.run = some run ∧ life.world.claim .waiting = some claimed ∧
      buildAgent false (run.columns someIdentity) = .ok (some rebuilt) ∧
      rehydrateRun false (run.columns someIdentity) = some registered ∧
      rebuilt ≠ registered.callback ∧
      rebuilt.Makes ⟨0, [], false⟩ ∧ registered.callback.Makes ⟨0, [], true⟩ ∧
      let redriven (continuation : Bool) := (executeAgentSegmentChain gatedChain ⟨0, [], continuation⟩
        (ChainCalls.through ⟨succeeding, false⟩ (refusing none))).run claimed
      ((redriven false).2.worker.callsAt 0).length = 2 ∧ ((redriven true).2.worker.callsAt 0).length = 1 := by
  refine ⟨_, _, _, _, _, rfl, rfl, rfl, rfl, rfl, ?_, ⟨rfl, rfl, rfl⟩, ⟨rfl, rfl, rfl⟩, rfl, rfl⟩
  intro agree
  cases congrArg ResumeCallback.continuation agree

end AindyRuntime.Agent
