import AindyRuntime.Agent.Lifecycle
import AindyRuntime.Data.PyValue

/-! # The authority gate

A step whose tool is refused for want of authority, and whose tool declared a
gate, parks the run until an operator decides.
-/

namespace AindyRuntime.Agent

structure Denial where
  tool : String
  error : Json
  negotiationOutcome : String
  (variant toolArgs : Json)

def buildAuthorityGate (stepIndex : Nat) (denial : Denial) : Json :=
  .obj [("step_index", .int stepIndex), ("tool", .str denial.tool), ("denied_error", denial.error),
    ("negotiation_outcome", .str denial.negotiationOutcome), ("variant", denial.variant),
    ("event", .str authorityDecisionEvent), ("decisions", .arr [.str "skip", .str "abort"]),
    ("tool_args", denial.toolArgs)]

structure SeamReturn where
  success : Bool
  (result error : Json)
  retryable : Bool
  denied : Option Denial
  recorded : Bool

def SeamReturn.at (returned : SeamReturn) (stepIndex : Nat) : ToolReturn where
  success := returned.success
  result := returned.result
  error := returned.error
  retryable := returned.retryable
  gate := returned.denied.map (buildAuthorityGate stepIndex)
  recorded := returned.recorded

abbrev Seam := Nat → Nat → SeamReturn

def Seam.tool (seam : Seam) : Nat → Nat → ToolReturn := fun index attempt => (seam index attempt).at index

def SegmentCalls.through (calls : SegmentCalls) (seam : Seam) : SegmentCalls :=
  { calls with tool := seam.tool }

def ChainCalls.through (calls : ChainCalls) (seam : Seam) : ChainCalls :=
  { calls with segment := calls.segment.through seam }

inductive Decision where
  | skip
  | abort
  | unknown (text : Json)
deriving DecidableEq

def refuseDecision (gate text : Json) : Json :=
  match gate with
  | .obj entries => .obj (Dict.Entries.assign "last_refused_decision" text entries)
  | other => other

def abortText (index : Nat) (tool : String) (note : Json) : String :=
  "Step " ++ toString index ++ " (" ++ tool ++ ") aborted by operator at the authority gate"
    ++ (if note.truthy then ": " ++ note.text else "")

def gateTool (gate : Json) : String := ((gate.get "tool").orElse (.str "")).text

def World.decide (world : World) (run : AgentRun) (waitState : WaitState) (gate : Json) (index : Nat)
    (decision : Decision) (note : Json) : World :=
  match decision with
  | .skip =>
    { world with
      worker := { world.worker with
        rows := world.worker.rows.set index
          ⟨gateTool gate, .skipped, .obj [("authority_gate", .str "skip"), ("note", note)], .null⟩ } }
  | .abort =>
    { world with
      worker := { world.worker with
        rows := world.worker.rows.set index
          ⟨gateTool gate, .failed, .obj [("authority_gate", .str "abort"), ("note", note)],
            .str (abortText index (gateTool gate) note)⟩ }
      run := some
        { run with
          status := .failed
          errorMessage := .str (abortText index (gateTool gate) note)
          waitState := none } }
  | .unknown text =>
    { world with
      run := some { run with waitState := some { waitState with gate := some (refuseDecision gate text) } } }

/-- `resume_agent_run_runtime` at the gate, up to the event it publishes.  A
decision other than `abort` first arms the wait if nothing here holds it. -/
def Life.decide (deployment : Deployment) (decision : Decision) (note : Json) (life : Life) : Option Life :=
  match life.world.run with
  | none => none
  | some run =>
    if run.status ≠ .waiting then none
    else
      match run.waitState with
      | none => none
      | some waitState =>
        match waitState.gate with
        | none => none
        | some gate =>
          match (gate.get "step_index").toInt with
          | .error _ => none
          | .ok index =>
            let armed := if decision = .abort then life.world
              else rehydrateWaiting deployment life.world
            some { life with world := armed.decide run waitState gate index.toNat decision note }

inductive Occurrence where
  | call (seam : Seam) (calls : ChainCalls)
  | deliver
  | cancel
  | crash (seam : Seam) (calls : SegmentCalls)
  | startup (startup : Startup)
  | decide (decision : Decision) (note : Json)

def operatedLife (deployment : Deployment) (chain : Chain) : StepSystem Life Occurrence where
  step life
    | .call seam calls => (planLife deployment chain).step life (.call (calls.through seam))
    | .deliver => (planLife deployment chain).step life .deliver
    | .cancel => (planLife deployment chain).step life .cancel
    | .crash seam calls => (planLife deployment chain).step life (.crash (calls.through seam))
    | .startup startup => (planLife deployment chain).step life (.startup startup)
    | .decide decision note => life.decide deployment decision note

end AindyRuntime.Agent
