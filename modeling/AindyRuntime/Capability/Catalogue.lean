import AindyRuntime.Data.PyError

/-! # Capabilities and the tokens that grant them

`agents/capability_service.py`: what the plugins registered, what a plan needs
of it, and the token that a run is given for its plan.
-/

namespace AindyRuntime.Capability

inductive Policy where
  | autoAllowed
  | requiresApproval
  | gated
deriving DecidableEq, Repr

inductive ApprovalMode where
  | manual
  | auto
deriving DecidableEq, Repr

def ApprovalMode.text : ApprovalMode → String
  | .manual => "manual"
  | .auto => "auto"

structure Catalogue where
  lower : String → String
  definitions : String → Bool
  (toolCapabilities agentCapabilities : String → List String)
  tools : List (String × String)
  restrictedTools : List String

structure Trust where
  allowedAutoGrantTools : List String
  (autoExecuteLow autoExecuteMedium : Bool)

def sortedSet (names : List String) : List String := sortNames names.eraseDups

@[simp] theorem mem_sortedSet : name ∈ sortedSet names ↔ name ∈ names := by
  simp [sortedSet, sortNames]

@[simp] theorem sortedSet_eq_nil : sortedSet names = [] ↔ names = [] := by
  simp [List.eq_nil_iff_forall_not_mem]

variable (catalogue : Catalogue)

def defaultAgentType : String := "default"

def getCapabilitiesForTool (tool : String) : List String :=
  (catalogue.toolCapabilities tool).filter catalogue.definitions

def getCapabilitiesForAgent (agentType : String) : List String :=
  let declared := catalogue.agentCapabilities agentType
  (if declared = [] ∧ agentType ≠ defaultAgentType then
    catalogue.agentCapabilities defaultAgentType else declared).filter catalogue.definitions

def Catalogue.riskOf? (tool : String) : Option String := Dict.Entries.find? tool catalogue.tools

def getPolicyForRisk (risk : String) : Policy :=
  if catalogue.lower risk = "low" then .autoAllowed
  else if catalogue.lower risk = "medium" then .requiresApproval
  else .gated

def autoAllows (tool : String) : Bool :=
  decide (getPolicyForRisk catalogue ((catalogue.riskOf? tool).getD "") = .autoAllowed)

/-- The steps that the loops over `(plan or {}).get("steps", [])` visit; `none`
where `len` of it raises. -/
def stepsOf (plan : Json) : Option (List Json) :=
  match plan.orElse (.obj []) with
  | .obj entries =>
    match (Dict.Entries.find? "steps" entries).getD (.arr []) with
    | .arr steps => some steps
    | .obj keyed => some (keyed.map fun entry => .str entry.1)
    | .str text => some (text.toList.map fun letter => .str letter.toString)
    | _ => none
  | _ => none

def namedTools : List Json → Option (List String)
  | [] => some []
  | .obj entries :: rest =>
    match Json.get (.obj entries) "tool" with
    | .str tool => (namedTools rest).map (tool :: ·)
    | _ => namedTools rest
  | _ :: _ => none

def getPlanRequiredCapabilities (agentType : String) (tools : List String) : List String :=
  if tools.any fun tool => (getCapabilitiesForTool catalogue tool).isEmpty then []
  else sortedSet (getCapabilitiesForAgent catalogue agentType ++ tools.flatMap (getCapabilitiesForTool catalogue))

def getAutoGrantableTools (trust : Option Trust) : List String :=
  match trust with
  | none => []
  | some trust =>
    let explicit := sortedSet (trust.allowedAutoGrantTools.filter fun tool =>
      (catalogue.riskOf? tool).isSome)
    if explicit ≠ [] then
      explicit.filter fun tool => decide (tool ∉ catalogue.restrictedTools) && autoAllows catalogue tool
    else
      sortNames ((catalogue.tools.filter fun entry =>
        decide (entry.1 ∉ catalogue.restrictedTools) && ((decide (entry.2 = "low") && trust.autoExecuteLow) ||
            (decide (entry.2 = "medium") && trust.autoExecuteMedium))).map Prod.fst)

def getGrantableTools (trust : Option Trust) (mode : ApprovalMode) (steps : List Json) : List String :=
  match namedTools steps with
  | none => []
  | some tools =>
    if tools.any fun tool => (catalogue.riskOf? tool).isNone then []
    else
      match mode with
      | .manual => sortedSet tools
      | .auto =>
        if (sortedSet tools).all fun tool =>
          decide (tool ∈ getAutoGrantableTools catalogue trust) && autoAllows catalogue tool
        then sortedSet tools else []

structure CapabilityToken where
  runId : String
  parentRunId : Option String
  (userId agentType executionToken issuedAt expiresAt : String)
  (grantedTools allowedCapabilities : List String)
  approvalMode : ApprovalMode
  mappingRecorded : Bool
  tokenHash : String
deriving DecidableEq, Repr

structure Issue where
  (executionToken issuedAt expiresAt : String)
  mac : String → String
  mappingRecorded : Bool

def tokenPayload (runId userId executionToken issuedAt expiresAt : String) (mode : ApprovalMode)
    (grantedTools allowedCapabilities : List String) : String :=
  String.intercalate "|" [runId, userId, executionToken, issuedAt, expiresAt, mode.text,
    String.intercalate "," (sortNames grantedTools), String.intercalate "," (sortNames allowedCapabilities)]

structure MintRequest where
  (runId userId : String)
  plan : Json
  approvalMode : ApprovalMode
  agentType : String
  ceiling : Option (List String)
  parentRunId : Option String
  trust : Option Trust

def clampCapabilities (ceiling : Option (List String)) (capabilities : List String) : List String :=
  match ceiling with
  | none => capabilities
  | some ceiling => capabilities.filter fun capability => decide (capability ∈ ceiling)

def clampTools (ceiling : Option (List String)) (tools : List String) : List String :=
  match ceiling with
  | none => tools
  | some ceiling => tools.filter fun tool =>
    (getCapabilitiesForTool catalogue tool).isEmpty ||
      (getCapabilitiesForTool catalogue tool).any fun capability => decide (capability ∈ ceiling)

def MintRequest.token (request : MintRequest) (issue : Issue)
    (grantedTools allowedCapabilities : List String) : CapabilityToken where
  runId := request.runId
  parentRunId := request.parentRunId.filter (· ≠ "")
  userId := request.userId
  agentType := if request.agentType = "" then defaultAgentType else request.agentType
  executionToken := issue.executionToken
  issuedAt := issue.issuedAt
  expiresAt := issue.expiresAt
  grantedTools := grantedTools
  allowedCapabilities := allowedCapabilities
  approvalMode := request.approvalMode
  mappingRecorded := issue.mappingRecorded
  tokenHash := issue.mac (tokenPayload request.runId request.userId issue.executionToken issue.issuedAt
    issue.expiresAt request.approvalMode grantedTools allowedCapabilities)

def mintToken (request : MintRequest) (issue : Issue) : Option CapabilityToken := do
  let steps ← stepsOf request.plan
  let grantable := getGrantableTools catalogue request.trust request.approvalMode steps
  if grantable = [] ∧ steps ≠ [] then none
  else
    let tools ← namedTools steps
    let required := getPlanRequiredCapabilities catalogue request.agentType tools
    let allowed := clampCapabilities request.ceiling required
    let granted := clampTools catalogue request.ceiling grantable
    if allowed = [] then none
    else if request.approvalMode = .auto ∧ (granted.all (autoAllows catalogue)) = false then none
    else some (request.token issue granted allowed)

variable {catalogue}

/-- A minted token grants some of what the plan requires, under the ceiling. -/
theorem mintToken_token (minted : mintToken catalogue request issue = some token) :
    ∃ steps tools, namedTools steps = some tools ∧
      token = request.token issue
        (clampTools catalogue request.ceiling (getGrantableTools catalogue request.trust request.approvalMode steps))
        (clampCapabilities request.ceiling (getPlanRequiredCapabilities catalogue request.agentType tools)) ∧
      token.allowedCapabilities ≠ [] ∧ stepsOf request.plan = some steps ∧
      (getGrantableTools catalogue request.trust request.approvalMode steps = [] → steps = []) := by
  simp only [mintToken, Option.bind_eq_bind, Option.bind_eq_some_iff] at minted
  obtain ⟨steps, planned, minted⟩ := minted
  split at minted
  · cases minted
  case isFalse grantable =>
    obtain ⟨tools, named, minted⟩ := Option.bind_eq_some_iff.mp minted
    refine ⟨steps, tools, named, ?_⟩
    split at minted
    · cases minted
    · rename_i granted
      split at minted <;> cases minted
      · exact ⟨rfl, granted, planned, fun none => Classical.not_not.mp fun some => grantable ⟨none, some⟩⟩

theorem mintToken_under_ceiling (clamped : request.ceiling = some ceiling)
    (minted : mintToken catalogue request issue = some token) : token.allowedCapabilities ⊆ ceiling := by
  obtain ⟨_, _, -, rfl, -⟩ := mintToken_token minted
  intro capability granted
  simp only [clamped] at granted
  simpa using (List.mem_filter.mp granted).2

end AindyRuntime.Capability
