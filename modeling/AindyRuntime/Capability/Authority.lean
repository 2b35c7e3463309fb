import AindyRuntime.Capability.Validation

namespace AindyRuntime.Capability

open Dict.Entries List

theorem eraseDups_eq_self {names : List String} (distinct : names.Nodup) : names.eraseDups = names := by
  induction names with
  | nil => rfl
  | cons name later ih =>
    obtain ⟨fresh, rest⟩ := nodup_cons.mp distinct
    have kept : (later.filter fun other => !other == name) = later := by
      apply filter_eq_self.mpr
      intro other member
      have differs : other ≠ name := fun same => fresh (same ▸ member)
      simpa using differs
    rw [eraseDups_cons, kept, ih rest]

structure Canonical (names : List String) : Prop where
  sorted : names.Pairwise (· ≤ ·)
  distinct : names.Nodup

theorem Canonical.sortedSet_eq (canonical : Canonical names) : sortedSet names = names := by
  rw [sortedSet, eraseDups_eq_self canonical.distinct]
  exact canonical.sorted.insertionSort_eq

theorem canonical_sortedSet : Canonical (sortedSet names) where
  sorted := pairwise_insertionSort _ _
  distinct := (perm_insertionSort _ _).nodup_iff.mpr (nodup_eraseDups names)

theorem Canonical.sublist (canonical : Canonical names) (kept : part <+ names) : Canonical part :=
  ⟨canonical.sorted.sublist kept, canonical.distinct.sublist kept⟩

theorem normalizeList_strings (canonical : Canonical names)
    (all : ∀ name ∈ names, known name = true) : normalizeList known (.list (names.map .str)) = names := by
  have kept : (names.map PyObject.str).filterMap (knownName known) = names := by
    clear canonical
    induction names with
    | nil => rfl
    | cons name later ih =>
      have own : knownName known (.str name) = some name := if_pos (all name mem_cons_self)
      rw [map_cons, filterMap_cons_some own, ih fun other member => all other (mem_cons_of_mem _ member)]
  rw [normalizeList, kept, canonical.sortedSet_eq]

def CapabilityToken.entries (token : CapabilityToken) : PyEntries :=
  [("run_id", .str token.runId), ("parent_run_id", match token.parentRunId with
      | some parent => .str parent
      | none => .null), ("user_id", .str token.userId), ("agent_type", .str token.agentType),
    ("execution_token", .str token.executionToken), ("issued_at", .str token.issuedAt),
    ("expires_at", .str token.expiresAt), ("granted_tools", .list (token.grantedTools.map .str)),
    ("allowed_capabilities", .list (token.allowedCapabilities.map .str)),
    ("approval_mode", .str token.approvalMode.text), ("mapping_recorded", .bool token.mappingRecorded),
    ("token_hash", .str token.tokenHash)]

section Minted

/-- The tools of a plan are granted all or none. -/
theorem grantable_eq (named : namedTools steps = some tools) :
    getGrantableTools catalogue trust mode steps = [] ∨
      getGrantableTools catalogue trust mode steps = sortedSet tools ∧
        ∀ tool ∈ tools, (catalogue.riskOf? tool).isSome = true := by
  simp only [getGrantableTools, named]
  split
  · exact .inl rfl
  case isFalse registered =>
    simp only [any_eq_true, Option.isNone_iff_eq_none, not_exists, not_and, ← ne_eq,
      Option.ne_none_iff_isSome] at registered
    split
    · exact .inr ⟨rfl, registered⟩
    · split
      · exact .inr ⟨rfl, registered⟩
      · exact .inl rfl

theorem clampTools_sublist : clampTools catalogue ceiling tools <+ tools := by
  cases ceiling with
  | none => exact .refl _
  | some => exact filter_sublist

theorem mem_clampCapabilities :
    capability ∈ clampCapabilities ceiling capabilities ↔
      capability ∈ capabilities ∧ ∀ limit ∈ ceiling, capability ∈ limit := by
  cases ceiling with
  | none | some limit => simp [clampCapabilities]

theorem clampCapabilities_sublist : clampCapabilities ceiling capabilities <+ capabilities := by
  cases ceiling with
  | none => exact .refl _
  | some => exact filter_sublist

theorem required_canonical : Canonical (getPlanRequiredCapabilities catalogue agentType tools) := by
  unfold getPlanRequiredCapabilities
  split
  · exact ⟨.nil, .nil⟩
  · exact canonical_sortedSet

theorem mem_required (some : getPlanRequiredCapabilities catalogue agentType tools ≠ []) :
    (∀ tool ∈ tools, getCapabilitiesForTool catalogue tool ≠ []) ∧
      ∀ capability, capability ∈ getPlanRequiredCapabilities catalogue agentType tools ↔
        capability ∈ getCapabilitiesForAgent catalogue agentType ∨
          ∃ tool ∈ tools, capability ∈ getCapabilitiesForTool catalogue tool := by
  unfold getPlanRequiredCapabilities at some ⊢
  split at some
  · exact absurd rfl some
  · rename_i mapped
    rw [if_neg mapped]
    simp only [any_eq_true, not_exists, not_and] at mapped
    refine ⟨fun tool member empty => mapped tool member (by rw [empty]; rfl), ?_⟩
    intro capability
    rw [mem_sortedSet, mem_append, mem_flatMap]

def MintRequest.Requires (request : MintRequest) (catalogue : Catalogue) (tools : List String) (capability : String) :
    Prop :=
  capability ∈ getCapabilitiesForAgent catalogue request.agentType ∨
    ∃ tool ∈ tools, capability ∈ getCapabilitiesForTool catalogue tool

/-- The lists of a token that was minted for a plan with these tools. -/
structure MintedLists (catalogue : Catalogue) (request : MintRequest) (planned : List String)
    (token : CapabilityToken) : Prop where
  tools : Canonical token.grantedTools
  capabilities : Canonical token.allowedCapabilities
  registered : ∀ tool ∈ token.grantedTools, (catalogue.riskOf? tool).isSome = true
  mapped : ∀ tool ∈ token.grantedTools, getCapabilitiesForTool catalogue tool ≠ []
  defined : ∀ capability ∈ token.allowedCapabilities, catalogue.definitions capability = true
  granted : ∀ tool, tool ∈ token.grantedTools ↔
    tool ∈ planned ∧ ∀ limit ∈ request.ceiling, ∃ capability ∈ getCapabilitiesForTool catalogue tool, capability ∈ limit
  allowed : ∀ capability, capability ∈ token.allowedCapabilities ↔
    request.Requires catalogue planned capability ∧ ∀ limit ∈ request.ceiling, capability ∈ limit
  agentType : token.agentType = if request.agentType = "" then defaultAgentType else request.agentType

theorem mintToken_lists (minted : mintToken catalogue request issue = some token) :
    ∃ steps planned, stepsOf request.plan = some steps ∧ namedTools steps = some planned ∧
      MintedLists catalogue request planned token := by
  obtain ⟨steps, tools, named, rfl, some, planned, filled⟩ := mintToken_token minted
  refine ⟨steps, tools, planned, named, ?_⟩
  have requires : getPlanRequiredCapabilities catalogue request.agentType tools ≠ [] := by
    intro none
    apply some
    simp only [none]
    cases request.ceiling <;> rfl
  obtain ⟨mapped, required⟩ := mem_required requires
  obtain ⟨grantable, registered⟩ : getGrantableTools catalogue request.trust request.approvalMode steps =
      sortedSet tools ∧ ∀ tool ∈ tools, (catalogue.riskOf? tool).isSome = true := by
    rcases @grantable_eq _ _ catalogue request.trust request.approvalMode named with none | all
    · cases filled none
      cases named
      exact ⟨none, fun _ member => by cases member⟩
    · exact all
  have fromPlan {tool : String} (member : tool ∈ clampTools catalogue request.ceiling (sortedSet tools)) :
      tool ∈ tools :=
    mem_sortedSet.mp (clampTools_sublist.subset member)
  simp only [grantable]
  constructor
  case tools => exact canonical_sortedSet.sublist clampTools_sublist
  case capabilities => exact required_canonical.sublist clampCapabilities_sublist
  case registered => exact fun tool member => registered tool (fromPlan member)
  case mapped => exact fun tool member => mapped tool (fromPlan member)
  case defined =>
    intro capability member
    rcases (required capability).mp (mem_clampCapabilities.mp member).1 with agent | ⟨tool, -, own⟩
    · exact (mem_filter.mp agent).2
    · exact (mem_filter.mp own).2
  case granted =>
    intro tool
    cases limited : request.ceiling with
    | none => simp [MintRequest.token, clampTools]
    | some limit =>
        simp only [MintRequest.token, clampTools, mem_filter, mem_sortedSet, Option.mem_def, Option.some.injEq,
          forall_eq', Bool.or_eq_true, any_eq_true, decide_eq_true_eq, List.isEmpty_iff]
        exact and_congr_right fun member => or_iff_right (mapped tool member)
  case allowed =>
    intro capability
    rw [MintRequest.Requires, ← required]
    exact mem_clampCapabilities
  case agentType => rfl

end Minted

structure Presents (entries : PyEntries) (token : CapabilityToken) : Prop where
  runId : find? "run_id" entries = some (.str token.runId)
  userId : find? "user_id" entries = some (.str token.userId)
  agentType : find? "agent_type" entries = some (.str token.agentType)
  executionToken : find? "execution_token" entries = some (.str token.executionToken)
  issuedAt : find? "issued_at" entries = some (.str token.issuedAt)
  expiresAt : find? "expires_at" entries = some (.str token.expiresAt)
  grantedTools : find? "granted_tools" entries = some (.list (token.grantedTools.map .str))
  allowedCapabilities :
    find? "allowed_capabilities" entries = some (.list (token.allowedCapabilities.map .str))
  approvalMode : find? "approval_mode" entries = some (.str token.approvalMode.text)
  tokenHash : find? "token_hash" entries = some (.str token.tokenHash)

theorem entries_presents : Presents token.entries token := by
  constructor <;> rfl

def CapabilityToken.payload (token : CapabilityToken) : String :=
  tokenPayload token.runId token.userId token.executionToken token.issuedAt token.expiresAt token.approvalMode
    token.grantedTools token.allowedCapabilities

variable (verifier : Verifier)

structure Signed (token : CapabilityToken) : Prop where
  ascii : isAscii token.tokenHash = true
  key : ∃ key ∈ verifier.keys, verifier.mac key token.payload = token.tokenHash

structure Current (token : CapabilityToken) : Prop where
  agentType : token.agentType ≠ ""
  executionToken : token.executionToken ≠ ""
  issuedAt : token.issuedAt ≠ ""
  expiresAt : token.expiresAt ≠ ""
  unexpired : ∃ instant, verifier.fromIsoFormat token.expiresAt = some instant ∧ verifier.now < instant

section Presented

variable {verifier : Verifier} {entries : PyEntries}

theorem matchesKey_of_mem {keys : List String} (ascii : isAscii candidate = true)
    (signed : ∃ key ∈ keys, verifier.mac key payload = candidate) :
    matchesKey verifier candidate payload keys = .ok true := by
  induction keys with
  | nil =>
    obtain ⟨_, member, -⟩ := signed
    cases member
  | cons key later ih =>
    rw [matchesKey, ascii]
    by_cases own : verifier.mac key payload = candidate
    · simp [own]
    · obtain ⟨other, member, same⟩ := signed
      have tail : ∃ key ∈ later, verifier.mac key payload = candidate := by
        rcases mem_cons.mp member with rfl | listed
        · exact absurd same own
        · exact ⟨other, listed, same⟩
      simp [ih tail]

theorem readMode_text : readMode (.str mode.text) = .ok mode := by
  cases mode <;> rfl

theorem validate_presented (presents : Presents entries token) (current : Current verifier token)
    (signed : Signed verifier token)
    (tools : normalizeToolList verifier.catalogue (.list (token.grantedTools.map .str)) = token.grantedTools)
    (capabilities : normalizeCapabilityList verifier.catalogue (.list (token.allowedCapabilities.map .str))
      = token.allowedCapabilities) :
    validateToken verifier (.dict entries) token.runId token.userId
      = .ok ⟨token.grantedTools, token.allowedCapabilities, token.executionToken, token.agentType⟩ := by
  obtain ⟨instant, read, later⟩ := current.unexpired
  have fields : readFields verifier.room entries
      = .ok ⟨token.runId, token.userId, token.executionToken, token.agentType⟩ := by
    simp [readFields, PyEntries.get, PyEntries.getOr, presents.runId, presents.userId, presents.executionToken,
      presents.agentType, PyObject.orElse, PyObject.truthy, current.agentType]
    rfl
  have expiry : readExpiry verifier (.str token.expiresAt) = .ok (token.expiresAt, instant) := by
    simp [readExpiry, PyObject.text, read]
  have hash : tokenHashMatches verifier (.str token.tokenHash) token.payload = .ok true :=
    matchesKey_of_mem signed.ascii signed.key
  have present : ((PyObject.str token.issuedAt).truthy && (PyObject.str token.expiresAt).truthy
      && !(PyObject.str token.tokenHash).isNone) = true := by
    simp [PyObject.truthy, PyObject.isNone, current.issuedAt, current.expiresAt]
  simp only [validateToken, validateEntries, PyEntries.get, presents.approvalMode, presents.issuedAt,
    presents.expiresAt, presents.tokenHash, presents.grantedTools, presents.allowedCapabilities, Option.getD_some,
    tools, capabilities, bind_ok, orFailed_ok, requireThat_ok]
  exact ⟨_, fields, (), decide_eq_true rfl, (), decide_eq_true rfl, (), decide_eq_true current.executionToken,
    _, readMode_text, (), present, _, expiry, (), decide_eq_true later, _, rfl, _, hash, (), rfl, rfl⟩

end Presented

theorem checkGrant_ok :
    (checkGrant catalogue grant toolName).ok = true ↔
      toolName ∈ grant.grantedTools ∧
        (∀ capability ∈ getCapabilitiesForTool catalogue toolName, capability ∈ grant.allowedCapabilities) ∧
        (∀ capability ∈ getCapabilitiesForAgent catalogue
          (if grant.agentType = "" then defaultAgentType else grant.agentType),
            capability ∈ grant.allowedCapabilities) ∧
        ¬ (getCapabilitiesForTool catalogue toolName = [] ∧ (catalogue.riskOf? toolName).isSome) := by
  unfold checkGrant
  dsimp only
  split
  case isTrue missing => simp [refusal, missing]
  case isFalse granted =>
    split
    case h_1 capability found =>
      have some : ∃ capability ∈ getCapabilitiesForTool catalogue toolName ++ getCapabilitiesForAgent catalogue
          (if grant.agentType = "" then defaultAgentType else grant.agentType),
            capability ∉ grant.allowedCapabilities := by
        rw [← find?_append] at found
        exact ⟨capability, mem_of_find?_eq_some found, by simpa using find?_some found⟩
      obtain ⟨capability, member, lacking⟩ := some
      simp only [refusal, Bool.false_eq_true, false_iff]
      rintro ⟨-, own, agent, -⟩
      rcases mem_append.mp member with required | required
      · exact lacking (own capability required)
      · exact lacking (agent capability required)
    case h_2 none =>
      rw [← find?_append, find?_eq_none] at none
      simp only [decide_eq_true_eq, Decidable.not_not] at none granted
      have own := fun capability member => none capability (mem_append_left _ member)
      have agent := fun capability member => none capability (mem_append_right _ member)
      split
      case isTrue unmapped => simp [refusal, unmapped.1, unmapped.2]
      case isFalse mapped =>
        simp only [granted, true_and, mapped, not_false_eq_true, and_true, true_iff]
        exact ⟨own, agent⟩

/-- What a mint took from outside: texts that are there, an expiry that is still to
come, and a key that is still accepted. -/
structure Issue.Genuine (issue : Issue) : Prop where
  executionToken : issue.executionToken ≠ ""
  issuedAt : issue.issuedAt ≠ ""
  expiresAt : issue.expiresAt ≠ ""
  unexpired : ∃ instant, verifier.fromIsoFormat issue.expiresAt = some instant ∧ verifier.now < instant
  /-- A MAC is a hexadecimal digest. -/
  hex : ∀ payload, isAscii (issue.mac payload) = true
  key : ∃ key ∈ verifier.keys, issue.mac = verifier.mac key

section Checked

variable {verifier : Verifier} {request : MintRequest} {issue : Issue}

theorem token_current (genuine : issue.Genuine verifier) :
    Current verifier (request.token issue tools capabilities) where
  agentType := by
    simp only [MintRequest.token]
    split
    · decide
    · assumption
  executionToken := genuine.executionToken
  issuedAt := genuine.issuedAt
  expiresAt := genuine.expiresAt
  unexpired := genuine.unexpired

theorem token_signed (hex : ∀ payload, isAscii (issue.mac payload) = true)
    (key : ∃ key ∈ verifier.keys, issue.mac = verifier.mac key) :
    Signed verifier (request.token issue tools capabilities) where
  ascii := hex _
  key := by
    obtain ⟨key, member, same⟩ := key
    refine ⟨key, member, ?_⟩
    rw [← same]
    rfl

section

variable (genuine : issue.Genuine verifier) (minted : mintToken verifier.catalogue request issue = some token)
include genuine minted

theorem validate_minted :
    validateToken verifier (.dict token.entries) request.runId request.userId
      = .ok ⟨token.grantedTools, token.allowedCapabilities, token.executionToken, token.agentType⟩ := by
  obtain ⟨_, _, -, -, lists⟩ := mintToken_lists minted
  have tools := normalizeList_strings lists.tools lists.registered
  have capabilities := normalizeList_strings lists.capabilities lists.defined
  obtain ⟨_, _, -, rfl, -⟩ := mintToken_token minted
  exact validate_presented entries_presents (token_current genuine) (token_signed genuine.hex genuine.key) tools
    capabilities

theorem check_minted (live : verifier.terminalStatus request.runId = none) (tool : String) :
    (checkToolCapability verifier (.dict token.entries) request.runId request.userId tool).ok = true ↔
      tool ∈ token.grantedTools ∧
        (∀ capability ∈ getCapabilitiesForTool verifier.catalogue tool, capability ∈ token.allowedCapabilities) ∧
        ∀ capability ∈ getCapabilitiesForAgent verifier.catalogue token.agentType,
          capability ∈ token.allowedCapabilities := by
  obtain ⟨_, _, -, -, lists⟩ := mintToken_lists minted
  have named : token.agentType ≠ "" := by
    obtain ⟨_, _, -, rfl, -⟩ := mintToken_token minted
    exact (token_current genuine).agentType
  have goesOn : runAuthorityEnded verifier request.runId = none := by
    simp [runAuthorityEnded, live]
  unfold checkToolCapability
  rw [goesOn, validate_minted genuine minted]
  rw [checkGrant_ok, if_neg named]
  constructor
  · rintro ⟨granted, own, agent, -⟩
    exact ⟨granted, own, agent⟩
  · rintro ⟨granted, own, agent⟩
    exact ⟨granted, own, agent, fun unmapped => lists.mapped tool granted unmapped.1⟩

end

/-- A tool of the plan that has a capability under the ceiling has all of its own there;
and what the agent type requires is required by the mint and under the ceiling too. -/
def Honoured (catalogue : Catalogue) (request : MintRequest) (tools : List String) : Prop :=
  ∀ tool ∈ tools,
    (∀ limit ∈ request.ceiling, ∃ capability ∈ getCapabilitiesForTool catalogue tool, capability ∈ limit) →
    (∀ capability ∈ getCapabilitiesForTool catalogue tool, ∀ limit ∈ request.ceiling, capability ∈ limit) ∧
    ∀ capability ∈ getCapabilitiesForAgent catalogue
        (if request.agentType = "" then defaultAgentType else request.agentType),
      request.Requires catalogue tools capability ∧ ∀ limit ∈ request.ceiling, capability ∈ limit

/-- A tool that is accepted under a minted token requires nothing above the ceiling;
and exactly the granted tools are accepted just where the tools of the plan are honoured. -/
theorem minted_token_authorises (genuine : issue.Genuine verifier)
    (minted : mintToken verifier.catalogue request issue = some token)
    (live : verifier.terminalStatus request.runId = none) :
    (∀ tool, (checkToolCapability verifier (.dict token.entries) request.runId request.userId tool).ok = true →
      ∀ limit ∈ request.ceiling, ∀ capability ∈ getCapabilitiesForTool verifier.catalogue tool,
        capability ∈ limit) ∧
    ∃ steps tools, stepsOf request.plan = some steps ∧ namedTools steps = some tools ∧
      ((∀ tool, (checkToolCapability verifier (.dict token.entries) request.runId request.userId tool).ok = true ↔
        tool ∈ token.grantedTools) ↔ Honoured verifier.catalogue request tools) := by
  obtain ⟨steps, tools, planned, named, lists⟩ := mintToken_lists minted
  have check := check_minted genuine minted live
  refine ⟨?_, steps, tools, planned, named, ?_, ?_⟩
  · intro tool accepted limit given capability own
    exact ((lists.allowed capability).mp (((check tool).mp accepted).2.1 capability own)).2 limit given
  · intro exactly tool member under
    have accepted := (check tool).mp ((exactly tool).mpr ((lists.granted tool).mpr ⟨member, under⟩))
    refine ⟨fun capability own => ((lists.allowed capability).mp (accepted.2.1 capability own)).2, ?_⟩
    rw [← lists.agentType]
    exact fun capability agent => (lists.allowed capability).mp (accepted.2.2 capability agent)
  · intro honoured tool
    rw [check tool]
    refine ⟨fun accepted => accepted.1, fun granted => ⟨granted, fun capability own => ?_, fun capability agent => ?_⟩⟩
    all_goals
      obtain ⟨member, under⟩ := (lists.granted tool).mp granted
      obtain ⟨covered, agents⟩ := honoured tool member under
      apply (lists.allowed capability).mpr
    · exact ⟨.inr ⟨tool, member, own⟩, covered capability own⟩
    · rw [lists.agentType] at agent
      exact agents capability agent

end Checked

def mailCatalogue : Catalogue where
  lower := id
  definitions _ := true
  toolCapabilities _ := ["mail.read", "mail.write"]
  agentCapabilities _ := []
  tools := [("mail.send", "high")]
  restrictedTools := []

def mailVerifier : Verifier where
  catalogue := mailCatalogue
  room := 100
  keys := ["key"]
  mac _ _ := "00"
  fromIsoFormat _ := some 2
  now := 1
  terminalStatus _ := none

def mailIssue : Issue := ⟨"t1", "then", "soon", fun _ => "00", true⟩

def mailRequest (ceiling : Option (List String)) : MintRequest where
  runId := "run"
  userId := "user"
  plan := .obj [("steps", .arr [.obj [("tool", .str "mail.send")]])]
  approvalMode := .manual
  agentType := "default"
  ceiling := ceiling
  parentRunId := none
  trust := none

theorem mailIssue_genuine : mailIssue.Genuine mailVerifier where
  executionToken := by decide
  issuedAt := by decide
  expiresAt := by decide
  unexpired := ⟨2, rfl, by decide⟩
  hex := fun _ => (by decide : isAscii "00" = true)
  key := ⟨"key", mem_singleton_self _, rfl⟩

theorem minted_token_authorises_unlimited :
    ∃ token, mintToken mailCatalogue (mailRequest none) mailIssue = some token ∧
      token.grantedTools = ["mail.send"] ∧
      ∀ tool, (checkToolCapability mailVerifier (.dict token.entries) "run" "user" tool).ok = true ↔
        tool ∈ token.grantedTools := by
  refine ⟨_, rfl, rfl, ?_⟩
  have authorises := @minted_token_authorises mailVerifier (mailRequest none) mailIssue _ mailIssue_genuine rfl rfl
  obtain ⟨-, steps, tools, -, -, exactly⟩ := authorises
  apply exactly.mpr
  intro tool member under
  constructor
  · intro capability own limit given
    cases given
  · intro capability agent
    cases agent

/-- A tool of which the ceiling has some capabilities and not others stays on the
token, and is refused. -/
theorem partly_covered_tool_refused :
    ∃ token, mintToken mailCatalogue (mailRequest (some ["mail.read"])) mailIssue = some token ∧
      token.grantedTools = ["mail.send"] ∧ token.allowedCapabilities = ["mail.read"] ∧
      checkToolCapability mailVerifier (.dict token.entries) "run" "user" "mail.send"
        = refusal "capability 'mail.write' not granted by execution token" ["mail.send"] ["mail.read"] :=
  ⟨_, rfl, rfl, rfl, rfl⟩

end AindyRuntime.Capability
