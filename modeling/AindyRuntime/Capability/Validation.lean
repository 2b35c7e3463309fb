import AindyRuntime.Capability.Catalogue
import AindyRuntime.Data.PyObject
import AindyRuntime.Lib.Joined

/-! # What a presented token authorises

`agents/capability_service.py`: a token comes back as a dictionary that anybody
may have written.
-/

namespace AindyRuntime.Capability

open List

structure Verifier where
  catalogue : Catalogue
  room : Nat
  /-- `_signing_keys(for_verify=True)`. -/
  keys : List String
  mac : String → String → String
  /-- The instant of a text that `datetime.fromisoformat` reads, in UTC where it names no zone. -/
  fromIsoFormat : String → Option Int
  now : Int
  /-- `run_terminal_status`. -/
  terminalStatus : String → Option String

section

variable (verifier : Verifier)

/-- Different payloads have different MACs, under whatever keys. -/
def Verifier.CollisionFree : Prop :=
  ∀ key key' payload payload', verifier.mac key payload = verifier.mac key' payload' → payload = payload'

def knownName (known : String → Bool) : PyObject → Option String
  | .str name => if known name then some name else none
  | _ => none

def normalizeList (known : String → Bool) : PyObject → List String
  | .list items => sortedSet (items.filterMap (knownName known))
  | _ => []

variable (catalogue : Catalogue)

def normalizeToolList : PyObject → List String :=
  normalizeList fun tool => (catalogue.riskOf? tool).isSome

def normalizeCapabilityList : PyObject → List String :=
  normalizeList catalogue.definitions

def claimsPayload (runId userId executionToken issuedAt expiresAt approvalMode : String)
    (grantedTools allowedCapabilities : List String) : String :=
  String.intercalate "|" [runId, userId, executionToken, issuedAt, expiresAt, approvalMode,
    String.intercalate "," (sortNames grantedTools), String.intercalate "," (sortNames allowedCapabilities)]

theorem tokenPayload_eq :
    tokenPayload runId userId executionToken issuedAt expiresAt mode grantedTools allowedCapabilities
      = claimsPayload runId userId executionToken issuedAt expiresAt mode.text grantedTools allowedCapabilities := rfl

/-- `hmac.compare_digest` takes no text that is not ASCII. -/
def notAscii : PyError := ⟨.other, "comparing strings with non-ASCII characters is not supported"⟩

def matchesKey (verifier : Verifier) (candidate payload : String) : List String → Except PyError Bool
  | [] => .ok false
  | key :: later =>
    if !isAscii candidate then .error notAscii
    else if verifier.mac key payload = candidate then .ok true
    else matchesKey verifier candidate payload later

def tokenHashMatches (candidate : PyObject) (payload : String) : Except PyError Bool := do
  matchesKey verifier (← candidate.text verifier.room) payload verifier.keys

structure TokenFields where
  (runId userId executionToken agentType : String)

def readFields (room : Nat) (entries : PyEntries) : Except PyError TokenFields := do
  return {
    runId := ← (entries.getOr "run_id" (.str "")).text room
    userId := ← (entries.getOr "user_id" (.str "")).text room
    executionToken := ← (entries.getOr "execution_token" (.str "")).text room
    agentType := ← ((entries.get "agent_type").orElse (.str defaultAgentType)).text room }

structure Grant where
  (grantedTools allowedCapabilities : List String)
  (executionToken agentType : String)
deriving DecidableEq, Repr

def orFailed {Value : Type} : Except PyError Value → Except String Value
  | .ok value => .ok value
  | .error _ => .error "token validation failed"

def requireThat (condition : Bool) (error : String) : Except String Unit :=
  if condition then .ok () else .error error

/-- `approval_mode in {"manual", "auto"}`; what can not be hashed raises. -/
def readMode (value : PyObject) : Except String ApprovalMode := do
  orFailed value.requireHashable
  match value with
  | .str "manual" => .ok .manual
  | .str "auto" => .ok .auto
  | _ => .error "invalid approval mode"

def readExpiry (value : PyObject) : Except String (String × Int) :=
  match value.text verifier.room with
  | .ok text =>
    match verifier.fromIsoFormat text with
    | some instant => .ok (text, instant)
    | none => .error "invalid token expiry"
  | .error _ => .error "invalid token expiry"

def validateEntries (entries : PyEntries) (runId userId : String) : Except String Grant := do
  let fields ← orFailed (readFields verifier.room entries)
  let grantedTools := normalizeToolList verifier.catalogue (entries.get "granted_tools")
  let allowedCapabilities := normalizeCapabilityList verifier.catalogue (entries.get "allowed_capabilities")
  requireThat (fields.runId = runId) "token run mismatch"
  requireThat (fields.userId = userId) "token user mismatch"
  requireThat (fields.executionToken ≠ "") "missing execution token"
  let mode ← readMode (entries.get "approval_mode")
  requireThat ((entries.get "issued_at").truthy && (entries.get "expires_at").truthy
    && !(entries.get "token_hash").isNone) "incomplete capability token"
  let expiry ← readExpiry verifier (entries.get "expires_at")
  requireThat (verifier.now < expiry.2) "capability token expired"
  let issuedAt ← orFailed ((entries.get "issued_at").text verifier.room)
  let valid ← orFailed (tokenHashMatches verifier (entries.get "token_hash") (claimsPayload runId userId
    fields.executionToken issuedAt expiry.1 mode.text grantedTools allowedCapabilities))
  requireThat valid "capability token hash mismatch"
  return ⟨grantedTools, allowedCapabilities, fields.executionToken, fields.agentType⟩

def validateToken (token : PyObject) (runId userId : String) : Except String Grant :=
  match token with
  | .dict entries => validateEntries verifier entries runId userId
  | _ => .error "missing capability token"

structure CapabilityCheck where
  ok : Bool
  error : Option String
  (grantedTools allowedCapabilities : List String)
  failureClass : Option String
  cancelled : Bool
deriving DecidableEq, Repr

def refusal (error : String) (grantedTools allowedCapabilities : List String) : CapabilityCheck :=
  ⟨false, some error, grantedTools, allowedCapabilities, none, false⟩

def runAuthorityEnded (runId : String) : Option CapabilityCheck :=
  if runId = "" then none
  else
    (verifier.terminalStatus runId).map fun status =>
      if status = "cancelled" then
        ⟨false, some ("run " ++ runId ++ " was cancelled; authority ended with the run"), [], [],
          some "cancelled", true⟩
      else
        ⟨false, some ("run " ++ runId ++ " is " ++ status ++ "; authority ended with the run"), [], [],
          some "permission", false⟩

def checkGrant (grant : Grant) (toolName : String) : CapabilityCheck :=
  let refused error := refusal error grant.grantedTools grant.allowedCapabilities
  let missing (capability : String) : Bool := decide (capability ∉ grant.allowedCapabilities)
  if toolName ∉ grant.grantedTools then refused ("tool '" ++ toolName ++ "' not granted by capability token")
  else
    let required := getCapabilitiesForTool catalogue toolName
    let agentType := if grant.agentType = "" then defaultAgentType else grant.agentType
    match (required.find? missing).or ((getCapabilitiesForAgent catalogue agentType).find? missing) with
    | some capability => refused ("capability '" ++ capability ++ "' not granted by execution token")
    | none =>
      if required = [] ∧ (catalogue.riskOf? toolName).isSome then
        refused ("tool '" ++ toolName ++ "' has no registered capability mapping")
      else ⟨true, none, grant.grantedTools, grant.allowedCapabilities, none, false⟩

def checkToolCapability (token : PyObject) (runId userId toolName : String) : CapabilityCheck :=
  match runAuthorityEnded verifier runId with
  | some ended => ended
  | none =>
    match validateToken verifier token runId userId with
    | .error error => refusal error [] []
    | .ok grant => checkGrant verifier.catalogue grant toolName

end

section Accepted

theorem bind_ok {Error Value Other : Type} {first : Except Error Value} {next : Value → Except Error Other}
    {result : Other} : (first >>= next) = .ok result ↔ ∃ value, first = .ok value ∧ next value = .ok result := by
  cases first with
  | ok value =>
    constructor
    · intro came
      exact ⟨value, rfl, came⟩
    · rintro ⟨other, same, came⟩
      cases same
      exact came
  | error =>
    constructor
    · intro came
      cases came
    · rintro ⟨other, same, -⟩
      cases same

@[simp] theorem orFailed_ok {Value : Type} {outcome : Except PyError Value} {value : Value} :
    orFailed outcome = .ok value ↔ outcome = .ok value := by
  cases outcome <;> simp [orFailed]

@[simp] theorem requireThat_ok : requireThat condition error = .ok done ↔ condition = true := by
  cases condition <;> simp [requireThat]

theorem matchesKey_ok {keys : List String} (valid : matchesKey verifier candidate payload keys = .ok true) :
    ∃ key ∈ keys, verifier.mac key payload = candidate := by
  induction keys with
  | nil => cases valid
  | cons key later ih =>
    rw [matchesKey] at valid
    split at valid
    · cases valid
    · split at valid
      case isTrue same => exact ⟨key, mem_cons_self, same⟩
      case isFalse =>
        obtain ⟨other, member, same⟩ := ih valid
        exact ⟨other, mem_cons_of_mem _ member, same⟩

structure Accepted (verifier : Verifier) (entries : PyEntries) (runId userId : String) (grant : Grant) where
  (issuedAt expiresAt : String)
  mode : ApprovalMode
  (key candidate : String)
  agentType : ((entries.get "agent_type").orElse (.str defaultAgentType)).text verifier.room = .ok grant.agentType
  tools : grant.grantedTools = normalizeToolList verifier.catalogue (entries.get "granted_tools")
  capabilities :
    grant.allowedCapabilities = normalizeCapabilityList verifier.catalogue (entries.get "allowed_capabilities")
  hash : (entries.get "token_hash").text verifier.room = .ok candidate
  signed : verifier.mac key (claimsPayload runId userId grant.executionToken issuedAt expiresAt mode.text
    grant.grantedTools grant.allowedCapabilities) = candidate

theorem readFields_agentType (read : readFields room entries = .ok fields) :
    ((entries.get "agent_type").orElse (.str defaultAgentType)).text room = .ok fields.agentType := by
  simp only [readFields, bind_ok] at read
  obtain ⟨_, -, _, -, _, -, _, came, same⟩ := read
  cases same
  exact came

theorem accepted_of_valid (valid : validateEntries verifier entries runId userId = .ok grant) :
    Nonempty (Accepted verifier entries runId userId grant) := by
  simp only [validateEntries, bind_ok, orFailed_ok, requireThat_ok] at valid
  obtain ⟨fields, read, -, -, -, -, -, -, mode, -, -, -, expiry, -, -, -, issuedAt, -, matched, hash, -, required,
    came⟩ := valid
  subst required
  cases came
  obtain ⟨candidate, text, tried⟩ := bind_ok.mp hash
  obtain ⟨key, -, signed⟩ := matchesKey_ok tried
  exact ⟨⟨issuedAt, expiry.1, mode, key, candidate, readFields_agentType read, rfl, rfl, text, signed⟩⟩

end Accepted

/-- The name can be read back from a text in which names are joined. -/
def PlainName (name : String) : Prop := name ≠ "" ∧ ',' ∉ name.toList ∧ '|' ∉ name.toList

instance (name : String) : Decidable (PlainName name) := inferInstanceAs (Decidable (_ ∧ _ ∧ _))

/-- The registered names that a token lists. -/
def listedNames (catalogue : Catalogue) (entries : PyEntries) : List String :=
  normalizeToolList catalogue (entries.get "granted_tools") ++
    normalizeCapabilityList catalogue (entries.get "allowed_capabilities")

theorem joined_toList (names : List String) :
    (String.intercalate "," names).toList = [','].intercalate (names.map String.toList) :=
  String.toList_intercalate

theorem bar_not_mem_joined (plain : ∀ name ∈ names, PlainName name) :
    '|' ∉ (String.intercalate "," names).toList := by
  rw [joined_toList]
  induction names with
  | nil => simp
  | cons name later ih =>
    have rest := ih fun other member => plain other (mem_cons_of_mem _ member)
    have own := (plain name mem_cons_self).2.2
    cases later with
    | nil => simpa using own
    | cons =>
      simp only [map_cons, intercalate_cons_cons, mem_append, not_or] at rest ⊢
      exact ⟨⟨own, by decide⟩, rest⟩

theorem joined_injective (plain : ∀ name ∈ names, PlainName name) (plain' : ∀ name ∈ names', PlainName name)
    (same : (String.intercalate "," names).toList = (String.intercalate "," names').toList) : names = names' := by
  have named : ∀ {names : List String}, (∀ name ∈ names, PlainName name) →
      ∀ field ∈ names.map String.toList, field ≠ [] ∧ ',' ∉ field := by
    intro names plain field member
    obtain ⟨name, listed, rfl⟩ := mem_map.mp member
    obtain ⟨some, comma, -⟩ := plain name listed
    exact ⟨fun empty => some (String.toList_eq_nil_iff.mp empty), comma⟩
  rw [joined_toList, joined_toList] at same
  have fields := Joined.intercalate_injective (named plain) (named plain') same
  exact map_injective_iff.mpr (fun _ _ same => String.toList_injective same) fields

/-- The lists are the last fields of a payload, and can be read back from it
whatever stands in the texts before them. -/
theorem payload_lists
    (plainTools : ∀ tool ∈ tools, PlainName tool) (plainTools' : ∀ tool ∈ tools', PlainName tool)
    (plainCapabilities : ∀ capability ∈ capabilities, PlainName capability)
    (plainCapabilities' : ∀ capability ∈ capabilities', PlainName capability)
    (same : claimsPayload runId userId execution issued expires mode tools capabilities
      = claimsPayload runId userId execution' issued' expires' mode' tools' capabilities') :
    sortNames tools = sortNames tools' ∧ sortNames capabilities = sortNames capabilities' := by
  have sorted : ∀ {names : List String}, (∀ name ∈ names, PlainName name) → ∀ name ∈ sortNames names, PlainName name :=
    fun plain name member => plain name ((mem_insertionSort _).mp member)
  have split : ∀ (execution issued expires mode tools capabilities : String),
      (String.intercalate "|" [runId, userId, execution, issued, expires, mode, tools, capabilities]).toList
        = (['|'].intercalate [runId.toList, userId.toList, execution.toList, issued.toList, expires.toList, mode.toList]
          ++ '|' :: tools.toList) ++ '|' :: capabilities.toList := by
    intro execution issued expires mode tools capabilities
    rw [String.toList_intercalate, ← Joined.intercalate_concat (cons_ne_nil _ _),
      ← Joined.intercalate_concat (by simp)]
    rfl
  have letters := congrArg String.toList same
  rw [claimsPayload, claimsPayload, split, split] at letters
  obtain ⟨front, sameCapabilities⟩ := Joined.last_field (bar_not_mem_joined (sorted plainCapabilities))
    (bar_not_mem_joined (sorted plainCapabilities')) letters
  obtain ⟨-, sameTools⟩ := Joined.last_field (bar_not_mem_joined (sorted plainTools))
    (bar_not_mem_joined (sorted plainTools')) front
  exact ⟨joined_injective (sorted plainTools) (sorted plainTools') sameTools,
    joined_injective (sorted plainCapabilities) (sorted plainCapabilities') sameCapabilities⟩

theorem sortNames_normalizeList : sortNames (normalizeList known value) = normalizeList known value := by
  unfold normalizeList
  split
  · exact (pairwise_insertionSort _ _).insertionSort_eq
  · rfl

/-- Two accepted tokens with one MAC grant the same, where the names they list can
be read back from the payload. -/
theorem same_lists (collisionFree : verifier.CollisionFree)
    (plain : ∀ name ∈ listedNames verifier.catalogue entries, PlainName name)
    (plain' : ∀ name ∈ listedNames verifier.catalogue entries', PlainName name)
    (accepted : Accepted verifier entries runId userId grant)
    (accepted' : Accepted verifier entries' runId userId grant')
    (sameHash : (entries.get "token_hash").text verifier.room = (entries'.get "token_hash").text verifier.room) :
    grant.grantedTools = grant'.grantedTools ∧ grant.allowedCapabilities = grant'.allowedCapabilities := by
  have candidates : accepted.candidate = accepted'.candidate := by
    rw [accepted.hash, accepted'.hash, Except.ok.injEq] at sameHash
    exact sameHash
  have payloads := collisionFree _ _ _ _ (accepted.signed.trans (candidates.trans accepted'.signed.symm))
  rw [accepted.tools, accepted'.tools, accepted.capabilities, accepted'.capabilities] at payloads
  obtain ⟨plainTools, plainCapabilities⟩ := forall_mem_append.mp plain
  obtain ⟨plainTools', plainCapabilities'⟩ := forall_mem_append.mp plain'
  obtain ⟨tools, capabilities⟩ := payload_lists plainTools plainTools' plainCapabilities plainCapabilities' payloads
  simp only [normalizeToolList, sortNames_normalizeList] at tools
  simp only [normalizeCapabilityList, sortNames_normalizeList] at capabilities
  exact ⟨by rw [accepted.tools, accepted'.tools]; exact tools,
    by rw [accepted.capabilities, accepted'.capabilities]; exact capabilities⟩

/-- What is required of every tool of a token for the agent type that it names. -/
def agentCapabilities (catalogue : Catalogue) (grant : Grant) : List String :=
  getCapabilitiesForAgent catalogue (if grant.agentType = "" then defaultAgentType else grant.agentType)

theorem checkGrant_congr (toolName : String) (tools : grant.grantedTools = grant'.grantedTools)
    (capabilities : grant.allowedCapabilities = grant'.allowedCapabilities)
    (agent : agentCapabilities catalogue grant = agentCapabilities catalogue grant') :
    checkGrant catalogue grant toolName = checkGrant catalogue grant' toolName := by
  simp only [agentCapabilities] at agent
  simp only [checkGrant, tools, capabilities, agent]

/-- Two tokens of a run and a user that carry the same MAC are answered alike for
every tool, if their agent types require the same. -/
theorem authority_is_signed {verifier : Verifier} (collisionFree : verifier.CollisionFree)
    {entries entries' : PyEntries} {runId userId : String} {grant grant' : Grant}
    (plain : ∀ name ∈ listedNames verifier.catalogue entries, PlainName name)
    (plain' : ∀ name ∈ listedNames verifier.catalogue entries', PlainName name)
    (valid : validateToken verifier (.dict entries) runId userId = .ok grant)
    (valid' : validateToken verifier (.dict entries') runId userId = .ok grant')
    (sameHash : (entries.get "token_hash").text verifier.room = (entries'.get "token_hash").text verifier.room)
    (sameAgent : agentCapabilities verifier.catalogue grant = agentCapabilities verifier.catalogue grant')
    (toolName : String) :
    checkToolCapability verifier (.dict entries) runId userId toolName
      = checkToolCapability verifier (.dict entries') runId userId toolName := by
  obtain ⟨accepted⟩ := accepted_of_valid valid
  obtain ⟨accepted'⟩ := accepted_of_valid valid'
  obtain ⟨tools, capabilities⟩ := same_lists collisionFree plain plain' accepted accepted' sameHash
  unfold checkToolCapability
  rw [valid, valid']
  dsimp only
  rw [checkGrant_congr toolName tools capabilities sameAgent]

def fileCatalogue (tools : List String) : Catalogue where
  lower := id
  definitions capability := decide (capability ∈ ["audit", "files"])
  toolCapabilities _ := ["files"]
  agentCapabilities agentType := if agentType = "auditor" then ["audit"] else []
  tools := tools.map fun tool => (tool, "low")
  restrictedTools := []

def fileVerifier (tools : List String) : Verifier where
  catalogue := fileCatalogue tools
  room := 100
  keys := ["key"]
  mac _ payload := payload
  fromIsoFormat _ := some 2
  now := 1
  terminalStatus _ := none

def fileToken (agentType joined : String) (tools : List String) : PyEntries :=
  [("run_id", .str "run"), ("user_id", .str "user"), ("agent_type", .str agentType),
    ("execution_token", .str "token"), ("issued_at", .str "then"), ("expires_at", .str "soon"),
    ("granted_tools", .list (tools.map .str)), ("allowed_capabilities", .list [.str "files"]),
    ("approval_mode", .str "manual"),
    ("token_hash", .str ("run|user|token|then|soon|manual|" ++ joined ++ "|files"))]

theorem authority_is_signed_of_parent :
    checkToolCapability (fileVerifier ["read", "write"])
        (.dict (fileToken "default" "read,write" ["read", "write"])) "run" "user" "read"
      = checkToolCapability (fileVerifier ["read", "write"])
        (.dict (("parent_run_id", .str "parent") :: fileToken "default" "read,write" ["write", "read", "other"]))
        "run" "user" "read" :=
  authority_is_signed (fun _ _ _ _ same => same) (by decide) (by decide)
    (by rfl : validateToken (fileVerifier ["read", "write"])
      (.dict (fileToken "default" "read,write" ["read", "write"])) "run" "user"
        = .ok ⟨["read", "write"], ["files"], "token", "default"⟩)
    (by rfl : validateToken (fileVerifier ["read", "write"])
      (.dict (("parent_run_id", .str "parent") :: fileToken "default" "read,write" ["write", "read", "other"]))
        "run" "user" = .ok ⟨["read", "write"], ["files"], "token", "default"⟩)
    rfl rfl "read"

/-- The agent type is not signed: with the same MAC, an agent type that demands more
is refused what another is allowed.  And with a comma in a name, one list of tools
has the MAC of another. -/
theorem unsigned_agent_type_decides :
    (fileToken "auditor" "read,write" ["read", "write"]).get "token_hash"
        = (fileToken "default" "read,write" ["read", "write"]).get "token_hash" ∧
      checkToolCapability (fileVerifier ["read", "write"])
        (.dict (fileToken "default" "read,write" ["read", "write"])) "run" "user" "read"
        = ⟨true, none, ["read", "write"], ["files"], none, false⟩ ∧
      validateToken (fileVerifier ["read", "write"])
        (.dict (fileToken "auditor" "read,write" ["read", "write"])) "run" "user"
        = .ok ⟨["read", "write"], ["files"], "token", "auditor"⟩ ∧
      checkToolCapability (fileVerifier ["read", "write"])
        (.dict (fileToken "auditor" "read,write" ["read", "write"])) "run" "user" "read"
        = refusal "capability 'audit' not granted by execution token" ["read", "write"] ["files"] ∧
      checkToolCapability (fileVerifier ["read", "write", "read,write"])
        (.dict (fileToken "default" "read,write" ["read,write"])) "run" "user" "read"
        = refusal "tool 'read' not granted by capability token" ["read,write"] ["files"] ∧
      checkToolCapability (fileVerifier ["read", "write", "read,write"])
        (.dict (fileToken "default" "read,write" ["read", "write"])) "run" "user" "read"
        = ⟨true, none, ["read", "write"], ["files"], none, false⟩ := by
  refine ⟨rfl, rfl, rfl, rfl, rfl, rfl⟩

end AindyRuntime.Capability
