import AindyRuntime.Capability.Authority

namespace AindyRuntime.Capability

open List

def itemsOf : PyObject → Option (List PyObject)
  | .list items | .tuple items => some items
  | .dict entries => some (entries.map fun entry => .str entry.1)
  | .str text => some (text.toList.map fun letter => .str letter.toString)
  | _ => none

def textsOf : List PyObject → Option (List String)
  | [] => some []
  | .str text :: later => (textsOf later).map (text :: ·)
  | _ :: _ => none

def textOf : PyObject → Option String
  | .str text => some text
  | _ => none

def namesAt (entries : PyEntries) (key : String) : Option (List String) := do
  textsOf (← itemsOf ((entries.get key).orElse (.list [])))

def orDefault (entries : PyEntries) (key default : String) : PyObject := (entries.get key).orElse (.str default)

def refreshEntries (room : Nat) (issue : Issue) (entries : PyEntries) : Option PyObject :=
  if !(entries.get "run_id").truthy || !(entries.get "user_id").truthy then none
  else do
    let runId ← ((entries.get "run_id").text room).toOption
    let userId ← ((entries.get "user_id").text room).toOption
    let grantedTools ← namesAt entries "granted_tools"
    let allowedCapabilities ← namesAt entries "allowed_capabilities"
    let approvalMode ← textOf (orDefault entries "approval_mode" "manual")
    return .dict [("run_id", .str runId), ("user_id", .str userId),
      ("agent_type", orDefault entries "agent_type" defaultAgentType),
      ("execution_token", .str issue.executionToken), ("issued_at", .str issue.issuedAt),
      ("expires_at", .str issue.expiresAt), ("granted_tools", .list (grantedTools.map .str)),
      ("allowed_capabilities", .list (allowedCapabilities.map .str)), ("approval_mode", .str approvalMode),
      ("token_hash", .str (issue.mac (claimsPayload runId userId issue.executionToken issue.issuedAt
        issue.expiresAt approvalMode grantedTools allowedCapabilities)))]

def refreshToken (room : Nat) (issue : Issue) : PyObject → Option PyObject
  | .dict entries => refreshEntries room issue entries
  | _ => none

variable (verifier : Verifier)

def entriesBind (entries : PyEntries) (runId userId : String) : Option Bool := do
  let tokenRunId ← ((entries.getOr "run_id" (.str "")).text verifier.room).toOption
  let tokenUserId ← ((entries.getOr "user_id" (.str "")).text verifier.room).toOption
  if tokenRunId ≠ runId ∨ tokenUserId ≠ userId then return false
  let executionToken ← ((entries.getOr "execution_token" (.str "")).text verifier.room).toOption
  if (entries.get "token_hash").isNone ∨ executionToken = "" then return false
  let issuedAt ← ((entries.get "issued_at").text verifier.room).toOption
  let expiresAt ← ((entries.get "expires_at").text verifier.room).toOption
  let grantedTools ← namesAt entries "granted_tools"
  let allowedCapabilities ← namesAt entries "allowed_capabilities"
  let approvalMode ← textOf (entries.get "approval_mode")
  (tokenHashMatches verifier (entries.get "token_hash") (claimsPayload runId userId executionToken issuedAt
    expiresAt approvalMode grantedTools allowedCapabilities)).toOption

variable (token : PyObject)

def tokenBindsRun (runId userId : String) : Bool :=
  match token with
  | .dict entries => (entriesBind verifier entries runId userId).getD false
  | _ => false

def fieldOf (key : String) : PyObject :=
  match token with
  | .dict entries => PyEntries.get entries key
  | _ => .null

def tokenIsExpired : Bool :=
  !(fieldOf token "expires_at").truthy ||
    match readExpiry verifier (fieldOf token "expires_at") with
    | .ok expiry => decide (expiry.2 ≤ verifier.now)
    | .error _ => true

def effectiveToken (issue : Issue) (token : PyObject) : PyObject :=
  if tokenIsExpired verifier token then (refreshToken verifier.room issue token).getD token else token

/-- An issue with a named token and a key that the verifier accepts; a MAC is a hexadecimal digest. -/
structure Issue.Trusted (issue : Issue) : Prop where
  named : issue.executionToken ≠ ""
  hex : ∀ payload, isAscii (issue.mac payload) = true
  key : ∃ key ∈ verifier.keys, issue.mac = verifier.mac key

variable (verifier : Verifier) in
/-- The tokens of runs without a parent: minted, refreshed, or read back from the column, which keeps
the entries and not their order. -/
inductive Issued : PyObject → Prop where
  | minted {catalogue : Catalogue} {request : MintRequest} {issue : Issue} {token : CapabilityToken}
      (trusted : issue.Trusted verifier) (minted : mintToken catalogue request issue = some token)
      (parentless : token.parentRunId = none) : Issued (.dict token.entries)
  | refreshed {issue : Issue} {token refreshed : PyObject} (issued : Issued token)
      (trusted : issue.Trusted verifier) (renewed : refreshToken verifier.room issue token = some refreshed) :
      Issued refreshed
  | stored {entries entries' : PyEntries} (issued : Issued (.dict entries)) (reordered : entries.Perm entries') :
      Issued (.dict entries')

/-- The entries are a signed token's. -/
structure Presented (entries : PyEntries) (token : CapabilityToken) : Prop where
  distinct : (entries.map Prod.fst).Nodup
  fields : Presents entries token
  signed : Signed verifier token
  executionToken : token.executionToken ≠ ""
  agentType : token.agentType ≠ ""
  parentless : entries.get "parent_run_id" = .null

section Issued

variable {verifier : Verifier} {entries : PyEntries} {token : CapabilityToken}

theorem textsOf_strings (texts : List String) : textsOf (texts.map .str) = some texts := by
  induction texts with
  | nil => rfl
  | cons text later ih => simp [textsOf, ih]

theorem namesAt_strings
    (found : Dict.Entries.find? key entries = some (.list (names.map .str))) : namesAt entries key = some names := by
  have items : (PyObject.list (names.map .str)).orElse (.list []) = .list (names.map .str) := by
    cases names <;> rfl
  simp [namesAt, PyEntries.get, found, items, itemsOf, textsOf_strings]

theorem orDefault_text {default : String} (found : Dict.Entries.find? key entries = some (.str text))
    (some : text ≠ "") : orDefault entries key default = .str text := by
  simp [orDefault, PyEntries.get, found, PyObject.orElse, PyObject.truthy, some]

theorem mode_text_ne {mode : ApprovalMode} : mode.text ≠ "" := by
  cases mode <;> decide

def CapabilityToken.renewed (token : CapabilityToken) (issue : Issue) : CapabilityToken :=
  { token with
    executionToken := issue.executionToken
    issuedAt := issue.issuedAt
    expiresAt := issue.expiresAt
    tokenHash := issue.mac (tokenPayload token.runId token.userId issue.executionToken issue.issuedAt
      issue.expiresAt token.approvalMode token.grantedTools token.allowedCapabilities) }

theorem refresh_presented (fields : Presents entries token) (agentType : token.agentType ≠ "")
    (renewed : refreshToken verifier.room issue (.dict entries) = some refreshed) :
    ∃ next : PyEntries, refreshed = .dict next ∧ (next.map Prod.fst).Nodup ∧ Presents next (token.renewed issue) ∧
      next.get "parent_run_id" = .null := by
  simp only [refreshToken, refreshEntries, PyEntries.get, fields.runId, fields.userId, PyObject.text,
    namesAt_strings fields.grantedTools, namesAt_strings fields.allowedCapabilities,
    orDefault_text fields.approvalMode mode_text_ne, orDefault_text fields.agentType agentType] at renewed
  split at renewed <;> cases renewed
  · refine ⟨_, rfl, by simp, ?_, rfl⟩
    constructor <;> rfl

theorem Presented.reordered (presented : Presented verifier entries token) (reordered : entries.Perm entries') :
    Presented verifier entries' token := by
  obtain ⟨distinct, fields, signed, executionToken, agentType, parentless⟩ := presented
  have same key : Dict.Entries.find? key entries' = Dict.Entries.find? key entries :=
    Dict.Entries.find?_perm distinct reordered
  refine ⟨(reordered.map _).nodup_iff.mp distinct, ?_, signed, executionToken, agentType, ?_⟩
  · constructor <;> rw [same]
    exacts [fields.runId, fields.userId, fields.agentType, fields.executionToken, fields.issuedAt, fields.expiresAt,
      fields.grantedTools, fields.allowedCapabilities, fields.approvalMode, fields.tokenHash]
  · rwa [PyEntries.get, same]

theorem issued_presented (issued : Issued verifier presented) :
    ∃ entries token, presented = .dict entries ∧ Presented verifier entries token := by
  induction issued with
  | minted trusted minted parentless =>
      refine ⟨_, _, rfl, by simp [CapabilityToken.entries], entries_presents, ?_, ?_, ?_, ?_⟩
      · obtain ⟨_, _, -, rfl, -⟩ := mintToken_token minted
        exact token_signed trusted.hex trusted.key
      · obtain ⟨_, _, -, rfl, -⟩ := mintToken_token minted
        exact trusted.named
      · obtain ⟨_, _, -, rfl, -⟩ := mintToken_token minted
        simp only [MintRequest.token]
        split
        · decide
        · assumption
      · simp only [CapabilityToken.entries, parentless]
        rfl
  | refreshed issued trusted renewed ih =>
      obtain ⟨_, _, rfl, presented⟩ := ih
      obtain ⟨next, rfl, distinct, fields, parentless⟩ := refresh_presented presented.fields presented.agentType renewed
      refine ⟨next, _, rfl, distinct, fields, ⟨trusted.hex _, ?_⟩, trusted.named, presented.agentType, parentless⟩
      obtain ⟨key, member, same⟩ := trusted.key
      refine ⟨key, member, ?_⟩
      rw [← same]
      rfl
  | stored _ reordered ih =>
      obtain ⟨_, _, same, presented⟩ := ih
      cases same
      exact ⟨_, _, rfl, presented.reordered reordered⟩

theorem binds_presented (presented : Presented verifier entries token) :
    tokenBindsRun verifier (.dict entries) token.runId token.userId = true := by
  have fields := presented.fields
  have hash : tokenHashMatches verifier (.str token.tokenHash) token.payload = .ok true :=
    matchesKey_of_mem presented.signed.ascii presented.signed.key
  rw [CapabilityToken.payload, tokenPayload_eq] at hash
  simp only [tokenBindsRun, entriesBind, PyEntries.get, PyEntries.getOr, fields.runId, fields.userId,
    fields.executionToken,
    fields.issuedAt, fields.expiresAt, fields.tokenHash, fields.approvalMode, PyObject.text,
    namesAt_strings fields.grantedTools, namesAt_strings fields.allowedCapabilities]
  simp [Except.toOption, PyObject.isNone, presented.executionToken, textOf, hash]

def keptFields : List String :=
  ["run_id", "user_id", "agent_type", "granted_tools", "allowed_capabilities", "approval_mode", "parent_run_id"]

theorem refresh_kept (issued : Issued verifier presented)
    (renewed : refreshToken verifier.room issue presented = some refreshed) :
    ∀ field ∈ keptFields, fieldOf refreshed field = fieldOf presented field := by
  obtain ⟨_, _, rfl, held⟩ := issued_presented issued
  obtain ⟨_, rfl, -, fields, parentless⟩ := refresh_presented held.fields held.agentType renewed
  have before := held.fields
  intro field member
  simp only [keptFields, mem_cons, not_mem_nil, or_false] at member
  rcases member with rfl | rfl | rfl | rfl | rfl | rfl | rfl
  · simp [fieldOf, PyEntries.get, before.runId, fields.runId, CapabilityToken.renewed]
  · simp [fieldOf, PyEntries.get, before.userId, fields.userId, CapabilityToken.renewed]
  · simp [fieldOf, PyEntries.get, before.agentType, fields.agentType, CapabilityToken.renewed]
  · simp [fieldOf, PyEntries.get, before.grantedTools, fields.grantedTools, CapabilityToken.renewed]
  · simp [fieldOf, PyEntries.get, before.allowedCapabilities, fields.allowedCapabilities, CapabilityToken.renewed]
  · simp [fieldOf, PyEntries.get, before.approvalMode, fields.approvalMode, CapabilityToken.renewed]
  · exact parentless.trans held.parentless.symm

theorem issued_binds (issued : Issued verifier presented) :
    ∃ runId userId, fieldOf presented "run_id" = .str runId ∧ fieldOf presented "user_id" = .str userId ∧
      tokenBindsRun verifier presented runId userId = true := by
  obtain ⟨_, token, rfl, held⟩ := issued_presented issued
  refine ⟨token.runId, token.userId, ?_, ?_, binds_presented held⟩
  · simp [fieldOf, PyEntries.get, held.fields.runId]
  · simp [fieldOf, PyEntries.get, held.fields.userId]

/-- A token that is refreshed was valid for its run and user if it was issued, and
the refreshed token has the fields of it that later decisions read. -/
theorem refresh_keeps_authority {presented refreshed : PyObject} (issued : Issued verifier presented)
    (renewed : refreshToken verifier.room issue presented = some refreshed) :
    (∃ runId userId, fieldOf presented "run_id" = .str runId ∧ fieldOf presented "user_id" = .str userId ∧
      tokenBindsRun verifier presented runId userId = true) ∧
    ∀ field ∈ keptFields, fieldOf refreshed field = fieldOf presented field :=
  ⟨issued_binds issued, refresh_kept issued renewed⟩

end Issued

def Verifier.clockedTo (now : Int) : Verifier := { verifier with now }

/-- The token of the run after these resumes; `column` is what reading it back from the JSONB column
makes of it. -/
def resumedToken (column : PyEntries → PyEntries) (resumes : List (Int × Issue)) : PyObject :=
  resumes.foldl (fun stored resume =>
    match effectiveToken (verifier.clockedTo resume.1) resume.2 stored with
    | .dict entries => .dict (column entries)
    | other => other) token

section Resumes

variable {verifier : Verifier} {token : PyObject} {column : PyEntries → PyEntries}

theorem Issued.clockedTo (issued : Issued verifier token) : Issued (verifier.clockedTo now) token := by
  induction issued with
  | minted trusted minted parentless => exact .minted ⟨trusted.1, trusted.2, trusted.3⟩ minted parentless
  | refreshed _ trusted renewed ih => exact .refreshed ih ⟨trusted.1, trusted.2, trusted.3⟩ renewed
  | stored _ reordered ih => exact .stored ih reordered

theorem Issued.unclocked (issued : Issued (verifier.clockedTo now) token) : Issued verifier token :=
  @Issued.clockedTo (verifier.clockedTo now) token verifier.now issued

theorem effectiveToken_kept (issued : Issued verifier token) (trusted : issue.Trusted verifier) :
    Issued verifier (effectiveToken verifier issue token) ∧
      ∀ field ∈ keptFields, fieldOf (effectiveToken verifier issue token) field = fieldOf token field := by
  unfold effectiveToken
  split
  · cases renewed : refreshToken verifier.room issue token with
    | none => exact ⟨issued, fun _ _ => rfl⟩
    | some refreshed => exact ⟨.refreshed issued trusted renewed, refresh_kept issued renewed⟩
  · exact ⟨issued, fun _ _ => rfl⟩

theorem resumedToken_issued (reorders : ∀ entries : PyEntries, entries.Perm (column entries))
    (issued : Issued verifier token) (trusted : ∀ resume ∈ resumes, resume.2.Trusted verifier) :
    Issued verifier (resumedToken verifier token column resumes) ∧
      ∀ field ∈ keptFields, fieldOf (resumedToken verifier token column resumes) field = fieldOf token field := by
  induction resumes generalizing token with
  | nil => exact ⟨issued, fun _ _ => rfl⟩
  | cons resume later ih =>
      obtain ⟨trusts, others⟩ := forall_mem_cons.mp trusted
      obtain ⟨effective, kept⟩ := effectiveToken_kept (@Issued.clockedTo verifier token resume.1 issued)
        ⟨trusts.1, trusts.2, trusts.3⟩
      obtain ⟨entries, _, same, presented⟩ := issued_presented effective
      have stored : Issued verifier (.dict (column entries)) := .stored (same ▸ effective).unclocked (reorders entries)
      obtain ⟨ended, later⟩ := ih stored others
      simp only [resumedToken, foldl_cons, same] at ended later ⊢
      refine ⟨ended, fun field member => (later field member).trans ?_⟩
      rw [← kept field member, same]
      simp only [fieldOf, PyEntries.get, Dict.Entries.find?_perm presented.distinct (reorders entries)]

/-- However often a run is resumed, its token is valid for the run and the user that it began with, and has
the fields that later decisions read. -/
theorem resumedToken_kept (reorders : ∀ entries : PyEntries, entries.Perm (column entries))
    (issued : Issued verifier token) (trusted : ∀ resume ∈ resumes, resume.2.Trusted verifier) :
    (∃ runId userId, fieldOf token "run_id" = .str runId ∧ fieldOf token "user_id" = .str userId ∧
      tokenBindsRun verifier (resumedToken verifier token column resumes) runId userId = true) ∧
    ∀ field ∈ keptFields, fieldOf (resumedToken verifier token column resumes) field = fieldOf token field := by
  obtain ⟨ended, kept⟩ := resumedToken_issued reorders issued trusted
  obtain ⟨runId, userId, run, user, binds⟩ := issued_binds ended
  exact ⟨⟨runId, userId, (kept "run_id" (by decide)).symm.trans run, (kept "user_id" (by decide)).symm.trans user,
    binds⟩, kept⟩

end Resumes

theorem mailIssue_trusted : mailIssue.Trusted mailVerifier :=
  ⟨mailIssue_genuine.executionToken, mailIssue_genuine.hex, mailIssue_genuine.key⟩

theorem refresh_keeps_authority_of_mail :
    ∃ token refreshed, mintToken mailCatalogue (mailRequest none) mailIssue = some token ∧
      refreshToken mailVerifier.room mailIssue (.dict token.entries) = some refreshed ∧
      fieldOf refreshed "agent_type" = .str "default" := by
  refine ⟨_, _, rfl, rfl, ?_⟩
  have issued := @Issued.minted mailVerifier mailCatalogue (mailRequest none) mailIssue _ mailIssue_trusted rfl rfl
  have kept := (@refresh_keeps_authority mailVerifier mailIssue _ _ issued rfl).2 "agent_type" (by decide)
  exact kept.trans rfl

def forgedToken : PyObject :=
  .dict [("run_id", .str "run"), ("user_id", .str "user"), ("granted_tools", .list [.str "read"]),
    ("allowed_capabilities", .list [.str "files"]), ("execution_token", .str "none"), ("token_hash", .str "none")]

def fileIssue : Issue := ⟨"t1", "then", "soon", id, true⟩

/-- A dictionary that was never signed is refreshed into a token that is accepted;
and a refreshed token of a delegated run no longer names the parent. -/
theorem refresh_signs_anything :
    tokenBindsRun (fileVerifier ["read", "write"]) forgedToken "run" "user" = false ∧
      tokenIsExpired (fileVerifier ["read", "write"]) forgedToken = true ∧
      validateToken (fileVerifier ["read", "write"])
          (effectiveToken (fileVerifier ["read", "write"]) fileIssue forgedToken)
        "run" "user" = .ok ⟨["read"], ["files"], "t1", "default"⟩ ∧
      ∃ token refreshed, mintToken mailCatalogue { mailRequest none with parentRunId := some "parent" } mailIssue
          = some token ∧
        refreshToken mailVerifier.room mailIssue (.dict token.entries) = some refreshed ∧
        fieldOf (.dict token.entries) "parent_run_id" = .str "parent" ∧
        fieldOf refreshed "parent_run_id" = .null :=
  ⟨rfl, rfl, rfl, _, _, rfl, rfl, rfl, rfl⟩

theorem resumedToken_kept_of_mail :
    ∃ token, mintToken mailCatalogue (mailRequest none) mailIssue = some token ∧
      let resumed := resumedToken mailVerifier (.dict token.entries) reverse [(9, mailIssue), (20, mailIssue)]
      tokenBindsRun mailVerifier resumed "run" "user" = true ∧ fieldOf resumed "agent_type" = .str "default" := by
  refine ⟨_, rfl, ?_⟩
  have issued := @Issued.minted mailVerifier mailCatalogue (mailRequest none) mailIssue _ mailIssue_trusted rfl rfl
  obtain ⟨⟨_, _, run, user, binds⟩, kept⟩ := @resumedToken_kept _ _ reverse [(9, mailIssue), (20, mailIssue)]
    (fun entries => (reverse_perm entries).symm) issued (by simp [mailIssue_trusted])
  cases run
  cases user
  exact ⟨binds, kept "agent_type" (by decide)⟩

end AindyRuntime.Capability
