import AindyRuntime.Agent.ExecutionEnvironment
import AindyRuntime.Capability.Catalogue

/-! # Domain policies and the egress guard

`agents/capability_policy.py` bounds the hosts that a tool's arguments may name,
one capability after the other.
-/

namespace AindyRuntime.Capability

open Environment List

/-- `str.lower`: lowering twice is lowering once, and loses no text. -/
structure HostCase extends TextCase where
  lower_lower : ∀ text, lower (lower text) = lower text
  lower_ne : ∀ text, text ≠ "" → lower text ≠ ""

theorem toLower_toLower (letter : Char) : letter.toLower.toLower = letter.toLower := by
  by_cases upper : letter.val ≥ 'A'.val ∧ letter.val ≤ 'Z'.val
  · have lowered : ¬(letter.toLower.val ≥ 'A'.val ∧ letter.toLower.val ≤ 'Z'.val) := by
      have shifted : letter.toLower.val = letter.val + ('a'.val - 'A'.val) := congrArg Char.val (dif_pos upper)
      rw [shifted]
      rintro ⟨_, below⟩
      obtain ⟨low, high⟩ := upper
      simp only [UInt32.le_iff_toNat_le, UInt32.toNat_add, Char.reduceVal,
        UInt32.reduceSub, UInt32.reduceToNat] at low high below
      omega
    exact dif_neg lowered
  · have same : letter.toLower = letter := dif_neg upper
    rw [same, same]

def HostCase.ascii : HostCase where
  toTextCase := TextCase.ascii
  lower_lower text := by
    simp only [TextCase.ascii, asciiLower, String.toList_ofList, map_map, Function.comp_def, toLower_toLower]
  lower_ne text named := by
    intro lost
    have letters : text.toList = [] := by
      simpa [TextCase.ascii, asciiLower] using congrArg String.toList lost
    exact named (String.toList_inj.mp letters)

/-- A bound attached to a capability; `none` is unrestricted. -/
structure CapabilityPolicy where
  (recipients domains : Option (List String))
  rate : Option String

abbrev CapabilityPolicies := String → Option CapabilityPolicy

variable (hostCase : HostCase)

def endsWith (text ending : String) : Bool := ending.toList.isSuffixOf text.toList

def startsWith (text start : String) : Bool := start.toList.isPrefixOf text.toList

def recipientMatches (recipient entry : String) : Bool :=
  let recipient := hostCase.lower recipient
  let entry := hostCase.lower entry
  let domain := if startsWith entry "@" then String.ofList (entry.toList.drop 1) else entry
  entry == recipient
    || (!entry.toList.contains '@' && endsWith recipient ("@" ++ domain))
    || (startsWith entry "@" && endsWith recipient entry)

def recipientAllowed (recipient : String) (allowlist : List String) : Bool :=
  allowlist.any (recipientMatches hostCase recipient)

def domainMatches (host entry : String) : Bool :=
  let host := hostCase.lower host
  let entry := String.ofList ((hostCase.lower entry).toList.dropWhile (· == '.'))
  host == entry || endsWith host ("." ++ entry)

def domainAllowed (host : String) (allowlist : List String) : Bool :=
  allowlist.any (domainMatches hostCase host)

inductive ViolationKind where
  | recipient
  | domain
deriving DecidableEq, Repr

structure Violation where
  capability : String
  kind : ViolationKind
  value : String
deriving DecidableEq, Repr

def violationsOf (capability : String) (kind : ViolationKind)
    (allowed : String → List String → Bool) (allowlist : Option (List String)) (values : List String) :
    List Violation :=
  match allowlist with
  | none => []
  | some allowlist => (values.filter fun value => !allowed value allowlist).map (⟨capability, kind, ·⟩)

def enforceCapabilityPolicy (policies : CapabilityPolicies) (capabilities recipients domains : List String) :
    List Violation :=
  capabilities.flatMap fun capability =>
    match policies capability with
    | none => []
    | some policy =>
      violationsOf capability .recipient (recipientAllowed hostCase) policy.recipients recipients
        ++ violationsOf capability .domain (domainAllowed hostCase) policy.domains domains

def attachedDomains (policies : CapabilityPolicies) (capabilities : List String) : List (List String) :=
  capabilities.filterMap fun capability => (policies capability).bind (·.domains)

def toolFloorNetwork : Network := .openAccess

/-- `_tool_network_mode`; `none` is a tool with no usable `env_spec`. -/
def toolNetworkMode (declared : Option Network) : Network :=
  match declared with
  | none => .openAccess
  | some mode => (narrower networkAxis mode toolFloorNetwork).1

structure EgressDecision where
  mode : Network
  domains : List String
deriving DecidableEq, Repr

def normalizeDomains (domains : List String) : List String :=
  sortedSet ((domains.filter (· ≠ "")).map hostCase.lower)

def collectEgressDomains (tokened : Bool) (policies : CapabilityPolicies) (capabilities : List String) :
    List String :=
  if tokened then (attachedDomains policies capabilities).flatten else []

def resolveEgressDecision (mode : Network) (policyDomains : List String) : EgressDecision :=
  let domains := normalizeDomains hostCase policyDomains
  if mode = .none then ⟨.none, []⟩
  else if domains ≠ [] then ⟨.scoped, domains⟩
  else if mode = .scoped then ⟨.scoped, []⟩
  else ⟨.openAccess, []⟩

def EgressDecision.enforces (decision : EgressDecision) : Bool := decide (decision.mode ≠ .openAccess)

open EgressDecision

def EgressDecision.toPayload (decision : EgressDecision) : Json :=
  .obj [("mode", .str (networkAxis.name decision.mode)), ("domains", .arr (decision.domains.map .str))]

def payloadDomains (raw : Json) : List String :=
  match (raw.get "domains").orElse (.arr []) with
  | .arr items => (items.filter Json.truthy).map Json.text
  | _ => []

def EgressDecision.fromPayload (raw : Json) : Option EgressDecision :=
  if raw.isDict then
    (networkAxis.named? (.str ((raw.get "mode").orElse (.str "open")).text)).map fun mode =>
      ⟨mode, normalizeDomains hostCase (payloadDomains raw)⟩
  else none

inductive Provider where
  | inProcess
  | worker
deriving DecidableEq, Repr

/-- The allowlist for a decision; `none` leaves the guard inert, and an empty
list denies every host. -/
def EgressDecision.allowlist (decision : EgressDecision) (domains : List String) : Option (List String) :=
  if !decision.enforces then none
  else if decision.mode = .none ∨ decision.domains = [] then some []
  else some domains

def scopeAllowlist (decision : EgressDecision) : Option (List String) :=
  decision.allowlist (decision.domains.map hostCase.lower)

def processAllowlist (raw : Json) : Option (List String) :=
  (fromPayload hostCase raw).bind fun decision => decision.allowlist decision.domains

def Provider.allowlist (provider : Provider) (decision : EgressDecision) : Option (List String) :=
  match provider with
  | .inProcess => scopeAllowlist hostCase decision
  | .worker => processAllowlist hostCase decision.toPayload

def resolves (allowlist : Option (List String)) (host : String) : Bool :=
  match allowlist with
  | none => true
  | some allowlist => host == "" || domainAllowed hostCase (hostCase.lower host) allowlist

variable {hostCase} {policies : CapabilityPolicies} {capabilities domains allowlist : List String}
variable {host : String} {mode : Network} {tokened : Bool} {provider : Provider}

@[simp] theorem domainMatches_lower_entry :
    domainMatches hostCase host (hostCase.lower entry) = domainMatches hostCase host entry := by
  simp [domainMatches, hostCase.lower_lower]

@[simp] theorem domainMatches_lower_host :
    domainMatches hostCase (hostCase.lower host) entry = domainMatches hostCase host entry := by
  simp [domainMatches, hostCase.lower_lower]

theorem domainAllowed_iff :
    domainAllowed hostCase host allowlist = true ↔
      ∃ entry ∈ allowlist, domainMatches hostCase host entry = true := by
  simp [domainAllowed]

theorem mem_normalizeDomains :
    domain ∈ normalizeDomains hostCase domains ↔
      ∃ entry ∈ domains, entry ≠ "" ∧ hostCase.lower entry = domain := by
  simp [normalizeDomains, and_assoc]

theorem normalizeDomains_eq_nil : normalizeDomains hostCase domains = [] ↔ ∀ entry ∈ domains, entry = "" := by
  simp [normalizeDomains]

/-- Normalising keeps what an allowlist matches, apart from its blank entries. -/
theorem normalized_allows_iff :
    (∃ entry ∈ normalizeDomains hostCase domains, domainMatches hostCase host entry = true) ↔
      ∃ entry ∈ domains, entry ≠ "" ∧ domainMatches hostCase host entry = true := by
  constructor
  · rintro ⟨_, normal, matching⟩
    obtain ⟨entry, member, named, rfl⟩ := mem_normalizeDomains.mp normal
    exact ⟨entry, member, named, by simpa using matching⟩
  · rintro ⟨entry, member, named, matching⟩
    exact ⟨hostCase.lower entry, mem_normalizeDomains.mpr ⟨entry, member, named, rfl⟩, by simpa using matching⟩

def plainHost (length : Nat) : String := String.ofList (List.replicate length 'a')

theorem lower_plainHost {length : Nat} : hostCase.lower (plainHost length) = plainHost length := by
  have ascii : isAscii (plainHost length) = true := by
    simp only [isAscii, plainHost, String.toList_ofList, all_replicate]
    split <;> decide
  rw [hostCase.lower_ascii _ ascii]
  simp only [asciiLower, plainHost, String.toList_ofList, map_replicate]
  rfl

theorem domainMatches_plainHost {length : Nat} (longer : (hostCase.lower entry).toList.length < length) :
    domainMatches hostCase (plainHost length) entry = false := by
  have shorter : ((hostCase.lower entry).toList.dropWhile (· == '.')).length < length :=
    Nat.lt_of_le_of_lt (dropWhile_sublist _).length_le longer
  simp only [domainMatches, lower_plainHost, Bool.or_eq_false_iff, beq_eq_false_iff_ne]
  refine ⟨?_, ?_⟩
  · intro same
    have lengths := congrArg (fun text => text.toList.length) same
    simp only [plainHost, String.toList_ofList, length_replicate] at lengths
    omega
  · by_contra ending
    have suffix := isSuffixOf_iff_suffix.mp (Bool.not_eq_false _ ▸ ending)
    have dot : '.' ∈ (plainHost length).toList := suffix.subset (by simp)
    simp [plainHost] at dot

theorem exists_denied_host : ∃ host, host ≠ "" ∧ domainAllowed hostCase host allowlist = false := by
  have bounded : ∃ bound, ∀ entry ∈ allowlist, (hostCase.lower entry).toList.length ≤ bound := by
    induction allowlist with
    | nil => exact ⟨0, by simp⟩
    | cons entry rest ih =>
      obtain ⟨bound, below⟩ := ih
      refine ⟨(hostCase.lower entry).toList.length + bound, ?_⟩
      intro other member
      rcases mem_cons.mp member with rfl | later
      · omega
      · have := below other later
        omega
  obtain ⟨bound, below⟩ := bounded
  refine ⟨plainHost (bound + 1), ?_, ?_⟩
  · intro empty
    have letters := congrArg String.toList empty
    simp [plainHost] at letters
  · simp only [domainAllowed, any_eq_false]
    intro entry member
    have short := below entry member
    simp [domainMatches_plainHost (Nat.lt_succ_of_le short)]

theorem violationsOf_eq_nil :
    violationsOf capability kind allowed bound values = [] ↔
      ∀ allowlist, bound = some allowlist → ∀ value ∈ values, allowed value allowlist = true := by
  cases bound with
  | none => simp [violationsOf]
  | some => simp [violationsOf]

/-- A call whose arguments name one host is allowed exactly if every attached
domain list permits the host. -/
theorem enforceCapabilityPolicy_host :
    enforceCapabilityPolicy hostCase policies capabilities [] [host] = [] ↔
      ∀ allowlist ∈ attachedDomains policies capabilities,
        domainAllowed hostCase host allowlist = true := by
  simp only [enforceCapabilityPolicy, flatMap_eq_nil_iff, attachedDomains, mem_filterMap]
  constructor
  · rintro allowed allowlist ⟨capability, member, attached⟩
    obtain ⟨_, found, bound⟩ := Option.bind_eq_some_iff.mp attached
    have none := allowed capability member
    rw [found] at none
    exact violationsOf_eq_nil.mp (append_eq_nil_iff.mp none).2 allowlist bound host
      mem_cons_self
  · intro permitted capability member
    cases found : policies capability with
    | none => rfl
    | some =>
      refine append_eq_nil_iff.mpr ⟨violationsOf_eq_nil.mpr (by simp), ?_⟩
      refine violationsOf_eq_nil.mpr fun allowlist bound value named => ?_
      cases mem_singleton.mp named
      exact permitted allowlist ⟨capability, member, by rw [found]; exact bound⟩

variable {decision : EgressDecision}

theorem payloadDomains_toPayload : payloadDomains decision.toPayload = decision.domains.filter (· ≠ "") := by
  have items : (Json.get decision.toPayload "domains").orElse (.arr []) =
      .arr (decision.domains.map .str) := by
    cases listed : decision.domains with
    | nil => simp [toPayload, listed, Json.get, Json.orElse, Dict.Entries.find?]
    | cons =>
      simp [toPayload, listed, Json.get, Json.orElse, Json.truthy, Dict.Entries.find?]
  rw [payloadDomains, items]
  simp only [filter_map, map_map, Function.comp_def, Json.truthy, Json.text, map_id']
  congr 1
  funext entry
  by_cases blank : entry = "" <;> simp [blank]

theorem fromPayload_toPayload :
    fromPayload hostCase decision.toPayload =
      some ⟨decision.mode, normalizeDomains hostCase decision.domains⟩ := by
  have again : normalizeDomains hostCase (decision.domains.filter (· ≠ "")) =
      normalizeDomains hostCase decision.domains := by
    simp [normalizeDomains]
  have mode : networkAxis.named? (.str ((decision.toPayload.get "mode").orElse (.str "open")).text) =
      some decision.mode := by
    cases named : decision.mode <;>
      simp [toPayload, named, Json.get, Json.orElse, Json.truthy,
        Dict.Entries.find?, networkAxis, Json.text, Axis.named?]
  have dictionary : decision.toPayload.isDict = true := rfl
  simp only [fromPayload, dictionary, if_true, mode, Option.map_some,
    payloadDomains_toPayload, again]

def EgressDecision.Lets (hostCase : HostCase) (decision : EgressDecision) (host : String) : Prop :=
  decision.mode = .openAccess ∨ decision.mode = .scoped ∧
    ∃ entry ∈ decision.domains, entry ≠ "" ∧ domainMatches hostCase host entry = true

/-- An allowlist that keeps the decision's entries admits what the decision
lets through. -/
theorem resolves_allowlist (named : host ≠ "")
    (kept : (∃ entry ∈ allowlist, domainMatches hostCase host entry = true) ↔
      ∃ entry ∈ decision.domains, entry ≠ "" ∧ domainMatches hostCase host entry = true) :
    resolves hostCase (decision.allowlist allowlist) host = true ↔ decision.Lets hostCase host := by
  have allowed : domainAllowed hostCase (hostCase.lower host) allowlist = true ↔
      ∃ entry ∈ decision.domains, entry ≠ "" ∧ domainMatches hostCase host entry = true := by
    simp [domainAllowed_iff, kept]
  cases mode : decision.mode with
  | openAccess => simp [EgressDecision.allowlist, enforces, Lets, mode, resolves]
  | none =>
    simp [EgressDecision.allowlist, enforces, Lets, mode, resolves,
      named, domainAllowed]
  | «scoped» =>
    by_cases empty : decision.domains = []
    · simp [EgressDecision.allowlist, enforces, Lets, mode, resolves,
        named, domainAllowed, empty]
    · simp [EgressDecision.allowlist, enforces, Lets, mode, resolves,
        named, empty, allowed]

theorem normalized_ne (member : domain ∈ normalizeDomains hostCase domains) : domain ≠ "" := by
  obtain ⟨entry, _, named, rfl⟩ := mem_normalizeDomains.mp member
  exact hostCase.lower_ne entry named

theorem named_iff (named : ∀ entry ∈ allowlist, entry ≠ "") :
    (∃ entry ∈ allowlist, domainMatches hostCase host entry = true) ↔
      ∃ entry ∈ allowlist, entry ≠ "" ∧ domainMatches hostCase host entry = true := by
  constructor
  · rintro ⟨entry, member, matching⟩
    exact ⟨entry, member, named entry member, matching⟩
  · rintro ⟨entry, member, _, matching⟩
    exact ⟨entry, member, matching⟩

theorem normalized_named_iff :
    (∃ entry ∈ normalizeDomains hostCase domains, entry ≠ "" ∧ domainMatches hostCase host entry = true) ↔
      ∃ entry ∈ domains, entry ≠ "" ∧ domainMatches hostCase host entry = true :=
  (named_iff fun _ => normalized_ne).symm.trans normalized_allows_iff

theorem resolved_lets :
    (resolveEgressDecision hostCase mode domains).Lets hostCase host ↔
      mode = .openAccess ∧ (∀ entry ∈ domains, entry = "") ∨
      mode ≠ .none ∧ ∃ entry ∈ domains, entry ≠ "" ∧ domainMatches hostCase host entry = true := by
  by_cases blank : normalizeDomains hostCase domains = []
  · have none := normalizeDomains_eq_nil.mp blank
    have unmatched : ¬∃ entry ∈ domains, entry ≠ "" ∧ domainMatches hostCase host entry = true := by
      rintro ⟨entry, member, named, _⟩
      exact named (none entry member)
    cases mode <;> simp [resolveEgressDecision, blank, Lets, unmatched]
    exact none
  · have some : ¬∀ entry ∈ domains, entry = "" := fun all => blank (normalizeDomains_eq_nil.mpr all)
    cases mode <;> simp [resolveEgressDecision, blank, Lets, some, normalized_named_iff]

/-- In the process and in the worker the guard lets through what the decision
lets through. -/
theorem provider_resolves (named : host ≠ "") (resolved : ∀ entry ∈ decision.domains, entry ≠ "") :
    resolves hostCase (provider.allowlist hostCase decision) host = true ↔
      decision.Lets hostCase host := by
  cases provider with
  | inProcess =>
    refine resolves_allowlist named (Iff.trans ?_ (named_iff resolved))
    simp
  | worker =>
    simp only [Provider.allowlist, processAllowlist, fromPayload_toPayload]
    refine (resolves_allowlist named (named_iff fun _ => normalized_ne)).trans ?_
    simp [Lets, normalized_named_iff]

def egressDecision (hostCase : HostCase) (tokened : Bool) (policies : CapabilityPolicies)
    (capabilities : List String) (declared : Option Network) : EgressDecision :=
  resolveEgressDecision hostCase (toolNetworkMode declared)
    (collectEgressDomains tokened policies capabilities)

/-- Every host that some collected entry covers is permitted by every domain
list that is attached to the capabilities. -/
def PoliciesAgree (hostCase : HostCase) (tokened : Bool) (policies : CapabilityPolicies)
    (capabilities : List String) : Prop :=
  ∀ entry ∈ collectEgressDomains tokened policies capabilities, entry ≠ "" →
    ∀ host, host ≠ "" → domainMatches hostCase host entry = true →
      ∀ allowlist ∈ attachedDomains policies capabilities, domainAllowed hostCase host allowlist = true

theorem egressDecision_named
    (member : domain ∈ (egressDecision hostCase tokened policies capabilities declared).domains) :
    domain ≠ "" := by
  simp only [egressDecision, resolveEgressDecision] at member
  split at member
  · exact absurd member not_mem_nil
  · split at member
    · exact normalized_ne member
    · split at member <;> exact absurd member not_mem_nil

theorem egress_lets (named : host ≠ "") :
    resolves hostCase (provider.allowlist hostCase
        (egressDecision hostCase tokened policies capabilities declared)) host = true ↔
      toolNetworkMode declared = .openAccess ∧
          (∀ entry ∈ collectEgressDomains tokened policies capabilities, entry = "") ∨
        toolNetworkMode declared ≠ .none ∧
          ∃ entry ∈ collectEgressDomains tokened policies capabilities,
            entry ≠ "" ∧ domainMatches hostCase host entry = true :=
  (provider_resolves named fun _ => egressDecision_named).trans resolved_lets

/-- The guard is as strict as the domain policies exactly if the tool has no
network, or the policies agree and an open network has some domain to narrow it
wherever a domain policy is attached. -/
theorem egress_as_strict_iff :
    (∀ host, host ≠ "" → resolves hostCase (provider.allowlist hostCase
        (egressDecision hostCase tokened policies capabilities declared)) host = true →
      enforceCapabilityPolicy hostCase policies capabilities [] [host] = []) ↔
    toolNetworkMode declared = .none ∨
      PoliciesAgree hostCase tokened policies capabilities ∧
      (toolNetworkMode declared = .openAccess → attachedDomains policies capabilities = [] ∨
          ∃ entry ∈ collectEgressDomains tokened policies capabilities, entry ≠ "") := by
  constructor
  · intro strict
    by_cases network : toolNetworkMode declared = .none
    · exact Or.inl network
    · refine Or.inr ⟨?_, ?_⟩
      · intro entry member blank host named matching
        have passed := (@egress_lets hostCase policies capabilities host tokened provider
          declared named).mpr (Or.inr ⟨network, entry, member, blank, matching⟩)
        exact enforceCapabilityPolicy_host.mp (strict host named passed)
      · intro unbounded
        by_contra neither
        rw [not_or] at neither
        obtain ⟨allowlist, _, attached⟩ := exists_cons_of_ne_nil neither.1
        have blank : ∀ entry ∈ collectEgressDomains tokened policies capabilities, entry = "" := by
          intro entry member
          by_contra named
          exact neither.2 ⟨entry, member, named⟩
        obtain ⟨host, named, denied⟩ := @exists_denied_host hostCase allowlist
        have permitted := enforceCapabilityPolicy_host.mp (strict host named
          ((@egress_lets hostCase policies capabilities host tokened provider declared named).mpr
            (Or.inl ⟨unbounded, blank⟩))) allowlist (by rw [attached]; exact mem_cons_self)
        rw [denied] at permitted
        cases permitted
  · intro condition host named passed
    refine enforceCapabilityPolicy_host.mpr ?_
    rcases egress_lets named |>.mp passed with ⟨unbounded, blank⟩ | ⟨network, entry, member, some, matching⟩
    · rcases condition with network | ⟨_, narrowed⟩
      · rw [network] at unbounded
        cases unbounded
      · rcases narrowed unbounded with none | ⟨entry, member, some⟩
        · simp [none]
        · exact absurd (blank entry member) some
    · rcases condition with none | ⟨agree, _⟩
      · exact absurd none network
      · exact agree entry member some host named matching

def boundedTo (domains : List String) : CapabilityPolicy := ⟨none, some domains, none⟩

def servicePolicies : CapabilityPolicies := fun capability =>
  if capability = "crm" then some (boundedTo ["crm.example"])
  else if capability = "mail" then some (boundedTo ["mail.example"])
  else if capability = "offline" then some (boundedTo [])
  else none

theorem egress_strict_for_one_policy :
    enforceCapabilityPolicy HostCase.ascii servicePolicies ["crm"] [] ["api.crm.example"] = [] := by
  refine (@egress_as_strict_iff HostCase.ascii servicePolicies ["crm"] true .worker none).mpr
    (Or.inr ⟨?_, fun _ => Or.inr ⟨"crm.example", by decide, by decide⟩⟩) "api.crm.example" (by decide)
    (by decide)
  intro entry member _ host _ matching allowlist attached
  have only : entry = "crm.example" := by simpa [collectEgressDomains, attachedDomains,
    servicePolicies, boundedTo] using member
  have bound : allowlist = ["crm.example"] := by simpa [attachedDomains, servicePolicies, boundedTo] using attached
  simpa [domainAllowed, bound, only] using matching

/-- With a policy for each of two capabilities the guard lets the tool resolve
the hosts of both, though each policy forbids the other's; and a policy that
permits no host leaves the guard open to all. -/
theorem egress_wider_than_policies :
    resolves HostCase.ascii (Provider.inProcess.allowlist HostCase.ascii
        (egressDecision HostCase.ascii true servicePolicies ["crm", "mail"] none)) "crm.example" = true ∧
      enforceCapabilityPolicy HostCase.ascii servicePolicies ["crm", "mail"] [] ["crm.example"] =
        [⟨"mail", .domain, "crm.example"⟩] ∧
      resolves HostCase.ascii (Provider.inProcess.allowlist HostCase.ascii
        (egressDecision HostCase.ascii true servicePolicies ["offline"] none)) "crm.example" = true ∧
      enforceCapabilityPolicy HostCase.ascii servicePolicies ["offline"] [] ["crm.example"] =
        [⟨"offline", .domain, "crm.example"⟩] := by
  refine ⟨?_, ?_, ?_, ?_⟩ <;> decide

end AindyRuntime.Capability
