import AindyRuntime.Capability.Catalogue
import AindyRuntime.Lib.StepSystem

/-! # Delegated runs

`agents/agent_coordinator.py`: a run hands its plan to another agent.
-/

namespace AindyRuntime.Capability

structure SelectedAgent where
  agentId : String
  normalizedId : Option String
  capabilities : List String

structure DelegatingRun where
  (id userId : String)
  plan : Json
  capabilityToken : Option CapabilityToken

abbrev AgentRegistry := Option (String → Option (List String))

def DelegatingRun.allowedCapabilities (run : DelegatingRun) : List String :=
  (run.capabilityToken.map (·.allowedCapabilities)).getD []

variable (registry : AgentRegistry)

def delegateCapabilities (selected : SelectedAgent) : List String :=
  if selected.capabilities ≠ [] then selected.capabilities
  else
    match registry, selected.normalizedId with
    | some lookup, some agent => (lookup agent).getD []
    | _, _ => []

def delegateCapabilityCeiling (parent : DelegatingRun) (selected : SelectedAgent) : List String :=
  let granted := parent.allowedCapabilities
  let declared := delegateCapabilities registry selected
  if granted = [] then sortedSet declared
  else if declared = [] then sortedSet granted
  else sortedSet (granted.filter fun capability => decide (capability ∈ declared))

structure Delegation where
  selected : SelectedAgent
  childId : String
  trust : Option Trust
  issue : Issue

def delegatedMint (parent : DelegatingRun) (delegation : Delegation) : MintRequest where
  runId := delegation.childId
  userId := parent.userId
  plan := parent.plan
  approvalMode := .manual
  agentType := String.ofList (delegation.selected.agentId.toList.take 64)
  ceiling := some (delegateCapabilityCeiling registry parent delegation.selected)
  parentRunId := some parent.id
  trust := delegation.trust

def dispatchDelegatedRun (catalogue : Catalogue) (registry : AgentRegistry) (parent : DelegatingRun)
    (delegation : Delegation) : DelegatingRun where
  id := delegation.childId
  userId := parent.userId
  plan := parent.plan
  capabilityToken := mintToken catalogue (delegatedMint registry parent delegation) delegation.issue

def delegationChain (catalogue : Catalogue) (registry : AgentRegistry) : StepSystem DelegatingRun Delegation where
  step run delegation := some (dispatchDelegatedRun catalogue registry run delegation)

variable {registry : AgentRegistry} {parent : DelegatingRun}

theorem ceiling_of_granted (granted : parent.allowedCapabilities ≠ []) :
    delegateCapabilityCeiling registry parent selected ⊆ parent.allowedCapabilities := by
  intro capability listed
  simp only [delegateCapabilityCeiling, if_neg granted] at listed
  split at listed
  · exact mem_sortedSet.mp listed
  · exact (List.mem_filter.mp (mem_sortedSet.mp listed)).1

theorem ceiling_of_undeclared (undeclared : delegateCapabilities registry selected = []) :
    delegateCapabilityCeiling registry parent selected ⊆ parent.allowedCapabilities := by
  intro capability listed
  simp only [delegateCapabilityCeiling, undeclared] at listed
  split at listed
  · exact absurd (mem_sortedSet.mp listed) List.not_mem_nil
  · exact mem_sortedSet.mp listed

/-- The ceiling stays under the parent's grant exactly if the parent has one, or
the delegate declares nothing either. -/
theorem ceiling_subset_iff :
    delegateCapabilityCeiling registry parent selected ⊆ parent.allowedCapabilities ↔
      parent.allowedCapabilities ≠ [] ∨ delegateCapabilities registry selected = [] := by
  constructor
  · intro bounded
    by_cases granted : parent.allowedCapabilities = []
    · rw [granted, List.subset_nil, delegateCapabilityCeiling] at bounded
      simp only [granted, if_true, sortedSet_eq_nil] at bounded
      exact Or.inr bounded
    · exact Or.inl granted
  · rintro (granted | undeclared)
    · exact ceiling_of_granted granted
    · exact ceiling_of_undeclared undeclared

theorem child_under_ceiling :
    (dispatchDelegatedRun catalogue registry parent delegation).allowedCapabilities ⊆
      delegateCapabilityCeiling registry parent delegation.selected := by
  simp only [DelegatingRun.allowedCapabilities, dispatchDelegatedRun]
  cases minted : mintToken catalogue (delegatedMint registry parent delegation) delegation.issue with
  | none => simp
  | some => exact mintToken_under_ceiling rfl minted

theorem child_under_parent (bounded : parent.allowedCapabilities ≠ [] ∨
    delegateCapabilities registry delegation.selected = []) :
    (dispatchDelegatedRun catalogue registry parent delegation).allowedCapabilities ⊆
      parent.allowedCapabilities :=
  List.Subset.trans child_under_ceiling (ceiling_subset_iff.mpr bounded)

/-- The ceiling of a delegated child is under the parent's grant exactly if the
parent has a grant or the delegate declares nothing, and then so is the child's
token. -/
theorem delegation_bounded_iff :
    (delegateCapabilityCeiling registry parent delegation.selected ⊆ parent.allowedCapabilities ↔
      parent.allowedCapabilities ≠ [] ∨ delegateCapabilities registry delegation.selected = []) ∧
    (parent.allowedCapabilities ≠ [] ∨ delegateCapabilities registry delegation.selected = [] →
      ∀ catalogue, (dispatchDelegatedRun catalogue registry parent delegation).allowedCapabilities ⊆
        parent.allowedCapabilities) :=
  ⟨ceiling_subset_iff, fun bounded _ => child_under_parent bounded⟩

/-- The run is granted nothing that `root` is not granted. -/
def DelegatingRun.Under (root run : DelegatingRun) : Prop :=
  run.allowedCapabilities ⊆ root.allowedCapabilities

/-- Along a chain in which every run that delegates to a declared agent has a
grant, no run is granted more than the first. -/
theorem delegation_chain_bounded
    (granted : (delegationChain catalogue registry).Meets (fun run delegation =>
      run.allowedCapabilities ≠ [] ∨ delegateCapabilities registry delegation.selected = []) root delegations)
    (reached : (delegationChain catalogue registry).run root delegations = some last) : root.Under last := by
  have self : root.Under root := List.Subset.refl _
  refine StepSystem.invariant ?_ granted self reached
  intro run child delegation bounded under delegated
  cases delegated
  exact List.Subset.trans (child_under_parent bounded) under

def filesCatalogue : Catalogue where
  lower := asciiLower
  definitions _ := true
  toolCapabilities tool := if tool = "files.write" then ["files.write"] else ["mail.read"]
  agentCapabilities _ := []
  tools := [("files.write", "high"), ("mail.read", "low")]
  restrictedTools := []

def someIssue : Issue := ⟨"t1", "2026-01-01T00:00:00", "2026-01-02T00:00:00", id, true⟩

def readerToken : CapabilityToken where
  runId := "r1"
  parentRunId := none
  userId := "u1"
  agentType := "default"
  executionToken := "t0"
  issuedAt := "2026-01-01T00:00:00"
  expiresAt := "2026-01-02T00:00:00"
  grantedTools := ["mail.read"]
  allowedCapabilities := ["mail.read"]
  approvalMode := .manual
  mappingRecorded := true
  tokenHash := ""

def writerPlan : Json := .obj [("steps", .arr [.obj [("tool", .str "files.write")]])]

def toWriter (childId : String) : Delegation :=
  ⟨⟨"a1", some "a1", ["files.write"]⟩, childId, none, someIssue⟩

def readerRun : DelegatingRun := ⟨"r1", "u1", writerPlan, some readerToken⟩

def bareRun : DelegatingRun := ⟨"r1", "u1", writerPlan, none⟩

def editorRun : DelegatingRun :=
  ⟨"r1", "u1", writerPlan, some { readerToken with allowedCapabilities := ["files.write", "mail.read"] }⟩

/-- A run that may write files and read mail delegates to an agent that declares
only the writing, which is what the child is granted. -/
theorem delegation_bounded_of_editor :
    (dispatchDelegatedRun filesCatalogue none editorRun (toWriter "r2")).allowedCapabilities =
        ["files.write"] ∧
      (dispatchDelegatedRun filesCatalogue none editorRun (toWriter "r2")).allowedCapabilities ⊆
        editorRun.allowedCapabilities :=
  ⟨rfl, (@delegation_bounded_iff none editorRun (toWriter "r2")).2 (Or.inl (by decide)) filesCatalogue⟩

/-- A run without a token, or whose token lists nothing, delegates what it was
not granted.  So does a run that may only read mail: its child gets no token, and
the child's child gets one for writing files. -/
theorem delegation_escalates :
    bareRun.allowedCapabilities = [] ∧
      delegateCapabilityCeiling none bareRun (toWriter "r2").selected = ["files.write"] ∧
      (dispatchDelegatedRun filesCatalogue none bareRun (toWriter "r2")).allowedCapabilities =
        ["files.write"] ∧
      (dispatchDelegatedRun filesCatalogue none
        ⟨"r1", "u1", writerPlan, some { readerToken with allowedCapabilities := [] }⟩
        (toWriter "r2")).allowedCapabilities = ["files.write"] ∧
      readerRun.allowedCapabilities = ["mail.read"] ∧
      ((delegationChain filesCatalogue none).run readerRun [toWriter "r2", toWriter "r3"]).map
        (·.allowedCapabilities) = some ["files.write"] :=
  ⟨rfl, rfl, rfl, rfl, rfl, rfl⟩

/-- The editor's child is granted the writing and delegates it once more. -/
theorem delegation_chain_bounded_of_editor :
    ∃ last, (delegationChain filesCatalogue none).run editorRun [toWriter "r2", toWriter "r3"] = some last ∧
      last.allowedCapabilities = ["files.write"] ∧ editorRun.Under last :=
  ⟨_, rfl, rfl, @delegation_chain_bounded none filesCatalogue editorRun [toWriter "r2", toWriter "r3"] _
    (.cons (.inl (by decide)) rfl (.cons (.inl (by decide)) rfl trivial)) rfl⟩

end AindyRuntime.Capability
