import AindyRuntime.Lib.StepSystem
import AindyRuntime.Memory.Nodes

/-! # The memory of a delegated run

`execute_run` binds the context variable of the owner around the call that
starts a delegated run.
-/

namespace AindyRuntime.Memory

open List Option

variable {Uuid : Type} {uuids : UuidText Uuid}

structure DelegationToken (Uuid : Type) where
  parentRunId : Option Uuid
  expired : Bool
deriving DecidableEq

/-- `refresh_token` copies the keys it names, and `parent_run_id` is none of them. -/
def refreshToken (_token : DelegationToken Uuid) : DelegationToken Uuid := ⟨none, false⟩

inductive ChildStatus where
  | approved
  | executing
  | waiting
  | finished
deriving DecidableEq, Repr

/-- Where a call on behalf of the run is made: by the nodes of the flow in the
server, or by a tool or the script in a worker process. -/
inductive Place where
  | server
  | worker
deriving DecidableEq, Repr

/-- The call that carries the run on: `first` for the one of `execute_run`.  The
context is that of its thread. -/
structure Call where
  first : Bool
  context : Option String
deriving DecidableEq

def Call.contextAt (call : Call) : Place → Option String
  | .server => call.context
  | .worker => none

structure Child (uuids : UuidText Uuid) where
  runId : Uuid
  traceId : Option String
  user : UserId uuids

structure OwnRead (Uuid : Type) where
  (saved returned : List (MemoryNode Uuid))

structure Life (Uuid : Type) where
  status : ChildStatus
  token : DelegationToken Uuid
  call : Option Call
  (own rest : List (MemoryNode Uuid))
  reads : List (OwnRead Uuid)

inductive Occurrence (Uuid : Type) where
  | execute (ambient : Option String)
  | park
  | resume (ambient : Option String)
  | crash
  | redrive (ambient : Option String)
  | finish
  | expire
  | save (place : Place) (request : SaveRequest) (id : Uuid)
  | read (place : Place) (sharedFallback : Bool)
  | others (node : MemoryNode Uuid)

/-- The save succeeds, neither opts out nor publishes, and leaves the owner to
the context. -/
def SaveRequest.ownWrite (request : SaveRequest) : Bool :=
  (checkNodeType request.nodeType).isOk && decide (request.privateToRun ≠ some false
    ∧ request.visibility ≠ "shared" ∧ request.visibility ≠ "global" ∧ request.ownerRunId = none)

def Life.nodes (life : Life Uuid) : List (MemoryNode Uuid) := life.own ++ life.rest

def Life.carryOn (life : Life Uuid) (ambient : Option String) : Life Uuid :=
  { life with
    status := .executing
    token := if life.token.expired then refreshToken life.token else life.token
    call := some ⟨false, ambient⟩ }

section

variable [DecidableEq Uuid] (child : Child uuids)

def Life.visible (life : Life Uuid) (context : Option String) (sharedFallback : Bool) : List (MemoryNode Uuid) :=
  life.nodes.filter (inOwnerScope uuids ⟨true, context⟩ (some child.user.id) sharedFallback none)

def Child.save (context : Option String) (request : SaveRequest) (id : Uuid) (life : Life Uuid) : Life Uuid :=
  match checkNodeType request.nodeType with
  | .error _ => life
  | .ok nodeType =>
    let node := newNode uuids ⟨true, context⟩ child.traceId
      { request with userId := some child.user.text } nodeType id
    if request.ownWrite then { life with own := life.own ++ [node] }
    else { life with rest := life.rest ++ [node] }

def delegatedRun : StepSystem (Life Uuid) (Occurrence Uuid) where
  step life
    | .execute ambient =>
      if life.status = .approved ∧ life.call = none then
        some { life with
          status := .executing
          call := some ⟨true, if life.token.parentRunId.isSome then some (uuids.text child.runId)
            else ambient⟩ }
      else none
    | .park => life.call.map fun _ => { life with status := .waiting, call := none }
    | .resume ambient => if life.status = .waiting ∧ life.call = none then some (life.carryOn ambient) else none
    | .crash => life.call.map fun _ => { life with call := none }
    | .redrive ambient => if life.status = .executing ∧ life.call = none then some (life.carryOn ambient) else none
    | .finish => life.call.map fun _ => { life with status := .finished, call := none }
    | .expire => some { life with token := { life.token with expired := true } }
    | .save place request id => life.call.map fun call => child.save (call.contextAt place) request id life
    | .read place sharedFallback =>
      life.call.map fun call =>
        { life with
          reads := ⟨life.own, life.visible child (call.contextAt place) sharedFallback⟩ :: life.reads }
    | .others node => some { life with rest := life.rest ++ [node] }

def Life.dispatched (parentRunId : Uuid) (rest : List (MemoryNode Uuid)) : Life Uuid :=
  ⟨.approved, ⟨some parentRunId, false⟩, none, [], rest, []⟩

def Private (life : Life Uuid) : Prop := ∀ node ∈ life.own, node.ownerRunId = some child.runId

end

def Complete (life : Life Uuid) : Prop := ∀ read ∈ life.reads, ∀ node ∈ read.saved, node ∈ read.returned

def Life.inFirstCall (life : Life Uuid) : Bool := life.call.any Call.first

/-- The run saves for itself, and reads what it has saved, in the server and in
the call of `execute_run`. -/
def ByFirstCall (life : Life Uuid) : Occurrence Uuid → Prop
  | .save place request _ => request.ownWrite = true → place = .server ∧ life.inFirstCall = true
  | .read place _ => life.own = [] ∨ place = .server ∧ life.inFirstCall = true
  | _ => True

instance (life : Life Uuid) : ∀ occurrence, Decidable (ByFirstCall life occurrence)
  | .save place request _ =>
    inferInstanceAs (Decidable (request.ownWrite = true → place = .server ∧ life.inFirstCall = true))
  | .read place _ => inferInstanceAs (Decidable (life.own = [] ∨ place = .server ∧ life.inFirstCall = true))
  | .execute _ | .park | .resume _ | .crash | .redrive _ | .finish | .expire | .others _ =>
    inferInstanceAs (Decidable True)

/-- The callbacks are not called in a context that is bound to the run already. -/
def Occurrence.unbound (child : Child uuids) : Occurrence Uuid → Prop
  | .resume ambient | .redrive ambient => coerceUuid uuids ambient ≠ some child.runId
  | _ => True

structure Placed (child : Child uuids) (life : Life Uuid) : Prop where
  delegated : life.status = .approved → life.token.parentRunId.isSome = true
  bound : ∀ call, life.call = some call →
    (coerceUuid uuids call.context = some child.runId ↔ call.first = true)
  owned : ∀ node ∈ life.own, node.userId = some child.user.id

variable {child : Child uuids} {life next : Life Uuid}

theorem Placed.contextAt (placed : Placed child life) (called : life.call = some call) (place : Place) :
    coerceUuid uuids (call.contextAt place) = some child.runId ↔
      place = .server ∧ life.inFirstCall = true := by
  cases place with
  | server =>
    rw [Call.contextAt, placed.bound call called, Life.inFirstCall, called]
    simp
  | worker => simp [Call.contextAt, coerceUuid]

theorem Child.save_cases (child : Child uuids) (context : Option String) (request : SaveRequest)
    (id : Uuid) (life : Life Uuid) :
    (request.ownWrite = false ∧ ∃ rest, child.save context request id life = { life with rest }) ∨
      (request.ownWrite = true ∧ ∃ node : MemoryNode Uuid, node.userId = some child.user.id ∧
        node.ownerRunId = coerceUuid uuids context ∧
        child.save context request id life = { life with own := life.own ++ [node] }) := by
  unfold Child.save
  cases checked : checkNodeType request.nodeType with
  | error =>
    have failed : request.ownWrite = false := by simp [SaveRequest.ownWrite, checked, Except.toBool]
    exact .inl ⟨failed, life.rest, rfl⟩
  | ok nodeType =>
    cases own : request.ownWrite with
    | false => exact .inl ⟨rfl, _, rfl⟩
    | true =>
      refine .inr ⟨rfl, _, child.user.parsed, ?_, rfl⟩
      obtain ⟨-, optedIn, unshared, unpublished, implicit⟩ :
          (checkNodeType request.nodeType).isOk = true ∧ request.privateToRun ≠ some false ∧
            request.visibility ≠ "shared" ∧ request.visibility ≠ "global" ∧
            request.ownerRunId = none := by
        simpa [SaveRequest.ownWrite] using own
      simp [newNode, resolveOwnerRunId, optedIn, unshared, unpublished, implicit]

theorem Placed.dispatched (child : Child uuids) (parentRunId : Uuid) (rest : List (MemoryNode Uuid)) :
    Placed child (.dispatched parentRunId rest) := by
  refine ⟨fun _ => rfl, ?_, ?_⟩
  · intro call called
    cases called
  · intro node member
    cases member

theorem Placed.carryOn (placed : Placed child life)
    (unbound : coerceUuid uuids ambient ≠ some child.runId) : Placed child (life.carryOn ambient) := by
  refine ⟨fun approved => by simp [Life.carryOn] at approved, ?_, placed.owned⟩
  intro call called
  cases called
  simpa using unbound

/-- A run that no call carries on keeps what is said of its status and token. -/
theorem Placed.ended (placed : Placed child life) {status : ChildStatus}
    (begun : status = .approved → life.status = .approved) : Placed child { life with status, call := none } := by
  refine ⟨fun approved => placed.delegated (begun approved), ?_, placed.owned⟩
  intro call called
  cases called

theorem Placed.save (placed : Placed child life)
    {id : Uuid} : Placed child (child.save context request id life) := by
  obtain ⟨-, _, saved⟩ | ⟨-, _, user, -, saved⟩ := child.save_cases context request id life
  · rw [saved]
    exact ⟨placed.delegated, placed.bound, placed.owned⟩
  · rw [saved]
    refine ⟨placed.delegated, placed.bound, ?_⟩
    intro other member
    rcases mem_append.mp member with member | member
    · exact placed.owned other member
    · rw [mem_singleton.mp member]
      exact user

variable [DecidableEq Uuid]

theorem step_placed (unbound : occurrence.unbound child) (placed : Placed child life)
    (stepped : (delegatedRun child).step life occurrence = some next) : Placed child next := by
  cases occurrence with
  | execute =>
    simp only [delegatedRun, ite_none_right_eq_some, Option.some.injEq] at stepped
    obtain ⟨⟨approved, -⟩, rfl⟩ := stepped
    refine ⟨fun still => by simp at still, ?_, placed.owned⟩
    intro call called
    cases called
    simp [placed.delegated approved, coerceUuid, uuids.parse?_text]
  | park | finish =>
    obtain ⟨_, -, rfl⟩ := map_eq_some_iff.mp stepped
    exact placed.ended fun approved => by cases approved
  | resume ambient | redrive ambient =>
    simp only [delegatedRun, ite_none_right_eq_some, Option.some.injEq] at stepped
    obtain ⟨-, rfl⟩ := stepped
    exact placed.carryOn unbound
  | crash =>
    obtain ⟨_, -, rfl⟩ := map_eq_some_iff.mp stepped
    exact placed.ended id
  | expire | others node =>
    cases stepped
    exact ⟨placed.delegated, placed.bound, placed.owned⟩
  | save =>
    obtain ⟨_, -, rfl⟩ := map_eq_some_iff.mp stepped
    exact placed.save
  | read =>
    obtain ⟨_, -, rfl⟩ := map_eq_some_iff.mp stepped
    exact ⟨placed.delegated, placed.bound, placed.owned⟩

/-- A private node of the run is in scope where the context names the run. -/
theorem inOwnerScope_own (user : node.userId = some child.user.id)
    (owner : node.ownerRunId = some child.runId) (context : Option String) (sharedFallback : Bool) :
    inOwnerScope uuids ⟨true, context⟩ (some child.user.id) sharedFallback none node = true ↔
      coerceUuid uuids context = some child.runId := by
  simp only [inOwnerScope, inTenantScope, inRunScope, user, owner, none_or]
  cases coerceUuid uuids context with
  | none => simp
  | some => simp [eq_comm]

theorem Private.visible_iff (own : Private child life) (placed : Placed child life)
    (called : life.call = some call) (place : Place) (sharedFallback : Bool) :
    (∀ node ∈ life.own, node ∈ life.visible child (call.contextAt place) sharedFallback) ↔
      life.own = [] ∨ place = .server ∧ life.inFirstCall = true := by
  rw [← placed.contextAt called place]
  have visible : ∀ node ∈ life.own,
      (node ∈ life.visible child (call.contextAt place) sharedFallback ↔
        coerceUuid uuids (call.contextAt place) = some child.runId) := by
    intro node member
    have kept : node ∈ life.nodes := mem_append_left _ member
    rw [Life.visible, mem_filter, and_iff_right kept]
    exact inOwnerScope_own (placed.owned node member) (own node member) _ _
  constructor
  · intro returned
    cases saved : life.own with
    | nil => exact .inl rfl
    | cons node =>
      have member : node ∈ life.own := by rw [saved]; exact mem_cons_self
      exact .inr ((visible node member).mp (returned node member))
  · rintro (nothing | bound) node member
    · rw [nothing] at member
      cases member
    · exact (visible node member).mpr bound

/-- What the run has kept to itself and seen again, after one more step. -/
theorem step_private_iff (placed : Placed child life)
    (stepped : (delegatedRun child).step life occurrence = some next) :
    Private child next ∧ Complete next ↔
      (Private child life ∧ Complete life) ∧ ByFirstCall life occurrence := by
  cases occurrence with
  | save place request id =>
    obtain ⟨call, called, rfl⟩ := map_eq_some_iff.mp stepped
    obtain ⟨shared, _, saved⟩ | ⟨own, node, -, owner, saved⟩ :=
      child.save_cases (call.contextAt place) request id life
    · rw [saved]
      simp [ByFirstCall, shared, Private, Complete]
    · rw [saved]
      have stamped : node.ownerRunId = some child.runId ↔
          place = .server ∧ life.inFirstCall = true := by
        rw [owner]
        exact placed.contextAt called place
      simp only [ByFirstCall, own, true_imp_iff, ← stamped, Private, Complete, mem_append, mem_singleton]
      constructor
      · rintro ⟨all, complete⟩
        exact ⟨⟨fun other member => all other (.inl member), complete⟩, all node (.inr rfl)⟩
      · rintro ⟨⟨all, complete⟩, last⟩
        refine ⟨?_, complete⟩
        rintro other (member | rfl)
        · exact all other member
        · exact last
  | read place sharedFallback =>
    obtain ⟨_, called, rfl⟩ := map_eq_some_iff.mp stepped
    simp only [Complete, forall_mem_cons]
    constructor
    · rintro ⟨own, returned, complete⟩
      have kept : Private child life := own
      exact ⟨⟨kept, complete⟩, (kept.visible_iff placed called place sharedFallback).mp returned⟩
    · rintro ⟨⟨own, complete⟩, bound⟩
      exact ⟨own, (own.visible_iff placed called place sharedFallback).mpr bound, complete⟩
  | execute ambient | resume ambient | redrive ambient =>
    simp only [delegatedRun, ite_none_right_eq_some, Option.some.injEq] at stepped
    obtain ⟨-, rfl⟩ := stepped
    exact (and_iff_left trivial).symm
  | park | crash | finish =>
    obtain ⟨_, -, rfl⟩ := map_eq_some_iff.mp stepped
    exact (and_iff_left trivial).symm
  | expire | others node =>
    cases stepped
    exact (and_iff_left trivial).symm

/-- A node that carries the run's id is out of the scope of every other read. -/
theorem inOwnerScope_other (owner : node.ownerRunId = some child.runId)
    (elsewhere : coerceUuid uuids (currentRunId.or context) ≠ some child.runId)
    (ownerUserId : Option Uuid) (sharedFallback : Bool) :
    inOwnerScope uuids ⟨true, context⟩ ownerUserId sharedFallback currentRunId node = false := by
  have hidden : inRunScope uuids ⟨true, context⟩ currentRunId node = false := by
    simp only [inRunScope, owner]
    cases reader : coerceUuid uuids (currentRunId.or context) with
    | none => simp
    | some =>
      rw [reader] at elsewhere
      simpa [eq_comm] using elsewhere
  rw [inOwnerScope, hidden, Bool.and_false]

/-- A delegated run keeps its memory to itself, and sees it again, exactly when
it saves and reads only in the server and in the call of `execute_run` that has
started it. -/
theorem delegated_memory_private_iff {history : List (Occurrence Uuid)} {parentRunId : Uuid}
    {rest : List (MemoryNode Uuid)} (unbound : ∀ occurrence ∈ history, occurrence.unbound child)
    (ran : (delegatedRun child).run (.dispatched parentRunId rest) history = some life) :
    (Private child life ∧ Complete life ↔
        (delegatedRun child).Meets ByFirstCall (.dispatched parentRunId rest) history) ∧
      (Private child life → ∀ node ∈ life.own, ∀ context currentRunId ownerUserId sharedFallback,
        coerceUuid uuids (currentRunId.or context) ≠ some child.runId →
          inOwnerScope uuids ⟨true, context⟩ ownerUserId sharedFallback currentRunId node = false) := by
  constructor
  · rw [StepSystem.invariant_iff_within step_placed step_private_iff unbound (.dispatched child parentRunId rest) ran]
    apply and_iff_right
    constructor
    · intro node member
      cases member
    · intro read member
      cases member
  · intro own node member context currentRunId ownerUserId sharedFallback elsewhere
    exact inOwnerScope_other (own node member) elsewhere ownerUserId sharedFallback

def delegate : Child .plain := ⟨"child", none, "user", "user", rfl⟩

def note (content : String) : SaveRequest := { content, nodeType := some "insight" }

def unbrokenHistory : List (Occurrence String) :=
  [.execute none, .save .server (note "plan") "a", .read .server true,
    .others (newNode .plain ⟨true, some "sibling"⟩ none (note "theirs") "insight" "b"),
    .save .server { note "summary" with visibility := "shared" } "c", .read .server false, .finish]

theorem delegated_memory_private_unbroken :
    ((delegatedRun delegate).run (.dispatched "parent" []) unbrokenHistory).isSome = true ∧
      ∀ life, (delegatedRun delegate).run (.dispatched "parent" []) unbrokenHistory = some life →
        Private delegate life ∧ Complete life := by
  refine ⟨rfl, ?_⟩
  intro life ran
  have unbound : ∀ occurrence ∈ unbrokenHistory, occurrence.unbound delegate := by
    simp [unbrokenHistory, Occurrence.unbound]
  exact (delegated_memory_private_iff unbound ran).1.mpr (by decide)

def resumedHistory : List (Occurrence String) :=
  [.execute none, .save .server (note "plan") "a", .park, .resume none,
    .save .server (note "draft") "b", .read .server true]

/-- What a resumed run saves is everybody's, and what it had saved before is out
of its reach; what one of its tools saves in a worker is everybody's at once. -/
theorem resumed_memory_shared :
    (∃ life, (delegatedRun delegate).run (.dispatched "parent" []) resumedHistory = some life ∧
      life.own.map (·.ownerRunId) = [some "child", none] ∧
      (life.nodes.filter (inOwnerScope .plain ⟨true, none⟩ (some "user") true none)).map (·.content) = ["draft"] ∧
      life.reads.map (fun read => (read.saved.map (·.content), read.returned.map (·.content)))
        = [(["plan", "draft"], ["draft"])]) ∧
    ∃ life, (delegatedRun delegate).run (.dispatched "parent" [])
        [.execute none, .save .worker (note "plan") "a"] = some life ∧
      life.own.map (·.ownerRunId) = [none] := by
  refine ⟨⟨_, rfl, ?_, ?_, ?_⟩, ⟨_, rfl, ?_⟩⟩
  all_goals rfl

end AindyRuntime.Memory
