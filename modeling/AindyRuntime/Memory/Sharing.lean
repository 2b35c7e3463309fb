import AindyRuntime.Lib.StepSystem
import AindyRuntime.Memory.Tenants

/-! # Sharing a memory

`share_memory` and `promote_to_global` write the visibility of a row that `save`
has stamped with its owning run.
-/

namespace AindyRuntime.Memory

open List StepSystem

variable {Uuid Weight : Type}

theorem newNode_unowned {uuids : UuidText Uuid} {id : Uuid}
    (visible : (newNode uuids scope traceId request nodeType id).visibility ≠ .privateOnly) :
    (newNode uuids scope traceId request nodeType id).ownerRunId = none := by
  have published : request.visibility = "shared" ∨ request.visibility = "global" := by
    by_contra other
    rw [not_or] at other
    exact visible (by simp [newNode, Visibility.ofText, other])
  simp [newNode, resolveOwnerRunId, published]

variable [DecidableEq Uuid]

def MemoryNode.publish (node : MemoryNode Uuid) (visibility : Visibility) : MemoryNode Uuid :=
  { node with isShared := true, visibility }

def Database.publish (db : Database Uuid Weight) (id : Uuid) (visibility : Visibility) : Database Uuid Weight :=
  have ids : (db.nodes.map fun node => if node.id = id then node.publish visibility else node).map
      (fun node => node.id) = db.nodes.map fun node => node.id := by
    rw [map_map]
    refine map_congr_left fun node _ => ?_
    simp only [Function.comp]
    split <;> rfl
  { nodes := db.nodes.map fun node => if node.id = id then node.publish visibility else node
    links := db.links
    ids_nodup := ids ▸ db.ids_nodup
    links_nodup := db.links_nodup
    ends_exist := ids ▸ db.ends_exist }

def shareMemory (caller : Caller Uuid) (nodeId : String) (db : Database Uuid Weight) : Database Uuid Weight :=
  match getModelById caller db nodeId with
  | none => db
  | some node => if node.isShared then db else db.publish node.id .shared

def promoteToGlobal (caller : Caller Uuid) (nodeId : String) (db : Database Uuid Weight) : Database Uuid Weight :=
  match getModelById caller db nodeId with
  | none => db
  | some node => db.publish node.id .global

inductive MemoryWrite (Uuid : Type) where
  | save (caller : Caller Uuid) (request : SaveRequest) (id : Uuid)
  | share (caller : Caller Uuid) (nodeId : String)
  | promote (caller : Caller Uuid) (nodeId : String)

def memoryWrites (one : Weight) : StepSystem (Database Uuid Weight) (MemoryWrite Uuid) where
  step db
    | .save caller request id => some (save one caller request id db).2
    | .share caller nodeId => some (shareMemory caller nodeId db)
    | .promote caller nodeId => some (promoteToGlobal caller nodeId db)

def Published (db : Database Uuid Weight) : Prop :=
  ∀ node ∈ db.nodes, node.visibility ≠ .privateOnly → node.ownerRunId = none

/-- The row that a call makes visible is no run's own. -/
def SharesUnowned (db : Database Uuid Weight) : MemoryWrite Uuid → Prop
  | .save _ _ _ => True
  | .share caller nodeId => ∀ node, getModelById caller db nodeId = some node →
      node.isShared = false → node.ownerRunId = none
  | .promote caller nodeId => ∀ node, getModelById caller db nodeId = some node → node.ownerRunId = none

variable {db next : Database Uuid Weight} {node : MemoryNode Uuid} {id : Uuid}

theorem save_nodes : (save one caller request id db).2.nodes = db.nodes ∨
    ∃ nodeType, (save one caller request id db).2.nodes = db.nodes ++
      [newNode caller.uuids caller.scope caller.traceId { request with userId := caller.userId } nodeType id] := by
  unfold save
  split
  · exact .inl rfl
  case h_2 nodeType _ =>
    unfold commitNode
    split
    · exact .inl rfl
    case h_2 inserted added =>
      have nodes := (Database.insertNode_eq added).1
      refine .inr ⟨nodeType, ?_⟩
      split
      · exact nodes
      case h_2 texts _ =>
        cases linked : inserted.insertLinks (childLinks caller.uuids one inserted _ texts) with
        | none => simpa [linked] using nodes
        | some after => simpa [(Database.insertLinks_eq linked).1] using nodes

/-- Sharing a node keeps the others, so that node decides. -/
theorem published_publish (listed : node ∈ db.nodes) (visible : visibility ≠ .privateOnly) :
    Published (db.publish node.id visibility) ↔ Published db ∧ node.ownerRunId = none := by
  have one : ∀ other ∈ db.nodes, other.id = node.id → other = node := by
    intro other member same
    exact inj_on_of_nodup_map db.ids_nodup member listed same
  simp only [Published, Database.publish, forall_mem_map]
  constructor
  · intro published
    have own : node.ownerRunId = none := by simpa [MemoryNode.publish, visible] using published node listed
    refine ⟨fun other member shown => ?_, own⟩
    by_cases same : other.id = node.id
    · rw [one other member same, own]
    · have kept := published other member
      rw [if_neg same] at kept
      exact kept shown
  · intro held other member
    by_cases same : other.id = node.id
    · rw [if_pos same, one other member same]
      exact fun _ => held.2
    · rw [if_neg same]
      exact held.1 other member

theorem step_published_iff (stepped : (memoryWrites one).step db write = some next) :
    Published next ↔ Published db ∧ SharesUnowned db write := by
  cases write with
  | save caller request id =>
    cases stepped
    rw [SharesUnowned, and_true]
    rcases @save_nodes _ _ _ db id one caller request with same | ⟨nodeType, grown⟩
    · simp only [Published, same]
    · simp only [Published, grown, forall_mem_append, forall_mem_singleton, and_iff_left_iff_imp]
      exact fun _ => newNode_unowned
  | share caller nodeId =>
    cases stepped
    simp only [shareMemory, SharesUnowned]
    cases found : getModelById caller db nodeId with
    | none => simp
    | some node =>
      have listed := (getModelById_found found).1
      cases shared : node.isShared with
      | true => simp [shared]
      | false => simpa [shared] using published_publish listed (by simp)
  | promote caller nodeId =>
    cases stepped
    simp only [promoteToGlobal, SharesUnowned]
    cases found : getModelById caller db nodeId with
    | none => simp
    | some node => simpa using published_publish (getModelById_found found).1 (by simp)

def Returned (uuids : UuidText Uuid) (node : MemoryNode Uuid) : Prop :=
  ∀ context, inOwnerScope uuids ⟨true, context⟩ node.userId true none node = true

theorem returned_iff {uuids : UuidText Uuid} (visible : node.visibility ≠ .privateOnly) :
    Returned uuids node ↔ node.ownerRunId = none := by
  have tenant : inTenantScope node.userId true node = true := by
    unfold inTenantScope
    split <;> simp_all
  simp only [Returned, inOwnerScope, tenant]
  constructor
  · intro returned
    simpa [inRunScope, coerceUuid] using returned none
  · intro unowned context
    unfold inRunScope
    split <;> simp [unowned]

/-- Whatever runs save, share and promote, every shared or global node is
returned to its owner everywhere exactly if no node that a run owns was shared. -/
theorem shared_memory_returned_iff {before : Database Uuid Weight} (uuids : UuidText Uuid)
    (published : Published before) (ran : (memoryWrites one).run before writes = some db) :
    (∀ node ∈ db.nodes, node.visibility ≠ .privateOnly → Returned uuids node) ↔
      (memoryWrites one).Meets SharesUnowned before writes := by
  have exact := invariant_iff step_published_iff ran
  rw [and_iff_right published] at exact
  rw [← exact]
  refine forall₂_congr fun node _ => forall_congr' fun visible => returned_iff visible

def emptyMemory : Database String Nat := ⟨[], [], nodup_nil, nodup_nil, fun _ member => absurd member not_mem_nil⟩

def aliceUnder (run : Option String) : Caller String := alice.caller ⟨true, run⟩ none

def savedThenShared (run : Option String) : List (MemoryWrite String) :=
  [.save (aliceUnder run) { content := "note", nodeType := some "insight" } "a", .share (aliceUnder run) "a"]

theorem shared_memory_returned_unowned :
    ∃ db, (memoryWrites 1).run emptyMemory (savedThenShared none) = some db ∧
      ∀ node ∈ db.nodes, node.visibility ≠ .privateOnly → Returned .plain node := by
  refine ⟨_, rfl, (@shared_memory_returned_iff _ _ _ _ _ (savedThenShared none) _ .plain ?_ rfl).mpr ?_⟩
  · intro node member
    cases member
  · refine .cons trivial rfl (.cons ?_ rfl trivial)
    intro node found _
    cases found
    rfl

/-- A run shares what it has saved: the node stays its own, and no read outside
the run returns it. -/
theorem shared_memory_stays_owned :
    ∃ db, (memoryWrites 1).run emptyMemory (savedThenShared (some "run")) = some db ∧
      db.nodes.map (fun node => (node.visibility, node.ownerRunId)) = [(.shared, some "run")] ∧
      db.nodes.filter (inOwnerScope .plain ⟨true, none⟩ (some "alice") true none) = [] :=
  ⟨_, rfl, rfl, rfl⟩

end AindyRuntime.Memory
