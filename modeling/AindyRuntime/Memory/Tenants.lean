import AindyRuntime.Lib.Responder
import AindyRuntime.Memory.Graph

/-! # One tenant's memory and another's

What a user's calls answer is read off the user's own nodes and the links that
touch them, and the links they create stay among the user's nodes, as long as
no write names a node of another user as a child.
-/

namespace AindyRuntime.Memory

open Database List

variable {Uuid Weight : Type} {uuids : UuidText Uuid}

def UserId.caller (user : UserId uuids) (scope : RunScope) (traceId : Option String) : Caller Uuid :=
  ⟨uuids, scope, traceId, some user.text⟩

inductive Operation (Uuid Weight : Type) where
  | write (payload : WritePayload) (id : Uuid)
  | save (request : SaveRequest) (id : Uuid)
  | createLink (sourceId targetId linkType : String) (weight : Weight)
  | getById (nodeId : String)
  | getLinkedNodes (nodeId direction : String) (limit : Nat)
  | traverse (startNodeId : String) (maxDepth : Int) (linkType : String) (minStrength : Weight)

inductive Answer (Uuid Weight : Type) where
  | saved (outcome : Except PyError (NodeDict Uuid))
  | linked (outcome : Except PyError (MemoryLink Uuid Weight))
  | found (node : Option (NodeDict Uuid))
  | nodes (found : List (NodeDict Uuid))
  | traversed (traversal : Traversal Uuid Weight)

variable [DecidableEq Uuid]

def memoryOf [LinearOrder Weight] (one : Weight) (caller : Caller Uuid) :
    Responder (Database Uuid Weight) (Operation Uuid Weight) (Answer Uuid Weight) where
  respond db
    | .write payload id =>
      let outcome := handleMemoryWrite one caller payload id db
      (.saved outcome.1, outcome.2)
    | .save request id =>
      let outcome := save one caller request id db
      (.saved outcome.1, outcome.2)
    | .createLink sourceId targetId linkType weight =>
      let outcome := createLink caller sourceId targetId linkType weight db
      (.linked outcome.1, outcome.2)
    | .getById nodeId => (.found (getById caller db nodeId), db)
    | .getLinkedNodes nodeId direction limit => (.nodes (getLinkedNodes caller db nodeId direction limit), db)
    | .traverse startNodeId maxDepth linkType minStrength =>
      (.traversed (traverse caller db startNodeId maxDepth linkType minStrength), db)

namespace Database

variable (owner : Uuid) (db : Database Uuid Weight)

def ownNodes : List (MemoryNode Uuid) := db.nodes.filter fun node => decide (node.userId = some owner)

def ownIds : List Uuid := (db.ownNodes owner).map fun node => node.id

def ownLinks : List (MemoryLink Uuid Weight) :=
  db.links.filter fun link => decide (link.source ∈ db.ownIds owner ∨ link.target ∈ db.ownIds owner)

def Touches (link : MemoryLink Uuid Weight) : Prop := link.source ∈ db.ownIds owner ∨ link.target ∈ db.ownIds owner

def Among (new : List (MemoryLink Uuid Weight)) : Prop :=
  ∀ link ∈ new, link.source ∈ db.ownIds owner ∧ link.target ∈ db.ownIds owner

variable {owner db} {id : Uuid}

theorem mem_ownNodes : node ∈ db.ownNodes owner ↔ node ∈ db.nodes ∧ node.userId = some owner := by
  simp [ownNodes]

theorem mem_ownIds : id ∈ db.ownIds owner ↔ ∃ node ∈ db.nodes, node.userId = some owner ∧ node.id = id := by
  simp only [ownIds, mem_map, mem_ownNodes]
  constructor
  · rintro ⟨node, ⟨member, own⟩, same⟩
    exact ⟨node, member, own, same⟩
  · rintro ⟨node, member, own, same⟩
    exact ⟨node, ⟨member, own⟩, same⟩

theorem ownIds_subset (own : id ∈ db.ownIds owner) : id ∈ db.ids := by
  obtain ⟨_, member, -, rfl⟩ := mem_ownIds.mp own
  exact mem_map_of_mem member

/-- A query for the user's rows sees the user's nodes only. -/
theorem filter_ownNodes (restricted : ∀ node, p node = true → node.userId = some owner) :
    db.nodes.filter p = (db.ownNodes owner).filter p := by
  rw [ownNodes, filter_filter]
  refine filter_congr fun node _ => ?_
  cases holds : p node with
  | false => rfl
  | true => simp [restricted node holds]

/-- A query for links at the user's nodes sees the user's links only. -/
theorem filter_ownLinks (touching : ∀ link, p link = true → db.Touches owner link) :
    db.links.filter p = (db.ownLinks owner).filter p := by
  rw [ownLinks, filter_filter]
  refine filter_congr fun link _ => ?_
  cases holds : p link with
  | false => rfl
  | true => simpa [Touches] using touching link holds

end Database

/-- The two databases agree on the user's nodes and on the links that leave and
enter them. -/
structure Agree (owner : Uuid) (db other : Database Uuid Weight) : Prop where
  nodes : db.ownNodes owner = other.ownNodes owner
  links : db.ownLinks owner = other.ownLinks owner

def Alike {Value : Type} (owner : Uuid) (call : Database Uuid Weight → Value × Database Uuid Weight)
    (db other : Database Uuid Weight) : Prop :=
  (call db).1 = (call other).1 ∧ Agree owner (call db).2 (call other).2

namespace Agree

variable {owner : Uuid} {db other : Database Uuid Weight}

section

variable (agree : Agree owner db other)
include agree

theorem ids : db.ownIds owner = other.ownIds owner := by
  rw [Database.ownIds, agree.nodes, Database.ownIds]

theorem filter_seen {p p' q : MemoryNode Uuid → Bool} (seen : ∀ node, q node = true → node.userId = some owner)
    (same : ∀ node, node.id ∈ db.ownIds owner → p node = p' node) :
    db.nodes.filter (fun node => p node && q node) = other.nodes.filter (fun node => p' node && q node) := by
  have restricted {keeps : MemoryNode Uuid → Bool} (node : MemoryNode Uuid) (held : (keeps node && q node) = true) :
      node.userId = some owner := seen node (Bool.and_eq_true_iff.mp held).2
  rw [filter_ownNodes restricted, filter_ownNodes restricted, ← agree.nodes]
  refine filter_congr fun node member => ?_
  rw [same node (mem_map_of_mem member)]

theorem filter_links (touching : ∀ link, p link = true → db.Touches owner link) :
    db.links.filter p = other.links.filter p := by
  rw [filter_ownLinks touching, agree.links]
  refine (filter_ownLinks ?_).symm
  simp only [Touches, ← agree.ids]
  exact touching

theorem symm : Agree owner other db := ⟨agree.nodes.symm, agree.links.symm⟩

theorem mem_links (touching : db.Touches owner link) (member : link ∈ db.links) : link ∈ other.links := by
  have own : link ∈ db.ownLinks owner := mem_filter.mpr ⟨member, decide_eq_true touching⟩
  rw [agree.links] at own
  exact (mem_filter.mp own).1

/-- Whether one of the user's nodes is at the end of such a link. -/
theorem mem_ends (isEnd : ∀ link, last link = link.source ∨ last link = link.target)
    {id : Uuid} (own : id ∈ db.ownIds owner) :
    id ∈ (db.links.filter p).map last ↔ id ∈ (other.links.filter p).map last := by
  have touching : ∀ link, last link = id → db.Touches owner link := by
    intro link ends
    rcases isEnd link with source | target
    · rw [Touches, ← source, ends]
      exact .inl own
    · rw [Touches, ← target, ends]
      exact .inr own
  simp only [mem_map, mem_filter]
  constructor
  · rintro ⟨link, ⟨member, holds⟩, ends⟩
    exact ⟨link, ⟨agree.mem_links (touching link ends) member, holds⟩, ends⟩
  · rintro ⟨link, ⟨member, holds⟩, ends⟩
    have touches := touching link ends
    rw [Touches, agree.ids] at touches
    exact ⟨link, ⟨agree.symm.mem_links touches member, holds⟩, ends⟩

end

end Agree

section Reads

variable {owner : Uuid} {caller : Caller Uuid} {db other : Database Uuid Weight}

theorem inOwnerScope_user
    (seen : inOwnerScope uuids scope (some owner) fallback run node = true) : node.userId = some owner := by
  rw [inOwnerScope, Bool.and_eq_true] at seen
  exact of_decide_eq_true seen.1

theorem followed_agree [LinearOrder Weight] (agree : Agree owner db other)
    {id : Uuid} (own : id ∈ db.ownIds owner) :
    followed db linkType minStrength id = followed other linkType minStrength id := by
  have touching : ∀ link : MemoryLink Uuid Weight, decide (link.source = id) = true → db.Touches owner link := by
    intro link leaves
    rw [Touches, of_decide_eq_true leaves]
    exact .inl own
  rw [followed, followed, agree.filter_links touching]

theorem getModelById_found (found : getModelById caller db nodeId = some node) :
    node ∈ db.nodes ∧ caller.uuids.parse? nodeId = some node.id ∧ caller.sees node = true := by
  unfold getModelById at found
  split at found
  · cases found
  case h_2 id parsed =>
    obtain ⟨looked, -⟩ := Option.filter_eq_some_iff.mp found
    have seen := find?_some looked
    simp only [Bool.and_eq_true, decide_eq_true_eq] at seen
    exact ⟨mem_of_find?_eq_some looked, seen.1 ▸ parsed, seen.2⟩

variable (owned : parseUserId caller.uuids caller.userId = some owner)
include owned

theorem sees_user (seen : caller.sees node = true) : node.userId = some owner := by
  simp only [Caller.sees, inOwnerOnlyScope, owned] at seen
  exact inOwnerScope_user seen

theorem getModelById_own (found : getModelById caller db nodeId = some node) : node.id ∈ db.ownIds owner := by
  obtain ⟨listed, -, seen⟩ := getModelById_found found
  exact mem_ownIds.mpr ⟨node, listed, sees_user owned seen, rfl⟩

variable (agree : Agree owner db other)
include agree

theorem getModelById_agree (nodeId : String) :
    getModelById caller db nodeId =
      getModelById caller other nodeId := by
  unfold getModelById
  split
  · rfl
  · rename_i id parsed
    rw [← head?_filter, ← head?_filter, agree.filter_seen (fun node seen => sees_user owned seen) fun _ _ => rfl]

theorem linkedOut_agree (id : Uuid) (limit : Nat) :
    linkedOut caller db id limit =
      linkedOut caller other id limit := by
  simp only [linkedOut, owned]
  congr 1
  refine agree.filter_seen (fun node seen => inOwnerScope_user seen) fun node own => ?_
  simp only [agree.mem_ends (fun _ => .inr rfl) own]

theorem linkedIn_agree (id : Uuid) (limit : Nat) :
    linkedIn caller db id limit =
      linkedIn caller other id limit := by
  simp only [linkedIn]
  congr 1
  refine agree.filter_seen (fun node seen => sees_user owned seen) fun node own => ?_
  simp only [agree.mem_ends (fun _ => .inl rfl) own]

variable [LinearOrder Weight]

/-- The traversal expands the user's nodes only, so that it never follows a link
on which the databases may differ. -/
theorem dfs_agree (linkType : String) (minStrength : Weight)
    (room depth : Nat) (nodeId : String) (path : List (Hop Weight)) (trail : Trail Uuid Weight) :
    dfs caller db linkType minStrength room depth nodeId path trail =
      dfs caller other linkType minStrength room depth nodeId path trail := by
  induction room generalizing depth nodeId path trail with
  | zero => rfl
  | succ room ih =>
    simp only [dfs]
    split
    · rfl
    · rw [← getModelById_agree owned agree nodeId]
      cases found : getModelById caller db nodeId with
      | none => rfl
      | some => simp [followed_agree agree (getModelById_own owned found), ih]

theorem traverse_agree (startNodeId : String) (maxDepth : Int) (linkType : String) (minStrength : Weight) :
    traverse caller db startNodeId maxDepth linkType minStrength =
      traverse caller other startNodeId maxDepth linkType minStrength := by
  simp [traverse, getById, getModelById_agree owned agree, dfs_agree owned agree]

end Reads

section Writes

variable {owner : Uuid} {db after : Database Uuid Weight}

theorem Database.insertNode_eq (inserted : db.insertNode node = some after) :
    after.nodes = db.nodes ++ [node] ∧ after.links = db.links := by
  unfold insertNode at inserted
  split at inserted <;> cases inserted
  exact ⟨rfl, rfl⟩

theorem Database.insertNode_unused (unused : node.id ∉ db.ids) : ∃ after, db.insertNode node = some after :=
  ⟨_, dif_pos unused⟩

theorem Database.insertLinks_eq (inserted : db.insertLinks new = some after) :
    after.nodes = db.nodes ∧ after.links = db.links ++ new := by
  unfold insertLinks at inserted
  split at inserted <;> cases inserted
  exact ⟨rfl, rfl⟩

/-- The constraints ask of links among the user's nodes only that they are new. -/
theorem Database.insertLinks_own_iff (own : db.Among owner new) :
    (∃ after, db.insertLinks new = some after) ↔
      (new.map MemoryLink.key).Nodup ∧ ∀ link ∈ db.links, ∀ added ∈ new, link.key ≠ added.key := by
  have ends : ∀ link ∈ new, link.source ∈ db.ids ∧ link.target ∈ db.ids := by
    intro link member
    exact ⟨ownIds_subset (own link member).1, ownIds_subset (own link member).2⟩
  have split : ((db.links ++ new).map MemoryLink.key).Nodup ↔
      (new.map MemoryLink.key).Nodup ∧ ∀ link ∈ db.links, ∀ added ∈ new, link.key ≠ added.key := by
    rw [map_append, nodup_append, and_iff_right db.links_nodup]
    simp only [mem_map, forall_exists_index, and_imp, forall_apply_eq_imp_iff₂]
  rw [← split]
  unfold insertLinks
  constructor
  · rintro ⟨after, inserted⟩
    split at inserted
    · rename_i allowed
      exact allowed.1
    · cases inserted
  · intro distinct
    exact ⟨_, dif_pos ⟨distinct, ends⟩⟩

section

variable {added : List (MemoryNode Uuid)} (grown : after.nodes = db.nodes ++ added)
include grown

theorem Database.ownNodes_append
    (own : ∀ node ∈ added, node.userId = some owner) : after.ownNodes owner = db.ownNodes owner ++ added := by
  rw [ownNodes, grown, filter_append]
  congr 1
  rw [filter_eq_self]
  intro node member
  exact decide_eq_true (own node member)

theorem Database.ownIds_append (own : ∀ node ∈ added, node.userId = some owner) :
    after.ownIds owner = db.ownIds owner ++ added.map fun node => node.id := by
  rw [Database.ownIds, ownNodes_append grown own, map_append, Database.ownIds]

end

theorem Database.ownIds_congr (same : after.nodes = db.nodes) : after.ownIds owner = db.ownIds owner := by
  rw [Database.ownIds, ownNodes, same, Database.ownIds, ownNodes]

theorem Database.ownLinks_insertNode (unused : node.id ∉ db.ids) (own : node.userId = some owner)
    (inserted : db.insertNode node = some after) : after.ownLinks owner = db.ownLinks owner := by
  obtain ⟨nodes, links⟩ := insertNode_eq inserted
  have ids : after.ownIds owner = db.ownIds owner ++ [node.id] :=
    ownIds_append nodes fun added member => by rw [mem_singleton.mp member, own]
  rw [ownLinks, links, ids]
  refine filter_congr fun link member => ?_
  obtain ⟨source, target⟩ := db.ends_exist link member
  have apart : ∀ id ∈ db.ids, id ≠ node.id := by
    intro id known same
    rw [same] at known
    exact unused known
  simp [apart link.source source, apart link.target target]

theorem Agree.insertNode (agree : Agree owner db other) (own : node.userId = some owner)
    (unused : node.id ∉ db.ids) (unused' : node.id ∉ other.ids)
    (inserted : db.insertNode node = some after) (inserted' : other.insertNode node = some after') :
    Agree owner after after' := by
  have owned : ∀ added ∈ [node], added.userId = some owner :=
    fun added member => by rw [mem_singleton.mp member, own]
  refine ⟨?_, ?_⟩
  · rw [ownNodes_append (insertNode_eq inserted).1 owned,
      ownNodes_append (insertNode_eq inserted').1 owned, agree.nodes]
  · rw [ownLinks_insertNode unused own inserted,
      ownLinks_insertNode unused' own inserted', agree.links]

theorem Database.ownLinks_insertLinks (inserted : db.insertLinks new = some after)
    (own : db.Among owner new) : after.ownLinks owner = db.ownLinks owner ++ new := by
  obtain ⟨nodes, links⟩ := insertLinks_eq inserted
  rw [ownLinks, links, ownIds_congr nodes, filter_append]
  congr 1
  rw [filter_eq_self]
  intro link member
  exact decide_eq_true (.inl (own link member).1)

/-- A new link of the user's that no link of one database repeats is repeated by
none of the other. -/
theorem Agree.unlinked {new : List (MemoryLink Uuid Weight)} (agree : Agree owner db other)
    (own : ∀ link ∈ new, link.source ∈ other.ownIds owner)
    (apart : ∀ link ∈ db.links, ∀ added ∈ new, link.key ≠ added.key) :
    ∀ link ∈ other.links, ∀ added ∈ new, link.key ≠ added.key := by
  intro link member added fresh same
  have source : link.source = added.source := congrArg Prod.fst same
  refine apart link (agree.symm.mem_links (.inl ?_) member) added fresh same
  rw [source]
  exact own added fresh

/-- Links among the user's nodes are refused in both databases or in neither. -/
theorem Agree.insertLinks (agree : Agree owner db other) (own : db.Among owner new) :
    (db.insertLinks new = none ∧ other.insertLinks new = none) ∨
      ∃ after after', db.insertLinks new = some after ∧ other.insertLinks new = some after' ∧
        Agree owner after after' := by
  have own' : other.Among owner new := by
    rw [Among, ← agree.ids]
    exact own
  have unlinked : (∀ link ∈ db.links, ∀ added ∈ new, link.key ≠ added.key) ↔
      ∀ link ∈ other.links, ∀ added ∈ new, link.key ≠ added.key := by
    constructor
    · exact agree.unlinked fun link member => (own' link member).1
    · exact agree.symm.unlinked fun link member => (own link member).1
  have together : (∃ after, db.insertLinks new = some after) ↔
      ∃ after, other.insertLinks new = some after := by
    rw [insertLinks_own_iff own, insertLinks_own_iff own', unlinked]
  cases inserted : db.insertLinks new with
  | none =>
    cases inserted' : other.insertLinks new with
    | none => exact .inl ⟨rfl, rfl⟩
    | some after' =>
      obtain ⟨_, done⟩ := together.mpr ⟨after', inserted'⟩
      rw [inserted] at done
      cases done
  | some after =>
    obtain ⟨after', inserted'⟩ := together.mp ⟨after, inserted⟩
    refine .inr ⟨after, after', rfl, inserted', ?_, ?_⟩
    · rw [ownNodes, (insertLinks_eq inserted).1, ownNodes,
        (insertLinks_eq inserted').1]
      exact agree.nodes
    · rw [ownLinks_insertLinks inserted own, ownLinks_insertLinks inserted' own', agree.links]

def NamesOwn (owner : Uuid) (named : List Uuid) (db : Database Uuid Weight) : Prop :=
  ∀ id ∈ named, id ∈ db.ids → id ∈ db.ownIds owner

instance (owner : Uuid) (named : List Uuid) (db : Database Uuid Weight) : Decidable (NamesOwn owner named db) :=
  inferInstanceAs (Decidable (∀ id ∈ named, id ∈ db.ids → id ∈ db.ownIds owner))

structure Grown (owner : Uuid) (given : List Uuid) (db after : Database Uuid Weight) : Prop where
  nodes : ∃ added, after.nodes = db.nodes ++ added ∧
    ∀ node ∈ added, node.userId = some owner ∧ node.id ∈ given
  links : ∀ link ∈ after.links, link ∈ db.links ∨
    link.source ∈ after.ownIds owner ∧ link.target ∈ after.ownIds owner

namespace Grown

variable {given : List Uuid}

theorem refl : Grown owner given db db :=
  ⟨⟨[], (append_nil _).symm, fun node member => by cases member⟩, fun link member => .inl member⟩

section

variable (grown : Grown owner given db after)
include grown

theorem ownIds_eq :
    ∃ new, (∀ id ∈ new, id ∈ given) ∧ after.ids = db.ids ++ new ∧
      after.ownIds owner = db.ownIds owner ++ new := by
  obtain ⟨added, nodes, owned⟩ := grown.nodes
  refine ⟨added.map fun node => node.id, ?_, ?_, ?_⟩
  · intro id member
    obtain ⟨node, new, rfl⟩ := mem_map.mp member
    exact (owned node new).2
  · rw [ids, nodes, map_append, ids]
  · exact ownIds_append nodes fun node member => (owned node member).1

theorem ownIds {id : Uuid} (own : id ∈ db.ownIds owner) : id ∈ after.ownIds owner := by
  obtain ⟨_, -, -, ids⟩ := grown.ownIds_eq
  rw [ids]
  exact mem_append_left _ own

theorem names (names : NamesOwn owner named db) : NamesOwn owner named after := by
  obtain ⟨_, -, ids, ownIds⟩ := grown.ownIds_eq
  intro id member known
  rw [ids] at known
  rw [ownIds]
  rcases mem_append.mp known with before | added
  · exact mem_append_left _ (names id member before)
  · exact mem_append_right _ added

theorem unused {id : Uuid} (unknown : id ∉ db.ids) (ungiven : id ∉ given) : id ∉ after.ids := by
  obtain ⟨_, known, ids, -⟩ := grown.ownIds_eq
  rw [ids, mem_append]
  rintro (before | added)
  · exact unknown before
  · exact ungiven (known id added)

end

theorem trans (first : Grown owner given db after)
    (second : Grown owner more after last) : Grown owner (given ++ more) db last := by
  refine ⟨?_, ?_⟩
  · obtain ⟨added, nodes, owned⟩ := first.nodes
    obtain ⟨added', nodes', owned'⟩ := second.nodes
    refine ⟨added ++ added', by rw [nodes', nodes, append_assoc], ?_⟩
    intro node member
    rcases mem_append.mp member with member | member
    · exact ⟨(owned node member).1, mem_append_left _ (owned node member).2⟩
    · exact ⟨(owned' node member).1, mem_append_right _ (owned' node member).2⟩
  · intro link member
    rcases second.links link member with earlier | own
    · rcases first.links link earlier with before | own
      · exact .inl before
      · exact .inr ⟨second.ownIds own.1, second.ownIds own.2⟩
    · exact .inr own

theorem insertNode (own : node.userId = some owner) (inserted : db.insertNode node = some after) :
    Grown owner [node.id] db after := by
  obtain ⟨nodes, links⟩ := insertNode_eq inserted
  refine ⟨⟨[node], nodes, fun added member => ?_⟩, fun link member => ?_⟩
  · rw [mem_singleton.mp member]
    exact ⟨own, mem_singleton.mpr rfl⟩
  · rw [links] at member
    exact .inl member

theorem insertLinks (inserted : db.insertLinks new = some after) (own : db.Among owner new) :
    Grown owner [] db after := by
  obtain ⟨nodes, links⟩ := insertLinks_eq inserted
  refine ⟨⟨[], by rw [nodes, append_nil], fun node member => by cases member⟩, ?_⟩
  intro link member
  rw [links] at member
  rw [ownIds_congr nodes]
  rcases mem_append.mp member with before | added
  · exact .inl before
  · exact .inr (own link added)

end Grown

variable {caller : Caller Uuid} {id : Uuid}

theorem childLinks_own (names : NamesOwn owner (texts.filterMap uuids.parse?) db) (source : id ∈ db.ownIds owner) :
    db.Among owner (childLinks uuids one db id texts) := by
  intro link member
  obtain ⟨child, found, rfl⟩ := mem_map.mp member
  obtain ⟨named, known⟩ := mem_filter.mp found
  exact ⟨source, names child named (of_decide_eq_true known)⟩

theorem childLinks_agree (agree : Agree owner db other) (names : NamesOwn owner (texts.filterMap uuids.parse?) db)
    (names' : NamesOwn owner (texts.filterMap uuids.parse?) other) :
    childLinks uuids one db id texts = childLinks uuids one other id texts := by
  unfold childLinks
  congr 1
  refine filter_congr fun child named => decide_eq_decide.mpr ?_
  constructor
  · intro known
    have own := names child named known
    rw [agree.ids] at own
    exact ownIds_subset own
  · intro known
    have own := names' child named known
    rw [← agree.ids] at own
    exact ownIds_subset own

def namedChildren (uuids : UuidText Uuid) (extra : List (String × Json)) : List Uuid :=
  match childTexts ((Dict.Entries.find? "children" extra).getD .null) with
  | .ok texts => texts.filterMap uuids.parse?
  | .error _ => []

/-- The links of a save in two databases that agree, once the node is in both. -/
theorem Agree.linkChildren (agree : Agree owner db other) (source : id ∈ db.ownIds owner)
    (names : NamesOwn owner (texts.filterMap uuids.parse?) db)
    (names' : NamesOwn owner (texts.filterMap uuids.parse?) other) :
    Agree owner ((db.insertLinks (childLinks uuids one db id texts)).getD db)
      ((other.insertLinks (childLinks uuids one other id texts)).getD other) := by
  rw [← childLinks_agree agree names names']
  obtain ⟨refused, refused'⟩ | ⟨_, _, inserted, inserted', linked⟩ :=
    agree.insertLinks (childLinks_own names source)
  · rw [refused, refused']
    exact agree
  · rw [inserted, inserted']
    exact linked

theorem Grown.linkChildren (source : id ∈ db.ownIds owner)
    (names : NamesOwn owner (texts.filterMap uuids.parse?) db) :
    Grown owner [] db ((db.insertLinks (childLinks uuids one db id texts)).getD db) := by
  cases inserted : db.insertLinks (childLinks uuids one db id texts) with
  | none => exact .refl
  | some => exact .insertLinks inserted (childLinks_own names source)

theorem mem_ownIds_insertNode (own : node.userId = some owner) (inserted : db.insertNode node = some after) :
    node.id ∈ after.ownIds owner := by
  refine mem_ownIds.mpr ⟨node, ?_, own, rfl⟩
  rw [(insertNode_eq inserted).1]
  exact mem_append_right _ (mem_singleton.mpr rfl)

theorem commitNode_agree (agree : Agree owner db other) (own : node.userId = some owner)
    (unused : node.id ∉ db.ids) (unused' : node.id ∉ other.ids)
    (names : NamesOwn owner (namedChildren uuids node.extra) db)
    (names' : NamesOwn owner (namedChildren uuids node.extra) other) :
    Alike owner (commitNode one uuids node) db other := by
  obtain ⟨_, done⟩ := insertNode_unused unused
  obtain ⟨_, done'⟩ := insertNode_unused unused'
  have entered := agree.insertNode own unused unused' done done'
  unfold namedChildren at names names'
  unfold Alike commitNode
  rw [done, done']
  cases listed : childTexts ((Dict.Entries.find? "children" node.extra).getD .null) with
  | error => exact ⟨rfl, entered⟩
  | ok =>
    rw [listed] at names names'
    refine ⟨rfl, entered.linkChildren (mem_ownIds_insertNode own done) ?_ ?_⟩
    · exact (Grown.insertNode own done).names names
    · exact (Grown.insertNode own done').names names'

theorem commitNode_grown (own : node.userId = some owner) (given : node.id = id)
    (names : NamesOwn owner (namedChildren uuids node.extra) db) :
    Grown owner [id] db (commitNode one uuids node db).2 := by
  subst given
  unfold namedChildren at names
  unfold commitNode
  cases done : db.insertNode node with
  | none => exact .refl
  | some =>
    have entered := Grown.insertNode own done
    cases listed : childTexts ((Dict.Entries.find? "children" node.extra).getD .null) with
    | error => exact entered
    | ok =>
      rw [listed] at names
      exact entered.trans (.linkChildren (mem_ownIds_insertNode own done) (entered.names names))

variable (owned : parseUserId caller.uuids caller.userId = some owner)
include owned

theorem save_agree (agree : Agree owner db other) (unused : id ∉ db.ids) (unused' : id ∉ other.ids)
    (names : NamesOwn owner (namedChildren caller.uuids (nodeExtra caller.traceId request.extra)) db)
    (names' : NamesOwn owner (namedChildren caller.uuids (nodeExtra caller.traceId request.extra)) other) :
    Alike owner (save one caller request id) db other := by
  unfold Alike save
  cases checkNodeType request.nodeType with
  | error => exact ⟨rfl, agree⟩
  | ok => exact commitNode_agree agree owned unused unused' names names'

theorem save_grown (names : NamesOwn owner (namedChildren caller.uuids (nodeExtra caller.traceId request.extra)) db) :
    Grown owner [id] db (save one caller request id db).2 := by
  unfold save
  cases checkNodeType request.nodeType with
  | error => exact .refl
  | ok => exact commitNode_grown owned rfl names

theorem endRows_agree (agree : Agree owner db other) (sid tid : Uuid) :
    endRows caller db sid tid = endRows caller other sid tid :=
  agree.filter_seen (fun _ seen => sees_user owned seen) fun _ _ => rfl

/-- Two rows with one of two ids, in a table without doubles, have both ids. -/
theorem endRows_own (two : (endRows caller db sid tid).length = 2) :
    sid ∈ db.ownIds owner ∧ tid ∈ db.ownIds owner := by
  have row : ∀ node ∈ endRows caller db sid tid,
      (node.id = sid ∨ node.id = tid) ∧ node.id ∈ db.ownIds owner := by
    intro node member
    obtain ⟨kept, seen⟩ := mem_filter.mp member
    rw [Bool.and_eq_true, decide_eq_true_eq] at seen
    exact ⟨seen.1, mem_ownIds.mpr ⟨node, kept, sees_user owned seen.2, rfl⟩⟩
  have distinct : ((endRows caller db sid tid).map fun node => node.id).Nodup :=
    db.ids_nodup.sublist (filter_sublist.map _)
  obtain ⟨first, second, rows⟩ := length_eq_two.mp two
  rw [rows] at row distinct
  have apart : first.id ≠ second.id := by simpa using distinct
  obtain ⟨end₁, own₁⟩ := row first (by simp)
  obtain ⟨end₂, own₂⟩ := row second (by simp)
  rcases end₁ with same₁ | same₁ <;> rcases end₂ with same₂ | same₂
  · exact absurd (same₁.trans same₂.symm) apart
  · exact ⟨same₁ ▸ own₁, same₂ ▸ own₂⟩
  · exact ⟨same₂ ▸ own₂, same₁ ▸ own₁⟩
  · exact absurd (same₁.trans same₂.symm) apart

theorem newLink_own (two : ¬ (endRows caller db sid tid).length ≠ 2) :
    db.Among owner [⟨sid, tid, linkType, weight⟩] := by
  intro link member
  rw [mem_singleton.mp member]
  exact endRows_own owned (not_not.mp two)

theorem linkEnds_agree (agree : Agree owner db other) (sid tid : Uuid) :
    Alike owner (linkEnds caller sid tid linkType weight) db other := by
  unfold Alike linkEnds
  rw [← endRows_agree owned agree]
  split
  · exact ⟨rfl, agree⟩
  · rename_i two
    obtain ⟨refused, refused'⟩ | ⟨_, _, inserted, inserted', linked⟩ :=
      agree.insertLinks (newLink_own owned two)
    · rw [refused, refused']
      exact ⟨rfl, agree⟩
    · rw [inserted, inserted']
      exact ⟨rfl, linked⟩

theorem linkEnds_grown (sid tid : Uuid) :
    Grown owner [] db (linkEnds caller sid tid linkType weight db).2 := by
  unfold linkEnds
  split
  · exact .refl
  · rename_i two
    cases inserted : db.insertLinks [⟨sid, tid, linkType, weight⟩] with
    | none => exact .refl
    | some => exact .insertLinks inserted (newLink_own owned two)

/-- What `create_link` decides before its query does not depend on the database. -/
theorem createLink_cases (sourceId targetId linkType : String) (weight : Weight) :
    (∃ refused, ∀ db : Database Uuid Weight,
        createLink caller sourceId targetId linkType weight db = (.error refused, db)) ∨
      ∃ sid tid, ∀ db : Database Uuid Weight,
        createLink caller sourceId targetId linkType weight db =
          linkEnds caller sid tid linkType weight db := by
  unfold createLink
  split
  · rename_i sid tid source target
    by_cases same : sid = tid
    · exact .inl ⟨_, fun db => if_pos same⟩
    · refine .inr ⟨sid, tid, fun db => ?_⟩
      have valid : ¬ (caller.userId ≠ none ∧ caller.userId ≠ some "" ∧
          parseUserId caller.uuids caller.userId = none) := by
        rintro ⟨-, -, unparsed⟩
        rw [owned] at unparsed
        cases unparsed
      rw [if_neg same, if_neg valid]
  · exact .inl ⟨_, fun db => rfl⟩

end Writes

namespace Operation

def newIds : Operation Uuid Weight → List Uuid
  | .write _ id | .save _ id => [id]
  | _ => []

def children (uuids : UuidText Uuid) (traceId : Option String) : Operation Uuid Weight → List Uuid
  | .write payload _ =>
    match writeRequest payload with
    | .ok request => namedChildren uuids (nodeExtra traceId request.extra)
    | .error _ => []
  | .save request _ => namedChildren uuids (nodeExtra traceId request.extra)
  | _ => []

end Operation

section Sequences

variable [LinearOrder Weight] {one : Weight} {user : UserId uuids} {scope : RunScope} {traceId : Option String}
variable {db other : Database Uuid Weight} {operation : Operation Uuid Weight}

section

variable {owner : Uuid} {caller : Caller Uuid} (owned : parseUserId caller.uuids caller.userId = some owner)
include owned

theorem respond_agree (agree : Agree owner db other)
    (unused : ∀ id ∈ operation.newIds, id ∉ db.ids ∧ id ∉ other.ids)
    (names : NamesOwn owner (operation.children caller.uuids caller.traceId) db)
    (names' : NamesOwn owner (operation.children caller.uuids caller.traceId) other) :
    Alike owner ((memoryOf one caller).respond · operation) db other := by
  unfold Alike
  cases operation with
  | write payload id =>
    obtain ⟨fresh, fresh'⟩ := unused id (mem_singleton.mpr rfl)
    simp only [memoryOf, handleMemoryWrite, Operation.children] at names names' ⊢
    cases made : writeRequest payload with
    | error => exact ⟨rfl, agree⟩
    | ok =>
      rw [made] at names names'
      obtain ⟨same, still⟩ := save_agree owned agree fresh fresh' names names'
      exact ⟨congrArg _ same, still⟩
  | save request id =>
    obtain ⟨fresh, fresh'⟩ := unused id (mem_singleton.mpr rfl)
    obtain ⟨same, still⟩ := save_agree owned agree fresh fresh' names names'
    exact ⟨congrArg Answer.saved same, still⟩
  | createLink sourceId targetId linkType weight =>
    simp only [memoryOf]
    obtain ⟨_, answer⟩ | ⟨sid, tid, answer⟩ := createLink_cases owned sourceId targetId linkType weight
    · rw [answer db, answer other]
      exact ⟨rfl, agree⟩
    · rw [answer db, answer other]
      obtain ⟨same, still⟩ := linkEnds_agree owned agree sid tid
      exact ⟨congrArg _ same, still⟩
  | getById =>
    simp only [memoryOf, getById, getModelById_agree owned agree]
    exact ⟨trivial, agree⟩
  | getLinkedNodes =>
    simp only [memoryOf, getLinkedNodes, linkedOut_agree owned agree, linkedIn_agree owned agree]
    exact ⟨trivial, agree⟩
  | traverse =>
    simp only [memoryOf, traverse_agree owned agree]
    exact ⟨trivial, agree⟩

theorem respond_grown (names : NamesOwn owner (operation.children caller.uuids caller.traceId) db) :
    Grown owner operation.newIds db
      ((memoryOf one caller).respond db operation).2 := by
  cases operation with
  | write payload =>
    simp only [memoryOf, handleMemoryWrite, Operation.children] at names ⊢
    cases made : writeRequest payload with
    | error => exact .refl
    | ok =>
      rw [made] at names
      exact save_grown owned names
  | save => exact save_grown owned names
  | createLink sourceId targetId linkType weight =>
    simp only [memoryOf]
    obtain ⟨_, answer⟩ | ⟨sid, tid, answer⟩ := createLink_cases owned sourceId targetId linkType weight
    · rw [answer db]
      exact .refl
    · rw [answer db]
      exact linkEnds_grown owned sid tid
  | getById nodeId | getLinkedNodes nodeId direction limit | traverse startNodeId maxDepth linkType minStrength =>
    exact .refl

end

/-- What the sequence to come assumes of a database: the ids of its writes are
fresh, and the children they name are the user's own, where they exist. -/
structure Ready (user : UserId uuids) (traceId : Option String) (operations : List (Operation Uuid Weight))
    (db : Database Uuid Weight) : Prop where
  distinct : (operations.flatMap Operation.newIds).Nodup
  fresh : ∀ operation ∈ operations, ∀ id ∈ operation.newIds, id ∉ db.ids
  names : ∀ operation ∈ operations, NamesOwn user.id (operation.children uuids traceId) db

theorem Ready.step (ready : Ready user traceId (operation :: operations) db) :
    Ready user traceId operations ((memoryOf one (user.caller scope traceId)).respond db operation).2 := by
  have grown : Grown user.id operation.newIds db
      ((memoryOf one (user.caller scope traceId)).respond db operation).2 :=
    respond_grown user.parsed (ready.names operation mem_cons_self)
  have distinct := ready.distinct
  rw [flatMap_cons, nodup_append] at distinct
  refine ⟨distinct.2.1, ?_, ?_⟩
  · intro later member id new
    refine grown.unused (ready.fresh later (mem_cons_of_mem _ member) id new) fun given => ?_
    exact distinct.2.2 id given id (mem_flatMap.mpr ⟨later, member, new⟩) rfl
  · intro later member
    exact grown.names (ready.names later (mem_cons_of_mem _ member))

theorem run_grown (ready : Ready user traceId operations db) :
    ∃ given, Grown user.id given db ((memoryOf one (user.caller scope traceId)).run db operations).2 := by
  refine (Responder.run_keeps
    (fun operations state => Ready user traceId operations state ∧ ∃ given, Grown user.id given db state)
    ?_ ⟨ready, [], .refl⟩).2
  rintro operation rest state ⟨ready, given, grown⟩
  exact ⟨ready.step, _, grown.trans (respond_grown user.parsed (ready.names operation mem_cons_self))⟩

/-- Another user's memory has no influence on a user's calls, and their links
stay among the user's nodes, if no write names a node of another user as a child. -/
theorem tenant_memory_noninterference (agree : Agree user.id db other)
    (ready : Ready user traceId operations db) (ready' : Ready user traceId operations other) :
    ((memoryOf one (user.caller scope traceId)).run db operations).1
        = ((memoryOf one (user.caller scope traceId)).run other operations).1 ∧
      ∀ link ∈ ((memoryOf one (user.caller scope traceId)).run db operations).2.links, link ∈ db.links ∨
        link.source ∈ ((memoryOf one (user.caller scope traceId)).run db operations).2.ownIds user.id ∧
        link.target ∈ ((memoryOf one (user.caller scope traceId)).run db operations).2.ownIds user.id := by
  constructor
  · refine Responder.run_alike (fun operations db other => Agree user.id db other ∧
      Ready user traceId operations db ∧ Ready user traceId operations other) ?_ ⟨agree, ready, ready'⟩
    rintro operation rest db other ⟨agree, ready, ready'⟩
    have unused : ∀ id ∈ operation.newIds, id ∉ db.ids ∧ id ∉ other.ids := fun id new =>
      ⟨ready.fresh operation mem_cons_self id new, ready'.fresh operation mem_cons_self id new⟩
    have alike : Alike user.id ((memoryOf one (user.caller scope traceId)).respond · operation) db other :=
      respond_agree user.parsed agree unused (ready.names operation mem_cons_self)
        (ready'.names operation mem_cons_self)
    exact ⟨alike.1, alike.2, ready.step, ready'.step⟩
  · obtain ⟨_, grown⟩ := run_grown ready
    exact grown.links

end Sequences

def alice : UserId .plain := ⟨"alice", "alice", rfl⟩

def unscoped : RunScope := ⟨false, none⟩

def nodeOf (user id : String) : MemoryNode String :=
  newNode .plain unscoped none { content := id, userId := some user, nodeType := some "insight" } "insight" id

def withoutBob : Database String Nat where
  nodes := [nodeOf "alice" "hers"]
  links := []
  ids_nodup := by decide
  links_nodup := by decide
  ends_exist := by simp

def withBob : Database String Nat where
  nodes := [nodeOf "alice" "hers", nodeOf "bob" "his"]
  links := []
  ids_nodup := by decide
  links_nodup := by decide
  ends_exist := by simp

def childrenOf (ids : List String) : WritePayload :=
  { content := "note", extra := .obj [("children", .arr (ids.map Json.str))] }

def ownSequence : List (Operation String Nat) :=
  [.write (childrenOf ["hers", "no id"]) "new", .getLinkedNodes "hers" "both" 0,
    .createLink "hers" "new" "related" 3, .traverse "hers" 3 "" 0]

theorem tenant_memory_noninterference_alice :
    Agree "alice" withBob withoutBob ∧
      Ready alice none ownSequence withBob ∧ Ready alice none ownSequence withoutBob ∧
      ((memoryOf 1 (alice.caller unscoped none)).run withBob ownSequence).1
        = ((memoryOf 1 (alice.caller unscoped none)).run withoutBob ownSequence).1 := by
  have agree : Agree alice.id withBob withoutBob := ⟨by decide, by decide⟩
  have ready : Ready alice none ownSequence withBob := ⟨by decide, by decide, by decide⟩
  have ready' : Ready alice none ownSequence withoutBob := ⟨by decide, by decide, by decide⟩
  exact ⟨agree, ready, ready', (tenant_memory_noninterference agree ready ready').1⟩

def guess : List (Operation String Nat) := [.write (childrenOf ["his"]) "new", .traverse "new" 3 "" 0]

def Answer.nodesVisited : Answer String Nat → Option Nat
  | .traversed traversal => some traversal.nodesVisited
  | _ => none

/-- The guess is linked if it is right, and the number of visited nodes tells. -/
theorem foreign_child_linked :
    Agree "alice" withBob withoutBob ∧
      ((memoryOf 1 (alice.caller unscoped none)).run withBob guess).2.links = [⟨"new", "his", "child", 1⟩] ∧
      ((memoryOf 1 (alice.caller unscoped none)).run withBob guess).1.map Answer.nodesVisited
        = [none, some 2] ∧
      ((memoryOf 1 (alice.caller unscoped none)).run withoutBob guess).1.map Answer.nodesVisited
        = [none, some 1] := by
  exact ⟨⟨by decide, by decide⟩, by decide, by decide, by decide⟩

end AindyRuntime.Memory
