import AindyRuntime.Memory.Nodes

/-! # The memory graph

`MemoryNodeDAO` of `db/dao/memory_node_dao.py` and `sys.v1.memory.write`: nodes,
the links between them, and the reads that follow links.
-/

namespace AindyRuntime.Memory

open List

structure MemoryLink (Uuid Weight : Type) where
  (source target : Uuid)
  linkType : String
  weight : Weight
deriving DecidableEq

namespace MemoryLink

variable {Uuid Weight : Type}

def key (link : MemoryLink Uuid Weight) : Uuid × Uuid × String := (link.source, link.target, link.linkType)

end MemoryLink

structure Database (Uuid Weight : Type) where
  nodes : List (MemoryNode Uuid)
  links : List (MemoryLink Uuid Weight)
  ids_nodup : (nodes.map fun node => node.id).Nodup
  links_nodup : (links.map MemoryLink.key).Nodup
  ends_exist : ∀ link ∈ links,
    link.source ∈ nodes.map (fun node => node.id) ∧ link.target ∈ nodes.map fun node => node.id

namespace Database

variable {Uuid Weight : Type}

def ids (db : Database Uuid Weight) : List Uuid := db.nodes.map fun node => node.id

variable [DecidableEq Uuid]

def insertNode (db : Database Uuid Weight) (node : MemoryNode Uuid) : Option (Database Uuid Weight) :=
  if unused : node.id ∉ db.ids then
    some {
      nodes := db.nodes ++ [node]
      links := db.links
      ids_nodup := by
        rw [map_append, map_singleton, nodup_append_comm]
        exact nodup_cons.mpr ⟨unused, db.ids_nodup⟩
      links_nodup := db.links_nodup
      ends_exist := by
        intro link member
        obtain ⟨source, target⟩ := db.ends_exist link member
        rw [map_append]
        exact ⟨mem_append_left _ source, mem_append_left _ target⟩ }
  else none

def insertLinks (db : Database Uuid Weight) (new : List (MemoryLink Uuid Weight)) :
    Option (Database Uuid Weight) :=
  if allowed : ((db.links ++ new).map MemoryLink.key).Nodup ∧
      ∀ link ∈ new, link.source ∈ db.ids ∧ link.target ∈ db.ids then
    some {
      nodes := db.nodes
      links := db.links ++ new
      ids_nodup := db.ids_nodup
      links_nodup := allowed.1
      ends_exist := by
        intro link member
        rcases mem_append.mp member with member | member
        · exact db.ends_exist link member
        · exact allowed.2 link member }
  else none

end Database

/-- `_owner_only_scope`, of one row: without a user everything is in scope, with
one that does not parse nothing. -/
def inOwnerOnlyScope {Uuid : Type} [DecidableEq Uuid] (uuids : UuidText Uuid) (scope : RunScope)
    (userId : Option String) (node : MemoryNode Uuid) : Bool :=
  let owner := parseUserId uuids userId
  if owner = none ∧ userId ≠ none ∧ userId ≠ some "" then false
  else inOwnerScope uuids scope owner false none node

structure Caller (Uuid : Type) where
  uuids : UuidText Uuid
  scope : RunScope
  (traceId userId : Option String)

section Reads

variable {Uuid Weight : Type} [DecidableEq Uuid] (caller : Caller Uuid) (db : Database Uuid Weight)

def Caller.sees (node : MemoryNode Uuid) : Bool :=
  inOwnerOnlyScope caller.uuids caller.scope caller.userId node

def getModelById (nodeId : String) : Option (MemoryNode Uuid) :=
  match caller.uuids.parse? nodeId with
  | none => none
  | some id =>
    (db.nodes.find? fun node => decide (node.id = id) && caller.sees node).filter fun node =>
      (parseUserId caller.uuids caller.userId).all fun owner => decide (node.userId = some owner)

def getById (nodeId : String) : Option (NodeDict Uuid) :=
  (getModelById caller db nodeId).map MemoryNode.toNodeDict

def limited {Row : Type} (limit : Nat) (rows : List Row) : List Row :=
  if limit = 0 then rows else rows.take limit

def linkedOut (id : Uuid) (limit : Nat) : List (MemoryNode Uuid) :=
  let targetIds := (db.links.filter fun link => decide (link.source = id)).map MemoryLink.target
  limited limit (db.nodes.filter fun node => decide (node.id ∈ targetIds) &&
    inOwnerScope caller.uuids caller.scope (parseUserId caller.uuids caller.userId) true none node)

def linkedIn (id : Uuid) (limit : Nat) : List (MemoryNode Uuid) :=
  let sourceIds := (db.links.filter fun link => decide (link.target = id)).map MemoryLink.source
  limited limit (db.nodes.filter fun node => decide (node.id ∈ sourceIds) && caller.sees node)

def getLinkedNodes (nodeId direction : String) (limit : Nat) : List (NodeDict Uuid) :=
  match caller.uuids.parse? nodeId with
  | none => []
  | some id =>
    let outward :=
      if direction = "out" ∨ direction = "both" then
        (linkedOut caller db id limit).map MemoryNode.toNodeDict
      else []
    let inward :=
      if direction = "in" ∨ direction = "both" then
        ((linkedIn caller db id limit).filter fun node =>
          decide (node.id ∉ outward.map NodeDict.id)).map MemoryNode.toNodeDict
      else []
    outward ++ inward

structure Hop (Weight : Type) where
  (nodeId linkType : String)
  weight : Weight
deriving DecidableEq

structure ChainEntry (Uuid Weight : Type) where
  depth : Nat
  node : NodeDict Uuid
  path : List (Hop Weight)
deriving DecidableEq

structure Trail (Uuid Weight : Type) where
  visited : List String
  chain : List (ChainEntry Uuid Weight)

variable [LinearOrder Weight]

def followed (linkType : String) (minStrength : Weight) (id : Uuid) : List (MemoryLink Uuid Weight) :=
  ((db.links.filter fun link => decide (link.source = id)).filter fun link =>
    decide (linkType = "" ∨ link.linkType = linkType) && decide (minStrength ≤ link.weight)).insertionSort
      fun link other => other.weight ≤ link.weight

/-- The inner `dfs`; `room` counts the depths that are left, so that `0` is
`depth > max_depth`.  A node is marked as visited before it is looked up. -/
def dfs (linkType : String) (minStrength : Weight) :
    (room depth : Nat) → String → List (Hop Weight) → Trail Uuid Weight → Trail Uuid Weight
  | 0, _, _, _, trail => trail
  | room + 1, depth, nodeId, path, trail =>
    if nodeId ∈ trail.visited then trail
    else
      let marked := { trail with visited := nodeId :: trail.visited }
      match getModelById caller db nodeId with
      | none => marked
      | some node =>
        let entered :=
          if depth = 0 then marked
          else { marked with chain := marked.chain ++ [⟨depth, node.toNodeDict, path⟩] }
        (followed db linkType minStrength node.id).foldl
          (fun trail link =>
            let targetId := caller.uuids.text link.target
            if targetId ∈ trail.visited then trail
            else
              dfs linkType minStrength room (depth + 1) targetId
                (path ++ [⟨nodeId, link.linkType, link.weight⟩]) trail)
          entered

def preview (count : Nat) (text : String) : String := String.ofList (text.toList.take count)

def linkDescription : String → String
  | "related" => "relates to"
  | "caused" => "caused"
  | "follows" => "led to"
  | "supports" => "supports"
  | "contradicts" => "contradicts"
  | _ => "connects to"

def narrativeLine (entry : ChainEntry Uuid Weight) : String :=
  let indent := String.join (List.replicate entry.depth "  ")
  match entry.path.getLast? with
  | some last => indent ++ "-> [" ++ entry.node.nodeType ++ "] " ++ linkDescription last.linkType ++ ": "
      ++ quote (preview 80 entry.node.content)
  | none => indent ++ "-> [" ++ entry.node.nodeType ++ "] " ++ quote (preview 80 entry.node.content)

def buildChainNarrative (start : NodeDict Uuid) (chain : List (ChainEntry Uuid Weight)) : String :=
  if chain.isEmpty then
    "Starting from: " ++ quote (preview 80 start.content) ++ ". No connected memories found."
  else
    String.intercalate "\n"
      (("Chain of thought starting from '" ++ preview 60 start.content ++ "...':") :: chain.map narrativeLine ++
        ["\nChain depth: " ++ toString chain.length ++ " nodes. This reveals the connected context "
          ++ "behind the original memory."])

structure Traversal (Uuid Weight : Type) where
  startNodeId : String
  startNode : Option (NodeDict Uuid)
  nodesVisited : Nat
  chain : List (ChainEntry Uuid Weight)
  narrative : Option String
deriving DecidableEq

def traverse (startNodeId : String) (maxDepth : Int) (linkType : String) (minStrength : Weight) :
    Traversal Uuid Weight :=
  match getById caller db startNodeId with
  | none => ⟨startNodeId, none, 0, [], none⟩
  | some start =>
    let trail := dfs caller db linkType minStrength (maxDepth + 1).toNat 0 startNodeId [] ⟨[], []⟩
    ⟨startNodeId, some start, trail.visited.length, trail.chain, some (buildChainNarrative start trail.chain)⟩

end Reads

def integrityError (constraint : String) : PyError :=
  ⟨.other, "duplicate key value violates unique constraint " ++ constraint⟩

def childTexts (children : Json) : Except PyError (List String) :=
  if children.truthy then
    match children with
    | .arr items => .ok (items.map Json.text)
    | .obj entries => .ok (entries.map Prod.fst)
    | .str text => .ok (text.toList.map fun letter => String.ofList [letter])
    | other => .error ⟨.other, quote other.typeName ++ " object is not iterable"⟩
  else .ok []

section Writes

variable {Uuid Weight : Type} [DecidableEq Uuid]

def childLinks (uuids : UuidText Uuid) (weight : Weight) (db : Database Uuid Weight) (id : Uuid)
    (texts : List String) : List (MemoryLink Uuid Weight) :=
  ((texts.filterMap uuids.parse?).filter fun child => decide (child ∈ db.ids)).map fun child =>
    ⟨id, child, "child", weight⟩

/-- The commits of `save`.  The node is committed before its links are; a link
that is refused takes the others with it. -/
def commitNode (one : Weight) (uuids : UuidText Uuid) (node : MemoryNode Uuid)
    (db : Database Uuid Weight) : Except PyError (NodeDict Uuid) × Database Uuid Weight :=
  match db.insertNode node with
  | none => (.error (integrityError "memory_nodes_pkey"), db)
  | some inserted =>
    match childTexts ((Dict.Entries.find? "children" node.extra).getD .null) with
    | .error raised => (.error raised, inserted)
    | .ok texts =>
      (.ok node.toNodeDict, (inserted.insertLinks (childLinks uuids one inserted node.id texts)).getD inserted)

def save (one : Weight) (caller : Caller Uuid) (request : SaveRequest) (id : Uuid)
    (db : Database Uuid Weight) : Except PyError (NodeDict Uuid) × Database Uuid Weight :=
  match checkNodeType request.nodeType with
  | .error refused => (.error refused, db)
  | .ok nodeType =>
    commitNode one caller.uuids
      (newNode caller.uuids caller.scope caller.traceId { request with userId := caller.userId } nodeType id) db

variable (caller : Caller Uuid)

def endRows (db : Database Uuid Weight) (sid tid : Uuid) : List (MemoryNode Uuid) :=
  db.nodes.filter fun node => decide (node.id = sid ∨ node.id = tid) && caller.sees node

def linkEnds (sid tid : Uuid) (linkType : String) (weight : Weight)
    (db : Database Uuid Weight) : Except PyError (MemoryLink Uuid Weight) × Database Uuid Weight :=
  if (endRows caller db sid tid).length ≠ 2 then
    (.error ⟨.value, "source and/or target node does not exist"⟩, db)
  else
    match db.insertLinks [⟨sid, tid, linkType, weight⟩] with
    | none => (.error (integrityError "uq_memory_links_unique"), db)
    | some linked => (.ok ⟨sid, tid, linkType, weight⟩, linked)

def createLink (sourceId targetId linkType : String) (weight : Weight)
    (db : Database Uuid Weight) : Except PyError (MemoryLink Uuid Weight) × Database Uuid Weight :=
  match caller.uuids.parse? sourceId, caller.uuids.parse? targetId with
  | some sid, some tid =>
    if sid = tid then (.error ⟨.value, "source_id and target_id cannot be the same"⟩, db)
    else if caller.userId ≠ none ∧ caller.userId ≠ some "" ∧
        parseUserId caller.uuids caller.userId = none then
      (.error ⟨.value, "invalid user_id"⟩, db)
    else linkEnds caller sid tid linkType weight db
  | _, _ => (.error ⟨.value, "badly formed hexadecimal UUID string"⟩, db)

structure WritePayload where
  content : String
  tags : List String := []
  nodeType : String := "insight"
  source : String := "syscall"
  extra : Json := .null
  address : Except PyError Address := .ok {}
  executionUnitId : String := ""

def mergedExtra (payload : WritePayload) : Except PyError (List (String × Json)) :=
  match payload.extra.orElse (.obj []) with
  | .obj entries => .ok (Dict.Entries.assign "execution_unit_id" (.str payload.executionUnitId) entries)
  | other => .error ⟨.other, quote other.typeName ++ " object is not a mapping"⟩

def writeRequest (payload : WritePayload) : Except PyError SaveRequest := do
  if payload.content = "" then
    .error ⟨.value, "sys.v1.memory.write requires non-empty 'content'"⟩
  let address ← payload.address
  let extra ← mergedExtra payload
  return {
    content := payload.content
    source := some payload.source
    tags := payload.tags
    nodeType := some payload.nodeType
    extra
    sourceAgent := some "syscall_dispatcher"
    address }

def handleMemoryWrite (one : Weight) (caller : Caller Uuid) (payload : WritePayload) (id : Uuid)
    (db : Database Uuid Weight) : Except PyError (NodeDict Uuid) × Database Uuid Weight :=
  match writeRequest payload with
  | .error raised => (.error raised, db)
  | .ok request => save one caller request id db

end Writes

end AindyRuntime.Memory
