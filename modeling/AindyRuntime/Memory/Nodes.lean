import AindyRuntime.Data.PyError

/-! # Memory nodes and who may read them

`memory/memory_persistence.py`: the columns of a memory node, the owner a write
is stamped with and the predicate that every read is scoped by.
-/

namespace AindyRuntime.Memory

inductive Visibility where
  | privateOnly
  | shared
  | global
deriving DecidableEq, Repr

def Visibility.ofText (text : String) : Visibility :=
  if text = "shared" then .shared else if text = "global" then .global else .privateOnly

structure Address where
  path : Option String := none
  space : Option String := none
  addrType : Option String := none
  parentPath : Option String := none
deriving DecidableEq

structure NodeDict (Uuid : Type) where
  id : Uuid
  content : String
  tags : List String
  nodeType : String
  (source sourceAgent : Option String)
  isShared : Bool
  visibility : Visibility
  userId : Option Uuid
  memoryType : String
  extra : List (String × Json)
  address : Address
deriving DecidableEq

structure MemoryNode (Uuid : Type) extends NodeDict Uuid where
  ownerRunId : Option Uuid
deriving DecidableEq

/-- `delegation_private_memory_enabled` and the context variable
`_owner_run_id_ctx` where a call is made. -/
structure RunScope where
  enabled : Bool
  context : Option String
deriving DecidableEq

variable {Uuid : Type} (uuids : UuidText Uuid)

def coerceUuid (value : Option String) : Option Uuid :=
  value.bind uuids.parse?

def parseUserId : Option String → Option Uuid
  | none | some "" => none
  | some value => uuids.parse? value

structure UserId where
  text : String
  id : Uuid
  parsed : parseUserId uuids (some text) = some id

def resolveOwnerRunId (scope : RunScope) (explicit : Option String)
    (privateToRun : Option Bool) (visibility : String) : Option Uuid :=
  if !scope.enabled then none
  else if privateToRun = some false then none
  else if visibility = "shared" ∨ visibility = "global" then none
  else if explicit.isSome then coerceUuid uuids explicit
  else coerceUuid uuids scope.context

section Scope

variable [DecidableEq Uuid]

def inTenantScope (ownerUserId : Option Uuid) (sharedFallback : Bool) (node : MemoryNode Uuid) : Bool :=
  match ownerUserId with
  | some owner => decide (node.userId = some owner)
  | none => !sharedFallback || decide (node.visibility ≠ .privateOnly)

def inRunScope (uuids : UuidText Uuid) (scope : RunScope) (currentRunId : Option String)
    (node : MemoryNode Uuid) : Bool :=
  !scope.enabled ||
    match coerceUuid uuids (currentRunId.or scope.context) with
    | some run => decide (node.ownerRunId = none ∨ node.ownerRunId = some run)
    | none => decide (node.ownerRunId = none)

def inOwnerScope (uuids : UuidText Uuid) (scope : RunScope) (ownerUserId : Option Uuid)
    (sharedFallback : Bool) (currentRunId : Option String) (node : MemoryNode Uuid) : Bool :=
  inTenantScope ownerUserId sharedFallback node && inRunScope uuids scope currentRunId node

end Scope

structure SaveRequest where
  content : String
  source : Option String := none
  tags : List String := []
  userId : Option String := none
  nodeType : Option String := none
  extra : List (String × Json) := []
  memoryType : Option String := none
  sourceAgent : Option String := none
  visibility : String := "private"
  address : Address := {}
  ownerRunId : Option String := none
  privateToRun : Option Bool := none

def validNodeTypes : List String := ["decision", "insight", "outcome", "relationship"]

def validMemoryTypes : List String := ["decision", "failure", "insight", "outcome"]

def normalizeMemoryType (memoryType nodeType : Option String) : String :=
  let given := ((memoryType.filter (· != "")).or (nodeType.filter (· != ""))).getD "insight"
  let candidate := asciiLower (strip given)
  if candidate ∈ validMemoryTypes then candidate else "insight"

def checkNodeType : Option String → Except PyError String
  | none => .error ⟨.other, "NOT NULL constraint failed: memory_nodes.node_type"⟩
  | some nodeType =>
    if nodeType ∈ validNodeTypes then .ok nodeType
    else .error ⟨.value, "Invalid node_type " ++ quote nodeType ++ ". Must be one of: "
      ++ String.intercalate ", " validNodeTypes⟩

def nodeExtra (traceId : Option String) (extra : List (String × Json)) : List (String × Json) :=
  match traceId.filter (· != "") with
  | some trace =>
    if ((Dict.Entries.find? "trace_id" extra).getD .null).truthy then extra
    else Dict.Entries.assign "trace_id" (.str trace) extra
  | none => extra

def newNode (scope : RunScope) (traceId : Option String)
    (request : SaveRequest) (nodeType : String) (id : Uuid) : MemoryNode Uuid where
  id
  content := request.content
  tags := request.tags
  nodeType
  source := request.source
  sourceAgent := request.sourceAgent
  isShared := decide (Visibility.ofText request.visibility ≠ .privateOnly)
  visibility := .ofText request.visibility
  userId := parseUserId uuids request.userId
  memoryType := normalizeMemoryType request.memoryType request.nodeType
  extra := nodeExtra traceId request.extra
  address := request.address
  ownerRunId := resolveOwnerRunId uuids scope request.ownerRunId request.privateToRun request.visibility

end AindyRuntime.Memory
