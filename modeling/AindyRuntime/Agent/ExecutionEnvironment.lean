import AindyRuntime.Agent.ToolWorker

/-! # The environment a tool declares

`core/execution_environment.py`: a declared spec is parsed, clamped to a floor
and turned into the keyword arguments a worker is spawned with.  Times are in
milliseconds.
-/

namespace AindyRuntime.Environment

open Tool (ToolError)

inductive Filesystem where
  | none
  | readonly
  | scoped
  | host
deriving DecidableEq, Repr

inductive EnvMode where
  | none
  | allowlist
  | inherit
deriving DecidableEq, Repr

inductive Network where
  | none
  | scoped
  | openAccess
deriving DecidableEq, Repr

inductive Assurance where
  | insecureDev
  | container
  | strong
deriving DecidableEq, Repr

structure Axis (Value : Type) where
  order : List Value
  name : Value → String

def filesystemAxis : Axis Filesystem where
  order := [.none, .readonly, .scoped, .host]
  name
    | .none => "none"
    | .readonly => "readonly"
    | .scoped => "scoped"
    | .host => "host"

def envAxis : Axis EnvMode where
  order := [.none, .allowlist, .inherit]
  name
    | .none => "none"
    | .allowlist => "allowlist"
    | .inherit => "inherit"

def networkAxis : Axis Network where
  order := [.none, .scoped, .openAccess]
  name
    | .none => "none"
    | .scoped => "scoped"
    | .openAccess => "open"

def assuranceAxis : Axis Assurance where
  order := [.insecureDev, .container, .strong]
  name
    | .insecureDev => "insecure-dev"
    | .container => "container-grade-sandbox"
    | .strong => "strong-sandbox-tier"

def assuranceRank (declared : Assurance) : Nat := assuranceAxis.order.idxOf declared

namespace Axis

variable {Value : Type} (vocabulary : Axis Value)

def names : List String := vocabulary.order.map vocabulary.name

def named? : PyObject → Option Value
  | .str text => vocabulary.order.find? fun value => vocabulary.name value == text
  | _ => none

end Axis

structure Visibility where
  filesystem : Filesystem := .host
  filesystemRoots : List String := []
  env : EnvMode := .inherit
  envAllow : List String := []
deriving DecidableEq, Repr

structure Authority where
  network : Network := .openAccess
  egressScope : Option String := none
  subprocess : Bool := true
deriving DecidableEq, Repr

structure Resources where
  wallTimeMs : Option Nat := none
  memoryBytes : Option Nat := none
  syscalls : Option Nat := none
  tokens : Option Nat := none
deriving DecidableEq, Repr

structure Spec where
  visibility : Visibility := {}
  authority : Authority := {}
  resources : Resources := {}
  minAssurance : Assurance := .insecureDev
deriving DecidableEq, Repr

def invalid (text : String) : ToolError := ⟨"ExecutionEnvironmentInvalid", text, none⟩

def shown (room : Nat) (value : PyObject) : Except ToolError String :=
  (value.repr room).mapError fun error =>
    ⟨if error.kind = .value then "ValueError" else "RecursionError", error.text, none⟩

def enumField {Value : Type} (room : Nat) (vocabulary : Axis Value) (fields : PyEntries)
    (key : String) (fallback : Value) : Except ToolError Value :=
  match Dict.Entries.find? key fields with
  | none => .ok fallback
  | some value =>
    match vocabulary.named? value with
    | some member => .ok member
    | none => do
      .error (invalid (key ++ "=" ++ (← shown room value) ++ " is not one of "
        ++ String.intercalate ", " vocabulary.names))

def asText? : PyObject → Option String
  | .str text => some text
  | _ => none

def tupleField (fields : PyEntries) (key : String) : Except ToolError (List String) :=
  match (fields.get key).orElse (.list []) with
  | .list items | .tuple items =>
    match items.mapM asText? with
    | some texts => .ok texts
    | none => .error (invalid (key ++ " must be a list of strings"))
  | _ => .error (invalid (key ++ " must be a list of strings"))

def optIntField (fields : PyEntries) (key : String) : Except ToolError (Option Nat) :=
  match fields.get key with
  | .null => .ok none
  | .int (.ofNat value) => .ok (some value)
  | _ => .error (invalid (key ++ " must be a non-negative int or null"))

def egressField (authority : PyEntries) : Except ToolError (Option String) :=
  match authority.get "egress_scope" with
  | .null => .ok none
  | .str scope => .ok (some scope)
  | _ => .error (invalid "egress_scope must be a string or null")

def subprocessField (authority : PyEntries) : Except ToolError Bool :=
  match Dict.Entries.find? "subprocess" authority with
  | none => .ok true
  | some (.bool allowed) => .ok allowed
  | some _ => .error (invalid "subprocess must be a bool")

def parseSections (room : Nat) (raw visibility authority resources : PyEntries) : Except ToolError Spec := do
  let minAssurance ← enumField room assuranceAxis raw "min_assurance" .insecureDev
  let egressScope ← egressField authority
  let subprocess ← subprocessField authority
  let filesystem ← enumField room filesystemAxis visibility "filesystem" .host
  let filesystemRoots ← tupleField visibility "filesystem_roots"
  let env ← enumField room envAxis visibility "env" .inherit
  let envAllow ← tupleField visibility "env_allow"
  let network ← enumField room networkAxis authority "network" .openAccess
  let wallTimeMs ← optIntField resources "wall_time_ms"
  let memoryBytes ← optIntField resources "memory_bytes"
  let syscalls ← optIntField resources "syscalls"
  let tokens ← optIntField resources "tokens"
  return {
    visibility := ⟨filesystem, filesystemRoots, env, envAllow⟩
    authority := ⟨network, egressScope, subprocess⟩
    resources := ⟨wallTimeMs, memoryBytes, syscalls, tokens⟩
    minAssurance }

def fromDict (room : Nat) : PyObject → Except ToolError Spec
  | .dict raw =>
    match (PyEntries.get raw "visibility").orElse (.dict []),
        (PyEntries.get raw "authority").orElse (.dict []),
        (PyEntries.get raw "resources").orElse (.dict []) with
    | .dict visibility, .dict authority, .dict resources => parseSections room raw visibility authority resources
    | _, _, _ => .error (invalid "visibility/authority/resources must be objects")
  | raw => .error (invalid ("spec must be a dict, got " ++ raw.typeName))

/-- `TOOL_FLOOR`: what a tool declares can only narrow it. -/
def toolFloor : Spec := {}

def narrower {Value : Type} [DecidableEq Value] (vocabulary : Axis Value)
    (declared floor : Value) : Value × Bool :=
  let d := vocabulary.order.idxOf declared
  let f := vocabulary.order.idxOf floor
  (vocabulary.order.getD (min d f) declared, decide (f < d))

def narrowerInt : Option Nat → Option Nat → Option Nat × Bool
  | none, floor => (floor, false)
  | some declared, none => (some declared, false)
  | some declared, some floor => (some (min declared floor), decide (floor < declared))

structure Paths where
  canonical : String → String
  within : String → String → Bool

variable (paths : Paths)

def clampRoots (declaredMode : Filesystem) (declaredRoots : List String) (floor : Spec) : List String × Bool :=
  let roots := declaredRoots.filter (· != "")
  if declaredMode = .none ∨ declaredMode = .host ∨ roots = [] then (roots, false)
  else if floor.visibility.filesystem = .host then (roots, false)
  else
    let floorRoots := (floor.visibility.filesystemRoots.filter (· != "")).map paths.canonical
    let kept := roots.filter fun root => floorRoots.any (paths.within (paths.canonical root))
    (kept, decide (kept.length ≠ roots.length))

def clampToFloor (declared floor : Spec) : Spec × List String :=
  let fs := narrower filesystemAxis declared.visibility.filesystem floor.visibility.filesystem
  let fsRoots := clampRoots paths fs.1 declared.visibility.filesystemRoots floor
  let envMode := narrower envAxis declared.visibility.env floor.visibility.env
  let net := narrower networkAxis declared.authority.network floor.authority.network
  let subprocessAllowed := declared.authority.subprocess && floor.authority.subprocess
  let wall := narrowerInt declared.resources.wallTimeMs floor.resources.wallTimeMs
  let mem := narrowerInt declared.resources.memoryBytes floor.resources.memoryBytes
  let sysc := narrowerInt declared.resources.syscalls floor.resources.syscalls
  let toks := narrowerInt declared.resources.tokens floor.resources.tokens
  ({ visibility :=
      ⟨fs.1, fsRoots.1, envMode.1, declared.visibility.envAllow⟩
     authority := ⟨net.1, declared.authority.egressScope, subprocessAllowed⟩
     resources := ⟨wall.1, mem.1, sysc.1, toks.1⟩
     minAssurance :=
      if assuranceRank declared.minAssurance < assuranceRank floor.minAssurance then
        floor.minAssurance
      else declared.minAssurance }, [("visibility.filesystem", fs.2), ("visibility.filesystem_roots", fsRoots.2),
    ("visibility.env", envMode.2), ("authority.network", net.2),
    ("authority.subprocess", declared.authority.subprocess && !floor.authority.subprocess),
    ("resources.wall_time_ms", wall.2), ("resources.memory_bytes", mem.2),
    ("resources.syscalls", sysc.2), ("resources.tokens", toks.2)].filterMap
      fun (field, widened) => if widened then some field else none)

theorem narrower_host (declared : Filesystem) : narrower filesystemAxis declared .host = (declared, false) := by
  cases declared <;> rfl

theorem narrower_inherit (declared : EnvMode) : narrower envAxis declared .inherit = (declared, false) := by
  cases declared <;> rfl

theorem narrower_open (declared : Network) : narrower networkAxis declared .openAccess = (declared, false) := by
  cases declared <;> rfl

theorem narrowerInt_none (declared : Option Nat) : narrowerInt declared none = (declared, false) := by
  cases declared <;> rfl

theorem clampRoots_toolFloor (mode : Filesystem) (roots : List String) :
    clampRoots paths mode roots toolFloor = (roots.filter (· != ""), false) := by
  simp only [clampRoots]
  split
  · rfl
  · exact if_pos rfl

/-- A tool's own floor bounds nothing: every declared limit stands. -/
theorem clampToFloor_toolFloor (declared : Spec) :
    clampToFloor paths declared toolFloor =
      ({ declared with
          visibility.filesystemRoots :=
            declared.visibility.filesystemRoots.filter (· != "") }, []) := by
  have assured : ¬ assuranceRank declared.minAssurance < assuranceRank toolFloor.minAssurance := by
    cases declared.minAssurance <;> decide
  simp only [clampToFloor, clampRoots_toolFloor, if_neg assured]
  simp [toolFloor, narrower_host, narrower_inherit, narrower_open, narrowerInt_none]

inductive SpawnValue where
  | environ (entries : List (String × String))
  | path (text : String)
  | milliseconds (count : Nat)
deriving DecidableEq, Repr

abbrev Kwargs : Type := List (String × SpawnValue)

def essential : List String := ["PATH", "PYTHONPATH", "PYTHONHOME", "SYSTEMROOT", "TEMP", "TMP"]

/-- Only what the spec determines: `env`, `cwd` and, for a wall time other than
`0`, `timeout`. -/
def subprocessConfinement (environ : List (String × String)) (spec : Spec)
    (scratchRoot : String) (defaultTimeout : Nat) : Kwargs :=
  (if spec.visibility.env = .none ∨ spec.visibility.env = .allowlist then
    [("env", .environ (environ.filter fun entry =>
      decide (entry.1 ∈ spec.visibility.envAllow ∨ entry.1 ∈ essential)))]
   else [])
  ++ (if spec.visibility.filesystem = .host then [] else [("cwd", .path scratchRoot)])
  ++ (match spec.resources.wallTimeMs with
      | some (wall + 1) => [("timeout", .milliseconds (min defaultTimeout (wall + 1)))]
      | _ => [])

end AindyRuntime.Environment
