import AindyRuntime.FlowEngine.FanOut

/-! # Flow definitions and their successors

The dictionaries a flow is declared with, and `node_executor.py` on them: which
node, or which fan-out group, a finished node leads to.
-/

namespace AindyRuntime.FlowEngine

abbrev State := Dict String Json

abbrev Predicate := State → Except PyError Bool

structure GatedEdge where
  target : Option String
  condition : Option Predicate
  «when» : Option String

inductive Edge where
  | bare (target : String)
  | gated (edge : GatedEdge)
  | group (group : FanOutEdgeGroup)

inductive EdgeSet where
  | list (edges : List Edge)
  | group (group : FanOutEdgeGroup)

structure CellPolicy where
  (policy op : String)
  writers : List String
deriving DecidableEq, Repr

structure Flow where
  start : String
  endNodes : List String
  edges : Dict String EdgeSet
  statePolicies : Dict String CellPolicy
  maxRetries : Dict String Int

abbrev Predicates := Dict String Predicate

def Flow.edgesOf (flow : Flow) (node : String) : EdgeSet :=
  (flow.edges.get? node).getD (.list [])

inductive Successor where
  | node (name : String)
  | group (group : FanOutEdgeGroup)
deriving DecidableEq

variable (predicates : Predicates)

def unknownPredicate (name node : String) : PyError :=
  ⟨.lookup, "edge from node " ++ quote node ++ " names predicate " ++ quote name
    ++ ", which is not registered (registered: " ++ quoteAll (sortNames predicates.keys)
    ++ "). Register it with @register_predicate(" ++ quote name ++ ") before the flow runs."⟩

def GatedEdge.targetText (edge : GatedEdge) : String := (edge.target.map quote).getD "None"

def edgePredicate (node : String) (edge : GatedEdge) : Except PyError Predicate :=
  match edge.condition, edge.when with
  | some _, some _ => .error ⟨.value, "edge from node " ++ quote node ++ " to " ++ edge.targetText
      ++ " declares both 'condition' and 'when'; a conditional edge has exactly one gate."⟩
  | none, some name =>
    match predicates.get? name with
    | some predicate => .ok predicate
    | none => .error (unknownPredicate predicates name node)
  | some condition, none => .ok condition
  | none, none => .error ⟨.value, "edge from node " ++ quote node ++ " to " ++ edge.targetText
      ++ " is a dict with neither 'condition' nor 'when'; a conditional edge needs a gate."⟩

/-- The first edge whose gate opens.  A list that starts with a dictionary is
read as dictionaries throughout, so any other edge in it raises. -/
def firstOpen (predicates : Predicates) (node : String) (state : State) :
    List Edge → Except PyError (Option Successor)
  | [] => .ok none
  | .gated edge :: rest => do
    let predicate ← edgePredicate predicates node edge
    if ← predicate state then
      match edge.target with
      | some target => .ok (some (.node target))
      | none => .error ⟨.lookup, "'target'"⟩
    else firstOpen predicates node state rest
  | .bare _ :: _ => .error ⟨.other, "'str' object has no attribute 'get'"⟩
  | .group _ :: _ => .error ⟨.other, "argument of type 'FanOutEdgeGroup' is not iterable"⟩

def resolveNextNode (flow : Flow) (node : String) (state : State) : Except PyError (Option Successor) :=
  match flow.edgesOf node with
  | .group _ => .error ⟨.other, "'FanOutEdgeGroup' object is not subscriptable"⟩
  | .list [] => .ok none
  | .list (.gated edge :: rest) => firstOpen predicates node state (.gated edge :: rest)
  | .list (.bare target :: _) => .ok (some (.node target))
  | .list (.group group :: _) => .ok (some (.group group))

def firstGroup : List Edge → Option FanOutEdgeGroup
  | [] => none
  | .group group :: _ => some group
  | _ :: rest => firstGroup rest

def fanOutGroupFor (flow : Flow) (node : String) : Option FanOutEdgeGroup :=
  match flow.edgesOf node with
  | .group group => some group
  | .list edges => firstGroup edges

inductive Frontier where
  | none
  | single (successor : Successor)
  | superstep (group : FanOutEdgeGroup)
deriving DecidableEq

def Frontier.ofNext : Option Successor → Frontier
  | .none => .none
  | some successor => .single successor

def resolveFrontier (flow : Flow) (node : String) (state : State) : Except PyError Frontier :=
  match flow.edgesOf node with
  | .group group => .ok (.superstep group)
  | .list edges =>
    match firstGroup edges with
    | some group =>
      if edges.length ≠ 1 then
        .error ⟨.value, "node " ++ quote node ++ " declares a FanOutEdgeGroup alongside "
          ++ toString (edges.length - 1) ++ " other edge(s). A group IS the successor set for "
          ++ "a node; mixing it with sibling edges has no defined order."⟩
      else .ok (.superstep group)
    | none => (resolveNextNode predicates flow node state).map Frontier.ofNext

variable {predicates : Predicates}

theorem resolveFrontier_superstep
    (resolved : resolveFrontier predicates flow node state = .ok (.superstep group)) :
    fanOutGroupFor flow node = some group := by
  simp only [resolveFrontier] at resolved
  simp only [fanOutGroupFor]
  split at resolved
  · cases resolved
    rfl
  · split at resolved
    case h_1 present =>
      split at resolved <;> cases resolved
      · exact present
    · cases next : resolveNextNode predicates flow node state with
      | error => simp [next, Except.map] at resolved
      | ok successor => cases successor <;> simp [next, Except.map, Frontier.ofNext] at resolved

theorem resolveFrontier_single
    (resolved : resolveFrontier predicates flow node state = .ok (.single successor)) :
    fanOutGroupFor flow node = none := by
  simp only [resolveFrontier] at resolved
  simp only [fanOutGroupFor]
  split at resolved
  · cases resolved
  · split at resolved
    · split at resolved <;> cases resolved
    case h_2 undeclared => exact undeclared

end AindyRuntime.FlowEngine
