import AindyRuntime.FlowEngine.Definition

/-! # The topology signature

`runtime/flow_engine/graph_signature.py`: the canonical value of a flow's shape
and the comparison of two digests of it.
-/

namespace AindyRuntime.FlowEngine

def signatureVersion : Int := 1

def canonicalGroup (group : FanOutEdgeGroup) : Json :=
  .obj (("fan_out", .arr (group.targets.map .str)) :: match group.join with
    | .all => []
    | .any => [("join", .str "any")]
    | .quorum required => [("join", .str "quorum"), ("quorum", .int required)])

def canonicalEdge : Edge → Json
  | .group group => canonicalGroup group
  | .gated edge =>
    match edge.when with
    | some name => .obj [("target", .str (edge.target.getD "")), ("when", .str name)]
    | none => .obj [("target", .str (edge.target.getD "")), ("gated", .bool true)]
  | .bare target => .str target

def EdgeSet.toEdges : EdgeSet → List Edge
  | .list edges => edges
  | .group fanOut => [.group fanOut]

/-- Sources are sorted; the edges of one source keep their order. -/
def canonicalEdges (flow : Flow) : Json :=
  .obj ((sortNames flow.edges.keys).map fun source =>
    (source, .arr ((flow.edgesOf source).toEdges.map canonicalEdge)))

def canonicalFlow (flow : Flow) : Json :=
  .obj [("v", .int signatureVersion), ("start", .str flow.start),
    ("end", .arr ((sortNames flow.endNodes).map .str)), ("edges", canonicalEdges flow)]

def flowTopologySignature (digest : Json → String) (flow : Flow) : String :=
  digest (canonicalFlow flow)

def signaturesConflict (recorded current : Option String) : Bool :=
  (recorded.getD "" != "") && (current.getD "" != "") && recorded != current

end AindyRuntime.FlowEngine
