import PipelineCompiler.Graph

namespace PipelineCompiler.Dependency

/-- The keys of the jobs at the other end of the edges into a node, edge by edge. -/
def needs (g : Graph) (n : Node) : List String :=
  (g.incoming n.id).filterMap fun e =>
    (g.node? e.source).bind fun source => if source.isJob then some source.jobKey else none

/-- The job nodes that are the first node with their id. -/
def vertices (g : Graph) : List Node := go [] g.nodes
where
  go (seen : List NodeId) : List Node → List Node
    | [] => []
    | n :: rest =>
        if n.id ∈ seen then go seen rest
        else if n.isJob then n :: go (n.id :: seen) rest
        else go (n.id :: seen) rest

/-- The edges between ids. -/
abbrev Arrows := List (NodeId × NodeId)

def arrows (g : Graph) : Arrows :=
  let ids := (vertices g).map (·.id)
  (g.edges.filter fun e => ids.contains e.source && ids.contains e.target).map fun e =>
    (e.source, e.target)

/-- The ids that one arrow leads to from a set, except those that are seen already. -/
def ahead (arrows : Arrows) (seen edge : List NodeId) : List NodeId :=
  (arrows.filterMap fun (s, t) =>
    if edge.contains s && !seen.contains t then some t else none).eraseDups

/-- Follows the arrows from the edge of what is seen until nothing new is met, in at most the
given number of rounds. -/
def close (arrows : Arrows) : Nat → List NodeId → List NodeId → List NodeId
  | 0, seen, _ => seen
  | n + 1, seen, edge =>
      match ahead arrows seen edge with
      | [] => seen
      | next => close arrows n (seen ++ next) next

/-- The ids that can be reached by one or more arrows. -/
def reachable (arrows : Arrows) (ids : List NodeId) (v : NodeId) : List NodeId :=
  close arrows (ids.length + 1) [] [v]

/-- The cycles: classes of vertices that reach each other, in node order. -/
def cycles (g : Graph) : List (List Node) :=
  let vs := vertices g
  let ids := vs.map (·.id)
  let table := vs.map fun v => (v, reachable (arrows g) ids v.id)
  collect table [] table
where
  collect (table : List (Node × List NodeId)) (done : List NodeId) :
      List (Node × List NodeId) → List (List Node)
    | [] => []
    | (v, reach) :: rest =>
        if reach.contains v.id && !done.contains v.id then
          let members := table.filter fun (w, back) => reach.contains w.id && back.contains v.id
          members.map (·.1) :: collect table (members.map (·.1.id) ++ done) rest
        else collect table done rest

end PipelineCompiler.Dependency
