import PipelineCompiler.Dependency

namespace PipelineCompiler

/-- What is told of a graph that compiles but is probably not meant. -/
inductive Warning where
  | multipleTriggers (honored : NodeId) (ignored : List NodeId)
  | unknownBlockType (node : NodeId) (blockType : String)
  | duplicateJobKey (key : String) (nodes : List NodeId)
  | danglingEdge (source target missing : NodeId)
  | dependencyCycle (jobs : List String)
  deriving DecidableEq, Repr, Inhabited

def Warning.message : Warning → String
  | multipleTriggers honored ignored =>
      "Multiple trigger nodes: '" ++ honored ++ "' is used, ignoring " ++ ", ".intercalate ignored
  | unknownBlockType node blockType =>
      "Node '" ++ node ++ "' has unknown block type '" ++ blockType ++
        "'; only a checkout step is emitted"
  | duplicateJobKey key nodes =>
      "Job id '" ++ key ++ "' is emitted more than once (nodes " ++ ", ".intercalate nodes ++ ")"
  | danglingEdge source target missing =>
      "Edge '" ++ source ++ "' -> '" ++ target ++ "' references unknown node '" ++ missing ++ "'"
  | dependencyCycle jobs => "Jobs depend on each other in a cycle: " ++ " -> ".intercalate jobs

namespace Diagnostic

/-- Only the first trigger counts. -/
def ofTriggers (g : Graph) : List Warning :=
  match g.triggers with
  | (honored, _) :: (n, t) :: rest =>
      [.multipleTriggers honored.id (((n, t) :: rest).map fun (n, _) => n.id)]
  | _ => []

def ofBlockTypes (g : Graph) : List Warning :=
  (g.jobs.filter fun (_, j) => !j.kind.isKnown).map fun (n, j) =>
    .unknownBlockType n.id j.kind.blockType

/-- Adds a node to the group of its key. -/
def addToGroup (key : String) (id : NodeId) :
    List (String × List NodeId) → List (String × List NodeId)
  | [] => [(key, [id])]
  | (k, ids) :: rest =>
      if k = key then (k, ids ++ [id]) :: rest else (k, ids) :: addToGroup key id rest

/-- The job nodes by key, in the order in which the keys appear. -/
def groups (g : Graph) : List (String × List NodeId) :=
  g.jobs.foldl (fun groups (n, _) => addToGroup n.jobKey n.id groups) []

def ofJobKeys (g : Graph) : List Warning :=
  ((groups g).filter fun (_, ids) => ids.length > 1).map fun (key, ids) => .duplicateJobKey key ids

/-- The first end of an edge that no node has. -/
def missingEnd? (g : Graph) (e : Edge) : Option NodeId :=
  [e.source, e.target].find? fun id => (g.node? id).isNone

def ofEdges (g : Graph) : List Warning :=
  g.edges.filterMap fun e => (missingEnd? g e).map fun id => .danglingEdge e.source e.target id

def ofCycles (g : Graph) : List Warning :=
  (Dependency.cycles g).map fun c => .dependencyCycle (c.map Node.jobKey)

def diagnose (g : Graph) : List Warning :=
  ofTriggers g ++ ofBlockTypes g ++ ofJobKeys g ++ ofEdges g ++ ofCycles g

end Diagnostic

end PipelineCompiler
