import PipelineCompiler.Block
import PipelineCompiler.JobKey

namespace PipelineCompiler

inductive Role where
  | trigger
  | job
  deriving DecidableEq, Repr, Inhabited

def Role.name : Role → String
  | trigger => "trigger"
  | job => "job"

abbrev NodeId := String

structure Node where
  id : NodeId
  label : String
  block : Block
  deriving DecidableEq, Repr, Inhabited

namespace Node

def role (n : Node) : Role :=
  match n.block with
  | .trigger _ => .trigger
  | .job _ => .job

def blockType (n : Node) : String := n.block.blockType

/-- The key that the job of this node is written under. -/
def jobKey (n : Node) : String := JobKey.normalize n.label

def trigger? (n : Node) : Option Trigger :=
  match n.block with
  | .trigger t => some t
  | .job _ => none

def job? (n : Node) : Option Job :=
  match n.block with
  | .job j => some j
  | .trigger _ => none

def isJob (n : Node) : Bool := n.job?.isSome

end Node

structure Edge where
  source : NodeId
  target : NodeId
  deriving DecidableEq, Repr, Inhabited

/-- Nodes and edges in the order they were placed. Nothing forbids repeated ids, edges
to nowhere or cycles. -/
structure Graph where
  nodes : List Node := []
  edges : List Edge := []
  deriving DecidableEq, Repr, Inhabited

namespace Graph

def addNode (g : Graph) (n : Node) : Graph := { g with nodes := g.nodes ++ [n] }

def addEdge (g : Graph) (e : Edge) : Graph := { g with edges := g.edges ++ [e] }

def isEmpty (g : Graph) : Bool := g.nodes.isEmpty

/-- The first node with an id. -/
def node? (g : Graph) (id : NodeId) : Option Node := g.nodes.find? (·.id == id)

def triggers (g : Graph) : List (Node × Trigger) :=
  g.nodes.filterMap fun n => n.trigger?.map (n, ·)

/-- The first trigger, the one that counts. -/
def trigger? (g : Graph) : Option (Node × Trigger) := g.triggers.head?

def jobs (g : Graph) : List (Node × Job) :=
  g.nodes.filterMap fun n => n.job?.map (n, ·)

/-- The edges that end at an id. -/
def incoming (g : Graph) (id : NodeId) : List Edge := g.edges.filter (·.target == id)

/-- The branch that the pipeline belongs to. -/
def branch (g : Graph) : String :=
  match g.trigger? with
  | some (_, t) => t.branch
  | none => Trigger.defaultBranch

/-- Applies a change to the first node with an id. -/
def modifyFirst (id : NodeId) (f : Node → Node) : List Node → List Node
  | [] => []
  | n :: rest => if n.id == id then f n :: rest else n :: modifyFirst id f rest

end Graph

end PipelineCompiler
