import PipelineCompiler.Document.Configuration

namespace PipelineCompiler.Document

open Json (Value)

/-- A node as documents write it, its configuration still open. -/
structure NodeRecord where
  id : String
  role : Role
  blockType : String
  label : String := ""
  configuration : List (String × Value) := []

def NodeRecord.toBlock (r : NodeRecord) : Except Fault Block :=
  match r.role with
  | .trigger => do
      let settings ← Configuration.readTrigger (.object r.configuration)
      return .trigger ⟨r.blockType, settings⟩
  | .job => do
      let kind ← Configuration.readKind r.blockType (.object r.configuration)
      let options ← Configuration.readOptions (.object r.configuration)
      return .job ⟨kind, options⟩

/-- The node, or the fault of its configuration. -/
def NodeRecord.toNode (r : NodeRecord) : Except Fault Node :=
  match r.toBlock with
  | .ok block => .ok ⟨r.id, r.label, block⟩
  | .error cause => .error (.configuration r.id r.blockType cause)

def NodeRecord.ofNode (n : Node) : NodeRecord :=
  ⟨n.id, n.role, n.blockType, n.label, Configuration.ofBlock n.block⟩

/-- Fields of a record that have been read so far. -/
structure NodeFields where
  id : Option String := none
  role : Option Role := none
  blockType : Option String := none
  label : Option String := none
  configuration : Option (List (String × Value)) := none

def nodeName : String := "NodeDocument"

/-- The first required field that is absent is reported. -/
def NodeFields.toRecord (f : NodeFields) : Except Fault NodeRecord :=
  match f.id, f.role, f.blockType with
  | none, _, _ => .error (.missingField "id")
  | _, none, _ => .error (.missingField "role")
  | _, _, none => .error (.missingField "blockType")
  | some id, some role, some blockType =>
      .ok ⟨id, role, blockType, f.label.getD "", f.configuration.getD []⟩

def edgeName : String := "Edge"

structure EdgeFields where
  source : Option String := none
  target : Option String := none

def EdgeFields.toEdge (f : EdgeFields) : Except Fault Edge :=
  match f.source, f.target with
  | none, _ => .error (.missingField "source")
  | _, none => .error (.missingField "target")
  | some source, some target => .ok ⟨source, target⟩

def graphName : String := "PipelineGraph"

structure GraphFields where
  nodes : Option (List Node) := none
  edges : Option (List Edge) := none

def GraphFields.toGraph (f : GraphFields) : Graph := ⟨f.nodes.getD [], f.edges.getD []⟩

def roleOfName (name : String) : Except Fault Role :=
  match name with
  | "trigger" => .ok .trigger
  | "job" => .ok .job
  | _ => .error (.unknownVariant name ["trigger", "job"])

end PipelineCompiler.Document
