import PipelineCompiler.Document.NodeRecord
import PipelineCompiler.Json.Layout

namespace PipelineCompiler.Document

open Json (Value)

def nodeValue (n : Node) : Value :=
  let r := NodeRecord.ofNode n
  .object [("id", .text r.id), ("role", .text r.role.name), ("blockType", .text r.blockType),
    ("label", .text r.label), ("configuration", .object r.configuration)]

def edgeValue (e : Edge) : Value := .object [("source", .text e.source), ("target", .text e.target)]

def graphValue (g : Graph) : Value :=
  .object [("nodes", .array (g.nodes.map nodeValue)), ("edges", .array (g.edges.map edgeValue))]

def toJson (g : Graph) : String := (graphValue g).pretty 0

end PipelineCompiler.Document
