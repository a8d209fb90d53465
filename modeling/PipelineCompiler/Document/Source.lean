import PipelineCompiler.Document.JsonReader
import PipelineCompiler.Document.YamlReader
import PipelineCompiler.Path

namespace PipelineCompiler

inductive DocumentFormat where
  | json
  | yaml
  deriving DecidableEq, Repr, Inhabited

namespace DocumentFormat

def name : DocumentFormat → String
  | json => "json"
  | yaml => "yaml"

/-- A path names a YAML document by its extension; any other is JSON. -/
def ofPath (path : String) : DocumentFormat :=
  match (Path.fileName? path).bind fun name => Path.extension? name.toList with
  | some ['y', 'm', 'l'] | some ['y', 'a', 'm', 'l'] => yaml
  | _ => json

end DocumentFormat

/-- Why there is no graph, or no text of one. -/
inductive GraphFault where
  | configuration (node blockType cause : String)
  | document (origin cause : String)
  | serialization (cause : String)
  | file (path cause : String)
  deriving DecidableEq, Repr

def GraphFault.message : GraphFault → String
  | configuration node blockType cause =>
      "Invalid configuration for node '" ++ node ++ "' (" ++ blockType ++ "): " ++ cause
  | document origin cause => "Failed to parse pipeline graph from " ++ origin ++ ": " ++ cause
  | serialization cause => "Failed to serialize pipeline graph: " ++ cause
  | file path cause => "Failed to read " ++ path ++ ": " ++ cause

namespace Document

def parse (format : DocumentFormat) (text : String) : Except PlacedFault Graph :=
  match format with
  | .json => (JsonReader.graphOfText text).mapError (PlacedFault.mk [])
  | .yaml => YamlReader.graphOfText text

/-- The graph of a text that comes from somewhere. -/
def parseFrom (origin : String) (format : DocumentFormat) (text : String) :
    Except GraphFault Graph :=
  (parse format text).mapError fun f => .document origin f.message

end Document

end PipelineCompiler
