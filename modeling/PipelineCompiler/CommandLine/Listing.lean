import PipelineCompiler.Catalog
import PipelineCompiler.Emitter
import PipelineCompiler.Json.Layout
import PipelineCompiler.Text.Lines

namespace PipelineCompiler.CommandLine.Listing

/-- Fills up with spaces on the right. -/
def padRight (width : Nat) (s : String) : String :=
  s ++ String.ofList (List.replicate (width - s.length) ' ')

def formatLine (i : EmitterInfo) : String :=
  padRight 8 i.format ++ padRight 28 i.path ++ i.description

def formats (r : Registry) : String := Text.unlines (r.info.map formatLine)

def blockWidth : Nat := (Catalog.entries.map (·.blockType.length)).foldl max 0

def blockLine (e : CatalogEntry) : String :=
  "  " ++ padRight blockWidth e.blockType ++ "  " ++ e.label ++ ": " ++ e.description

/-- The lines of blocks, those of a category under its title and apart from the others. -/
def blockLines : Option Category → List CatalogEntry → List String
  | _, [] => []
  | current, e :: rest =>
      (if current = some e.category then []
        else (if current.isSome then [""] else []) ++ [e.category.title]) ++
      blockLine e :: blockLines (some e.category) rest

def blocks : String := Text.unlines (blockLines none Catalog.entries)

def blockValue (e : CatalogEntry) : Json.Value :=
  .object [("blockType", .text e.blockType), ("role", .text e.role.name), ("label", .text e.label),
    ("description", .text e.description), ("category", .text e.category.tag)]

def blocksJson : String := (Json.Value.array (Catalog.entries.map blockValue)).pretty 0 ++ "\n"

end PipelineCompiler.CommandLine.Listing
