import PipelineCompiler.Graph

namespace PipelineCompiler

inductive Stage where
  | test
  | build
  | deploy
  deriving DecidableEq, Repr, Inhabited

namespace Stage

def name : Stage → String
  | test => "test"
  | build => "build"
  | deploy => "deploy"

/-- Whether a text starts with another. -/
def startsWith : List Char → List Char → Bool
  | [], _ => true
  | _ :: _, [] => false
  | p :: ps, c :: cs => p == c && startsWith ps cs

def contains (part : List Char) : List Char → Bool
  | [] => part.isEmpty
  | c :: cs => startsWith part (c :: cs) || contains part cs

def classify (blockType : String) : Stage :=
  if startsWith "deploy".toList blockType.toList then deploy
  else if contains "build".toList blockType.toList ∨ blockType = "cache" then build
  else test

/-- Adds a stage unless it is there. -/
def addTo (stages : List Stage) (s : Stage) : List Stage :=
  if s ∈ stages then stages else stages ++ [s]

/-- The stages of the jobs in the order of their first use. -/
def ofGraph (g : Graph) : List Stage :=
  (g.jobs.map fun (n, _) => classify n.blockType).foldl addTo []

end Stage

end PipelineCompiler
