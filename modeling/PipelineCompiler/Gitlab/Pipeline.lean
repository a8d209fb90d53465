import PipelineCompiler.Stage
import PipelineCompiler.Text.Lines

namespace PipelineCompiler.Gitlab

structure Cache where
  key : String
  paths : List String
  deriving DecidableEq, Repr, Inhabited

structure Rule where
  condition : String
  deriving DecidableEq, Repr, Inhabited

/-- Holds when the pipeline is for a branch. -/
def Rule.onBranch (branch : String) : Rule := ⟨"$CI_COMMIT_BRANCH == \"" ++ branch ++ "\""⟩

structure Job where
  stage : Stage
  image : Option String := none
  services : List String := []
  needs : List String := []
  cache : Option Cache := none
  script : List String := []
  rules : List Rule := []
  deriving DecidableEq, Repr, Inhabited

structure Pipeline where
  defaultImage : String
  stages : List Stage
  /-- Jobs and their keys; two jobs may have the same key. -/
  jobs : List (String × Job)
  deriving DecidableEq, Repr, Inhabited

/-- A titled list, left out if it is empty. -/
def listLines (title : String) : List String → List String
  | [] => []
  | items => ("  " ++ title ++ ":") :: items.map ("    - " ++ ·)

def Cache.lines (c : Cache) : List String :=
  ["  cache:", "    key: " ++ c.key, "    paths:"] ++ c.paths.map ("      - " ++ ·)

def Job.lines (j : Job) : List String :=
  ["  stage: " ++ j.stage.name] ++
    j.image.toList.map ("  image: " ++ ·) ++
    listLines "services" j.services ++
    (if j.needs.isEmpty then []
      else ["  needs: [" ++ ", ".intercalate (j.needs.map fun n => "\"" ++ n ++ "\"") ++ "]"]) ++
    j.cache.toList.flatMap Cache.lines ++
    ["  script:"] ++ j.script.map ("    - " ++ ·) ++
    listLines "rules" (j.rules.map fun r => "if: " ++ r.condition) ++ [""]

namespace Pipeline

/-- The list of stages; an empty list leaves its line blank. -/
def stageLines : List Stage → List String
  | [] => [""]
  | stages => stages.map fun s => "  - " ++ s.name

def header (p : Pipeline) : List String :=
  ["# GitLab CI Pipeline", "# Generated by PipeForge", "", "default:",
    "  image: " ++ p.defaultImage, "", "stages:"] ++ stageLines p.stages ++ [""]

def jobSection (key : String) (j : Job) : List String := (key ++ ":") :: j.lines

/-- The text of a pipeline. Whatever it holds is written as it is. -/
def render (p : Pipeline) : String :=
  Text.unlines (p.header ++ p.jobs.flatMap fun (key, j) => jobSection key j)

end Pipeline

end PipelineCompiler.Gitlab
