import PipelineCompiler.Text.Lines

namespace PipelineCompiler.Github

structure Step where
  name : String
  action : Option String := none
  command : Option String := none
  inputs : List (String × String) := []
  env : List (String × String) := []
  deriving DecidableEq, Repr, Inhabited

structure Job where
  runsOn : String
  needs : List String
  steps : List Step
  deriving DecidableEq, Repr, Inhabited

inductive Start where
  | branch (event branch : String)
  | schedule (cron : String)
  | event (name : String)
  deriving DecidableEq, Repr, Inhabited

structure Workflow where
  name : String
  start : Start
  /-- Jobs and their keys; two jobs may have the same key. -/
  jobs : List (String × Job)
  deriving DecidableEq, Repr, Inhabited

def entryLines (title : String) : List (String × String) → List String
  | [] => []
  | entries =>
      ("        " ++ title ++ ":") :: entries.map fun (k, v) => "          " ++ k ++ ": " ++ v

namespace Step

def uses (name action : String) (inputs : List (String × String) := [])
    (env : List (String × String) := []) : Step :=
  { name, action := some action, inputs, env }

def runs (name command : String) : Step := { name, command := some command }

def lines (s : Step) : List String :=
  ["      - name: " ++ s.name] ++
    s.action.toList.map ("        uses: " ++ ·) ++
    s.command.toList.map ("        run: " ++ ·) ++
    entryLines "with" s.inputs ++ entryLines "env" s.env ++ [""]

end Step

def Job.lines (j : Job) : List String :=
  ["    runs-on: " ++ j.runsOn] ++
    (if j.needs.isEmpty then [] else ["    needs: [" ++ ", ".intercalate j.needs ++ "]"]) ++
    ["    steps:"] ++ j.steps.flatMap Step.lines

def Start.lines : Start → List String
  | .branch on only => ["on:", "  " ++ on ++ ":", "    branches: [\"" ++ only ++ "\"]", ""]
  | .schedule cron => ["on:", "  schedule:", "    - cron: \"" ++ cron ++ "\"", ""]
  | .event name => ["on: [" ++ name ++ "]", ""]

namespace Workflow

/-- Stands where the jobs would be. -/
def noJobs : String := "# Add job blocks to define your pipeline steps"

/-- The section of one job, with the blank line before it. -/
def jobSection (key : String) (j : Job) : List String := ["", "  " ++ key ++ ":"] ++ j.lines

def header (w : Workflow) : List String := ["name: " ++ w.name, ""] ++ w.start.lines

/-- The text of a workflow. Whatever it holds is written as it is, so what needs quotes
carries them already. -/
def render (w : Workflow) : String :=
  match w.jobs with
  | [] => Text.unlines w.header ++ noJobs
  | jobs => Text.unlines (w.header ++ ["jobs:"] ++ jobs.flatMap fun (key, j) => jobSection key j)

end Workflow

end PipelineCompiler.Github
