import PipelineCompiler.Document.Source
import PipelineCompiler.Publishing
import PipelineCompiler.Template
import PipelineCompiler.Text.Lines

namespace PipelineCompiler.CommandLine

/-- Why a file operation fails. -/
inductive FileFault where
  | notFound
  | alreadyExists
  | notDirectory
  | isDirectory
  | notText
  /-- Any other reason, in the words of the system. -/
  | other (cause : String)
  deriving DecidableEq, Repr, Inhabited

def FileFault.message : FileFault → String
  | notFound => "No such file or directory (os error 2)"
  | alreadyExists => "File exists (os error 17)"
  | notDirectory => "Not a directory (os error 20)"
  | isDirectory => "Is a directory (os error 21)"
  | notText => "stream did not contain valid UTF-8"
  | other cause => cause

/-- How a run can fail. -/
inductive Failure where
  | graph (cause : GraphFault)
  | publish (cause : PublishFault)
  | unreadableSettings (path : String) (cause : FileFault)
  | settings (path : String) (cause : Fault)
  | logFilter
  | unknownTemplate (name : String)
  | noRepository
  | pushNeedsNetwork
  | creation (path : String) (cause : FileFault)
  | writing (path : String) (cause : FileFault)
  | warnings (count : Nat)
  deriving Repr

namespace Failure

/-- What a failure counts as. -/
inductive Kind where
  | configuration
  | diagnostics
  | publishing
  deriving DecidableEq, Repr

def kind : Failure → Kind
  | warnings _ => .diagnostics
  | publish (.authentication _) | publish (.remote _) => .publishing
  | _ => .configuration

def Kind.exitCode : Kind → Nat
  | diagnostics => 1
  | configuration => 2
  | publishing => 3

def exitCode (f : Failure) : Nat := f.kind.exitCode

def detail : Failure → String
  | graph cause => cause.message
  | publish cause => cause.message
  | unreadableSettings path cause => "Failed to read settings " ++ path ++ ": " ++ cause.message
  | settings path cause => "Invalid settings in " ++ path ++ ": " ++ Text.firstLine cause.message
  | logFilter => "Failed to create tracing filter: invalid filter directive"
  | unknownTemplate name => "Unknown template '" ++ name ++ "'"
  | noRepository => "No repository given"
  | pushNeedsNetwork => "push requires the async runtime"
  | creation path cause => "Failed to create " ++ path ++ ": " ++ cause.message
  | writing path cause => "Failed to write " ++ path ++ ": " ++ cause.message
  | warnings count => "Graph check failed with " ++ toString count ++ " warning(s)"

def message (f : Failure) : String :=
  match f.kind with
  | .configuration => "CLI/configuration error: " ++ f.detail
  | .publishing => "Publish error: " ++ f.detail
  | .diagnostics => f.detail

def help? : Failure → Option String
  | graph (.configuration _ _ _) | graph (.document _ _) =>
      some "Graph documents are JSON (or YAML for .yml/.yaml) with `nodes` and `edges`"
  | graph (.file _ _) => some "Check file permissions and ensure the path exists"
  | publish (.invalidRepository _) => some "Pass the repository as --repo owner/name"
  | publish (.authentication _) =>
      some "Set GITHUB_TOKEN (or the variable named by [publish] token_env)"
  | publish (.remote _) => some "Check that the token can write repository contents"
  | settings _ _ => some "Known sections are [output], [publish] and [log]"
  | logFilter => some "Check the [log] filter in pipeforge.toml"
  | unknownTemplate _ =>
      some ("Available templates: " ++ ", ".intercalate (Template.all.map Template.name))
  | noRepository =>
      some "Pass --repo owner/name or set `repository` under [publish] in pipeforge.toml"
  | graph (.serialization _) | unreadableSettings _ _ | pushNeedsNetwork | creation _ _
    | writing _ _ => none
  | warnings _ => some "Run without --strict to generate anyway"

end Failure

/-- The exit code of what may fail. -/
def exitCode {α : Type} : Except Failure α → Nat
  | .ok _ => 0
  | .error f => f.exitCode

end PipelineCompiler.CommandLine
