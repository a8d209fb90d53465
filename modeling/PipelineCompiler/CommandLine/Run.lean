import PipelineCompiler.CommandLine.Failure
import PipelineCompiler.CommandLine.Invocation
import PipelineCompiler.CommandLine.Listing
import PipelineCompiler.Diagnostic
import PipelineCompiler.Document.JsonWriter
import PipelineCompiler.Settings

namespace PipelineCompiler.CommandLine

/-- What can be read. -/
structure Files where
  isFile : String → Bool
  read : String → Except FileFault String

structure FileWrite where
  path : String
  text : String
  deriving DecidableEq, Repr

/-- What a run answers: the text for the terminal and at most one file to write. -/
structure Reply where
  stdout : String
  write? : Option FileWrite := none
  deriving DecidableEq, Repr

def defaultSettingsPath : String := "pipeforge.toml"

/-- The settings of a file that was asked for, or of the default file where there is one. -/
def loadSettings (files : Files) (config : Option String) : Except Failure Settings :=
  match config.or (Option.guard files.isFile defaultSettingsPath) with
  | none => .ok {}
  | some path =>
      match files.read path with
      | .error cause => .error (.unreadableSettings path cause)
      | .ok text => (Settings.ofText text).mapError (.settings path)

def loadGraph (files : Files) (path : String) : Except Failure Graph :=
  match files.read path with
  | .error cause => .error (.graph (.file path cause.message))
  | .ok text => (Document.parseFrom path (.ofPath path) text).mapError .graph

/-- The path that the output of `generate` goes to, if it is to be written. -/
def generateTarget? (settings : Settings) (format : Format) (output : Option String)
    (write : Bool) : Option String :=
  output.or (if write then some (settings.output.path format) else none)

def replyGenerate (files : Files) (settings : Settings) (graph : String) (format : Format)
    (output : Option String) (write : Bool) : Except Failure Reply := do
  let text := generate (← loadGraph files graph) format
  match generateTarget? settings format output write with
  | none => return { stdout := Text.endLine text }
  | some path => return { stdout := "Wrote " ++ path ++ "\n", write? := some ⟨path, text⟩ }

def replyCheck (files : Files) (graph : String) (strict : Bool) : Except Failure Reply := do
  match Diagnostic.diagnose (← loadGraph files graph) with
  | [] => return { stdout := graph ++ ": no problems found\n" }
  | warnings =>
      if strict then .error (.warnings warnings.length)
      else
        return { stdout := Text.unlines (warnings.map ("warning: " ++ ·.message) ++
          [graph ++ ": " ++ toString warnings.length ++ " warning(s)"]) }

def replyTemplate (name : String) (format : Option Format) : Except Failure Reply :=
  match Template.lookup? name with
  | none => .error (.unknownTemplate name)
  | some t =>
      .ok { stdout := Text.endLine (format.elim (Document.toJson t.graph) (generate t.graph)) }

/-- What a dry run shows of the file that it does not push. -/
def preview (content : String) (o : PublishOutcome) : String :=
  "Would write " ++ o.path ++ " to " ++ o.repository.display ++ ":\n\n" ++
  Text.endLine content ++ "\n"

/-- What a run leaves to others: the grammar of log filters, and the host that it pushes to. Those
given here stand in where none are: they come close to the grammar, and no push gets through. -/
structure Services where
  readsFilter : String → Bool := LogFilter.isValid
  host : Host := .unreachable

/-- The repository is settled before the graph is read, and the graph before the host is called. -/
def replyPush (files : Files) (settings : Settings) (env : Variables) (graph : String)
    (repository : Option String) (format : Format) (path : Option String) (dryRun : Bool)
    (host : Host) : Except Failure Reply := do
  let name ←
    match repository.or settings.publish.repository with
    | some name => Except.ok name
    | none => .error .noRepository
  let repository ← (Repository.ofText name).mapError .publish
  let content := generate (← loadGraph files graph) format
  let outcome ←
    (Publishing.publish (settings.publish.token? env) dryRun repository
      (path.getD (settings.output.path format)) content host).mapError .publish
  return { stdout := (if outcome.status = .dryRun then preview content outcome else "") ++
    outcome.status.summary ++ "\n" ++ outcome.url ++ "\n" }

/-- Whether a run may use the network: as its command needs it, never or always. -/
inductive Mode where
  | natural
  | offline
  | online
  deriving DecidableEq, Repr

def Mode.isOnline (m : Mode) (c : Command) : Bool :=
  match m with
  | natural => c.isPush
  | offline => false
  | online => true

/-- Carries out a command that needs no network. -/
def replyOffline (files : Files) (settings : Settings) : Command → Except Failure Reply
  | .generate graph format output write => replyGenerate files settings graph format output write
  | .check graph strict => replyCheck files graph strict
  | .blocks json => .ok { stdout := if json then Listing.blocksJson else Listing.blocks }
  | .template name format => replyTemplate name format
  | .formats => .ok { stdout := Listing.formats .standard }
  | .push _ _ _ _ _ => .error .pushNeedsNetwork

def replyOnline (files : Files) (settings : Settings) (env : Variables) (host : Host) :
    Command → Except Failure Reply
  | .push graph repository format path dryRun =>
      replyPush files settings env graph repository format path dryRun host
  | c => replyOffline files settings c

def replyTo (files : Files) (settings : Settings) (env : Variables) (mode : Mode) (host : Host)
    (c : Command) : Except Failure Reply :=
  if mode.isOnline c then replyOnline files settings env host c else replyOffline files settings c

/-- The variable of the environment that may name a log filter. -/
def logVariable : String := "RUST_LOG"

/-- Settings first, then the log filter, then the command. -/
def reply (files : Files) (env : Variables) (mode : Mode) (i : Invocation)
    (services : Services := {}) : Except Failure Reply := do
  let settings ← loadSettings files i.config
  let logging := settings.log.logging i.level i.logFormat
  match logging.filter? services.readsFilter (env logVariable) with
  | none => .error .logFilter
  | some _ => replyTo files settings env mode services.host i.command

/-- The files that a run may read. -/
def Invocation.sources (i : Invocation) : List String :=
  i.config.getD defaultSettingsPath ::
    match i.command with
    | .generate graph _ _ _ | .check graph _ | .push graph _ _ _ _ => [graph]
    | _ => []

end PipelineCompiler.CommandLine
