import PipelineCompiler.CommandLine.Disk

namespace PipelineCompiler.CommandLine

/-- The fault that a failed call reports. A path through a file is told by its number, which
some calls give negated. -/
def faultOf : IO.Error → FileFault
  | .noFileOrDirectory _ _ _ => .notFound
  | .alreadyExists _ _ _ => .alreadyExists
  | .inappropriateType _ code _ => if code = 20 || -code = 20 then .notDirectory else .isDirectory
  | e => .other (toString e)

def readSource (path : String) : IO (Except FileFault String) := do
  try
    let bytes ← IO.FS.readBinFile path
    match String.fromUTF8? bytes with
    | some text => return .ok text
    | none => return .error .notText
  catch e => return .error (faultOf e)

/-- The files that were read. -/
def filesOf (sources : List (String × Except FileFault String)) : Files :=
  let read (path : String) : Except FileFault String :=
    (sources.lookup path).getD (.error .notFound)
  { read, isFile := fun path =>
      match read path with
      | .ok _ | .error .notText => true
      | .error _ => false }

def writeFile (w : FileWrite) : IO (Except Failure Unit) := do
  try
    match (Path.parent? w.path).filter (· != "") with
    | some parent =>
        try IO.FS.createDirAll parent
        catch e => return .error (.creation parent (faultOf e))
    | none => pure ()
    IO.FS.writeFile w.path w.text
    return .ok ()
  catch e => return .error (.writing w.path (faultOf e))

def report (f : Failure) : IO UInt32 := do
  IO.eprintln f.message
  match f.help? with
  | some help => IO.eprintln ("help: " ++ help)
  | none => pure ()
  return .ofNat f.exitCode

def usageText : String :=
  "Usage: pipeforge [OPTIONS] <" ++ "|".intercalate (Verb.all.map Verb.name) ++ ">\n"

def refuse : Refusal → IO UInt32
  | .version => do
      IO.print versionText
      return 0
  | .help => do
      IO.print usageText
      return 0
  | _ => do
      IO.eprint usageText
      return 2

def readVariables (names : List String) : IO Variables := do
  let found ← names.mapM fun name => do return (name, ← IO.getEnv name)
  return fun name => (found.lookup name).join

/-- The variables that stand in for options. -/
def optionVariables : List String := [Slot.config, Slot.repository].filterMap Slot.environmentName?

/-- The variables that a run asks for: that of the log filter, and the one that its
settings name for the token. -/
def runVariables (files : Files) (i : Invocation) : List String :=
  logVariable :: (loadSettings files i.config).toOption.toList.map (·.publish.tokenVariable)

/-- There is no way to a host from here. -/
def perform (i : Invocation) : IO UInt32 := do
  let sources ← i.sources.mapM fun path => do return (path, ← readSource path)
  let files := filesOf sources
  match reply files (← readVariables (runVariables files i)) .natural i
    { host := .unreachable } with
  | .error f => report f
  | .ok r =>
      match ← r.write?.elim (pure (.ok ())) writeFile with
      | .error f => report f
      | .ok _ => do
          IO.print r.stdout
          return 0

end PipelineCompiler.CommandLine

open PipelineCompiler.CommandLine in
def main (words : List String) : IO UInt32 := do
  match Invocation.ofWords (← readVariables optionVariables) words with
  | .error r => refuse r
  | .ok i => perform i
