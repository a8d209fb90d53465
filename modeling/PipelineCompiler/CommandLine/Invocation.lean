import PipelineCompiler.CommandLine.Arguments

namespace PipelineCompiler.CommandLine

inductive Command where
  | generate (graph : String) (format : Format) (output : Option String) (write : Bool)
  | check (graph : String) (strict : Bool)
  | blocks (json : Bool)
  | template (name : String) (format : Option Format)
  | formats
  | push (graph : String) (repository : Option String) (format : Format) (path : Option String)
      (dryRun : Bool)
  deriving DecidableEq, Repr, Inhabited

/-- A push talks to a host and so needs more than the others. -/
def Command.isPush : Command → Bool
  | push _ _ _ _ _ => true
  | _ => false

structure Invocation where
  command : Command
  level : Option LogLevel := none
  logFormat : Option LogFormat := none
  /-- The settings file that was asked for. -/
  config : Option String := none
  deriving DecidableEq, Repr

/-- The commands by name. -/
inductive Verb where
  | generate
  | check
  | blocks
  | template
  | formats
  | push
  deriving DecidableEq, Repr

namespace Verb

def all : List Verb := [generate, check, blocks, template, formats, push]

def name : Verb → String
  | generate => "generate"
  | check => "check"
  | blocks => "blocks"
  | template => "template"
  | formats => "formats"
  | push => "push"

def ofName? (name : String) : Option Verb := all.find? (·.name == name)

/-- The options that every command understands. -/
def shared : List Slot := [.level, .logFormat, .config, .help]

def grammar : Verb → Grammar
  | generate => { options := [.format, .output, .write] ++ shared, operand := some .graph }
  | check => { options := [.strict] ++ shared, operand := some .graph }
  | blocks => { options := [.json] ++ shared }
  | template => { options := [.format] ++ shared, operand := some .template }
  | formats => { options := shared }
  | push =>
      { options := [.repository, .format, .path, .dryRun] ++ shared, operand := some .graph }

end Verb

def helpName : String := "help"

/-- What may stand before a command. -/
def outerGrammar : Grammar :=
  { options := Verb.shared ++ [.version], commands := Verb.all.map Verb.name ++ [helpName] }

/-- What is shown where the version is asked for. -/
def versionText : String := "pipeforge 0.3.0\n"

namespace Invocation

def formatOf (s : Given) : Option Format :=
  (s.value? .format).bind fun name => (Format.ofName name).toOption

/-- The command of a verb whose operand is `operand`. -/
def commandOf (verb : Verb) (operand : String) (s : Given) : Command :=
  match verb with
  | .generate =>
      .generate operand ((formatOf s).getD .github) (s.value? .output) (s.has .write)
  | .check => .check operand (s.has .strict)
  | .blocks => .blocks (s.has .json)
  | .template => .template operand (formatOf s)
  | .formats => .formats
  | .push =>
      .push operand (s.value? .repository) ((formatOf s).getD .github) (s.value? .path)
        (s.has .dryRun)

/-- The output goes to a path of choice or to the conventional one, not to both. -/
def checkConflict (s : Given) : Except Refusal Unit :=
  if s.has .output && s.has .write then .error .conflict else .ok ()

def operandOf (verb : Verb) (s : Given) : Except Refusal String :=
  match verb.grammar.operand with
  | none => .ok ""
  | some slot =>
      match s.value? slot with
      | some value => .ok value
      | none => .error .missingOperand

/-- Reads the words behind a verb. The environment fills what they leave open. -/
def readVerb (env : String → Option String) (verb : Verb) (words : List String) :
    Except Refusal (Given × Given × Command) := do
  let (s, _) ← Given.scan verb.grammar {} false words
  let given ← s.settle
  let full ← given.addVariables env verb.grammar.options
  checkConflict full
  return (given, full, commandOf verb (← operandOf verb full) full)

/-- Help on a command; none of them has commands of its own. -/
def readHelp : List String → Refusal
  | [] => .help
  | [name] => if outerGrammar.commands.contains name then .help else .unknownCommand
  | _ => .unknownCommand

/-- A value given behind the verb goes before one that was given in front of it, and both before the
environment. -/
def inner (slot : Slot) (given full outer : Given) : Option String :=
  (given.value? slot).or ((outer.value? slot).or (full.value? slot))

/-- The invocation that the words ask for. -/
def ofWords (env : String → Option String) (words : List String) : Except Refusal Invocation := do
  let (outer, next) ← Given.scan outerGrammar {} false words
  match next with
  | none => do
      let s ← (← outer.settle).addVariables env outerGrammar.options
      .error (if s.values.isEmpty then .helpForNothing else .missingCommand)
  | some (name, rest) =>
      match Verb.ofName? name with
      | none => .error (readHelp rest)
      | some verb => do
          let (given, full, command) ← readVerb env verb rest
          let outer ← (← outer.settle).addVariables env outerGrammar.options
          let value (slot : Slot) := inner slot given full outer
          return {
            command
            level := (value .level).bind fun v => (LogLevel.ofName v).toOption
            logFormat := (value .logFormat).bind fun v => (LogFormat.ofName v).toOption
            config := value .config }

end Invocation

end PipelineCompiler.CommandLine
