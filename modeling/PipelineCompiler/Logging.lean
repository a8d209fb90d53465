import PipelineCompiler.Fault
import PipelineCompiler.Text.AlphanumericTable
import PipelineCompiler.Text.Digits
import PipelineCompiler.Text.Ranges
import PipelineCompiler.Text.Split
import PipelineCompiler.Text.WhiteSpace

namespace PipelineCompiler

inductive LogLevel where
  | trace
  | debug
  | info
  | warn
  | error
  deriving DecidableEq, Repr, Inhabited

namespace LogLevel

def all : List LogLevel := [trace, debug, info, warn, error]

def name : LogLevel → String
  | trace => "trace"
  | debug => "debug"
  | info => "info"
  | warn => "warn"
  | error => "error"

def ofName (name : String) : Except Fault LogLevel :=
  match all.find? (·.name == name) with
  | some l => .ok l
  | none => .error (.unknownVariant name (all.map LogLevel.name))

@[simp] theorem ofName_name (l : LogLevel) : ofName l.name = .ok l := by cases l <;> rfl

end LogLevel

inductive LogFormat where
  | pretty
  | compact
  | json
  deriving DecidableEq, Repr, Inhabited

namespace LogFormat

def all : List LogFormat := [pretty, compact, json]

def name : LogFormat → String
  | pretty => "pretty"
  | compact => "compact"
  | json => "json"

def ofName (name : String) : Except Fault LogFormat :=
  match all.find? (·.name == name) with
  | some f => .ok f
  | none => .error (.unknownVariant name (all.map LogFormat.name))

@[simp] theorem ofName_name (f : LogFormat) : ofName f.name = .ok f := by cases f <;> rfl

end LogFormat

namespace LogFilter

/-- Between which marks of a directive a character stands. -/
inductive Mode where
  | start
  | target
  | span
  | field (isEmpty : Bool)
  | afterField
  | afterSpan
  /-- Behind the equals sign, at an offset of the directive. -/
  | level (offset : Nat)
  deriving DecidableEq, Repr

def startsTarget (c : Char) : Bool :=
  c.isAlphanum || c == '-' || c == ':' || c == '_' || Text.inRanges Text.alphanumericRanges c

/-- The mode behind a character that stands at an offset. -/
def Mode.step (offset : Nat) : Mode → Char → Option Mode
  | start, c => if c = '[' then some span else if startsTarget c then some target else none
  | target, c =>
      if c = '=' then some (level (offset + 1)) else if c = '[' then some span else some target
  | span, c =>
      if c = ']' then some afterSpan else if c = '\x7b' then some (field true) else some span
  | field isEmpty, c =>
      if c = '\x7d' then if isEmpty then none else some afterField else some (field false)
  | afterField, c => if c = ']' then some afterSpan else none
  | afterSpan, c => if c = '=' then some (level (offset + 1)) else none
  | level n, _ => some (level n)

def levelNames : List String := "off" :: LogLevel.all.map LogLevel.name

/-- A level by name without regard to case, by number, or left out. -/
def isLevel (cs : List Char) : Bool :=
  let digits :=
    match cs with
    | '+' :: rest => rest
    | rest => rest
  cs.isEmpty || levelNames.contains (String.ofList (cs.map Char.toLower)) ||
    (Text.natural? 10 digits).any (· ≤ 5)

/-- Whether a directive may end in a mode. -/
def Mode.isFinal (directive : List Char) : Mode → Bool
  | target | afterSpan => true
  | level n => isLevel (directive.drop n)
  | start | span | field _ | afterField => false

def run (directive : List Char) : Nat → Mode → List Char → Bool
  | _, m, [] => m.isFinal directive
  | offset, m, c :: rest =>
      match m.step offset c with
      | some m => run directive (offset + 1) m rest
      | none => false

def isDirective (directive : List Char) : Bool := run directive 0 .start (Text.trim directive)

/-- Whether every directive between the commas is well formed, such as
`name[span]=level`; empty ones do not count. Patterns that a directive asks for in the
values of fields are not looked into. -/
def isValid (filter : String) : Bool :=
  ((Text.split ',' filter.toList).filter (!·.isEmpty)).all isDirective

end LogFilter

structure Logging where
  format : LogFormat := .compact
  level : LogLevel := .warn
  filter : Option String := none
  deriving DecidableEq, Repr

namespace Logging

/-- The parts of the program that log. -/
def targets : List String :=
  ["pipeforge", "pipeforge_core", "pipeforge_ci", "pipeforge_github", "pipeforge_gitlab"]

/-- The filter that gives every part of the program one level. -/
def directive (l : LogLevel) : String := ",".intercalate (targets.map fun t => t ++ "=" ++ l.name)

/-- The filter in force: from the settings, from the environment or from the level, in this order.
One that is set must be valid; one from the environment that is not valid counts as none. -/
def filter? (isValid : String → Bool) (environment : Option String) (l : Logging) : Option String :=
  match l.filter with
  | some f => Option.guard isValid f
  | none => (environment.filter isValid).or (Option.guard isValid (directive l.level))

end Logging

end PipelineCompiler
