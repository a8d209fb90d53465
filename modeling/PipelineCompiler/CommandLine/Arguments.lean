import PipelineCompiler.Emitter
import PipelineCompiler.Logging

namespace PipelineCompiler.CommandLine

/-- Why the words are not carried out. -/
inductive Refusal where
  | help
  | version
  /-- Help is shown where nothing was asked for. -/
  | helpForNothing
  | missingCommand
  | unknownCommand
  | unknownArgument
  | missingOperand
  | invalidValue
  | invalidFormat
  | unexpectedValue
  | conflict
  deriving DecidableEq, Repr, Inhabited

/-- What a word may give a value to. -/
inductive Slot where
  | help
  | version
  | level
  | logFormat
  | config
  | graph
  | template
  | format
  | output
  | write
  | strict
  | json
  | repository
  | path
  | dryRun
  deriving DecidableEq, Repr, Inhabited

namespace Slot

def long : Slot → String
  | help => "help"
  | version => "version"
  | level => "level"
  | logFormat => "log-format"
  | config => "config"
  | graph => "GRAPH"
  | template => "NAME"
  | format => "format"
  | output => "output"
  | write => "write"
  | strict => "strict"
  | json => "json"
  | repository => "repo"
  | path => "path"
  | dryRun => "dry-run"

def short? : Slot → Option Char
  | help => some 'h'
  | version => some 'V'
  | level => some 'L'
  | format => some 'f'
  | output => some 'o'
  | _ => none

/-- Flags are given without a value. -/
def isFlag : Slot → Bool
  | help | version | write | strict | json | dryRun => true
  | _ => false

/-- The variable of the environment that stands in for an option. -/
def environmentName? : Slot → Option String
  | config => some "PIPEFORGE_CONFIG"
  | repository => some "PIPEFORGE_REPOSITORY"
  | _ => none

def checkPath (value : String) : Except Refusal Unit :=
  if value = "" then .error .invalidValue else .ok ()

/-- Refuses a value that is none of those the slot takes. -/
def check (s : Slot) (value : String) : Except Refusal Unit :=
  match s with
  | level => (LogLevel.ofName value).toOption.elim (.error .invalidValue) fun _ => .ok ()
  | logFormat => (LogFormat.ofName value).toOption.elim (.error .invalidValue) fun _ => .ok ()
  | format => (Format.ofName value).toOption.elim (.error .invalidFormat) fun _ => .ok ()
  | config | graph | output => checkPath value
  | _ => .ok ()

end Slot

/-- What a command understands. -/
structure Grammar where
  options : List Slot
  operand : Option Slot := none
  /-- Commands that may follow. -/
  commands : List String := []
  deriving Repr

def Grammar.long? (g : Grammar) (name : String) : Option Slot := g.options.find? (·.long == name)

def Grammar.short? (g : Grammar) (c : Char) : Option Slot := g.options.find? (·.short? == some c)

/-- Values as they were given, and the slot whose value is not settled yet: a word that may be the
value of the option before it is kept as such until the next word settles the matter. -/
structure Given where
  values : List (Slot × String) := []
  pending : Option (Slot × Option String) := none
  deriving Repr

namespace Given

def value? (s : Given) (slot : Slot) : Option String := s.values.lookup slot

def has (s : Given) (slot : Slot) : Bool := (s.value? slot).isSome

/-- Whether the next word may be a value. -/
def awaits (s : Given) : Bool :=
  match s.pending with
  | some (_, none) => true
  | _ => false

def isOpen (s : Given) (slot : Slot) : Bool := s.pending.any (·.1 == slot)

/-- Stores a value. A slot takes one value only. -/
def store (slot : Slot) (value : String) (s : Given) : Except Refusal Given :=
  if s.has slot then .error .conflict
  else (slot.check value).map fun _ => { s with values := s.values ++ [(slot, value)] }

/-- Settles what is pending. -/
def settle (s : Given) : Except Refusal Given :=
  match s.pending with
  | none => .ok s
  | some (_, none) => .error .invalidValue
  | some (slot, some value) => { s with pending := none }.store slot value

/-- Raises a flag; two of them are answered at once. -/
def raiseFlag (slot : Slot) (s : Given) : Except Refusal Given := do
  let s ← s.settle
  match slot with
  | .help => .error .help
  | .version => .error .version
  | _ => s.store slot ""

/-- Meets an option with the value that is attached to it, if any. -/
def meet (slot : Slot) (attached : Option String) (s : Given) : Except Refusal Given := do
  match attached with
  | some value => (← s.settle).store slot value
  | none => return { ← s.settle with pending := some (slot, none) }

/-- Meets an option by its long name, which an equals sign may part from its value. -/
def meetLong (g : Grammar) (s : Given) (body : List Char) : Except Refusal Given :=
  let name := String.ofList (body.takeWhile (· != '='))
  let attached : Option String :=
    match body.dropWhile (· != '=') with
    | [] => none
    | _ :: value => some (String.ofList value)
  match g.long? name with
  | none => .error .unknownArgument
  | some slot =>
      if slot.isFlag then if attached.isSome then .error .unexpectedValue else s.raiseFlag slot
      else s.meet slot attached

def dropEquals : List Char → List Char
  | '=' :: rest => rest
  | cs => cs

/-- Meets options by their short names; behind one that takes a value the rest of
the word is its value. -/
def meetShort (g : Grammar) : Given → List Char → Except Refusal Given
  | s, [] => .ok s
  | s, c :: rest =>
      match g.short? c with
      | none => .error .unknownArgument
      | some slot =>
          if slot.isFlag then do meetShort g (← s.raiseFlag slot) rest
          else s.meet slot (if rest.isEmpty then none else some (String.ofList (dropEquals rest)))

/-- Meets a word that is no option. -/
def meetWord (g : Grammar) (closed : Bool) (s : Given) (word : String) : Except Refusal Given :=
  match g.operand with
  | some slot =>
      if s.has slot || s.isOpen slot then .error .unknownArgument
      else do return { ← s.settle with pending := some (slot, some word) }
  | none =>
      if g.commands.isEmpty || (closed && g.commands.contains word) then .error .unknownArgument
      else .error .unknownCommand

/-- Gives the pending option its value. -/
def fill (s : Given) (word : String) : Given :=
  { s with pending := s.pending.map fun (slot, _) => (slot, some word) }

/-- Reads words up to the first command. Behind two dashes all words are operands. -/
def scan (g : Grammar) :
    Given → Bool → List String → Except Refusal (Given × Option (String × List String))
  | s, _, [] => .ok (s, none)
  | s, closed, word :: rest =>
      if !closed && !s.awaits && g.commands.contains word then .ok (s, some (word, rest))
      else if closed then do scan g (← s.meetWord g closed word) closed rest
      else
        match word.toList with
        | ['-', '-'] => scan g s true rest
        | '-' :: '-' :: body => do scan g (← s.meetLong g body) closed rest
        | '-' :: c :: body => do scan g (← s.meetShort g (c :: body)) closed rest
        | _ =>
            if s.awaits then scan g (s.fill word) closed rest
            else do scan g (← s.meetWord g closed word) closed rest

/-- Fills the slots that are not given from the environment. -/
def addVariables (env : String → Option String) : List Slot → Given → Except Refusal Given
  | [], s => .ok s
  | slot :: rest, s =>
      match slot.environmentName?.bind env with
      | some value => if s.has slot then addVariables env rest s
          else do addVariables env rest (← s.store slot value)
      | none => addVariables env rest s

end Given

end PipelineCompiler.CommandLine
