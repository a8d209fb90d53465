import PipelineCompiler.Decimal.Word
import PipelineCompiler.Emitter
import PipelineCompiler.Logging
import PipelineCompiler.Publishing
import PipelineCompiler.Toml.Document

namespace PipelineCompiler

structure OutputSettings where
  github : Option String := none
  gitlab : Option String := none
  deriving DecidableEq, Repr

structure PublishSettings where
  repository : Option String := none
  /-- The variable of the environment that holds the token. -/
  tokenVariable : String := Publishing.defaultTokenVariable
  deriving DecidableEq, Repr

structure LogSettings where
  level : Option LogLevel := none
  format : Option LogFormat := none
  filter : Option String := none
  deriving DecidableEq, Repr

structure Settings where
  output : OutputSettings := {}
  publish : PublishSettings := {}
  log : LogSettings := {}
  deriving DecidableEq, Repr

def OutputSettings.override? (s : OutputSettings) : Format → Option String
  | .github => s.github
  | .gitlab => s.gitlab

/-- Where the output of a format is written. -/
def OutputSettings.path (s : OutputSettings) (f : Format) : String := (s.override? f).getD f.path

/-- The variables of the environment. -/
abbrev Variables := String → Option String

def PublishSettings.token? (s : PublishSettings) (env : Variables) : Option String :=
  Publishing.usableToken (env s.tokenVariable)

/-- How to log, the choices of an invocation going before those of the settings. -/
def LogSettings.logging (s : LogSettings) (level : Option LogLevel) (format : Option LogFormat) :
    Logging :=
  { format := (format.or s.format).getD .compact
    level := (level.or s.level).getD .warn
    filter := s.filter }

namespace Settings

open Toml (Value Entries)

/-- The key under which a date or a time gives its text where a table is asked for. -/
def momentKey : String := "$__toml_private_datetime"

/-- What a value is, for the message that another was expected; none if no number can hold it. -/
def found? : Value → Option Found
  | .text s => some (.text s)
  | .integer n =>
      if Decimal.InWord 64 n then some (.integer n)
      else if Decimal.InWord 128 n then some (.wide (n < (Nat.pow 2 127 : Int)) n)
      else none
  | .real (.finite negative x) => some (.real (Decimal.Layout.plain.text negative x))
  | .real (.infinity negative) => some (.real (if negative then "-inf" else "inf"))
  | .real .nan => some (.real "NaN")
  | .real .tooLarge => none
  | .bool b => some (.bool b)
  | .moment | .table _ _ => some .map
  | .array _ _ => some .sequence

def mismatch {α : Type} (expected : Shape) (v : Value) : Except Fault α :=
  match found? v with
  | some f => .error (.invalidType f expected)
  | none => .error .malformed

def readText : Value → Except Fault String
  | .text s => .ok s
  | v => mismatch .text v

def isEmptyContainer : Value → Bool
  | .array _ [] | .table _ [] => true
  | _ => false

/-- A name is a string, or the only key of a table with nothing behind it. -/
def readName {α : Type} (ofName : String → Except Fault α) : Value → Except Fault α
  | .text s => ofName s
  | .table _ [(key, v)] => do
      let a ← ofName key
      if isEmptyContainer v then .ok a else .error .malformed
  | _ => .error .malformed

/-- Reads a record with the fields `names`, from a table or from the list of its entries; `step`
stores the value of one of them. -/
def readRecord {σ : Type} (record : String) (names : List String)
    (step : σ → String → Value → Except Fault σ) (empty : σ) : Value → Except Fault σ
  | .table _ entries =>
      (Json.sortMembers entries).foldlM
        (fun s (key, v) =>
          if names.contains key then step s key v else .error (.unknownField key names)) empty
  | .array _ items => (names.zip items).foldlM (fun s (key, v) => step s key v) empty
  | .moment => .error (.unknownField momentKey names)
  | v => mismatch (.record record) v

def outputField (s : OutputSettings) (key : String) (v : Value) : Except Fault OutputSettings := do
  match key with
  | "github" => return { s with github := some (← readText v) }
  | "gitlab" => return { s with gitlab := some (← readText v) }
  | _ => return s

def publishField (s : PublishSettings) (key : String) (v : Value) :
    Except Fault PublishSettings := do
  match key with
  | "repository" => return { s with repository := some (← readText v) }
  | "token_env" => return { s with tokenVariable := ← readText v }
  | _ => return s

def logField (s : LogSettings) (key : String) (v : Value) : Except Fault LogSettings := do
  match key with
  | "level" => return { s with level := some (← readName LogLevel.ofName v) }
  | "format" => return { s with format := some (← readName LogFormat.ofName v) }
  | "filter" => return { s with filter := some (← readText v) }
  | _ => return s

def section? (s : Settings) (key : String) (v : Value) : Except Fault Settings := do
  match key with
  | "output" =>
      return { s with
        output := ← readRecord "OutputSettings" ["github", "gitlab"] outputField {} v }
  | "publish" =>
      return { s with
        publish := ← readRecord "PublishSettings" ["repository", "token_env"] publishField {} v }
  | "log" =>
      return { s with
        log := ← readRecord "LogSettings" ["level", "format", "filter"] logField {} v }
  | _ => return s

/-- Entries are read in the order of their keys, and a key that a section
does not know is refused. -/
def ofEntries (entries : Entries) : Except Fault Settings :=
  readRecord "Settings" ["output", "publish", "log"] section? {} (.table .header entries)

def ofText (text : String) : Except Fault Settings :=
  match Toml.ofText? text with
  | some entries => ofEntries entries
  | none => .error .malformed

end Settings

end PipelineCompiler
