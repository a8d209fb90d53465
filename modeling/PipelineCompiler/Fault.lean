import PipelineCompiler.Json.Value
import PipelineCompiler.Text.Quoted

namespace PipelineCompiler

/-- What stands in the text. -/
inductive Found where
  | null
  | unit
  | bool (b : Bool)
  | integer (n : Int)
  /-- An integer beyond 64 bits. -/
  | wide (signed : Bool) (n : Int)
  | real (digits : String)
  | text (s : String)
  | sequence
  | map
  | variant
  deriving DecidableEq, Repr

/-- What should stand there. -/
inductive Shape where
  | record (name : String)
  | sequence
  | text
  | textKey
  | map
  | unit
  | field
  | variant
  | tagged
  | anyValue
  deriving DecidableEq, Repr

/-- What can be wrong with a text that is read into a value. A text that is not well formed is
reported in the same words wherever it breaks. -/
inductive Fault where
  | malformed
  | missingField (name : String)
  | duplicateField (name : String)
  | unknownField (name : String) (known : List String)
  | unknownVariant (name : String) (known : List String)
  | invalidType (found : Found) (expected : Shape)
  /-- A record written as a list of its fields, too short. -/
  | tooShort (count : Nat) (record : String) (fields : Nat)
  /-- A record written as a list of its fields, too long. -/
  | tooLong (count : Nat)
  | notScalar (v : Json.Value)
  | configuration (node blockType : String) (cause : Fault)
  deriving Repr

def Found.words : Found → String
  | null => "null"
  | unit => "unit value"
  | bool b => "boolean `" ++ (if b then "true" else "false") ++ "`"
  | integer n => "integer `" ++ toString n ++ "`"
  | wide signed n => "integer `" ++ toString n ++ "` as " ++ (if signed then "i128" else "u128")
  | real digits => "floating point `" ++ digits ++ "`"
  | text s => "string " ++ Text.Quoted.quoted s
  | sequence => "sequence"
  | map => "map"
  | variant => "enum"

def Shape.words : Shape → String
  | record name => "struct " ++ name
  | sequence => "a sequence"
  | text => "a string"
  | textKey => "a string key"
  | map => "a map"
  | unit => "unit"
  | field => "field identifier"
  | variant => "variant identifier"
  | tagged => "a YAML tag starting with '!'"
  | anyValue => "any valid JSON value"

/-- Names in backticks, joined as one of a choice. -/
def choice : List String → String
  | [a] => "`" ++ a ++ "`"
  | [a, b] => "`" ++ a ++ "` or `" ++ b ++ "`"
  | names => "one of " ++ ", ".intercalate (names.map fun a => "`" ++ a ++ "`")

/-- The words for a fault. A reader that knows where it stopped may put the line and the column
behind them; these are left out. -/
def Fault.message : Fault → String
  | malformed => "<syntax>"
  | missingField name => "missing field `" ++ name ++ "`"
  | duplicateField name => "duplicate field `" ++ name ++ "`"
  | unknownField name known => "unknown field `" ++ name ++ "`, expected " ++ choice known
  | unknownVariant name known => "unknown variant `" ++ name ++ "`, expected " ++ choice known
  | invalidType found expected => "invalid type: " ++ found.words ++ ", expected " ++ expected.words
  | tooShort count record fields =>
      "invalid length " ++ toString count ++ ", expected struct " ++ record ++ " with " ++
        toString fields ++ " elements"
  | tooLong count => "invalid length " ++ toString count ++ ", expected fewer elements in array"
  | notScalar v => "expected a scalar value, found " ++ v.compact
  | configuration node blockType cause =>
      "Invalid configuration for node '" ++ node ++ "' (" ++ blockType ++ "): " ++ cause.message

end PipelineCompiler
