import PipelineCompiler.Decimal.Binary64

namespace PipelineCompiler.Toml

/-- How a table was made, which decides what may still be added to it. -/
inductive Origin where
  /-- Only on the way to another table. -/
  | implicit
  /-- By a header of its own, or as the root. -/
  | header
  /-- By a dotted key. -/
  | dotted
  /-- Between braces. -/
  | inline
  deriving DecidableEq, Repr, Inhabited

inductive Real where
  | finite (negative : Bool) (x : Decimal.Binary64)
  /-- Written with digits, but beyond the largest double. -/
  | tooLarge
  | infinity (negative : Bool)
  | nan
  deriving DecidableEq, Repr, Inhabited

inductive Value where
  | text (s : String)
  | integer (n : Int)
  | real (x : Real)
  | bool (b : Bool)
  /-- A date, a time or both. -/
  | moment
  /-- An array, either between brackets or grown by the headers of its tables. -/
  | array (grown : Bool) (items : List Value)
  | table (origin : Origin) (entries : List (String × Value))
  deriving Repr, Inhabited

abbrev Entries := List (String × Value)

end PipelineCompiler.Toml
