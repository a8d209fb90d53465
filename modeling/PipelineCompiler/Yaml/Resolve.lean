import PipelineCompiler.Decimal.Binary64
import PipelineCompiler.Decimal.Word
import PipelineCompiler.Yaml.Node

namespace PipelineCompiler.Yaml

/-- What an unquoted scalar stands for: nothing, a boolean, a number or its own text. -/
inductive Resolved where
  | unit
  | bool (b : Bool)
  | int (n : Int)
  | double (negative : Bool) (x : Decimal.Binary64)
  | infinity (negative : Bool)
  | nan
  | text (s : String)
  /-- The tag of the scalar forbids its text. -/
  | refused
  deriving DecidableEq, Repr

namespace Resolve

def isNull (s : String) : Bool := s == "~" || s == "null" || s == "Null" || s == "NULL"

def bool? (s : String) : Option Bool :=
  match s with
  | "true" | "True" | "TRUE" => some true
  | "false" | "False" | "FALSE" => some false
  | _ => none

/-- Zeros followed by further digits are text, not a number. -/
def hasLeadingZero (cs : List Char) : Bool :=
  let cs :=
    match cs with
    | '-' :: r | '+' :: r => r
    | r => r
  cs.length > 1 && cs.head? == some '0' && cs.all Char.isDigit

/-- The digits of an integer: a radix prefix, or else decimal. -/
def magnitude? (cs : List Char) : Option Nat :=
  match cs with
  | '0' :: 'x' :: r => Text.natural? 16 r
  | '0' :: 'o' :: r => Text.natural? 8 r
  | '0' :: 'b' :: r => Text.natural? 2 r
  | r => if hasLeadingZero r then none else Text.natural? 10 r

/-- Integers of up to 128 bits. -/
def int? (cs : List Char) : Option Int :=
  match cs with
  | '-' :: r => (magnitude? r).bind fun n => if Decimal.InWord 128 (-n) then some (-n) else none
  | '+' :: r => (magnitude? r).bind fun n => if Decimal.InWord 128 n then some n else none
  | r => (magnitude? r).bind fun n => if Decimal.InWord 128 n then some n else none

/-- The power of ten at the end of a number; zero if there is none. -/
def power? : List Char → Option Int
  | [] => some 0
  | c :: r =>
      if c = 'e' ∨ c = 'E' then
        match r with
        | '-' :: ds => (Text.natural? 10 ds).map fun n => -(n : Int)
        | '+' :: ds => (Text.natural? 10 ds).map fun n => (n : Int)
        | ds => (Text.natural? 10 ds).map fun n => (n : Int)
      else none

/-- A number with a point or an exponent: its digits as an integer and the power of ten. -/
def scientific? (cs : List Char) : Option (Nat × Int) := do
  let whole := cs.takeWhile Char.isDigit
  let rest := cs.dropWhile Char.isDigit
  let (fraction, rest) :=
    match rest with
    | '.' :: r => (r.takeWhile Char.isDigit, r.dropWhile Char.isDigit)
    | r => ([], r)
  let n ← Text.natural? 10 (whole ++ fraction)
  let e ← power? rest
  return (n, e - fraction.length)

def isInfinity (s : String) : Bool := s == ".inf" || s == ".Inf" || s == ".INF"

/-- A finite number, or one of the names of the others. A number beyond the
largest double is text. -/
def double? (cs : List Char) : Option Resolved :=
  let (negative, unsigned) :=
    match cs with
    | '-' :: r => (true, r)
    | '+' :: r => (false, r)
    | r => (false, r)
  if isInfinity (String.ofList unsigned) then some (.infinity negative)
  else if cs = ".nan".toList ∨ cs = ".NaN".toList ∨ cs = ".NAN".toList then some .nan
  else
    (scientific? unsigned).bind fun (n, e) =>
      (Decimal.Binary64.ofDecimal n e).map fun x => .double negative x

def number? (s : String) : Option Resolved :=
  match int? s.toList with
  | some n => some (.int n)
  | none => if hasLeadingZero s.toList then none else double? s.toList

def plain (s : String) : Resolved :=
  if s = "" ∨ isNull s then .unit
  else
    match bool? s with
    | some b => .bool b
    | none => (number? s).getD (.text s)

def coreTag (name : String) : String := "tag:yaml.org,2002:" ++ name

/-- A tag of the core names asks for a kind of value; any other leaves the text of
a quoted scalar alone. -/
def scalar (s : Scalar) : Resolved :=
  match s.tag with
  | none => if s.style = .plain then plain s.text else .text s.text
  | some tag =>
      if tag = coreTag "bool" then ((bool? s.text).map .bool).getD .refused
      else if tag = coreTag "int" then ((int? s.text.toList).map .int).getD .refused
      else if tag = coreTag "float" then (double? s.text.toList).getD .refused
      else if tag = coreTag "null" then (if isNull s.text then .unit else .refused)
      else if tag.toList.head? = some '!' ∧ s.style = .plain then plain s.text
      else .text s.text

end Resolve

end PipelineCompiler.Yaml
