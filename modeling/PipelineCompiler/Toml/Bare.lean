import PipelineCompiler.Text.Digits
import PipelineCompiler.Toml.Value

namespace PipelineCompiler.Toml.Bare

/-- Digits, where a single underscore may stand between two of them. -/
def digits? (isDigit : Char → Bool) : Bool → List Char → Option (List Char)
  | afterDigit, [] => if afterDigit then some [] else none
  | afterDigit, c :: rest =>
      if c = '_' then if afterDigit then digits? isDigit false rest else none
      else if isDigit c then (digits? isDigit true rest).map (c :: ·)
      else none

def radixNatural? (radix : Nat) (cs : List Char) : Option Nat := do
  Text.natural? radix (← digits? (fun c => (Text.digit? radix c).isSome) false cs)

/-- Decimal digits that do not start with a needless zero. -/
def decimalDigits? (cs : List Char) : Option (List Char) :=
  (digits? Char.isDigit false cs).filter fun ds => ds.length = 1 || ds.head? != some '0'

def takeSign : List Char → Bool × List Char
  | '-' :: rest => (true, rest)
  | '+' :: rest => (false, rest)
  | cs => (false, cs)

def integer? (cs : List Char) : Option Int :=
  match cs with
  | '0' :: 'x' :: rest => (radixNatural? 16 rest).map Int.ofNat
  | '0' :: 'o' :: rest => (radixNatural? 8 rest).map Int.ofNat
  | '0' :: 'b' :: rest => (radixNatural? 2 rest).map Int.ofNat
  | _ =>
      let (negative, unsigned) := takeSign cs
      ((decimalDigits? unsigned).bind (Text.natural? 10)).map fun n =>
        if negative then -(n : Int) else n

def isDigitOrGap (c : Char) : Bool := c.isDigit || c == '_'

/-- The digits behind a point, and what follows them. -/
def fraction? : List Char → Option (List Char × List Char)
  | '.' :: rest =>
      (digits? Char.isDigit false (rest.takeWhile isDigitOrGap)).map (·,
        rest.dropWhile isDigitOrGap)
  | cs => some ([], cs)

def power? : List Char → Option Int
  | [] => some 0
  | c :: rest =>
      if c = 'e' ∨ c = 'E' then
        let (negative, ds) := takeSign rest
        ((digits? Char.isDigit false ds).bind (Text.natural? 10)).map fun n =>
          if negative then -(n : Int) else n
      else none

def real? (cs : List Char) : Option Real := do
  let (negative, unsigned) := takeSign cs
  if unsigned = ['i', 'n', 'f'] then return .infinity negative
  if unsigned = ['n', 'a', 'n'] then return .nan
  let whole ← decimalDigits? (unsigned.takeWhile isDigitOrGap)
  let (fraction, rest) ← fraction? (unsigned.dropWhile isDigitOrGap)
  let n ← Text.natural? 10 (whole ++ fraction)
  let e ← power? rest
  return (Decimal.Binary64.ofDecimal n (e - fraction.length)).elim .tooLarge (.finite negative)

/-- The number that exactly so many digits make. -/
def fixed? (count : Nat) (cs : List Char) : Option (Nat × List Char) :=
  if cs.length < count ∨ !(cs.take count).all Char.isDigit then none
  else (Text.natural? 10 (cs.take count)).map (·, cs.drop count)

def skip? (c : Char) (cs : List Char) : Option (List Char) :=
  if cs.head? = some c then some (cs.drop 1) else none

def isLeap (year : Nat) : Bool := year % 4 == 0 && (year % 100 != 0 || year % 400 == 0)

def daysIn (year month : Nat) : Nat :=
  if month = 2 then if isLeap year then 29 else 28
  else if month = 4 ∨ month = 6 ∨ month = 9 ∨ month = 11 then 30
  else 31

/-- What follows a date. -/
def date? (cs : List Char) : Option (List Char) := do
  let (year, cs) ← fixed? 4 cs
  let (month, cs) ← fixed? 2 (← skip? '-' cs)
  let (day, cs) ← fixed? 2 (← skip? '-' cs)
  if 1 ≤ month ∧ month ≤ 12 ∧ 1 ≤ day ∧ day ≤ daysIn year month then some cs else none

/-- What follows hours and minutes. -/
def minutes? (cs : List Char) : Option (List Char) := do
  let (hour, cs) ← fixed? 2 cs
  let (minute, cs) ← fixed? 2 (← skip? ':' cs)
  if hour ≤ 23 ∧ minute ≤ 59 then some cs else none

/-- What follows a time of day; its seconds may be left out and may have a fraction. -/
def time? (cs : List Char) : Option (List Char) := do
  let cs ← minutes? cs
  match cs with
  | ':' :: cs => do
      let (second, cs) ← fixed? 2 cs
      if second > 60 then none
      else
        match cs with
        | '.' :: c :: rest => if c.isDigit then some (rest.dropWhile Char.isDigit) else none
        | '.' :: [] => none
        | _ => some cs
  | _ => some cs

def isOffset : List Char → Bool
  | [] => true
  | c :: rest =>
      if c = 'Z' ∨ c = 'z' then rest.isEmpty
      else (c == '+' || c == '-') && minutes? rest == some []

/-- A time, a date, or a date and a time that may tell its offset. -/
def isMoment (cs : List Char) : Bool :=
  match date? cs with
  | none => time? cs == some []
  | some [] => true
  | some (c :: rest) =>
      (c == 'T' || c == 't' || c == ' ') && (time? rest).any isOffset

def value? (cs : List Char) : Option Value :=
  if cs = "true".toList then some (.bool true)
  else if cs = "false".toList then some (.bool false)
  else
    match integer? cs with
    | some n => some (.integer n)
    | none =>
        match real? cs with
        | some x => some (.real x)
        | none => if isMoment cs then some .moment else none

/-- What such values are made of. -/
def isPart (c : Char) : Bool :=
  c.isAlphanum || c == '+' || c == '-' || c == '_' || c == '.' || c == ':'

/-- Takes the text of a value; a date goes on behind a space if a digit follows. -/
def take (cs : List Char) : List Char × List Char :=
  let word := cs.takeWhile isPart
  match cs.dropWhile isPart with
  | ' ' :: c :: rest =>
      if c.isDigit ∧ date? word = some [] then
        (word ++ ' ' :: (c :: rest).takeWhile isPart, (c :: rest).dropWhile isPart)
      else (word, ' ' :: c :: rest)
  | rest => (word, rest)

end PipelineCompiler.Toml.Bare
