namespace PipelineCompiler.Yaml

/-- What may stand in a text at all. -/
def isAllowed (c : Char) : Bool :=
  let n := c.toNat
  n == 0x9 || n == 0xa || n == 0xd || (0x20 ≤ n && n ≤ 0x7e) || n == 0x85 ||
    (0xa0 ≤ n && n ≤ 0xd7ff) || (0xe000 ≤ n && n ≤ 0xfffd && n != 0xfeff) || 0x10000 ≤ n

def isBreak (c : Char) : Bool :=
  c == '\n' || c == '\r' || c == '\u0085' || c == '\u2028' || c == '\u2029'

def isBlank (c : Char) : Bool := c == ' ' || c == '\t'

def isWordChar (c : Char) : Bool := c.isAlphanum || c == '_' || c == '-'

/-- Whether a text begins with a blank, begins with a break or is over. -/
def blankOrEnd : List Char → Bool
  | [] => true
  | c :: _ => isBlank c || isBreak c

/-- The mark between documents, at the start of a line. -/
def startsWithMark : List Char → Bool
  | '-' :: '-' :: '-' :: rest => blankOrEnd rest
  | '.' :: '.' :: '.' :: rest => blankOrEnd rest
  | _ => false

/-- What a break stands for in a scalar: all but the two Unicode separators become a line feed. -/
def breakText (c : Char) : List Char := if c = '\u2028' ∨ c = '\u2029' then [c] else ['\n']

structure Place where
  index : Nat := 0
  line : Nat := 0
  column : Nat := 0
  deriving DecidableEq, Repr, Inhabited

namespace Place

def step (p : Place) : Place := ⟨p.index + 1, p.line, p.column + 1⟩

def move (p : Place) (n : Nat) : Place := ⟨p.index + n, p.line, p.column + n⟩

/-- The start of the next line, after a break of `n` characters. -/
def nextLine (p : Place) (n : Nat) : Place := ⟨p.index + n, p.line + 1, 0⟩

end Place

end PipelineCompiler.Yaml
