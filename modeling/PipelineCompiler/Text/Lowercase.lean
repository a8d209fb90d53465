import PipelineCompiler.Text.Ranges
import PipelineCompiler.Text.LowercaseTable

namespace PipelineCompiler.Text.Lowercase

def isIgnorable (c : Char) : Bool := inRanges ignorableRanges c

def isCased (c : Char) : Bool := inRanges casedRanges c

/-- Whether the first character that is not ignorable is a cased letter. -/
def meetsCased (cs : List Char) : Bool :=
  match cs.dropWhile isIgnorable with
  | [] => false
  | c :: _ => isCased c

/-- The shift of the run that holds a code point. -/
def shiftOf (n : Nat) : List (Nat × Nat × Nat × Int) → Int
  | [] => 0
  | (first, last, step, shift) :: rest =>
      if first ≤ n ∧ n ≤ last ∧ (n - first) % step = 0 then shift else shiftOf n rest

/-- A character by itself: the dotted capital I becomes an i and a combining dot; the sigma is
taken as inside a word. -/
def ofChar (c : Char) : List Char :=
  if c.toNat < 0x80 then [c.toLower]
  else if c = 'İ' then ['i', '\u0307']
  else [Char.ofNat (c.toNat + shiftOf c.toNat runs).toNat]

/-- The text that lies before, nearest character first, decides whether a sigma ends its word. -/
def lowerAfter : List Char → List Char → List Char
  | _, [] => []
  | before, c :: rest =>
      (if c = 'Σ' ∧ meetsCased before ∧ ¬ meetsCased rest then ['ς'] else ofChar c) ++
        lowerAfter (c :: before) rest

/-- Lowercasing over all of Unicode. -/
def lower (cs : List Char) : List Char := lowerAfter [] cs

end PipelineCompiler.Text.Lowercase
