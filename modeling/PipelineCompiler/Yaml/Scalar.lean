import PipelineCompiler.Text.Digits
import PipelineCompiler.Yaml.Character

/-!
The scalars of a YAML text. Each scanner takes the text after its opening mark and gives the scalar,
what follows it and where that is; none where the text is not well formed.
-/
namespace PipelineCompiler.Yaml

/-- White space between two parts of a scalar: blanks, or a first break and further ones. -/
structure Gap where
  blanks : List Char := []
  broken : Bool := false
  first : List Char := []
  more : List Char := []
  deriving Repr

namespace Gap

def addBlank (g : Gap) (c : Char) : Gap :=
  if g.broken then g else { g with blanks := g.blanks ++ [c] }

def addBreak (g : Gap) (text : List Char) : Gap :=
  if g.broken then { g with more := g.more ++ text }
  else { blanks := [], broken := true, first := text, more := [] }

/-- A single break becomes a space; of several the first is dropped. -/
def text (g : Gap) : List Char :=
  if g.broken then
    if g.first = ['\n'] then (if g.more.isEmpty then [' '] else g.more)
    else g.first ++ g.more
  else g.blanks

end Gap

/-- A scalar that has been read, last character first, and the rest of the text. -/
structure Scanned where
  text : String
  rest : List Char
  place : Place
  deriving Repr

def escape? : Char → Option Char
  | '0' => some '\x00'
  | 'a' => some '\x07'
  | 'b' => some '\x08'
  | 't' | '\t' => some '\t'
  | 'n' => some '\n'
  | 'v' => some '\x0b'
  | 'f' => some '\x0c'
  | 'r' => some '\r'
  | 'e' => some '\x1b'
  | ' ' => some ' '
  | '"' => some '"'
  | '/' => some '/'
  | '\\' => some '\\'
  | 'N' => some '\u0085'
  | '_' => some '\u00a0'
  | 'L' => some '\u2028'
  | 'P' => some '\u2029'
  | _ => none

/-- The text so far, last character first, after the white space that is still open. -/
def joined (acc : List Char) : Option Gap → List Char
  | none => acc
  | some g => g.text.reverse ++ acc

def withBlank (gap : Option Gap) (c : Char) : Option Gap := some ((gap.getD {}).addBlank c)

def withBreak (gap : Option Gap) (text : List Char) : Option Gap :=
  some ((gap.getD {}).addBreak text)

/-- An escaped break: the line goes on without a space. -/
def escapedBreak : Gap := { broken := true }

/-- A mark between documents must not begin a line inside quotes. -/
def markInside (p : Place) (cs : List Char) : Bool := p.column == 0 && startsWithMark cs

def scanSingle (acc : List Char) (gap : Option Gap) (p : Place) : List Char → Option Scanned
  | [] => none
  | '\r' :: '\n' :: rest => scanSingle acc (withBreak gap ['\n']) (p.nextLine 2) rest
  | '\'' :: '\'' :: rest => scanSingle ('\'' :: joined acc gap) none (p.move 2) rest
  | '\'' :: rest => some ⟨String.ofList (joined acc gap).reverse, rest, p.step⟩
  | c :: rest =>
      if isBlank c then scanSingle acc (withBlank gap c) p.step rest
      else if isBreak c then scanSingle acc (withBreak gap (breakText c)) (p.nextLine 1) rest
      else if markInside p (c :: rest) then none
      else scanSingle (c :: joined acc gap) none p.step rest

def scanDouble (acc : List Char) (gap : Option Gap) (p : Place) : List Char → Option Scanned
  | [] => none
  | '"' :: rest => some ⟨String.ofList (joined acc gap).reverse, rest, p.step⟩
  | '\r' :: '\n' :: rest => scanDouble acc (withBreak gap ['\n']) (p.nextLine 2) rest
  | '\\' :: '\r' :: '\n' :: rest =>
      scanDouble (joined acc gap) (some escapedBreak) (p.step.nextLine 2) rest
  | '\\' :: 'x' :: a :: b :: rest =>
      match Text.codePoint? [a, b] with
      | some x => scanDouble (x :: joined acc gap) none (p.move 4) rest
      | none => none
  | '\\' :: 'u' :: a :: b :: c :: d :: rest =>
      match Text.codePoint? [a, b, c, d] with
      | some x => scanDouble (x :: joined acc gap) none (p.move 6) rest
      | none => none
  | '\\' :: 'U' :: a :: b :: c :: d :: e :: f :: g :: h :: rest =>
      match Text.codePoint? [a, b, c, d, e, f, g, h] with
      | some x => scanDouble (x :: joined acc gap) none (p.move 10) rest
      | none => none
  | '\\' :: c :: rest =>
      if isBreak c then scanDouble (joined acc gap) (some escapedBreak) (p.step.nextLine 1) rest
      else
        match escape? c with
        | some x => scanDouble (x :: joined acc gap) none (p.move 2) rest
        | none => none
  | c :: rest =>
      if isBlank c then scanDouble acc (withBlank gap c) p.step rest
      else if isBreak c then scanDouble acc (withBreak gap (breakText c)) (p.nextLine 1) rest
      else if markInside p (c :: rest) then none
      else scanDouble (c :: joined acc gap) none p.step rest

/-- Where a plain scalar may be: inside brackets, and at which column at least. -/
structure PlainContext where
  inFlow : Bool
  column : Nat
  deriving Repr

def isFlowMark (c : Char) : Bool := c == ',' || c == '[' || c == ']' || c == '{' || c == '}'

/-- A colon that closes up to a mark inside brackets is refused. -/
def refusedColon : List Char → Bool
  | ':' :: c :: _ => isFlowMark c || c == '?'
  | _ => false

def endsPlain (inFlow : Bool) : List Char → Bool
  | ':' :: rest => blankOrEnd rest
  | c :: _ => inFlow && isFlowMark c
  | [] => true

/-- A plain scalar, and whether a break follows it. -/
structure PlainScanned extends Scanned where
  broken : Bool
  deriving Repr

def plainResult (acc : List Char) (gap : Option Gap) (p : Place) (rest : List Char) :
    PlainScanned :=
  ⟨⟨String.ofList acc.reverse, rest, p⟩, (gap.map (·.broken)).getD false⟩

/-- After white space a plain scalar ends at a comment, a mark between documents
or too small a column. -/
def endsAfterGap (ctx : PlainContext) (p : Place) (cs : List Char) : Bool :=
  (!ctx.inFlow && p.column < ctx.column) || (p.column == 0 && startsWithMark cs) ||
  cs.head? == some '#'

def scanPlain (ctx : PlainContext) (acc : List Char) (gap : Option Gap) (p : Place) :
    List Char → Option PlainScanned
  | [] => some (plainResult acc gap p [])
  | '\r' :: '\n' :: rest => scanPlain ctx acc (withBreak gap ['\n']) (p.nextLine 2) rest
  | c :: rest =>
      if isBlank c then
        if c == '\t' && (gap.map (·.broken)).getD false && p.column < ctx.column then none
        else scanPlain ctx acc (withBlank gap c) p.step rest
      else if isBreak c then scanPlain ctx acc (withBreak gap (breakText c)) (p.nextLine 1) rest
      else if gap.isSome && endsAfterGap ctx p (c :: rest) then
        some (plainResult acc gap p (c :: rest))
      else if ctx.inFlow && refusedColon (c :: rest) then none
      else if endsPlain ctx.inFlow (c :: rest) then some (plainResult acc gap p (c :: rest))
      else scanPlain ctx (c :: joined acc gap) none p.step rest

/-- What becomes of the breaks at the end of a block scalar. -/
inductive Chomping where
  | strip
  | clip
  | keep
  deriving DecidableEq, Repr

/-- A block scalar while it is read. `indent` is zero until it is known. -/
structure BlockState where
  literal : Bool
  chomping : Chomping
  /-- The least indentation that counts. -/
  least : Nat
  indent : Nat
  widest : Nat := 0
  inLine : Bool := false
  acc : List Char := []
  leading : List Char := []
  trailing : List Char := []
  leadingBlank : Bool := false
  deriving Repr

namespace BlockState

def finish (s : BlockState) (p : Place) (rest : List Char) : Scanned :=
  let tail :=
    match s.chomping with
    | .strip => []
    | .clip => s.leading
    | .keep => s.leading ++ s.trailing
  ⟨String.ofList (s.acc.reverse ++ tail), rest, p⟩

/-- The margin ends at a column: the indentation is settled if it was not known. -/
def settle (s : BlockState) (column : Nat) : BlockState :=
  let widest := max s.widest column
  { s with indent := if s.indent = 0 then max (max widest s.least) 1 else s.indent, widest }

/-- A line of content begins. A single break between two lines without leading blanks is folded. -/
def beginLine (s : BlockState) (c : Char) : BlockState :=
  let folds := !s.literal && s.leading == ['\n'] && !s.leadingBlank && !isBlank c
  let gap :=
    if folds then (if s.trailing.isEmpty then [' '] else s.trailing) else s.leading ++ s.trailing
  { s with
    acc := gap.reverse ++ s.acc, leading := [], trailing := [], leadingBlank := isBlank c,
    inLine := true }

/-- Whether a margin goes on at a column. -/
def inMargin (s : BlockState) (column : Nat) : Bool := s.indent == 0 || column < s.indent

end BlockState

def scanBlockText (s : BlockState) (p : Place) : List Char → Option Scanned
  | [] => some ((if s.inLine then s else s.settle p.column).finish p [])
  | '\r' :: '\n' :: rest =>
      if s.inLine then
        scanBlockText { s with inLine := false, leading := ['\n'] } (p.nextLine 2) rest
      else
        scanBlockText { s with widest := max s.widest p.column, trailing := s.trailing ++ ['\n'] }
          (p.nextLine 2) rest
  | c :: rest =>
      if isBreak c then
        if s.inLine then
          scanBlockText { s with inLine := false, leading := breakText c } (p.nextLine 1) rest
        else
          scanBlockText
            { s with
              widest := max s.widest p.column
              trailing := s.trailing ++ breakText c }
            (p.nextLine 1) rest
      else if s.inLine then scanBlockText { s with acc := c :: s.acc } p.step rest
      else if c == ' ' && s.inMargin p.column then scanBlockText s p.step rest
      else if c == '\t' && s.inMargin p.column then none
      else
        let s := s.settle p.column
        if p.column = s.indent then
          let s := s.beginLine c
          scanBlockText { s with acc := c :: s.acc } p.step rest
        else some (s.finish p (c :: rest))

def chompingOf? : Char → Option Chomping
  | '+' => some .keep
  | '-' => some .strip
  | _ => none

/-- The indicators after the mark of a block scalar: chomping and indentation in either order. -/
def scanIndicators (p : Place) : List Char → Option (Chomping × Nat × List Char × Place)
  | [] => some (.clip, 0, [], p)
  | c :: rest =>
      match chompingOf? c with
      | some chomping =>
          match rest with
          | d :: rest' =>
              if d == '0' then none
              else if d.isDigit then some (chomping, d.toNat - '0'.toNat, rest', p.move 2)
              else some (chomping, 0, rest, p.step)
          | [] => some (chomping, 0, [], p.step)
      | none =>
          if c == '0' then none
          else if c.isDigit then
            match rest with
            | d :: rest' =>
                match chompingOf? d with
                | some chomping => some (chomping, c.toNat - '0'.toNat, rest', p.move 2)
                | none => some (.clip, c.toNat - '0'.toNat, rest, p.step)
            | [] => some (.clip, c.toNat - '0'.toNat, [], p.step)
          else some (.clip, 0, c :: rest, p)

/-- Blanks and a comment up to the end of the line, and the break; none if
anything else stands there. -/
def endOfLine (p : Place) (cs : List Char) : Option (List Char × Place) :=
  let blanks := cs.takeWhile isBlank
  let rest := cs.dropWhile isBlank
  let comment := if rest.head? = some '#' then rest.takeWhile (!isBreak ·) else []
  let rest := if rest.head? = some '#' then rest.dropWhile (!isBreak ·) else rest
  let p := p.move (blanks.length + comment.length)
  match rest with
  | [] => some ([], p)
  | '\r' :: '\n' :: rest => some (rest, p.nextLine 2)
  | c :: rest => if isBreak c then some (rest, p.nextLine 1) else none

/-- A block scalar inside the indentation `indent`, which is negative at the top. -/
def scanBlock (literal : Bool) (indent : Int) (p : Place) (cs : List Char) : Option Scanned := do
  let (chomping, increment, rest, p) ← scanIndicators p cs
  let (rest, p) ← endOfLine p rest
  let given := if increment = 0 then 0 else (if 0 ≤ indent then indent.toNat else 0) + increment
  scanBlockText { literal, chomping, least := (indent + 1).toNat, indent := given } p rest

end PipelineCompiler.Yaml
