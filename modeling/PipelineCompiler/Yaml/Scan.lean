import PipelineCompiler.Yaml.Tag
import PipelineCompiler.Yaml.Token

/-!
From a YAML text to its tokens. Tokens are only appended. That a token begins a key shows at the
colon behind it, so the openings of keys are kept apart and put in at the end. A text that breaks
off leaves out the tokens behind the first place where a key may still begin, for none of them can
be used before that is known.
-/
namespace PipelineCompiler.Yaml

/-- A token that may turn out to begin a key. -/
structure PossibleKey where
  token : Nat
  place : Place
  /-- Whether only a key may stand here. -/
  required : Bool
  deriving Repr

/-- A key that begins at a token, perhaps with the block mapping it belongs to. -/
structure Opening where
  token : Nat
  opensMapping : Bool
  deriving Repr

structure Scanner where
  rest : List Char
  place : Place := {}
  /-- Latest first. -/
  tokens : List Token := []
  count : Nat := 0
  openings : List Opening := []
  keyAllowed : Bool := true
  indent : Int := -1
  indents : List Int := []
  /-- The possible key of each level of brackets, innermost first. -/
  keys : List (Option PossibleKey) := [none]

namespace Scanner

def inFlow (s : Scanner) : Bool := s.keys.length > 1

def push (s : Scanner) (t : Token) : Scanner :=
  { s with tokens := t :: s.tokens, count := s.count + 1 }

/-- Moves over characters of the line. -/
def move (s : Scanner) (n : Nat) (rest : List Char) : Scanner :=
  { s with rest, place := s.place.move n }

/-- One step further, or none where the text breaks off. -/
abbrev Step := Option Scanner

/-- Forgets the possible key of the innermost level. -/
def dropKey (s : Scanner) : Step :=
  match s.keys with
  | some k :: keys => if k.required then none else some { s with keys := none :: keys }
  | _ => some s

/-- Notes that the next token may begin a key. -/
def noteKey (s : Scanner) : Step :=
  if s.keyAllowed then do
    let s ← s.dropKey
    let required := !s.inFlow && s.indent == s.place.column
    some { s with keys := some ⟨s.count, s.place, required⟩ :: s.keys.drop 1 }
  else some s

/-- A key lies in one line and is at most 1024 characters long. -/
def isStale (p : Place) (k : PossibleKey) : Bool :=
  k.place.line < p.line || k.place.index + 1024 < p.index

def dropStale (s : Scanner) : Step :=
  let stale (k : Option PossibleKey) := (k.map (isStale s.place)).getD false
  if s.keys.any fun k => stale k && (k.map (·.required)).getD false then none
  else some { s with keys := s.keys.map fun k => if stale k then none else k }

/-- Opens a block collection if the column lies deeper. -/
def roll (s : Scanner) (column : Nat) (t : Token) : Scanner :=
  if !s.inFlow && s.indent < column then
    { s with indents := s.indent :: s.indents, indent := column }.push t
  else s

/-- Closes the block collections that lie deeper than a column. -/
def unrollAll (column : Int) : List Int → Scanner → Scanner
  | outer :: indents, s =>
      if column < s.indent then unrollAll column indents
        ({ s with indent := outer, indents }.push .blockEnd)
      else s
  | [], s => s

def unroll (s : Scanner) (column : Int) : Scanner :=
  if s.inFlow then s else unrollAll column s.indents s

/-- Passes over blanks, comments and line ends. A tab counts as blank where no key may begin. -/
def skipSpace (flow : Bool) : Bool → Bool → Place → List Char → List Char × Place × Bool
  | allowed, _, p, [] => ([], p, allowed)
  | allowed, _, p, '\r' :: '\n' :: rest =>
      skipSpace flow (allowed || !flow) false (p.nextLine 2) rest
  | allowed, comment, p, c :: rest =>
      if isBreak c then skipSpace flow (allowed || !flow) false (p.nextLine 1) rest
      else if comment then skipSpace flow allowed true p.step rest
      else if c = ' ' ∨ (c = '\t' ∧ (flow ∨ ¬ allowed)) then
        skipSpace flow allowed false p.step rest
      else if c = '#' then skipSpace flow allowed true p.step rest
      else (c :: rest, p, allowed)

def toNextToken (s : Scanner) : Scanner :=
  let (rest, place, keyAllowed) := skipSpace s.inFlow s.keyAllowed false s.place s.rest
  { s with rest, place, keyAllowed }

/-- Takes over something that lies within the line. -/
def taken {α : Type} (s : Scanner) (t : Option (Taken α)) (offset : Nat) (token : α → Token) :
    Step :=
  match t with
  | some t => some ((s.move (t.count + offset) t.rest).push (token t.item))
  | none => none

def scanned (s : Scanner) (t : Option Scanned) (style : Style) : Step :=
  match t with
  | some t => some ({ s with rest := t.rest, place := t.place }.push (.scalar t.text style))
  | none => none

def allowKey (s : Scanner) (allowed : Bool) : Scanner := { s with keyAllowed := allowed }

def fetchMark (s : Scanner) (t : Token) : Step := do
  let s ← (s.unroll (-1)).dropKey
  some (((s.allowKey false).move 3 (s.rest.drop 3)).push t)

def fetchDirective (s : Scanner) (rest : List Char) : Step := do
  let s ← (s.unroll (-1)).dropKey
  let s := s.allowKey false
  match scanDirective rest with
  | none => none
  | some d =>
      match endOfLine (s.place.move (d.count + 1)) d.rest with
      | none => none
      | some (rest, place) =>
          let token :=
            match d.item with
            | .version major minor => Token.versionDirective major minor
            | .tag handle uri => Token.tagDirective handle uri
          some ({ s with rest, place }.push token)

def openFlow (s : Scanner) (rest : List Char) (t : Token) : Step := do
  let s ← s.noteKey
  some (({ s with keys := none :: s.keys, keyAllowed := true }.move 1 rest).push t)

def closeFlow (s : Scanner) (rest : List Char) (t : Token) : Step := do
  let s ← s.dropKey
  let keys := if s.inFlow then s.keys.drop 1 else s.keys
  some (({ s with keys, keyAllowed := false }.move 1 rest).push t)

def fetchFlowEntry (s : Scanner) (rest : List Char) : Step := do
  let s ← s.dropKey
  some (((s.allowKey true).move 1 rest).push .flowEntry)

def fetchBlockEntry (s : Scanner) (rest : List Char) : Step := do
  if !s.inFlow && !s.keyAllowed then none
  let s ← (s.roll s.place.column .blockSequenceStart).dropKey
  some (((s.allowKey true).move 1 rest).push .blockEntry)

def fetchKey (s : Scanner) (rest : List Char) : Step := do
  if !s.inFlow && !s.keyAllowed then none
  let s ← (s.roll s.place.column .blockMappingStart).dropKey
  some (((s.allowKey (!s.inFlow)).move 1 rest).push .key)

/-- A colon: the token noted last begins a key, or else a key of its own precedes it. -/
def fetchValue (s : Scanner) (rest : List Char) : Step :=
  match s.keys with
  | some k :: keys =>
      let opensMapping := !s.inFlow && s.indent < k.place.column
      let s :=
        if opensMapping then { s with indents := s.indent :: s.indents, indent := k.place.column }
        else s
      some (({ s with
        keys := none :: keys, keyAllowed := false,
        openings := ⟨k.token, opensMapping⟩ :: s.openings }.move 1 rest).push .value)
  | _ =>
      if !s.inFlow && !s.keyAllowed then none
      else
        let s := s.roll s.place.column .blockMappingStart
        some (((s.allowKey (!s.inFlow)).move 1 rest).push .value)

def fetchName (s : Scanner) (rest : List Char) (token : String → Token) : Step := do
  let s ← s.noteKey
  (s.allowKey false).taken (scanName rest) 1 token

def fetchTag (s : Scanner) : Step := do
  let s ← s.noteKey
  (s.allowKey false).taken (scanTag s.inFlow s.rest) 0 fun (handle, suffix) => .tag handle suffix

def fetchBlockScalar (s : Scanner) (rest : List Char) (literal : Bool) : Step := do
  let s ← s.dropKey
  (s.allowKey true).scanned (scanBlock literal s.indent s.place.step rest)
    (if literal then .literal else .folded)

def fetchQuoted (s : Scanner) (rest : List Char) (style : Style) : Step := do
  let s := (← s.noteKey).allowKey false
  let p := s.place.step
  s.scanned
    (if style = .singleQuoted then scanSingle [] none p rest else scanDouble [] none p rest) style

def fetchPlain (s : Scanner) : Step := do
  let s := (← s.noteKey).allowKey false
  match scanPlain ⟨s.inFlow, (s.indent + 1).toNat⟩ [] none s.place s.rest with
  | none => none
  | some t => (s.allowKey t.broken).scanned (some t.toScanned) .plain

/-- Whether a plain scalar may begin. -/
def startsPlain (flow : Bool) (c : Char) (rest : List Char) : Bool :=
  let blank :=
    match rest with
    | [] => false
    | d :: _ => isBlank d
  !(isBlank c || isBreak c || "-?:,[]\x7b\x7d#&*!|>'\"%@`".toList.contains c) ||
    (c == '-' && !blank) || (!flow && (c == '?' || c == ':') && !blankOrEnd rest)

def fetchAt (s : Scanner) (c : Char) (rest : List Char) : Step :=
  let flow := s.inFlow
  if s.place.column = 0 ∧ c = '%' then s.fetchDirective rest
  else if s.place.column = 0 ∧ startsWithMark s.rest then
    s.fetchMark (if c = '-' then .documentStart else .documentEnd)
  else if c = '[' then s.openFlow rest .flowSequenceStart
  else if c = '\x7b' then s.openFlow rest .flowMappingStart
  else if c = ']' then s.closeFlow rest .flowSequenceEnd
  else if c = '\x7d' then s.closeFlow rest .flowMappingEnd
  else if c = ',' then s.fetchFlowEntry rest
  else if c = '-' ∧ blankOrEnd rest then s.fetchBlockEntry rest
  else if c = '?' ∧ (flow ∨ blankOrEnd rest) then s.fetchKey rest
  else if c = ':' ∧ (flow ∨ blankOrEnd rest) then s.fetchValue rest
  else if c = '*' then s.fetchName rest .alias
  else if c = '&' then s.fetchName rest .anchor
  else if c = '!' then s.fetchTag
  else if c = '|' ∧ ¬ flow then s.fetchBlockScalar rest true
  else if c = '>' ∧ ¬ flow then s.fetchBlockScalar rest false
  else if c = '\'' then s.fetchQuoted rest .singleQuoted
  else if c = '"' then s.fetchQuoted rest .doubleQuoted
  else if startsPlain flow c rest then s.fetchPlain
  else none

/-- The end of the text: a new line begins, and every block collection is closed. -/
def finish (s : Scanner) : Step := do
  let s ← (s.unroll (-1)).dropKey
  some (s.push .streamEnd)

/-- The tokens with the openings of keys put in; those from `i` on, counted at the first. -/
def splice (openings : List Opening) : Nat → List Token → List Token
  | _, [] => []
  | i, t :: rest =>
      match openings with
      | o :: later =>
          if o.token = i then
            (if o.opensMapping then [.blockMappingStart] else []) ++ .key :: t ::
              splice later (i + 1) rest
          else t :: splice openings (i + 1) rest
      | [] => t :: splice [] (i + 1) rest

/-- The openings in the order of their tokens. -/
def sortedOpenings (s : Scanner) : List Opening :=
  s.openings.reverse.mergeSort fun a b => a.token ≤ b.token

/-- The first token that may still begin a key. -/
def firstOpen (s : Scanner) : Nat :=
  s.keys.foldl (fun n k => min n ((k.map (·.token)).getD n)) s.count

def tokensUpTo (s : Scanner) (n : Nat) : List Token :=
  splice s.sortedOpenings 0 (s.tokens.reverse.take n)

/-- The tokens that can be used although the text breaks off behind them. -/
def usable (s : Scanner) : List Token := s.tokensUpTo s.firstOpen

/-- Appends the next tokens, and tells whether the text is over. -/
def fetch (s : Scanner) : Option (Scanner × Bool) := do
  let s ← s.toNextToken.dropStale
  let s := s.unroll s.place.column
  match s.rest with
  | [] => (s.finish).map (·, true)
  | c :: rest => (s.fetchAt c rest).map (·, false)

def run : Nat → Scanner → List Token
  | 0, s => s.usable
  | fuel + 1, s =>
      match s.dropStale with
      | none => s.usable
      | some s =>
          match s.fetch with
          | none => s.usable
          | some (s, true) => s.tokensUpTo s.count
          | some (s, false) => run fuel s

end Scanner

/-- The tokens of a text. They end with the end of the stream unless the text breaks off. -/
def scan (text : String) : List Token :=
  let cs := text.toList
  let cs := if cs.head? = some '\ufeff' then cs.drop 1 else cs
  if cs.all isAllowed then Scanner.run (cs.length + 2) { rest := cs } else []

end PipelineCompiler.Yaml
