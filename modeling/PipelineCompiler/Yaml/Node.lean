import PipelineCompiler.Yaml.Scan

namespace PipelineCompiler.Yaml

structure Scalar where
  text : String
  style : Style
  tag : Option String := none
  deriving DecidableEq, Repr, Inhabited

/-- The tree of a document, as far as its text is well formed. A collection that the text
leaves before its end is open, and nothing follows it. Anchors are numbered; an alias names
the number of its anchor. -/
inductive Node where
  | alias (anchor : Nat)
  | scalar (anchor : Option Nat) (s : Scalar)
  | sequence (anchor : Option Nat) (tag : Option String) (items : List Node) (closed : Bool)
  | mapping (anchor : Option Nat) (tag : Option String) (entries : List (Node × Node))
      (closed : Bool)
  /-- A node that is missing or malformed from its start on. -/
  | broken
  deriving Repr, Inhabited

namespace Node

/-- A scalar that is not written at all. -/
def absent : Node := .scalar none ⟨"", .plain, none⟩

/-- What is left of a document, and the numbers of the anchors so far. -/
structure Source where
  tokens : List Token
  anchors : List (String × Nat) := []
  /-- The handles of tags that are known. -/
  handles : List (String × String) := []
  deriving Repr

namespace Source

def next? (s : Source) : Option Token := s.tokens.head?

def advance (s : Source) : Source := { s with tokens := s.tokens.drop 1 }

/-- Numbers an anchor by how many names are known; a name may be given a new number. -/
def addAnchor (s : Source) (name : String) : Nat × Source :=
  let id := s.anchors.length
  (id, { s with anchors := (name, id) :: s.anchors.filter (·.1 != name) })

def anchor? (s : Source) (name : String) : Option Nat := s.anchors.lookup name

/-- A handle stands for the start of a tag; an empty one for nothing. -/
def resolveTag (s : Source) (handle suffix : String) : Option String :=
  if handle = "" then some suffix else (s.handles.lookup handle).map (· ++ suffix)

/-- Gives up: nothing of the document is left. -/
def broken (s : Source) : Source := { s with tokens := [] }

end Source

/-- Anchor and tag of a node, in either order. -/
structure Properties where
  anchor : Option String := none
  tag : Option (String × String) := none

def takeProperties (s : Source) : Properties × Source :=
  match s.tokens with
  | .anchor a :: .tag h t :: rest => (⟨some a, some (h, t)⟩, { s with tokens := rest })
  | .tag h t :: .anchor a :: rest => (⟨some a, some (h, t)⟩, { s with tokens := rest })
  | .anchor a :: rest => (⟨some a, none⟩, { s with tokens := rest })
  | .tag h t :: rest => (⟨none, some (h, t)⟩, { s with tokens := rest })
  | _ => ({}, s)

/-- The tag of a scalar; a lone exclamation mark is none. -/
def scalarTag (tag : Option String) : Option String := tag.filter (· != "!")

/-- The tokens before which a block entry counts as absent. -/
def endsEntry : Token → Bool
  | .blockEntry | .blockEnd => true
  | _ => false

/-- The tokens before which a key or a value of a block mapping counts as absent. -/
def endsPart : Token → Bool
  | .key | .value | .blockEnd => true
  | _ => false

/-- Between two parts of a flow collection a comma is needed. -/
def afterComma (first : Bool) (s : Source) : Source :=
  if first then s
  else
    match s.next? with
    | some .flowEntry => s.advance
    | _ => s.broken

def note (anchor : Option String) (s : Source) : Option Nat × Source :=
  match anchor with
  | some name => let (id, s) := s.addAnchor name; (some id, s)
  | none => (none, s)

mutual

/-- A node at the head of the tokens. `block` allows block collections, `indentless` a sequence that
is no deeper than the mapping around it. -/
def parse (block indentless : Bool) : Nat → Source → Node × Source
  | 0, s => (.broken, s.broken)
  | fuel + 1, s =>
      match s.next? with
      | some (.alias name) =>
          match s.anchor? name with
          | some id => (.alias id, s.advance)
          | none => (.broken, s.broken)
      | _ =>
          let (props, s) := takeProperties s
          match props.tag.map fun (handle, suffix) => s.resolveTag handle suffix with
          | some none => (.broken, s.broken)
          | tag => parseContent block indentless props.anchor tag.join fuel s

/-- What follows the properties. Properties without content stand for an absent scalar. -/
def parseContent (block indentless : Bool) (anchor tag : Option String) :
    Nat → Source → Node × Source
  | 0, s => (.broken, s.broken)
  | fuel + 1, s =>
      let (id, noted) := note anchor s
      match s.next?, block, indentless with
      | some (.scalar text style), _, _ => (.scalar id ⟨text, style, scalarTag tag⟩, noted.advance)
      | some .flowSequenceStart, _, _ =>
          let (items, closed, s) := parseFlowItems true fuel noted.advance
          (.sequence id tag items closed, s)
      | some .flowMappingStart, _, _ =>
          let (entries, closed, s) := parseFlowEntries true fuel noted.advance
          (.mapping id tag entries closed, s)
      | some .blockEntry, _, true =>
          let (items, closed, s) := parseIndentless fuel noted
          (.sequence id tag items closed, s)
      | some .blockSequenceStart, true, _ =>
          let (items, closed, s) := parseBlockItems fuel noted.advance
          (.sequence id tag items closed, s)
      | some .blockMappingStart, true, _ =>
          let (entries, closed, s) := parseBlockEntries fuel noted.advance
          (.mapping id tag entries closed, s)
      | some _, _, _ =>
          if anchor.isSome || tag.isSome then (.scalar id ⟨"", .plain, scalarTag tag⟩, noted)
          else (.broken, s.broken)
      | none, _, _ => (.broken, s.broken)

def parseBlockItems : Nat → Source → List Node × Bool × Source
  | 0, s => ([], false, s.broken)
  | fuel + 1, s =>
      match s.next? with
      | some .blockEntry =>
          let (n, s) := parsePart endsEntry true false fuel s.advance
          let (rest, closed, s) := parseBlockItems fuel s
          (n :: rest, closed, s)
      | some .blockEnd => ([], true, s.advance)
      | _ => ([], false, s.broken)

/-- A sequence that ends where its dashes end. -/
def parseIndentless : Nat → Source → List Node × Bool × Source
  | 0, s => ([], false, s.broken)
  | fuel + 1, s =>
      match s.next? with
      | some .blockEntry =>
          let (n, s) := parsePart (fun t => endsEntry t || endsPart t) true false fuel s.advance
          let (rest, closed, s) := parseIndentless fuel s
          (n :: rest, closed, s)
      | some _ => ([], true, s)
      | none => ([], false, s)

/-- A part of a collection that is absent before certain tokens. -/
def parsePart (isAbsent : Token → Bool) (block indentless : Bool) : Nat → Source → Node × Source
  | 0, s => (.broken, s.broken)
  | fuel + 1, s =>
      match s.next? with
      | some t => if isAbsent t then (absent, s) else parse block indentless fuel s
      | none => (.broken, s.broken)

/-- A value after its colon; without a colon it is absent. -/
def parseValue (isAbsent : Token → Bool) (block : Bool) : Nat → Source → Node × Source
  | 0, s => (.broken, s.broken)
  | fuel + 1, s =>
      match s.next? with
      | some .value => parsePart isAbsent block block fuel s.advance
      | some _ => (absent, s)
      | none => (.broken, s.broken)

def parseBlockEntries : Nat → Source → List (Node × Node) × Bool × Source
  | 0, s => ([], false, s.broken)
  | fuel + 1, s =>
      match s.next? with
      | some .key =>
          let (k, s) := parsePart endsPart true true fuel s.advance
          let (v, s) := parseValue endsPart true fuel s
          let (rest, closed, s) := parseBlockEntries fuel s
          ((k, v) :: rest, closed, s)
      | some .blockEnd => ([], true, s.advance)
      | _ => ([], false, s.broken)

def parseFlowItems (first : Bool) : Nat → Source → List Node × Bool × Source
  | 0, s => ([], false, s.broken)
  | fuel + 1, s =>
      match s.next? with
      | some .flowSequenceEnd => ([], true, s.advance)
      | none => ([], false, s)
      | some _ =>
          let s := afterComma first s
          match s.next? with
          | some .flowSequenceEnd => ([], true, s.advance)
          | none => ([], false, s)
          | some .key =>
              let (n, s) := parsePair fuel s.advance
              let (rest, closed, s) := parseFlowItems false fuel s
              (n :: rest, closed, s)
          | some _ =>
              let (n, s) := parse false false fuel s
              let (rest, closed, s) := parseFlowItems false fuel s
              (n :: rest, closed, s)

/-- A mapping of one entry, written as an item of a flow sequence. Where its key is absent the token
in the place of the key is passed over. -/
def parsePair : Nat → Source → Node × Source
  | 0, s => (.broken, s.broken)
  | fuel + 1, s =>
      let key (s : Source) : Option (Node × Source) :=
        match s.next? with
        | some .value | some .flowEntry | some .flowSequenceEnd => some (absent, s.advance)
        | some _ => some (parse false false fuel s)
        | none => none
      match key s with
      | none => (.mapping none none [] false, s)
      | some (k, s) =>
          let (v, s) := parseValue (fun t => t == .flowEntry || t == .flowSequenceEnd) false fuel s
          (.mapping none none [(k, v)] s.next?.isSome, s)

def parseFlowEntries (first : Bool) : Nat → Source → List (Node × Node) × Bool × Source
  | 0, s => ([], false, s.broken)
  | fuel + 1, s =>
      match s.next? with
      | some .flowMappingEnd => ([], true, s.advance)
      | none => ([], false, s)
      | some _ =>
          let s := afterComma first s
          match s.next? with
          | some .flowMappingEnd => ([], true, s.advance)
          | none => ([], false, s)
          | some .key =>
              let ends (t : Token) := t == .flowEntry || t == .flowMappingEnd
              let (k, s) := parsePart (fun t => t == .value || ends t) false false fuel s.advance
              let (v, s) := parseValue ends false fuel s
              let (rest, closed, s) := parseFlowEntries false fuel s
              ((k, v) :: rest, closed, s)
          | some _ =>
              let (k, s) := parse false false fuel s
              let v := if s.next?.isSome then absent else broken
              let (rest, closed, s) := parseFlowEntries false fuel s
              ((k, v) :: rest, closed, s)

end

mutual

/-- The anchored nodes in the order of the text. -/
def anchored : Node → List (Nat × Node)
  | .alias _ | .broken => []
  | .scalar a s => a.toList.map (·, .scalar a s)
  | .sequence a t items closed =>
      a.toList.map (·, .sequence a t items closed) ++ anchoredItems items
  | .mapping a t entries closed =>
      a.toList.map (·, .mapping a t entries closed) ++ anchoredEntries entries

def anchoredItems : List Node → List (Nat × Node)
  | [] => []
  | n :: rest => anchored n ++ anchoredItems rest

def anchoredEntries : List (Node × Node) → List (Nat × Node)
  | [] => []
  | (k, v) :: rest => anchored k ++ anchored v ++ anchoredEntries rest

end

mutual

/-- How many events a reader meets that goes over a node. -/
def size : Node → Nat
  | .alias _ | .scalar _ _ => 1
  | .broken => 0
  | .sequence _ _ items closed => 1 + sizeItems items + closed.toNat
  | .mapping _ _ entries closed => 1 + sizeEntries entries + closed.toNat

def sizeItems : List Node → Nat
  | [] => 0
  | n :: rest => size n + sizeItems rest

def sizeEntries : List (Node × Node) → Nat
  | [] => 0
  | (k, v) :: rest => size k + size v + sizeEntries rest

end

end Node

/-- The only document of a text, none if the text is empty but for comments. -/
structure Document where
  root : Option Node
  /-- Whether the text ends behind it as it should. -/
  complete : Bool
  deriving Repr

namespace Document

def knownHandles : List (String × String) := [("!", "!"), ("!!", "tag:yaml.org,2002:")]

/-- The directives before a document: the handles they define and the tokens behind them. -/
def directives (version : Bool) (handles : List (String × String)) :
    List Token → Option (List (String × String) × List Token)
  | .versionDirective major minor :: rest =>
      if version || major != 1 || (minor != 1 && minor != 2) then none
      else directives true handles rest
  | .tagDirective handle uri :: rest =>
      if handles.any (·.1 == handle) then none
      else directives version ((handle, uri) :: handles) rest
  | rest => some (handles, rest)

/-- The tokens before which a document is empty. -/
def endsDocument : Token → Bool
  | .versionDirective _ _ | .tagDirective _ _ | .documentStart | .documentEnd | .streamEnd => true
  | _ => false

/-- Whether nothing but ends of documents precedes the end of the stream. -/
def atEnd (tokens : List Token) : Bool := tokens.dropWhile (· == .documentEnd) == [.streamEnd]

def finish (result : Node × Node.Source) : Document := ⟨some result.1, atEnd result.2.tokens⟩

def ofTokens (tokens : List Token) : Document :=
  let fuel := 6 * tokens.length + 6
  match tokens with
  | [.streamEnd] => ⟨none, true⟩
  | [] => ⟨some .broken, false⟩
  | first :: _ =>
      if endsDocument first && first != .documentEnd then
        match directives false [] tokens with
        | some (handles, .documentStart :: rest) =>
            finish (Node.parsePart endsDocument true false fuel
              { tokens := rest, handles := handles ++ knownHandles })
        | _ => ⟨some .broken, false⟩
      else finish (Node.parse true false fuel { tokens, handles := knownHandles })

def ofText (text : String) : Document := ofTokens (scan text)

/-- The node behind an anchor number: the last one that was given it. -/
def anchors (d : Document) : List (Nat × Node) :=
  match d.root with
  | some n => n.anchored.reverse
  | none => []

def size (d : Document) : Nat :=
  match d.root with
  | some n => n.size
  | none => 1

end Document

end PipelineCompiler.Yaml
