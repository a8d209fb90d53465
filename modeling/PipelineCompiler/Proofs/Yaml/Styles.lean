import PipelineCompiler.Yaml.Node

namespace PipelineCompiler.Yaml

/-- A token, its text in quotes if it is the given one. -/
def Token.quoted (v : String) : Token → Token
  | .scalar text style => .scalar text (if text = v then .doubleQuoted else style)
  | t => t

def Scalar.quoted (v : String) (s : Scalar) : Scalar :=
  ⟨s.text, if s.text = v then .doubleQuoted else s.style, s.tag⟩

namespace Node

mutual

def quoted (v : String) : Node → Node
  | .scalar a s => .scalar a (s.quoted v)
  | .sequence a t items closed => .sequence a t (quotedItems v items) closed
  | .mapping a t entries closed => .mapping a t (quotedEntries v entries) closed
  | .alias id => .alias id
  | .broken => .broken

def quotedItems (v : String) : List Node → List Node
  | [] => []
  | n :: rest => quoted v n :: quotedItems v rest

def quotedEntries (v : String) : List (Node × Node) → List (Node × Node)
  | [] => []
  | (k, n) :: rest => (quoted v k, quoted v n) :: quotedEntries v rest

end

namespace Source

def quoted (v : String) (s : Source) : Source := { s with tokens := s.tokens.map (Token.quoted v) }

variable (v : String) (s : Source)

@[simp] theorem next?_quoted : (s.quoted v).next? = s.next?.map (Token.quoted v) := by
  simp [next?, quoted]

@[simp] theorem advance_quoted : (s.quoted v).advance = s.advance.quoted v := by
  simp [advance, quoted]

@[simp] theorem broken_quoted : (s.quoted v).broken = s.broken.quoted v := by
  simp [broken, quoted]

@[simp] theorem anchor?_quoted (name : String) : (s.quoted v).anchor? name = s.anchor? name := rfl

@[simp] theorem resolveTag_quoted (handle suffix : String) :
    (s.quoted v).resolveTag handle suffix = s.resolveTag handle suffix := rfl

end Source

section Quoted

variable {v : String}

theorem takeProperties_quoted (s : Source) :
    takeProperties (s.quoted v) = ((takeProperties s).1, (takeProperties s).2.quoted v) := by
  obtain ⟨tokens, anchors, handles⟩ := s
  cases tokens with
  | nil => rfl
  | cons t rest =>
    cases t
    case anchor =>
      cases rest with
      | nil => rfl
      | cons u rest => cases u <;> rfl
    case tag =>
      cases rest with
      | nil => rfl
      | cons u rest => cases u <;> rfl
    all_goals rfl

@[simp] theorem note_quoted (anchor : Option String) (s : Source) :
    note anchor (s.quoted v) = ((note anchor s).1, (note anchor s).2.quoted v) := by
  cases anchor <;> rfl

@[simp] theorem afterComma_quoted (first : Bool) (s : Source) :
    afterComma first (s.quoted v) = (afterComma first s).quoted v := by
  unfold afterComma
  rw [Source.next?_quoted]
  cases first with
  | true => rfl
  | false =>
    cases s.next? with
    | none => simp
    | some t => cases t <;> simp [Token.quoted]

def quotedOne (v : String) (r : Node × Source) : Node × Source := (r.1.quoted v, r.2.quoted v)

def quotedMany (v : String) (r : List Node × Bool × Source) : List Node × Bool × Source :=
  (quotedItems v r.1, r.2.1, r.2.2.quoted v)

def quotedPairs (v : String) (r : List (Node × Node) × Bool × Source) :
    List (Node × Node) × Bool × Source :=
  (quotedEntries v r.1, r.2.1, r.2.2.quoted v)

/-- A test that does not look at quotes. -/
def Blind (v : String) (isAbsent : Token → Bool) : Prop :=
  ∀ t : Token, isAbsent (t.quoted v) = isAbsent t

/-- What is read with so much fuel from quoted tokens is what is read from the tokens, quoted. -/
structure Commutes (v : String) (fuel : Nat) : Prop where
  parse : ∀ block indentless s,
    parse block indentless fuel (s.quoted v) = quotedOne v (parse block indentless fuel s)
  parseContent : ∀ block indentless anchor tag s,
    parseContent block indentless anchor tag fuel (s.quoted v) =
      quotedOne v (parseContent block indentless anchor tag fuel s)
  parseBlockItems : ∀ s, parseBlockItems fuel (s.quoted v) = quotedMany v (parseBlockItems fuel s)
  parseIndentless : ∀ s, parseIndentless fuel (s.quoted v) = quotedMany v (parseIndentless fuel s)
  parsePart : ∀ isAbsent, Blind v isAbsent → ∀ block indentless s,
    parsePart isAbsent block indentless fuel (s.quoted v) =
    quotedOne v (parsePart isAbsent block indentless fuel s)
  parseValue : ∀ isAbsent, Blind v isAbsent → ∀ block s,
    parseValue isAbsent block fuel (s.quoted v) = quotedOne v (parseValue isAbsent block fuel s)
  parseBlockEntries :
    ∀ s, parseBlockEntries fuel (s.quoted v) = quotedPairs v (parseBlockEntries fuel s)
  parseFlowItems :
    ∀ first s, parseFlowItems first fuel (s.quoted v) = quotedMany v (parseFlowItems first fuel s)
  parsePair : ∀ s, parsePair fuel (s.quoted v) = quotedOne v (parsePair fuel s)
  parseFlowEntries : ∀ first s,
    parseFlowEntries first fuel (s.quoted v) = quotedPairs v (parseFlowEntries first fuel s)

theorem commutes_zero : Commutes v 0 := by
  constructor <;> intros <;>
    simp [parse, parseContent, parseBlockItems, parseIndentless, parsePart, parseValue,
      parseBlockEntries, parseFlowItems, parsePair, parseFlowEntries, quotedOne, quotedMany,
      quotedPairs, quoted, quotedItems, quotedEntries]

theorem blind_endsEntry : Blind v endsEntry := fun t => by cases t <;> rfl

theorem blind_endsPart : Blind v endsPart := fun t => by cases t <;> rfl

theorem blind_eq {u : Token} (mark : ∀ text style, Token.scalar text style ≠ u) :
    Blind v (· == u) := by
  intro t
  cases t
  case scalar text style =>
    have other (style' : Style) : (Token.scalar text style' == u) = false :=
      beq_false_of_ne (mark text style')
    exact (other _).trans (other _).symm
  all_goals rfl

theorem Blind.or {p q : Token → Bool} (hp : Blind v p) (hq : Blind v q) :
    Blind v fun t => p t || q t := by
  intro t
  dsimp only
  rw [hp t, hq t]

/-- What is not written stays so, as the empty text is not quoted. -/
theorem quoted_absent (hv : v ≠ "") : absent.quoted v = absent := by
  simp [absent, quoted, Scalar.quoted, Ne.symm hv]

theorem quoted_absent_or_broken (hv : v ≠ "") (b : Bool) :
    (if b then absent else broken).quoted v = if b then absent else broken := by
  cases b with
  | true => exact quoted_absent hv
  | false => rfl

/-- Properties without content, or nothing at all. -/
theorem quotedOne_properties (hv : v ≠ "") (b : Bool) (id : Option Nat) (tag : Option String)
    (s noted : Source) :
    (if b then (Node.scalar id ⟨"", .plain, tag⟩, noted.quoted v)
      else (broken, s.broken.quoted v)) =
      quotedOne v
        (if b then (Node.scalar id ⟨"", .plain, tag⟩, noted) else (broken, s.broken)) := by
  cases b <;> simp [quotedOne, quoted, Scalar.quoted, Ne.symm hv]

section Step

variable {fuel : Nat} (h : Commutes v fuel)
include h

theorem Commutes.parse_succ (block indentless : Bool) (s : Source) :
    Node.parse block indentless (fuel + 1) (s.quoted v) =
      quotedOne v (Node.parse block indentless (fuel + 1) s) := by
  simp only [Node.parse, Source.next?_quoted, takeProperties_quoted, Source.resolveTag_quoted]
  cases s.next? with
  | none =>
    simp only [Option.map_none]
    split <;> simp [h.parseContent, quotedOne, quoted]
  | some t =>
    cases t
    case «alias» name =>
      simp only [Option.map_some, Token.quoted, Source.anchor?_quoted]
      cases s.anchor? name <;> simp [quotedOne, quoted]
    all_goals
      simp only [Option.map_some, Token.quoted]
      split <;> simp [h.parseContent, quotedOne, quoted]

theorem Commutes.parseContent_succ (hv : v ≠ "") (block indentless : Bool)
    (anchor tag : Option String) (s : Source) :
    Node.parseContent block indentless anchor tag (fuel + 1) (s.quoted v) =
      quotedOne v (Node.parseContent block indentless anchor tag (fuel + 1) s) := by
  simp only [Node.parseContent, Source.next?_quoted, note_quoted]
  cases s.next? with
  | none => simp [quotedOne, quoted]
  | some t =>
    cases t
    case scalar => simp [Token.quoted, quotedOne, quoted, Scalar.quoted]
    case flowSequenceStart => simp [Token.quoted, quotedOne, quotedMany, quoted, h.parseFlowItems]
    case flowMappingStart => simp [Token.quoted, quotedOne, quotedPairs, quoted, h.parseFlowEntries]
    case blockEntry =>
      cases indentless
      · exact quotedOne_properties hv ..
      · simp [Token.quoted, quotedOne, quotedMany, quoted, h.parseIndentless]
    case blockSequenceStart =>
      cases block
      · exact quotedOne_properties hv ..
      · simp [Token.quoted, quotedOne, quotedMany, quoted, h.parseBlockItems]
    case blockMappingStart =>
      cases block
      · exact quotedOne_properties hv ..
      · simp [Token.quoted, quotedOne, quotedPairs, quoted, h.parseBlockEntries]
    -- No node begins with any other token.
    all_goals exact quotedOne_properties hv ..

theorem Commutes.parseBlockItems_succ (s : Source) :
    Node.parseBlockItems (fuel + 1) (s.quoted v) =
      quotedMany v (Node.parseBlockItems (fuel + 1) s) := by
  simp only [Node.parseBlockItems, Source.next?_quoted, Source.advance_quoted, Source.broken_quoted]
  cases s.next? with
  | none => rfl
  | some t =>
    cases t
    case blockEntry =>
      simp [Token.quoted, h.parsePart _ blind_endsEntry, h.parseBlockItems, quotedOne,
        quotedMany, quotedItems]
    all_goals rfl

theorem Commutes.parseIndentless_succ (s : Source) :
    Node.parseIndentless (fuel + 1) (s.quoted v) =
      quotedMany v (Node.parseIndentless (fuel + 1) s) := by
  simp only [Node.parseIndentless, Source.next?_quoted, Source.advance_quoted]
  cases s.next? with
  | none => rfl
  | some t =>
    cases t
    case blockEntry =>
      simp [Token.quoted, h.parsePart _ (blind_endsEntry.or blind_endsPart), h.parseIndentless,
        quotedOne, quotedMany, quotedItems]
    all_goals rfl

theorem Commutes.parsePart_succ (hv : v ≠ "") {isAbsent : Token → Bool} (blind : Blind v isAbsent)
    (block indentless : Bool) (s : Source) :
    Node.parsePart isAbsent block indentless (fuel + 1) (s.quoted v) =
      quotedOne v (Node.parsePart isAbsent block indentless (fuel + 1) s) := by
  simp only [Node.parsePart, Source.next?_quoted, Source.broken_quoted]
  cases s.next? with
  | none => rfl
  | some t =>
    simp only [Option.map_some, blind t, h.parse]
    split
    · rw [quotedOne, quoted_absent hv]
    · rfl

theorem Commutes.parseValue_succ (hv : v ≠ "") {isAbsent : Token → Bool} (blind : Blind v isAbsent)
    (block : Bool) (s : Source) : Node.parseValue isAbsent block (fuel + 1) (s.quoted v) =
      quotedOne v (Node.parseValue isAbsent block (fuel + 1) s) := by
  simp only [Node.parseValue, Source.next?_quoted, Source.advance_quoted, Source.broken_quoted]
  cases s.next? with
  | none => rfl
  | some t => cases t <;> simp [Token.quoted, h.parsePart _ blind, quotedOne, quoted_absent hv]

theorem Commutes.parseBlockEntries_succ (s : Source) :
    Node.parseBlockEntries (fuel + 1) (s.quoted v) =
      quotedPairs v (Node.parseBlockEntries (fuel + 1) s) := by
  simp only [Node.parseBlockEntries, Source.next?_quoted, Source.advance_quoted,
    Source.broken_quoted]
  cases s.next? with
  | none => rfl
  | some t =>
    cases t
    case key =>
      simp [Token.quoted, h.parsePart _ blind_endsPart, h.parseValue _ blind_endsPart,
        h.parseBlockEntries, quotedOne, quotedPairs, quotedEntries]
    all_goals rfl

theorem Commutes.parseFlowItems_succ (first : Bool) (s : Source) :
    Node.parseFlowItems first (fuel + 1) (s.quoted v) =
      quotedMany v (Node.parseFlowItems first (fuel + 1) s) := by
  simp only [Node.parseFlowItems, Source.next?_quoted, Source.advance_quoted, afterComma_quoted]
  cases s.next? with
  | none => rfl
  | some t =>
    cases t
    case flowSequenceEnd => rfl
    all_goals
      simp only [Option.map_some, Token.quoted]
      cases (afterComma first s).next? with
      | none => rfl
      | some t =>
        cases t <;> simp only [Option.map_some, Token.quoted, h.parse, h.parsePair,
          h.parseFlowItems, quotedOne, quotedMany, quotedItems]

theorem Commutes.parsePair_succ (hv : v ≠ "") (s : Source) :
    Node.parsePair (fuel + 1) (s.quoted v) = quotedOne v (Node.parsePair (fuel + 1) s) := by
  have ends : Blind v fun t => t == .flowEntry || t == .flowSequenceEnd :=
    (blind_eq fun _ _ => Token.noConfusion).or (blind_eq fun _ _ => Token.noConfusion)
  simp only [Node.parsePair, Source.next?_quoted, Source.advance_quoted]
  cases s.next? with
  | none => rfl
  | some t =>
    cases t <;>
      simp [Token.quoted, h.parse, h.parseValue _ ends, quotedOne, quoted, quotedEntries,
        quoted_absent hv]

theorem Commutes.parseFlowEntries_succ (hv : v ≠ "") (first : Bool) (s : Source) :
    Node.parseFlowEntries first (fuel + 1) (s.quoted v) =
      quotedPairs v (Node.parseFlowEntries first (fuel + 1) s) := by
  have ends : Blind v fun t => t == .flowEntry || t == .flowMappingEnd :=
    (blind_eq fun _ _ => Token.noConfusion).or (blind_eq fun _ _ => Token.noConfusion)
  have key : Blind v fun t => t == .value || (t == .flowEntry || t == .flowMappingEnd) :=
    (blind_eq fun _ _ => Token.noConfusion).or ends
  simp only [Node.parseFlowEntries, Source.next?_quoted, Source.advance_quoted, afterComma_quoted]
  cases s.next? with
  | none => rfl
  | some t =>
    cases t
    case flowMappingEnd => rfl
    all_goals
      simp only [Option.map_some, Token.quoted]
      cases (afterComma first s).next? with
      | none => rfl
      | some t =>
        cases t
        case flowMappingEnd => rfl
        case key =>
          simp only [Option.map_some, Token.quoted, h.parsePart _ key, h.parseValue _ ends,
            h.parseFlowEntries, quotedOne, quotedPairs, quotedEntries]
        all_goals
          simp only [Option.map_some, Token.quoted, h.parse, h.parseFlowEntries,
            Source.next?_quoted, Option.isSome_map, quotedOne, quotedPairs, quotedEntries,
            quoted_absent_or_broken hv]

theorem Commutes.succ (hv : v ≠ "") : Commutes v (fuel + 1) where
  parse := h.parse_succ
  parseContent := h.parseContent_succ hv
  parseBlockItems := h.parseBlockItems_succ
  parseIndentless := h.parseIndentless_succ
  parsePart _ := h.parsePart_succ hv
  parseValue _ := h.parseValue_succ hv
  parseBlockEntries := h.parseBlockEntries_succ
  parseFlowItems := h.parseFlowItems_succ
  parsePair := h.parsePair_succ hv
  parseFlowEntries := h.parseFlowEntries_succ hv

end Step

theorem commutes (hv : v ≠ "") (fuel : Nat) : Commutes v fuel := by
  induction fuel with
  | zero => exact commutes_zero
  | succ fuel ih => exact ih.succ hv

end Quoted

mutual

theorem anchored_quoted (v : String) :
    ∀ n : Node, (n.quoted v).anchored = n.anchored.map fun p => (p.1, p.2.quoted v)
  | .alias _ | .broken => by simp [quoted, anchored]
  | .scalar a s => by cases a <;> simp [quoted, anchored]
  | .sequence a t items closed => by
      cases a <;> simp [quoted, anchored, anchoredItems_quoted v items]
  | .mapping a t entries closed => by
      cases a <;> simp [quoted, anchored, anchoredEntries_quoted v entries]

theorem anchoredItems_quoted (v : String) : ∀ items : List Node,
    anchoredItems (quotedItems v items) = (anchoredItems items).map fun p => (p.1, p.2.quoted v)
  | [] => rfl
  | n :: rest => by simp [quotedItems, anchoredItems, anchored_quoted v n,
    anchoredItems_quoted v rest]

theorem anchoredEntries_quoted (v : String) : ∀ entries : List (Node × Node),
    anchoredEntries (quotedEntries v entries) = (anchoredEntries entries).map fun p =>
      (p.1, p.2.quoted v)
  | [] => rfl
  | (k, n) :: rest => by
      simp [quotedEntries, anchoredEntries, anchored_quoted v k, anchored_quoted v n,
        anchoredEntries_quoted v rest]

end

mutual

theorem size_quoted (v : String) : ∀ n : Node, (n.quoted v).size = n.size
  | .alias _ | .broken | .scalar _ _ => rfl
  | .sequence a t items closed => by simp [quoted, size, sizeItems_quoted v items]
  | .mapping a t entries closed => by simp [quoted, size, sizeEntries_quoted v entries]

theorem sizeItems_quoted (v : String) :
    ∀ items : List Node, sizeItems (quotedItems v items) = sizeItems items
  | [] => rfl
  | n :: rest => by simp [quotedItems, sizeItems, size_quoted v n, sizeItems_quoted v rest]

theorem sizeEntries_quoted (v : String) :
    ∀ entries : List (Node × Node), sizeEntries (quotedEntries v entries) = sizeEntries entries
  | [] => rfl
  | (k, n) :: rest => by
      simp [quotedEntries, sizeEntries, size_quoted v k, size_quoted v n, sizeEntries_quoted v rest]

end

end Node

namespace Document

def quoted (v : String) (d : Document) : Document := { d with root := d.root.map (Node.quoted v) }

variable {v : String}

theorem directives_quoted (version : Bool) (handles : List (String × String))
    (tokens : List Token) :
    directives version handles (tokens.map (Token.quoted v)) =
      (directives version handles tokens).map fun p => (p.1, p.2.map (Token.quoted v)) := by
  fun_induction directives version handles tokens with
  | case1 version handles major minor rest stop => simp [Token.quoted, directives, stop]
  | case2 version handles major minor rest go ih => simp [Token.quoted, directives, go, ih]
  | case3 version handles handle uri rest stop => simp [Token.quoted, directives, stop]
  | case4 version handles handle uri rest go ih => simp [Token.quoted, directives, go, ih]
  | case5 version handles rest hversion htag =>
    cases rest with
    | nil => rfl
    | cons t rest =>
      cases t
      case versionDirective => exact absurd rfl (hversion _ _ _)
      case tagDirective => exact absurd rfl (htag _ _ _)
      all_goals rfl

theorem endsDocument_quoted (t : Token) :
    endsDocument (t.quoted v) = endsDocument t := by cases t <;> rfl

theorem atEnd_quoted (tokens : List Token) :
    atEnd (tokens.map (Token.quoted v)) = atEnd tokens := by
  induction tokens with
  | nil => rfl
  | cons t rest ih =>
    cases t
    case documentEnd => exact ih
    case streamEnd => cases rest <;> rfl
    all_goals rfl

theorem finish_quoted (r : Node × Node.Source) :
    finish (Node.quotedOne v r) = (finish r).quoted v := by
  simp [finish, Node.quotedOne, quoted, Node.Source.quoted, atEnd_quoted]

theorem ofTokens_cons {first : Token} {rest : List Token} (more : first :: rest ≠ [.streamEnd]) :
    ofTokens (first :: rest) =
      if endsDocument first && first != .documentEnd then
        match directives false [] (first :: rest) with
        | some (handles, .documentStart :: rest') =>
            finish (Node.parsePart endsDocument true false (6 * (first :: rest).length + 6)
              { tokens := rest', handles := handles ++ knownHandles })
        | _ => ⟨some .broken, false⟩
      else finish (Node.parse true false (6 * (first :: rest).length + 6)
        { tokens := first :: rest, handles := knownHandles }) := by
  unfold ofTokens
  split
  · contradiction
  · contradiction
  · rename_i heq
    cases heq
    rfl

/-- The document of quoted tokens is the document of the tokens, quoted. -/
theorem ofTokens_quoted (hv : v ≠ "") (tokens : List Token) :
    ofTokens (tokens.map (Token.quoted v)) = (ofTokens tokens).quoted v := by
  have hends : ∀ t : Token, (t.quoted v != .documentEnd) = (t != .documentEnd) :=
    fun t => by cases t <;> rfl
  have hparse (tokens : List Token) (fuel : Nat) :
      finish (Node.parse true false fuel
        { tokens := tokens.map (Token.quoted v), handles := knownHandles }) =
        (finish (Node.parse true false fuel { tokens, handles := knownHandles })).quoted v := by
    rw [← finish_quoted, ← (Node.commutes hv fuel).parse]
    rfl
  have hpart (tokens : List Token) (handles : List (String × String)) (fuel : Nat) :
      finish (Node.parsePart endsDocument true false fuel
        { tokens := tokens.map (Token.quoted v), handles }) =
        (finish (Node.parsePart endsDocument true false fuel { tokens, handles })).quoted v := by
    rw [← finish_quoted, ← (Node.commutes hv fuel).parsePart _ endsDocument_quoted]
    rfl
  cases tokens with
  | nil => rfl
  | cons first rest =>
    by_cases only : first :: rest = [.streamEnd]
    · rw [only]
      rfl
    have more : first.quoted v :: rest.map (Token.quoted v) ≠ [.streamEnd] := by
      intro h
      obtain ⟨hfirst, hrest⟩ := List.cons.inj h
      cases first <;> simp_all [Token.quoted]
    rw [List.map_cons, ofTokens_cons more, ofTokens_cons only, endsDocument_quoted, hends,
      ← List.map_cons, directives_quoted, List.length_map, hparse]
    split
    · match directives false [] (first :: rest) with
      | none => rfl
      | some (handles, []) => rfl
      | some (handles, t :: rest') =>
        cases t
        case documentStart => exact hpart _ _ _
        all_goals rfl
    · rfl

end Document

namespace Scanner

/-- Where a scanner stops, and how many of its tokens can be used. -/
def stop : Nat → Scanner → Scanner × Nat
  | 0, s => (s, s.firstOpen)
  | fuel + 1, s =>
      match s.dropStale with
      | none => (s, s.firstOpen)
      | some s =>
          match s.fetch with
          | none => (s, s.firstOpen)
          | some (s, true) => (s, s.count)
          | some (s, false) => stop fuel s

theorem run_eq_tokensUpTo (fuel : Nat) (s : Scanner) :
    run fuel s = (stop fuel s).1.tokensUpTo (stop fuel s).2 := by
  induction fuel generalizing s with
  | zero => rfl
  | succ fuel ih =>
    unfold run stop
    cases s.dropStale with
    | none => rfl
    | some s =>
      dsimp only
      match s.fetch with
      | none => rfl
      | some (s, true) => rfl
      | some (s, false) => exact ih s

/-- Where the scanner of a text stops. -/
def stopOf (cs : List Char) : Scanner × Nat := stop (cs.length + 2) { rest := cs }

end Scanner

/-- The tokens of a text whose keys open in the order of their colons: nothing is to be sorted. -/
theorem scan_ofList {cs : List Char} {tokens : List Token}
    (h : cs.head? ≠ some '\ufeff' ∧ cs.all isAllowed = true ∧
      (Scanner.stopOf cs).1.openings.reverse.Pairwise (fun a b =>
        decide (a.token ≤ b.token) = true) ∧
      Scanner.splice (Scanner.stopOf cs).1.openings.reverse 0
        ((Scanner.stopOf cs).1.tokens.reverse.take (Scanner.stopOf cs).2) = tokens) :
    scan (String.ofList cs) = tokens := by
  obtain ⟨mark, allowed, sorted, rfl⟩ := h
  have run : scan (String.ofList cs) = (Scanner.stopOf cs).1.tokensUpTo (Scanner.stopOf cs).2 := by
    rw [scan, String.toList_ofList, if_neg mark, if_pos allowed]
    exact Scanner.run_eq_tokensUpTo _ _
  rw [run, Scanner.tokensUpTo, Scanner.sortedOpenings, List.mergeSort_of_pairwise sorted]

end PipelineCompiler.Yaml
