import PipelineCompiler.Proofs.Yaml.Pretty
import PipelineCompiler.Yaml.Node

namespace PipelineCompiler.Yaml

open Json (Value)
open PipelineCompiler.Yaml.Node (parse parseContent parseFlowItems parseFlowEntries parsePart
  parseValue Source)

mutual

/-- A value as a tree in flow style. -/
def node : Value → Node
  | .null => .scalar none ⟨"null", .plain, none⟩
  | .bool b => .scalar none ⟨if b then "true" else "false", .plain, none⟩
  | .number n => .scalar none ⟨n.text, .plain, none⟩
  | .text s => .scalar none ⟨s, .doubleQuoted, none⟩
  | .array items => .sequence none none (itemNodes items) true
  | .object members => .mapping none none (memberNodes members) true

def itemNodes : List Value → List Node
  | [] => []
  | v :: rest => node v :: itemNodes rest

def memberNodes : List (String × Value) → List (Node × Node)
  | [] => []
  | (k, v) :: rest => (.scalar none ⟨k, .doubleQuoted, none⟩, node v) :: memberNodes rest

end

/-- The tokens with which a node in flow style may begin. -/
def startsNode : Token → Bool
  | .scalar _ _ | .flowSequenceStart | .flowMappingStart => true
  | _ => false

theorem eq_of_startsNode {t : Token} (h : startsNode t = true) :
    (∃ text style, t = .scalar text style) ∨ t = .flowSequenceStart ∨ t = .flowMappingStart := by
  cases t <;> simp_all [startsNode]

/-- Tokens that make one node, whatever follows; two steps for each token are enough. -/
structure Parses (tokens : List Token) (n : Node) : Prop where
  starts : ∃ t ts, tokens = t :: ts ∧ startsNode t = true
  parse : ∀ block fuel rest anchors handles, 2 * tokens.length ≤ fuel →
    parse block false fuel ⟨tokens ++ rest, anchors, handles⟩ = (n, ⟨rest, anchors, handles⟩)

variable (anchors : List (String × Nat)) (handles : List (String × String))

/-- No properties stand before the node. -/
theorem parse_starts (block : Bool) (fuel : Nat) {t : Token} (ht : startsNode t = true)
    (ts : List Token) :
    parse block false (fuel + 1) ⟨t :: ts, anchors, handles⟩ =
      parseContent block false none none fuel ⟨t :: ts, anchors, handles⟩ := by
  rcases eq_of_startsNode ht with ⟨text, style, rfl⟩ | rfl | rfl <;>
    simp [parse, Source.next?, Node.takeProperties]

theorem parses_scalar (text : String) (style : Style) :
    Parses [.scalar text style] (.scalar none ⟨text, style, none⟩) where
  starts := ⟨_, _, rfl, rfl⟩
  parse block fuel rest anchors handles hf := by
    obtain ⟨fuel, rfl⟩ : ∃ n, fuel = n + 1 + 1 := Nat.exists_eq_add_of_le' hf
    rw [List.singleton_append, parse_starts anchors handles block (fuel + 1) rfl]
    simp [parseContent, Source.next?, Source.advance, Node.note, Node.scalarTag]

/-- The comma before every part of a collection but the first. -/
def separator (first : Bool) : List Token := if first then [] else [.flowEntry]

theorem spelled_cons_cons (m m' : List Placed) (marks : List (List Placed)) :
    Placed.spelled ([(false, .flowEntry)].intercalate (m :: m' :: marks)) =
      Placed.spelled m ++ .flowEntry ::
        Placed.spelled ([(false, .flowEntry)].intercalate (m' :: marks)) := by
  rw [List.intercalate_cons_cons]
  simp [Placed.spelled]

theorem spelled_collection (first last : Token) (m : List Placed) :
    Placed.spelled ((false, first) :: (m ++ [(false, last)])) =
      first :: (Placed.spelled m ++ [last]) := by
  simp [Placed.spelled]

theorem parseFlowItems_end (first : Bool) (fuel : Nat) (rest : List Token) :
    parseFlowItems first (fuel + 1) ⟨.flowSequenceEnd :: rest, anchors, handles⟩ =
      ([], true, ⟨rest, anchors, handles⟩) := by
  simp [parseFlowItems, Source.next?, Source.advance]

theorem parseFlowItems_item (first : Bool) {fuel : Nat} {tokens : List Token} {n : Node}
    (hn : Parses tokens n) (hf : 2 * tokens.length ≤ fuel) (rest : List Token) :
    parseFlowItems first (fuel + 1) ⟨separator first ++ (tokens ++ rest), anchors, handles⟩ =
      (n :: (parseFlowItems false fuel ⟨rest, anchors, handles⟩).1,
        (parseFlowItems false fuel ⟨rest, anchors, handles⟩).2) := by
  obtain ⟨t, ts, rfl, ht⟩ := hn.starts
  have parsed := hn.parse false fuel rest anchors handles hf
  rw [List.cons_append] at parsed ⊢
  rcases eq_of_startsNode ht with ⟨text, style, rfl⟩ | rfl | rfl <;> cases first <;>
    simp [separator, parseFlowItems, Source.next?, Source.advance, Node.afterComma, parsed]

theorem parseFlowItems_items {marks : List (List Placed)} {nodes : List Node}
    (h : List.Forall₂ (fun m n => Parses (Placed.spelled m) n) marks nodes) (hn : nodes ≠ [])
    (first : Bool) {fuel : Nat}
    (hf : 2 * (Placed.spelled ([(false, .flowEntry)].intercalate marks)).length + 1 ≤ fuel)
    (rest : List Token) :
    parseFlowItems first fuel ⟨separator first ++
        (Placed.spelled ([(false, .flowEntry)].intercalate marks) ++ .flowSequenceEnd :: rest),
          anchors, handles⟩ =
      (nodes, true, ⟨rest, anchors, handles⟩) := by
  induction h generalizing first fuel with
  | nil => exact absurd rfl hn
  | @cons m n marks nodes hm hr ih =>
    obtain ⟨fuel, rfl⟩ : ∃ k, fuel = k + 1 :=
      Nat.exists_eq_add_of_le' (Nat.le_trans (Nat.le_add_left 1 _) hf)
    obtain ⟨t, ts, nonempty, -⟩ := hm.starts
    have positive : 0 < (Placed.spelled m).length := by simp [nonempty]
    cases hr with
    | nil =>
      rw [List.intercalate_singleton] at hf ⊢
      obtain ⟨fuel, rfl⟩ : ∃ k, fuel = k + 1 := Nat.exists_eq_add_of_le' (by omega)
      rw [parseFlowItems_item anchors handles first hm (by omega), parseFlowItems_end]
    | @cons m' n' marks nodes hm' hr =>
      rw [spelled_cons_cons] at hf ⊢
      simp only [List.length_append, List.length_cons] at hf
      have others := @ih (by simp) false fuel (by omega)
      rw [List.append_assoc, parseFlowItems_item anchors handles first hm (by omega)]
      rw [List.cons_append]
      rw [separator, if_neg (by decide), List.singleton_append] at others
      rw [others]

/-- A sequence between its brackets. -/
theorem parses_sequence {marks : List (List Placed)} {nodes : List Node}
    (h : List.Forall₂ (fun m n => Parses (Placed.spelled m) n) marks nodes) :
    Parses (.flowSequenceStart :: (Placed.spelled ([(false, .flowEntry)].intercalate marks) ++
      [.flowSequenceEnd]))
      (.sequence none none nodes true) := by
  refine ⟨⟨_, _, rfl, rfl⟩, fun block fuel rest anchors handles hf => ?_⟩
  simp only [List.length_cons, List.length_append, List.length_nil] at hf
  obtain ⟨fuel, rfl⟩ : ∃ k, fuel = k + 1 + 1 :=
    Nat.exists_eq_add_of_le' (Nat.le_trans (by omega : 2 ≤ _) hf)
  have items : parseFlowItems true fuel ⟨Placed.spelled ([(false, .flowEntry)].intercalate marks) ++
      .flowSequenceEnd :: rest, anchors, handles⟩ = (nodes, true, ⟨rest, anchors, handles⟩) := by
    cases h with
    | nil =>
      obtain ⟨fuel, rfl⟩ : ∃ k, fuel = k + 1 := Nat.exists_eq_add_of_le' (by omega)
      exact parseFlowItems_end anchors handles true fuel rest
    | cons hm hr =>
      exact parseFlowItems_items anchors handles (.cons hm hr) (by simp) true (by omega) rest
  rw [List.cons_append, parse_starts anchors handles block (fuel + 1) rfl, List.append_assoc,
    List.singleton_append]
  simp [parseContent, Source.next?, Source.advance, Node.note, items]

theorem parseFlowEntries_end (first : Bool) (fuel : Nat) (rest : List Token) :
    parseFlowEntries first (fuel + 1) ⟨.flowMappingEnd :: rest, anchors, handles⟩ =
      ([], true, ⟨rest, anchors, handles⟩) := by
  simp [parseFlowEntries, Source.next?, Source.advance]

theorem parsePart_starts {tokens : List Token} {n : Node} (hn : Parses tokens n)
    (isAbsent : Token → Bool) (absent : ∀ t, startsNode t = true → isAbsent t = false) (fuel : Nat)
    (hf : 2 * tokens.length ≤ fuel) (rest : List Token) :
    parsePart isAbsent false false (fuel + 1) ⟨tokens ++ rest, anchors, handles⟩ =
      (n, ⟨rest, anchors, handles⟩) := by
  obtain ⟨t, ts, rfl, ht⟩ := hn.starts
  have parsed := hn.parse false fuel rest anchors handles hf
  rw [List.cons_append] at parsed ⊢
  simp [parsePart, Source.next?, absent t ht, parsed]

/-- The tokens of an entry of a mapping. -/
def entryTokens (key : String) (tokens : List Token) : List Token :=
  .key :: .scalar key .doubleQuoted :: .value :: tokens

theorem parseFlowEntries_entry (first : Bool) {fuel : Nat} (key : String)
    {tokens : List Token} {n : Node} (hn : Parses tokens n) (hf : 2 * tokens.length + 2 ≤ fuel)
    (rest : List Token) :
    parseFlowEntries first (fuel + 1) ⟨separator first ++ (entryTokens key tokens ++ rest),
      anchors, handles⟩ =
      ((.scalar none ⟨key, .doubleQuoted, none⟩, n) ::
          (parseFlowEntries false fuel ⟨rest, anchors, handles⟩).1,
        (parseFlowEntries false fuel ⟨rest, anchors, handles⟩).2) := by
  obtain ⟨fuel, rfl⟩ : ∃ k, fuel = k + 1 + 1 :=
    Nat.exists_eq_add_of_le' (Nat.le_trans (Nat.le_add_left 2 _) hf)
  obtain ⟨t, ts, nonempty, -⟩ := hn.starts
  have positive : 0 < tokens.length := by simp [nonempty]
  have name := parsePart_starts anchors handles (parses_scalar key .doubleQuoted)
    (fun t => t == .value || (t == .flowEntry || t == .flowMappingEnd))
    (fun t ht => by rcases eq_of_startsNode ht with ⟨text, style, rfl⟩ | rfl | rfl <;> rfl)
    (fuel + 1) (by simp; omega) (.value :: (tokens ++ rest))
  have content :=
    parsePart_starts anchors handles hn (fun t => t == .flowEntry || t == .flowMappingEnd)
    (fun t ht => by rcases eq_of_startsNode ht with ⟨text, style, rfl⟩ | rfl | rfl <;> rfl)
    fuel (by omega) rest
  rw [List.singleton_append] at name
  cases first <;>
    simp [entryTokens, separator, parseFlowEntries, parseValue, Source.next?, Source.advance,
      Node.afterComma, name, content]

/-- The tokens of a part make an entry of a mapping. -/
def ParsesEntry (m : List Placed) (entry : Node × Node) : Prop :=
  ∃ key tokens, Placed.spelled m = entryTokens key tokens ∧
    entry.1 = .scalar none ⟨key, .doubleQuoted, none⟩ ∧ Parses tokens entry.2

theorem parseFlowEntries_entries {marks : List (List Placed)} {entries : List (Node × Node)}
    (h : List.Forall₂ ParsesEntry marks entries) (hn : entries ≠ []) (first : Bool)
    {fuel : Nat}
    (hf : 2 * (Placed.spelled ([(false, .flowEntry)].intercalate marks)).length + 1 ≤ fuel)
    (rest : List Token) :
    parseFlowEntries first fuel ⟨separator first ++
        (Placed.spelled ([(false, .flowEntry)].intercalate marks) ++ .flowMappingEnd :: rest),
          anchors, handles⟩ =
      (entries, true, ⟨rest, anchors, handles⟩) := by
  induction h generalizing first fuel with
  | nil => exact absurd rfl hn
  | @cons m entry marks entries hm hr ih =>
    obtain ⟨fuel, rfl⟩ : ∃ k, fuel = k + 1 :=
      Nat.exists_eq_add_of_le' (Nat.le_trans (Nat.le_add_left 1 _) hf)
    obtain ⟨name, n⟩ := entry
    obtain ⟨key, tokens, spelled, rfl, value⟩ := hm
    have length : (Placed.spelled m).length = tokens.length + 3 := by rw [spelled]; rfl
    cases hr with
    | nil =>
      rw [List.intercalate_singleton] at hf ⊢
      obtain ⟨fuel, rfl⟩ : ∃ k, fuel = k + 1 := Nat.exists_eq_add_of_le' (by omega)
      rw [spelled, parseFlowEntries_entry anchors handles first key value (by omega),
        parseFlowEntries_end]
    | @cons m' entry' marks entries hm' hr =>
      rw [spelled_cons_cons] at hf ⊢
      simp only [List.length_append, List.length_cons] at hf
      have others := @ih (by simp) false fuel (by omega)
      rw [List.append_assoc, spelled,
        parseFlowEntries_entry anchors handles first key value (by omega)]
      rw [List.cons_append]
      rw [separator, if_neg (by decide), List.singleton_append] at others
      rw [others]

/-- A mapping between its brackets. -/
theorem parses_mapping {marks : List (List Placed)} {entries : List (Node × Node)}
    (h : List.Forall₂ ParsesEntry marks entries) :
    Parses (.flowMappingStart :: (Placed.spelled ([(false, .flowEntry)].intercalate marks) ++
      [.flowMappingEnd]))
      (.mapping none none entries true) := by
  refine ⟨⟨_, _, rfl, rfl⟩, fun block fuel rest anchors handles hf => ?_⟩
  simp only [List.length_cons, List.length_append, List.length_nil] at hf
  obtain ⟨fuel, rfl⟩ : ∃ k, fuel = k + 1 + 1 :=
    Nat.exists_eq_add_of_le' (Nat.le_trans (by omega : 2 ≤ _) hf)
  have members :
      parseFlowEntries true fuel ⟨Placed.spelled ([(false, .flowEntry)].intercalate marks) ++
      .flowMappingEnd :: rest, anchors, handles⟩ = (entries, true, ⟨rest, anchors, handles⟩) := by
    cases h with
    | nil =>
      obtain ⟨fuel, rfl⟩ : ∃ k, fuel = k + 1 := Nat.exists_eq_add_of_le' (by omega)
      exact parseFlowEntries_end anchors handles true fuel rest
    | cons hm hr =>
      exact parseFlowEntries_entries anchors handles (.cons hm hr) (by simp) true (by omega) rest
  rw [List.cons_append, parse_starts anchors handles block (fuel + 1) rfl, List.append_assoc,
    List.singleton_append]
  simp [parseContent, Source.next?, Source.advance, Node.note, members]

mutual

theorem parses_node : (v : Value) → Parses (Placed.spelled (marks v)) (node v)
  | .null => parses_scalar _ _
  | .bool _ => parses_scalar _ _
  | .number _ => parses_scalar _ _
  | .text _ => parses_scalar _ _
  | .array items => by
      rw [marks, node, spelled_collection]
      exact parses_sequence (parses_itemNodes items)
  | .object members => by
      rw [marks, node, spelled_collection]
      exact parses_mapping (parses_memberNodes members)

theorem parses_itemNodes : (items : List Value) →
    List.Forall₂ (fun m n => Parses (Placed.spelled m) n) (itemMarks items) (itemNodes items)
  | [] => .nil
  | v :: rest => .cons (parses_node v) (parses_itemNodes rest)

theorem parses_memberNodes : (members : List (String × Value)) →
    List.Forall₂ ParsesEntry (memberMarks members) (memberNodes members)
  | [] => .nil
  | (k, v) :: rest =>
      .cons ⟨k, Placed.spelled (marks v), rfl, rfl, parses_node v⟩ (parses_memberNodes rest)

end

/-- The text of a value is one document, and nothing is left behind it. -/
theorem ofText_pretty {v : Value} (h : Fits v) :
    Document.ofText (v.pretty 0) = ⟨some (node v), true⟩ := by
  obtain ⟨t, ts, tokens, ht⟩ := (parses_node v).starts
  have parsed :=
    (parses_node v).parse true (6 * (Placed.spelled (marks v) ++ [Token.streamEnd]).length + 6)
    [.streamEnd] [] Document.knownHandles (by simp; omega)
  have content : (Document.endsDocument t && t != .documentEnd) = false := by
    rcases eq_of_startsNode ht with ⟨text, style, rfl⟩ | rfl | rfl <;> rfl
  rw [Document.ofText, scan_pretty h]
  rw [tokens] at parsed ⊢
  rw [List.cons_append] at parsed ⊢
  rw [Document.ofTokens]
  · simp only [content, Bool.false_eq_true, if_false]
    rw [parsed]
    rfl
  · intro _ empty
    simp at empty

end PipelineCompiler.Yaml
