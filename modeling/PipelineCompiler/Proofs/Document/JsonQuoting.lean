import PipelineCompiler.Proofs.Document.Gist
import PipelineCompiler.Proofs.Document.Openness
import PipelineCompiler.Proofs.Json.Literals

namespace PipelineCompiler.Document

open Decimal (Literal)
open Json (Outline Text Value)
open PipelineCompiler.Configuration (gist gists)
open JsonReader

/-- A change of the value of one entry. -/
inductive EntryEdit (R : Outline → Outline → Prop) :
    List (Text × Outline) → List (Text × Outline) → Prop
  | mk {before after : List (Text × Outline)} {k : Text} {o o' : Outline} (h : R o o') :
      EntryEdit R (before ++ (k, o) :: after) (before ++ (k, o') :: after)

/-- A change of the value of one entry in the configuration of one node. -/
def SettingEdit (R : Outline → Outline → Prop) : Outline → Outline → Prop :=
  FieldEdit graphFields "nodes"
    (ItemEdit (FieldEdit nodeFields "configuration" (ObjectEdit (EntryEdit R))))

/-- A text in quotes instead of a literal. -/
inductive Quotes (v : Literal) (s : String) : Outline → Outline → Prop
  | mk : Quotes v s (.numeral v.numeral) (.text (some s))

/-- Values of a configuration that count for the same. -/
def SameGist (o o' : Outline) : Prop :=
  ∀ depth, ∃ x x', readValue depth o = .ok x ∧ readValue depth o' = .ok x' ∧ gist x = gist x'

theorem SameGist.symm {o o' : Outline} (h : SameGist o o') : SameGist o' o := by
  intro depth
  obtain ⟨x, x', read, read', same⟩ := h depth
  exact ⟨x', x, read', read, same.symm⟩

section Back

variable {R : Outline → Outline → Prop} {S : Outline → Outline →
  Prop} (turn : ∀ {o o'}, R o o' → S o' o)
include turn

theorem ItemEdit.back {o o' : Outline} (h : ItemEdit R o o') : ItemEdit S o' o := by
  cases h with
  | mk h => exact .mk (turn h)

theorem FieldEdit.back {names : List String} {name : String} {o o' : Outline}
    (h : FieldEdit names name R o o') : FieldEdit names name S o' o := by
  cases h with
  | member h => exact .member (turn h)
  | item place h => exact .item place (turn h)

theorem SettingEdit.back {o o' : Outline} (h : SettingEdit R o o') : SettingEdit S o' o := by
  refine FieldEdit.back (fun h => ItemEdit.back (fun h => FieldEdit.back (fun h => ?_) h) h) h
  cases h with
  | mk h =>
    cases h with
    | mk h => exact .mk (.mk (turn h))

end Back

theorem readMembers_entry {ms ms' : List (Text × Outline)}
    (h : EntryEdit SameGist ms ms') {depth : Nat} {c : List (String × Value)}
    (read : readMembers depth ms = .ok c) :
    ∃ c', readMembers depth ms' = .ok c' ∧ gists c = gists c' := by
  cases h with
  | @mk before after k o o' same =>
    simp only [readMembers_eq_ok] at read ⊢
    induction before generalizing c with
    | nil =>
      obtain ⟨⟨key, x⟩, rest, ⟨hk, hx⟩, others, rfl⟩ := List.forall₂_cons_left_iff.mp read
      obtain ⟨y, y', hy, hy', counts⟩ := same depth
      obtain rfl : y = x := Except.ok.inj (hy.symm.trans hx)
      exact ⟨(key, y') :: rest, .cons ⟨hk, hy'⟩ others, by simp [gists, counts]⟩
    | cons m before ih =>
      obtain ⟨entry, rest, hm, others, rfl⟩ := List.forall₂_cons_left_iff.mp read
      obtain ⟨rest', others', counts⟩ := ih others
      refine ⟨entry :: rest', .cons hm others', ?_⟩
      rw [gists, List.map_cons]
      exact congrArg _ counts

theorem readConfiguration_entry {o o' : Outline}
    (h : ObjectEdit (EntryEdit SameGist) o o') {depth : Nat} {c : List (String × Value)}
    (read : readConfiguration depth o = .ok c) :
    ∃ c', readConfiguration depth o' = .ok c' ∧ gists c = gists c' := by
  cases h with
  | mk h =>
    rw [readConfiguration] at read
    obtain ⟨_, entered, read⟩ := Outcome.bind_eq_ok.mp read
    obtain ⟨members, kept, ⟨⟩⟩ := Outcome.bind_eq_ok.mp read
    obtain ⟨members', kept', counts⟩ := readMembers_entry h kept
    refine ⟨Json.sortMembers members', ?_, ?_⟩
    · rw [readConfiguration]
      exact Outcome.bind_eq_ok.mpr ⟨_, entered, Outcome.bind_eq_ok.mpr ⟨members', kept', rfl⟩⟩
    · unfold gists at counts ⊢
      rw [← Json.sortMembers_map, counts, Json.sortMembers_map]

theorem unnoticed_readNode_setting :
    Unnoticed (FieldEdit nodeFields "configuration" (ObjectEdit (EntryEdit SameGist)))
      (readNode nodeDepth) := by
  intro o o' n h read
  obtain ⟨r, record, made⟩ := Outcome.bind_eq_ok.mp read
  obtain ⟨v, v', changed, -, configuration, others⟩ := readNodeRecord_configuration h record
  obtain ⟨c, configuration', counts⟩ := readConfiguration_entry changed configuration
  exact Outcome.bind_eq_ok.mpr ⟨_, others c configuration',
    (NodeRecord.toNode_of_gists_eq counts n).mpr made⟩

theorem readGraph_setting {o o' : Outline} (h : SettingEdit SameGist o o') {g : Graph}
    (read : readGraph 0 o = .ok g) : readGraph 0 o' = .ok g := by
  have node : Unnoticed _ (readNode (1 + 1)) := unnoticed_readNode_setting
  exact readGraph_nodes h (fun v v' nodes _ changed =>
    unnoticed_readList node v v' nodes changed) read

theorem sameGist_of_quotes {v : Literal} (short : v.IsShort) {o o' : Outline}
    (h : Quotes v v.trimmed.text o o') : SameGist o o' := by
  cases h with
  | mk =>
    intro depth
    obtain ⟨n, value, text⟩ := v.exists_value? short
    refine ⟨.number n, .text v.trimmed.text, ?_, ?_, congrArg Value.text text⟩
    · rw [readValue, value]
    · rw [readValue]

/-- A text has one outline. -/
theorem graphOfText_of_isTextOf {text : String} {o : Outline}
    (spelled : Outline.IsTextOf text o) {g : Graph} :
    graphOfText text = .ok g ↔ readGraph 0 o = .ok g := by
  rw [graphOfText_eq_ok]
  constructor
  · rintro ⟨found, spelled', read⟩
    have first := (Outline.isTextOf_iff.mp spelled).1
    have second := (Outline.isTextOf_iff.mp spelled').1
    rwa [(Prod.mk.inj (first.symm.trans second)).1]
  · exact fun read => ⟨o, spelled, read⟩

/-- Whether a literal is typed, or what is printed of it in quotes, the same graph is read. -/
theorem graphOfText_quoted {v : Literal} (short : v.IsShort) {text text' : String} {o o' : Outline}
    (spelled : Outline.IsTextOf text o) (spelled' : Outline.IsTextOf text' o')
    (quoted : SettingEdit (Quotes v v.trimmed.text) o o') (g : Graph) :
    graphOfText text = .ok g ↔ graphOfText text' = .ok g := by
  have same {o o' : Outline} (h : Quotes v v.trimmed.text o o') : SameGist o o' :=
    sameGist_of_quotes short h
  have there : SettingEdit SameGist o' o := quoted.back fun h => (same h).symm
  have here : SettingEdit SameGist o o' := there.back fun h => h.symm
  rw [graphOfText_of_isTextOf spelled, graphOfText_of_isTextOf spelled']
  exact ⟨readGraph_setting here, readGraph_setting there⟩

end PipelineCompiler.Document
