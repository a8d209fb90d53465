import PipelineCompiler.Document.Source
import PipelineCompiler.Proofs.Document.JsonRoundTrip

namespace PipelineCompiler.Document

open Json (Outline)

namespace JsonReader

/-- What every field keeps, a whole record keeps. -/
theorem readFields_invariant {σ : Type} {step : σ → String → Outline → Except Fault σ}
    {P : σ → Prop} (hstep : ∀ s key o t, P s → step s key o = .ok t → P t) {s t : σ}
    {members : List (Json.Text × Outline)} (hs : P s) (h : readFields step s members = .ok t) :
    P t := by
  induction members generalizing s with
  | nil =>
    cases h
    exact hs
  | cons m rest ih =>
    obtain ⟨key, o⟩ := m
    cases key with
    | none => cases h
    | some key =>
      obtain ⟨u, hu, h⟩ := Outcome.bind_eq_ok.mp h
      exact ih (hstep s key o u hs hu) h

theorem eq_of_leave {α : Type} {closed : Bool} {a b : α} (h : leave closed a = .ok b) : b = a := by
  unfold leave at h
  split at h <;> cases h
  rfl

theorem closed_of_leave {α : Type} {closed : Bool} {a b : α} (h : leave closed a = .ok b) :
    closed = true := by
  unfold leave at h
  split at h
  · assumption
  · cases h

theorem mem_of_mapM {α β : Type} {read : α → Except Fault β} {parts : List α} {items : List β}
    (h : parts.mapM read = .ok items) : ∀ b ∈ items, ∃ a, read a = .ok b := by
  induction parts generalizing items with
  | nil =>
    cases h
    simp
  | cons a rest ih =>
    rw [List.mapM_cons] at h
    obtain ⟨b, hb, h⟩ := Outcome.bind_eq_ok.mp h
    obtain ⟨others, ho, h⟩ := Outcome.bind_eq_ok.mp h
    cases h
    exact List.forall_mem_cons.mpr ⟨⟨a, hb⟩, ih ho⟩

theorem mem_of_readList {α : Type} {read : Nat → Outline → Except Fault α}
    {depth : Nat} {o : Outline} {items : List α} (h : readList read depth o = .ok items) :
    ∀ a ∈ items, ∃ part, read (depth + 1) part = .ok a := by
  unfold readList at h
  split at h
  · next parts closed =>
    obtain ⟨-, -, h⟩ := Outcome.bind_eq_ok.mp h
    obtain ⟨found, hf, h⟩ := Outcome.bind_eq_ok.mp h
    rw [eq_of_leave h]
    exact mem_of_mapM hf
  · obtain ⟨_, _, h⟩ := Outcome.bind_eq_ok.mp h
    cases h

end JsonReader
namespace YamlReader

/-- Whatever a reader gives has a property. -/
def Gives {α : Type} (x : Reader α) (P : α → Prop) : Prop := ∀ n r, x.run n = .ok r → P r.1

theorem Gives.bind {α β : Type} {x : Reader α} {f : α → Reader β} {P : α → Prop} {Q : β → Prop}
    (hx : Gives x P) (hf : ∀ a, P a → Gives (f a) Q) : Gives (x >>= f) Q := by
  intro n r h
  obtain ⟨⟨a, m⟩, ha, hr⟩ := Outcome.bind_eq_ok.mp h
  exact hf a (hx n _ ha) m r hr

theorem gives_trivial {α : Type} (x : Reader α) : Gives x fun _ => True := fun _ _ _ => trivial

theorem gives_pure {α : Type} {a : α} {P : α → Prop} (h : P a) : Gives (pure a) P := by
  intro n r hr
  cases hr
  exact h
theorem gives_fail {α : Type} (place : Place) (fault : Fault) (P : α → Prop) :
    Gives (fail place fault) P := by
  intro n r hr
  cases hr
theorem gives_mismatch {α : Type} (place : Place) (expected : Shape) (n : Yaml.Node)
    (P : α → Prop) : Gives (mismatch place expected n) P := by
  unfold mismatch
  split <;> exact gives_fail _ _ _

theorem gives_leave {α : Type} {closed : Bool} {a : α} {P : α → Prop} (h : P a) :
    Gives (leave closed a) P := by
  unfold leave
  split
  · exact gives_pure h
  · exact gives_fail _ _ _

theorem gives_lift {α : Type} {place : Place} {x : Except Fault α} {P : α → Prop}
    (h : ∀ a, x = .ok a → P a) : Gives (lift place x) P := by
  cases x with
  | ok a => exact gives_pure (h a rfl)
  | error fault => exact gives_fail _ _ _

theorem gives_readItems {α : Type} {read : Place → Yaml.Node → Reader α} {P : α → Prop}
    (h : ∀ place n, Gives (read place n) P) (place : Place) (i : Nat) (items : List Yaml.Node) :
    Gives (readItems read place i items) fun l => ∀ a ∈ l, P a := by
  induction items generalizing i with
  | nil => exact gives_pure (by simp)
  | cons n rest ih =>
    rw [readItems]
    refine (h _ n).bind fun a ha => ?_
    refine (ih (i + 1)).bind fun l hl => ?_
    exact gives_pure (List.forall_mem_cons.mpr ⟨ha, hl⟩)

theorem gives_readList {α : Type} {read : Place → Yaml.Node → Reader α} {P : α → Prop}
    (h : ∀ place n, Gives (read place n) P) (anchors : Anchors) (place : Place) (n : Yaml.Node) :
    Gives (readList anchors read place n) fun l => ∀ a ∈ l, P a := by
  unfold readList
  refine (gives_trivial (follow anchors n)).bind fun n _ => ?_
  split
  · exact (gives_readItems h place 0 _).bind fun l hl => gives_leave hl
  · split
    · exact gives_pure (by simp)
    · exact gives_mismatch _ _ _ _
  · exact gives_mismatch _ _ _ _

theorem gives_once {α : Type} {record : Place} {name : String} {old : Option α} {read : Reader α}
    {P : α → Prop} (h : Gives read P) :
    Gives (once record name old read) fun o => ∀ a ∈ o, P a := by
  cases old with
  | some _ => exact gives_fail _ _ _
  | none =>
    exact h.bind fun a ha => gives_pure (by simpa using ha)

theorem gives_readFields {σ : Type} {anchors : Anchors} {place : Place}
    {step : σ → String → Place → Yaml.Node → Reader σ} {P : σ → Prop}
    (hstep : ∀ s key at' n, P s → Gives (step s key at' n) P) {s : σ} (hs : P s)
    (entries : List (Yaml.Node × Yaml.Node)) :
    Gives (readFields anchors place step s entries) P := by
  induction entries generalizing s with
  | nil => exact gives_pure hs
  | cons entry rest ih =>
    obtain ⟨k, v⟩ := entry
    rw [readFields]
    refine (gives_trivial _).bind fun key _ => ?_
    exact (hstep s key _ v hs).bind fun t ht => ih ht

theorem gives_readRecord {σ α : Type} {anchors : Anchors} {name : String} {empty : σ}
    {step : Place → σ → String → Place → Yaml.Node → Reader σ} {finish : σ → Except Fault α}
    {P : σ → Prop} {Q : α → Prop} (he : P empty)
    (hstep : ∀ record s key place n, P s → Gives (step record s key place n) P)
    (hf : ∀ s a, P s → finish s = .ok a → Q a) (place : Place) (n : Yaml.Node) :
    Gives (readRecord anchors name empty step finish place n) Q := by
  unfold readRecord
  refine (gives_trivial (follow anchors n)).bind fun n _ => ?_
  split
  · refine (gives_readFields (hstep place) he _).bind fun s hs => ?_
    exact (gives_leave hs).bind fun t ht => gives_lift fun a => hf t a ht
  · split
    · exact gives_lift fun a => hf empty a he
    · exact gives_mismatch _ _ _ _
  · exact gives_mismatch _ _ _ _

theorem gives_readNode (anchors : Anchors) (place : Place) (n : Yaml.Node) :
    Gives (readNode anchors place n) fun n => n.block.Canonical := by
  unfold readNode
  refine (gives_trivial _).bind fun record _ => ?_
  exact gives_lift fun n hn => NodeRecord.canonical_of_toNode hn

theorem gives_graphField (anchors : Anchors) (record : Place) (f : GraphFields) (key : String)
    (place : Place) (n : Yaml.Node) (h : Canonical f.toGraph) :
    Gives (graphField anchors record f key place n) fun f => Canonical f.toGraph := by
  unfold graphField
  split
  · refine (gives_once (gives_readList (gives_readNode anchors) anchors place n)).bind
      fun nodes hn => ?_
    apply gives_pure
    cases nodes with
    | none => intro m hm; cases hm
    | some l => exact hn l rfl
  · refine (gives_trivial _).bind fun edges _ => ?_
    exact gives_pure h
  · refine (gives_trivial _).bind fun _ _ => ?_
    exact gives_pure h

theorem gives_readGraph (anchors : Anchors) (place : Place) (n : Yaml.Node) :
    Gives (readGraph anchors place n) Canonical := by
  unfold readGraph
  refine gives_readRecord (P := fun f =>
    Canonical f.toGraph) ?_ (gives_graphField anchors) ?_ place n
  · intro n hn
    cases hn
  · intro f g hf hg
    cases hg
    exact hf

theorem canonical_of_graphOfText {text : String} {g : Graph} (h : graphOfText text = .ok g) :
    Canonical g := by
  unfold graphOfText at h
  dsimp only at h
  split at h
  · next n _ =>
    obtain ⟨found, hf, h⟩ := Outcome.bind_eq_ok.mp h
    obtain ⟨r, hr, rfl⟩ := Outcome.map_eq_ok.mp hf
    split at h
    · cases h
      exact gives_readGraph _ _ n 0 r hr
    · cases h
  · obtain ⟨found, hf, h⟩ := Outcome.bind_eq_ok.mp h
    cases hf
    split at h
    · cases h
      intro n hn
      cases hn
    · cases h

end YamlReader

namespace JsonReader

theorem eq_some_of_once {α : Type} {name : String} {old o : Option α} {read : Except Fault α}
    (h : once name old read = .ok o) : ∃ a, read = .ok a ∧ o = some a := by
  cases old with
  | some _ => cases h
  | none =>
    obtain ⟨a, ha, rfl⟩ := Outcome.map_eq_ok.mp h
    exact ⟨a, ha, rfl⟩

theorem canonical_of_readNode {depth : Nat} {o : Outline} {n : Node}
    (h : readNode depth o = .ok n) : n.block.Canonical := by
  obtain ⟨record, -, made⟩ := Outcome.bind_eq_ok.mp h
  exact NodeRecord.canonical_of_toNode made

theorem canonical_of_readNodes {depth : Nat} {o : Outline} {nodes : List Node}
    (h : readList readNode depth o = .ok nodes) : ∀ n ∈ nodes, n.block.Canonical := by
  intro n hn
  obtain ⟨part, read⟩ := mem_of_readList h n hn
  exact canonical_of_readNode read

theorem canonical_of_graphField {depth : Nat} (f : GraphFields) (key : String) (o : Outline)
    (f' : GraphFields) (hf : Canonical f.toGraph) (h : graphField depth f key o = .ok f') :
    Canonical f'.toGraph := by
  unfold graphField at h
  split at h
  · obtain ⟨nodes, hn, made⟩ := Outcome.bind_eq_ok.mp h
    cases made
    obtain ⟨l, hl, rfl⟩ := eq_some_of_once hn
    exact canonical_of_readNodes hl
  · obtain ⟨edges, -, made⟩ := Outcome.bind_eq_ok.mp h
    cases made
    exact hf
  · cases h
    exact hf

theorem canonical_of_readGraph {depth : Nat} {o : Outline} {g : Graph}
    (h : readGraph depth o = .ok g) : Canonical g := by
  unfold readGraph at h
  split at h
  · obtain ⟨-, -, h⟩ := Outcome.bind_eq_ok.mp h
    obtain ⟨f, hf, h⟩ := Outcome.bind_eq_ok.mp h
    obtain ⟨f', hf', rfl⟩ := Outcome.map_eq_ok.mp h
    rw [eq_of_leave hf']
    apply readFields_invariant (P := fun f => Canonical f.toGraph) canonical_of_graphField _ hf
    intro n hn
    cases hn
  · obtain ⟨-, -, h⟩ := Outcome.bind_eq_ok.mp h
    split at h
    · rw [eq_of_leave h]
      intro n hn
      cases hn
    · obtain ⟨nodes, hn, h⟩ := Outcome.bind_eq_ok.mp h
      split at h
      · rw [eq_of_leave h]
        exact canonical_of_readNodes hn
      · obtain ⟨edges, -, h⟩ := Outcome.bind_eq_ok.mp h
        rw [eq_of_leave h]
        exact canonical_of_readNodes hn
  · cases h
  · obtain ⟨_, _, h⟩ := Outcome.bind_eq_ok.mp h
    cases h

end JsonReader

/-- Whatever the format of a document, the blocks of its graph are canonical. -/
theorem canonical_of_parse {format : DocumentFormat} {text : String} {g : Graph}
    (h : parse format text = .ok g) : Canonical g := by
  cases format with
  | json =>
    have read := Outcome.mapError_eq_ok.mp h
    unfold JsonReader.graphOfText JsonReader.whole at read
    obtain ⟨found, hf, last⟩ := Outcome.bind_eq_ok.mp read
    split at last
    · cases last
    · cases last
      exact JsonReader.canonical_of_readGraph hf
  | yaml => exact YamlReader.canonical_of_graphOfText h

end PipelineCompiler.Document
