import Mathlib.Logic.Relation
import PipelineCompiler.Proofs.Document.RecordFields
import PipelineCompiler.Proofs.Document.Settings
import PipelineCompiler.Proofs.Json.Whole

namespace PipelineCompiler.Document

open Json (Outline Text)
open PipelineCompiler.Configuration (readKeys)
open JsonReader

/-- One change of the members of a record with these fields. -/
inductive MembersEdit (names : List String) : List (Text × Outline) → List (Text × Outline) → Prop
  | insert {before after : List (Text × Outline)} {k : String} {o : Outline} (unknown : k ∉ names)
      (whole : o.isWhole = true) :
          MembersEdit names (before ++ after) (before ++ (some k, o) :: after)
  | reorder {ms ms' : List (Text × Outline)} (h : ms.Perm ms') : MembersEdit names ms ms'

/-- A change of the members of an object. -/
inductive ObjectEdit (E : List (Text × Outline) → List (Text × Outline) → Prop) :
    Outline → Outline → Prop
  | mk {ms ms' : List (Text × Outline)} (h : E ms ms') :
      ObjectEdit E (.object ms true) (.object ms' true)

/-- A change of one item of an array. -/
inductive ItemEdit (R : Outline → Outline → Prop) : Outline → Outline → Prop
  | mk {before after : List Outline} {o o' : Outline} (h : R o o') :
      ItemEdit R (.array (before ++ o :: after) true) (.array (before ++ o' :: after) true)

/-- A change of the value of a field. A record may also be written as the array of its fields. -/
inductive FieldEdit (names : List String) (name : String) (R : Outline → Outline → Prop) :
    Outline → Outline → Prop
  | member {before after : List (Text × Outline)} {o o' : Outline} (h : R o o') :
      FieldEdit names name R (.object (before ++ (some name, o) :: after) true)
        (.object (before ++ (some name, o') :: after) true)
  | item {before after : List Outline} {o o' : Outline} (place : before.length = names.idxOf name)
      (h : R o o') :
      FieldEdit names name R (.array (before ++ o :: after) true)
        (.array (before ++ o' :: after) true)

/-- Around a node stand two containers. -/
def nodeDepth : Nat := 2

/-- A change of a node: of its members, or of its configuration. -/
inductive NodeEdit : Outline → Outline → Prop
  | members {o o' : Outline} (h : ObjectEdit (MembersEdit nodeFields) o o') : NodeEdit o o'
  | configuration {o o' : Outline} {r : NodeRecord} (read : readNodeRecord nodeDepth o = .ok r)
      (h : FieldEdit nodeFields "configuration"
        (ObjectEdit (SettingsEdit (readKeys r.role r.blockType))) o o') :
      NodeEdit o o'

/-- A change of a document: of its members, of a node or of an edge. -/
inductive GraphEdit : Outline → Outline → Prop
  | members {o o' : Outline} (h : ObjectEdit (MembersEdit graphFields) o o') : GraphEdit o o'
  | node {o o' : Outline} (h : FieldEdit graphFields "nodes" (ItemEdit NodeEdit) o o') :
      GraphEdit o o'
  | edge {o o' : Outline}
      (h : FieldEdit graphFields "edges" (ItemEdit (ObjectEdit (MembersEdit edgeFields))) o o') :
          GraphEdit o o'

/-- The value of a field of a record. -/
def HasField (names : List String) (name : String) : Outline → Outline → Prop
  | .object members _, v => (some name, v) ∈ members
  | .array items _, v => items[names.idxOf name]? = some v
  | _, _ => False

/-- No key of an object is repeated. -/
def IsDistinct : Outline → Prop
  | .object members _ => (members.map (·.1)).Nodup
  | _ => True

def NodeDistinct (n : Outline) : Prop := ∀ c, HasField nodeFields "configuration" n c → IsDistinct c

/-- In no node of a document the configuration repeats a key. -/
def NoRepeats (o : Outline) : Prop :=
  ∀ items closed, HasField graphFields "nodes" o (.array items closed) → ∀ n ∈ items, NodeDistinct n

namespace MembersEdit

variable {names : List String} {ms ms' : List (Text × Outline)} (e : MembersEdit names ms ms')
include e

theorem areNamed (h : AreNamed ms) : AreNamed ms' := by
  cases e with
  | reorder hp => exact fun m hm => h m (hp.mem_iff.mpr hm)
  | @insert before after k o unknown whole =>
    intro m hm
    rcases List.mem_cons.mp (List.perm_middle.mem_iff.mp hm) with rfl | hm
    · simp
    · exact h m hm

theorem isField {name : String} (hn : name ∈ names) {α : Type} {read : Outline → Except Fault α}
    {old a : Option α} (h : IsField name read old ms a) : IsField name read old ms' a := by
  cases e with
  | reorder hp => exact h.perm hp
  | @insert before after k o unknown whole =>
    have other : ((some k, o) : Text × Outline).1 ≠ some name := by
      rintro ⟨⟩
      exact unknown hn
    exact ((isField_other other _).mpr h).perm List.perm_middle.symm

theorem mem {name : String} (hn : name ∈ names) {v : Outline} (h : (some name, v) ∈ ms') :
    (some name, v) ∈ ms := by
  cases e with
  | reorder hp => exact hp.mem_iff.mpr h
  | @insert before after k o unknown whole =>
    rcases List.mem_cons.mp (List.perm_middle.mem_iff.mp h) with eq | h
    · cases eq
      exact absurd hn unknown
    · exact h

end MembersEdit

theorem ObjectEdit.hasField {names : List String} {o o' : Outline}
    (e : ObjectEdit (MembersEdit names) o o') {name : String} (hn : name ∈ names) {v : Outline}
    (h : HasField names name o' v) : HasField names name o v := by
  cases e with
  | mk e => exact e.mem hn h

/-- A change of one field leaves the others alone. -/
theorem FieldEdit.hasField {names : List String} {name : String} {R : Outline → Outline → Prop}
    {o o' : Outline} (e : FieldEdit names name R o o') : ∃ v v', R v v' ∧ HasField names name o v ∧
      ∀ other w, HasField names other o' w →
        (w = v' ∧ names.idxOf other = names.idxOf name) ∨ HasField names other o w := by
  cases e with
  | @member before after v v' h =>
    refine ⟨v, v', h, by simp [HasField], fun other w hw => ?_⟩
    rcases List.mem_cons.mp (List.perm_middle.mem_iff.mp hw) with eq | hw
    · cases eq
      exact .inl ⟨rfl, rfl⟩
    · exact .inr (List.perm_middle.mem_iff.mpr (List.mem_cons_of_mem _ hw))
  | @item before after v v' place h =>
    refine ⟨v, v', h, by simp [HasField, ← place], fun other w hw => ?_⟩
    by_cases here : names.idxOf other = before.length
    · left
      rw [HasField, here] at hw
      exact ⟨by simpa using hw.symm, here.trans place⟩
    · right
      have stored : before ++ v' :: after = (before ++ v :: after).set before.length v' := by simp
      rw [HasField, stored, List.getElem?_set_ne (Ne.symm here)] at hw
      exact hw

theorem NodeEdit.distinct {o o' : Outline} (e : NodeEdit o o') (h : NodeDistinct o) :
    NodeDistinct o' := by
  intro c hc
  cases e with
  | members e => exact h c (e.hasField (by simp [nodeFields]) hc)
  | configuration read e =>
    obtain ⟨v, v', changed, before, others⟩ := e.hasField
    rcases others _ c hc with ⟨rfl, -⟩ | hc
    · cases changed with
      | mk e => exact e.nodup (h _ before)
    · exact h c hc

theorem GraphEdit.noRepeats {o o' : Outline} (e : GraphEdit o o') (h : NoRepeats o) :
    NoRepeats o' := by
  intro items closed hi n hn
  cases e with
  | members e => exact h items closed (e.hasField (by simp [graphFields]) hi) n hn
  | edge e =>
    obtain ⟨v, v', -, -, others⟩ := e.hasField
    rcases others _ _ hi with ⟨-, same⟩ | hi
    · exact absurd same (by decide)
    · exact h items closed hi n hn
  | node e =>
    obtain ⟨v, v', changed, before, others⟩ := e.hasField
    rcases others _ _ hi with ⟨eq, -⟩ | hi
    · cases changed with
      | @mk first last m m' e =>
        obtain ⟨rfl, rfl⟩ := Outline.array.inj eq
        have old := h _ _ before
        rcases List.mem_cons.mp (List.perm_middle.mem_iff.mp hn) with rfl | hn
        · exact e.distinct (old m (by simp))
        · exact old n (List.perm_middle.mem_iff.mpr (List.mem_cons_of_mem _ hn))
    · exact h items closed hi n hn

/-- A change that a reader does not notice. -/
def Unnoticed {α : Type} (R : Outline → Outline → Prop) (read : Outline → Except Fault α) : Prop :=
  ∀ o o' a, R o o' → read o = .ok a → read o' = .ok a

theorem unnoticed_readEdge (depth : Nat) :
    Unnoticed (ObjectEdit (MembersEdit edgeFields)) (readEdge depth) := by
  rintro _ _ a ⟨e⟩ h
  simp only [readEdge, Outcome.bind_eq_ok] at h ⊢
  obtain ⟨entered, he, f, hf, left⟩ := h
  obtain ⟨named, source, target⟩ := readFields_edgeField.mp hf
  refine ⟨entered, he, f, readFields_edgeField.mpr ⟨e.areNamed named, ?_, ?_⟩, left⟩
  · exact e.isField (by simp [edgeFields]) source
  · exact e.isField (by simp [edgeFields]) target

theorem unnoticed_readNodeRecord (depth : Nat) :
    Unnoticed (ObjectEdit (MembersEdit nodeFields)) (readNodeRecord depth) := by
  rintro _ _ a ⟨e⟩ h
  simp only [readNodeRecord, Outcome.bind_eq_ok] at h ⊢
  obtain ⟨entered, he, f, hf, left⟩ := h
  obtain ⟨named, id, role, blockType, label, configuration⟩ := readFields_nodeField.mp hf
  refine ⟨entered, he, f, readFields_nodeField.mpr ⟨e.areNamed named, ?_, ?_, ?_, ?_, ?_⟩, left⟩
  · exact e.isField (by simp [nodeFields]) id
  · exact e.isField (by simp [nodeFields]) role
  · exact e.isField (by simp [nodeFields]) blockType
  · exact e.isField (by simp [nodeFields]) label
  · exact e.isField (by simp [nodeFields]) configuration

theorem unnoticed_readGraph (depth : Nat) :
    Unnoticed (ObjectEdit (MembersEdit graphFields)) (readGraph depth) := by
  rintro _ _ a ⟨e⟩ h
  simp only [readGraph, Outcome.bind_eq_ok] at h ⊢
  obtain ⟨entered, he, f, hf, left⟩ := h
  obtain ⟨named, nodes, edges⟩ := readFields_graphField.mp hf
  refine ⟨entered, he, f, readFields_graphField.mpr ⟨e.areNamed named, ?_, ?_⟩, left⟩
  · exact e.isField (by simp [graphFields]) nodes
  · exact e.isField (by simp [graphFields]) edges

theorem unnoticed_readList {α : Type} {R : Outline → Outline → Prop}
    {read : Nat → Outline → Except Fault α} {depth : Nat} (hr : Unnoticed R (read (depth + 1))) :
    Unnoticed (ItemEdit R) (readList read depth) := by
  rintro _ _ items e h
  cases e with
  | @mk before after o o' changed =>
    have kept {items : List α} (h : (before ++ o :: after).mapM (read (depth + 1)) = .ok items) :
        (before ++ o' :: after).mapM (read (depth + 1)) = .ok items := by
      rw [List.mapM_append] at h ⊢
      simp only [List.mapM_cons, Outcome.bind_eq_ok] at h ⊢
      obtain ⟨first, hf, last, ⟨a, ha, rest, hrest, made⟩, joined⟩ := h
      exact ⟨first, hf, last, ⟨a, hr o o' a changed ha, rest, hrest, made⟩, joined⟩
    simp only [readList, Outcome.bind_eq_ok] at h ⊢
    obtain ⟨entered, he, found, hf, left⟩ := h
    exact ⟨entered, he, found, kept hf, left⟩

theorem NodeFields.toRecord_configuration {f : NodeFields} {r : NodeRecord}
    {x : List (String × Json.Value)} (h : f.toRecord = .ok r) (hx : f.configuration = some x) :
    r.configuration = x ∧ ∀ c, NodeFields.toRecord { f with configuration := some c } =
      .ok { r with configuration := c } := by
  unfold NodeFields.toRecord at h ⊢
  split at h
  · cases h
  · cases h
  · cases h
  · next id role blockType =>
    cases h
    refine ⟨by simp [hx], fun c => ?_⟩
    simp [*]

/-- With another configuration the same record is read but for that configuration. -/
theorem readNodeRecord_configuration {depth : Nat} {R : Outline → Outline → Prop} {o o' : Outline}
    {r : NodeRecord} (e : FieldEdit nodeFields "configuration" R o o')
    (h : readNodeRecord depth o = .ok r) :
    ∃ v v', R v v' ∧ HasField nodeFields "configuration" o v ∧
      readConfiguration (depth + 1) v = .ok r.configuration ∧
      ∀ c, readConfiguration (depth + 1) v' = .ok c →
        readNodeRecord depth o' = .ok { r with configuration := c } := by
  cases e with
  | @member before after v v' changed =>
    simp only [readNodeRecord, Outcome.bind_eq_ok] at h ⊢
    obtain ⟨entered, he, f, hf, f', left, made⟩ := h
    obtain rfl := eq_of_leave left
    obtain ⟨named, id, role, blockType, label, configuration⟩ := readFields_nodeField.mp hf
    obtain ⟨x, hx, stored, replaced⟩ := configuration.replace
    obtain ⟨rfl, record⟩ := NodeFields.toRecord_configuration made stored
    refine ⟨v, v', changed, by simp [HasField], hx, fun c hc => ?_⟩
    refine ⟨entered, he, { f' with configuration := some c }, ?_, _, rfl, record c⟩
    exact readFields_nodeField.mpr ⟨named.replace v', id.replace_other (by simp) v',
      role.replace_other (by simp) v',
      blockType.replace_other (by simp) v', label.replace_other (by simp) v', replaced v' c hc⟩
  | @item before after v v' place changed =>
    have four : before.length = 4 := place
    obtain ⟨id, role, blockType, label, rfl⟩ := List.length_eq_four.mp four
    simp only [readNodeRecord, List.cons_append, List.nil_append, Outcome.bind_eq_ok] at h ⊢
    obtain ⟨entered, he, id', hid, role', hrole, blockType', hb, label', hl, c, hc, left⟩ := h
    obtain rfl := eq_of_leave left
    refine ⟨v, v', changed, by rfl, hc, fun c' hc' => ?_⟩
    refine ⟨entered, he, id', hid, role', hrole, blockType', hb, label', hl, c', hc', ?_⟩
    rw [closed_of_leave left]
    rfl

/-- A node stays what it is under every change of its text. -/
theorem readNode_edit {o o' : Outline} (e : NodeEdit o o') (hd : NodeDistinct o) {n : Node}
    (h : readNode nodeDepth o = .ok n) : readNode nodeDepth o' = .ok n := by
  obtain ⟨r, read, made⟩ := Outcome.bind_eq_ok.mp h
  cases e with
  | members e =>
    exact Outcome.bind_eq_ok.mpr ⟨r, unnoticed_readNodeRecord nodeDepth _ _ r e read, made⟩
  | @configuration r' read' e =>
    obtain rfl : r' = r := Except.ok.inj (read'.symm.trans read)
    obtain ⟨v, v', changed, has, kept, others⟩ := readNodeRecord_configuration e read
    cases changed with
    | mk e =>
      obtain ⟨c, kept', agree, distinct, distinct'⟩ := e.readConfiguration (hd _ has) kept
      exact Outcome.bind_eq_ok.mpr ⟨_, others c kept',
        NodeRecord.toNode_agree distinct distinct' agree made⟩

theorem readGraph_nodes {R : Outline → Outline → Prop} {o o' : Outline} {g : Graph}
    (e : FieldEdit graphFields "nodes" R o o')
    (hr : ∀ v v' nodes, HasField graphFields "nodes" o v → R v v' →
      readList readNode 1 v = .ok nodes →
      readList readNode 1 v' = .ok nodes)
    (h : readGraph 0 o = .ok g) : readGraph 0 o' = .ok g := by
  cases e with
  | @member before after v v' changed =>
    simp only [readGraph, Outcome.bind_eq_ok] at h ⊢
    obtain ⟨entered, he, f, hf, left⟩ := h
    obtain ⟨named, nodes, edges⟩ := readFields_graphField.mp hf
    obtain ⟨x, hx, stored, replaced⟩ := nodes.replace
    refine ⟨entered, he, f,
      readFields_graphField.mpr ⟨named.replace v', ?_, edges.replace_other (by simp) v'⟩, left⟩
    exact stored ▸ replaced v' x (hr v v' x (by simp [HasField]) changed hx)
  | @item before after v v' place changed =>
    obtain rfl : before = [] := List.eq_nil_of_length_eq_zero place
    rw [List.nil_append, readGraph] at h ⊢
    obtain ⟨entered, he, h⟩ := Outcome.bind_eq_ok.mp h
    obtain ⟨nodes, hn, rest⟩ := Outcome.bind_eq_ok.mp h
    have kept := hr v v' nodes rfl changed hn
    exact Outcome.bind_eq_ok.mpr ⟨entered, he, Outcome.bind_eq_ok.mpr ⟨nodes, kept, rest⟩⟩

theorem readGraph_edges {R : Outline → Outline → Prop} {o o' : Outline} {g : Graph}
    (e : FieldEdit graphFields "edges" R o o') (hr : Unnoticed R (readList readEdge 1))
    (h : readGraph 0 o = .ok g) : readGraph 0 o' = .ok g := by
  cases e with
  | @member before after v v' changed =>
    simp only [readGraph, Outcome.bind_eq_ok] at h ⊢
    obtain ⟨entered, he, f, hf, left⟩ := h
    obtain ⟨named, nodes, edges⟩ := readFields_graphField.mp hf
    obtain ⟨x, hx, stored, replaced⟩ := edges.replace
    refine ⟨entered, he, f,
      readFields_graphField.mpr ⟨named.replace v', nodes.replace_other (by simp) v', ?_⟩, left⟩
    exact stored ▸ replaced v' x (hr v v' x changed hx)
  | @item before after v v' place changed =>
    have one : before.length = 1 := place
    obtain ⟨nodes, rfl⟩ := List.length_eq_one_iff.mp one
    rw [List.singleton_append, readGraph] at h ⊢
    obtain ⟨entered, he, h⟩ := Outcome.bind_eq_ok.mp h
    obtain ⟨ns, hn, h⟩ := Outcome.bind_eq_ok.mp h
    obtain ⟨edges, hedges, rest⟩ := Outcome.bind_eq_ok.mp h
    have kept := hr v v' edges changed hedges
    exact Outcome.bind_eq_ok.mpr ⟨entered, he, Outcome.bind_eq_ok.mpr
      ⟨ns, hn, Outcome.bind_eq_ok.mpr ⟨edges, kept, rest⟩⟩⟩

/-- One change leaves the graph as it is. -/
theorem readGraph_edit {o o' : Outline} (e : GraphEdit o o') (hd : NoRepeats o) {g : Graph}
    (h : readGraph 0 o = .ok g) : readGraph 0 o' = .ok g := by
  cases e with
  | members e => exact unnoticed_readGraph 0 _ _ g e h
  | edge e => exact readGraph_edges e (unnoticed_readList (unnoticed_readEdge 2)) h
  | node e =>
    refine readGraph_nodes e (fun v v' nodes has changed read => ?_) h
    cases changed with
    | @mk before after n n' e =>
      have distinct : NodeDistinct n := hd _ _ has n (by simp)
      -- The reader notices no change of this node, whose configuration repeats no key.
      have one : Unnoticed (fun m m' => m = n ∧ m' = n') (readNode nodeDepth) := by
        rintro _ _ a ⟨rfl, rfl⟩ ha
        exact readNode_edit e distinct ha
      exact @unnoticed_readList _ _ readNode 1 one _ _ nodes (.mk ⟨rfl, rfl⟩) read

/-- Any number of changes, one after the other. -/
theorem readGraph_edits {o o' : Outline} (e : Relation.ReflTransGen GraphEdit o o')
    (hd : NoRepeats o) {g : Graph} (h : readGraph 0 o = .ok g) :
    readGraph 0 o' = .ok g ∧ NoRepeats o' := by
  induction e with
  | refl => exact ⟨h, hd⟩
  | tail _ e ih => exact ⟨readGraph_edit e ih.2 ih.1, e.noRepeats ih.2⟩

/-- A document that is read to its end leaves no container open. -/
theorem isOpen_of_readGraph {depth : Nat} {o : Outline} {g : Graph}
    (h : readGraph depth o = .ok g) : o.isOpen = false := by
  unfold readGraph at h
  split at h
  · obtain ⟨-, -, h⟩ := Outcome.bind_eq_ok.mp h
    obtain ⟨f, -, h⟩ := Outcome.bind_eq_ok.mp h
    obtain ⟨f', left, -⟩ := Outcome.map_eq_ok.mp h
    simp [Outline.isOpen, closed_of_leave left]
  · obtain ⟨-, -, h⟩ := Outcome.bind_eq_ok.mp h
    split at h
    · simp [Outline.isOpen, closed_of_leave h]
    · obtain ⟨nodes, -, h⟩ := Outcome.bind_eq_ok.mp h
      split at h
      · simp [Outline.isOpen, closed_of_leave h]
      · obtain ⟨edges, -, h⟩ := Outcome.bind_eq_ok.mp h
        have closed := closed_of_leave h
        rw [Bool.and_eq_true] at closed
        simp [Outline.isOpen, closed.1]
  · cases h
  · obtain ⟨_, _, h⟩ := Outcome.bind_eq_ok.mp h
    cases h

/-- A text is read as a graph exactly if it is well formed and its outline is. -/
theorem graphOfText_eq_ok {text : String} {g : Graph} :
    graphOfText text = .ok g ↔ ∃ o, Outline.IsTextOf text o ∧ readGraph 0 o = .ok g := by
  simp only [graphOfText, whole, Outcome.bind_eq_ok, Outline.isTextOf_iff]
  constructor
  · rintro ⟨a, read, last⟩
    split at last
    · cases last
    · next complete =>
      cases last
      refine ⟨(Outline.ofText text).1, ⟨?_, isOpen_of_readGraph read⟩, read⟩
      exact Prod.ext rfl (by simpa using complete)
  · rintro ⟨o, ⟨found, -⟩, read⟩
    rw [found]
    exact ⟨g, read, rfl⟩

/-- Whatever is changed of a well formed text by adding members that no record knows and
entries that no block reads, by putting members in another order and by spacing the tokens
otherwise, the same graph is read. -/
theorem parseFrom_edited {origin text : String} {g : Graph}
    (h : parseFrom origin .json text = .ok g) :
    (∃ o, Outline.IsTextOf text o) ∧
      ∀ o o' text', Outline.IsTextOf text o → NoRepeats o → Relation.ReflTransGen GraphEdit o o' →
        Outline.IsTextOf text' o' → ∀ again, parseFrom again .json text' = .ok g := by
  have parsed : graphOfText text = .ok g := Outcome.mapError_eq_ok.mp (Outcome.mapError_eq_ok.mp h)
  obtain ⟨found, spelled, read⟩ := graphOfText_eq_ok.mp parsed
  refine ⟨⟨found, spelled⟩, fun o o' text' ho distinct edits ho' again => ?_⟩
  have same : found = o := by
    have first := (Outline.isTextOf_iff.mp spelled).1
    have second := (Outline.isTextOf_iff.mp ho).1
    exact (Prod.mk.inj (first.symm.trans second)).1
  have kept := (readGraph_edits edits distinct (same ▸ read)).1
  have reread : graphOfText text' = .ok g := graphOfText_eq_ok.mpr ⟨o', ho', kept⟩
  rw [parseFrom, parse, reread]
  rfl

/-- A node with a setting, without any space. -/
def denseText : String :=
  "\x7b\"nodes\":[\x7b\"id\":\"a\",\"role\":\"job\",\"blockType\":\"go_build\",\"configuration\":\x7b\"goVersion\":\"2\"\x7d\x7d]\x7d"

def jobMembers : List (Text × Outline) :=
  [(some "id", .text (some "a")), (some "role", .text (some "job")),
    (some "blockType", .text (some "go_build"))]

def versionMember : Text × Outline := (some "goVersion", .text (some "2"))

def configured (settings : List (Text × Outline)) : Text × Outline :=
  (some "configuration", .object settings true)

def denseNode : Outline := .object (jobMembers ++ [configured [versionMember]]) true

def withNode (n : Outline) : Text × Outline := (some "nodes", .array [n] true)

def denseOutline : Outline := .object [withNode denseNode] true

def denseGraph : Graph := ⟨[⟨"a", "", .job ⟨.goBuild (some "2"), {}⟩⟩], []⟩

/-- The same node, its configuration first and with an entry that no block reads, in a document
with a further member. -/
def looseText : String :=
  "\x7b \"x\" : [ 1e999, \x7b\x7d ],\n\t\"nodes\" : [ \x7b\"configuration\":\x7b\"port\":7,\"goVersion\":\"2\"\x7d,\"id\":\"a\",\"role\":\"job\",\"blockType\":\"go_build\"\x7d ] \x7d"

def portMember : Text × Outline := (some "port", .numeral ⟨false, [7], [], none⟩)

def extra : Outline :=
  .array [.numeral ⟨false, [1], [], some (false, [9, 9, 9])⟩, .object [] true] true

def looseNode : Outline := .object (configured [portMember, versionMember] :: jobMembers) true

def looseOutline : Outline := .object [(some "x", extra), withNode looseNode] true

set_option maxRecDepth 1024 in
theorem isTextOf_dense :
    Outline.IsTextOf denseText denseOutline ∧ Outline.IsTextOf looseText looseOutline := by
  unfold denseText looseText
  constructor
  · exact Outline.isTextOf_ofList rfl (by decide +kernel)
  · exact Outline.isTextOf_ofList rfl (by decide +kernel)

theorem edits_dense : Relation.ReflTransGen GraphEdit denseOutline looseOutline := by
  have inNodes {n n' : Outline} (e : NodeEdit n n') :
      GraphEdit (.object [withNode n] true) (.object [withNode n'] true) :=
    .node (@FieldEdit.member graphFields "nodes" _ [] [] _ _ (@ItemEdit.mk NodeEdit [] [] n n' e))
  have added :
      NodeEdit denseNode
        (.object (jobMembers ++ [configured [portMember, versionMember]]) true) := by
    have read : readNodeRecord nodeDepth denseNode = .ok ⟨"a", .job, "go_build", "",
      [("goVersion", .text "2")]⟩ :=
      rfl
    have setting : SettingsEdit (readKeys .job "go_build") [versionMember] [portMember,
      versionMember] :=
      @SettingsEdit.add _ [] _ "port" _ (by decide) (by decide) ⟨by decide, by decide⟩
    exact .configuration read (@FieldEdit.member nodeFields "configuration" _ jobMembers [] _ _
      (.mk setting))
  have turned :
      NodeEdit (.object (jobMembers ++ [configured [portMember, versionMember]]) true) looseNode :=
    .members (.mk (.reorder List.perm_append_comm))
  have extended : GraphEdit (.object [withNode looseNode] true) looseOutline :=
    .members (.mk (@MembersEdit.insert graphFields [] _ "x" _ (by decide) (by decide)))
  exact .tail (.tail (.tail .refl (inNodes added)) (inNodes turned)) extended

theorem parseFrom_edited_dense :
    parseFrom "a" .json denseText = .ok denseGraph ∧ Outline.IsTextOf denseText denseOutline ∧
      NoRepeats denseOutline ∧ Relation.ReflTransGen GraphEdit denseOutline looseOutline ∧
      Outline.IsTextOf looseText looseOutline ∧ parseFrom "b" .json looseText = .ok denseGraph := by
  have read : parseFrom "a" .json denseText = .ok denseGraph := by
    rw [parseFrom, parse, graphOfText, whole, (Outline.isTextOf_iff.mp isTextOf_dense.1).1]
    decide +kernel
  have distinct : NoRepeats denseOutline := by
    intro items closed nodes n hn c hc
    obtain ⟨rfl, -⟩ : items = [denseNode] ∧ closed = true := by
      simpa [HasField, denseOutline, withNode] using nodes
    obtain rfl := List.mem_singleton.mp hn
    obtain rfl : c = .object [versionMember] true := by simpa [HasField, denseNode, jobMembers,
      configured] using hc
    exact List.nodup_singleton _
  refine ⟨read, isTextOf_dense.1, distinct, edits_dense, isTextOf_dense.2, ?_⟩
  exact (parseFrom_edited read).2 _ _ _ isTextOf_dense.1 distinct edits_dense isTextOf_dense.2 "b"

end PipelineCompiler.Document
