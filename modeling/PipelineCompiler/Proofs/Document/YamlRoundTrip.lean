import PipelineCompiler.Proofs.Document.Provenance
import PipelineCompiler.Proofs.Graph.Texts
import PipelineCompiler.Proofs.Yaml.Tree

namespace PipelineCompiler

/-- Every string of a node. -/
def Node.strings (n : Node) : List String := n.id :: n.blockType :: (n.texts ++ n.runTexts)

def Graph.strings (g : Graph) : List String :=
  g.nodes.flatMap Node.strings ++ g.edges.flatMap fun e => [e.source, e.target]

/-- A character that YAML forbids, or folds as a line end, where it is not escaped. -/
def Yaml.IsForbidden (c : Char) : Prop :=
  (0x7f ≤ c.toNat ∧ c.toNat ≤ 0x9f) ∨ c.toNat ∈ [0x2028, 0x2029, 0xfeff, 0xfffe, 0xffff]

instance : DecidablePred Yaml.IsForbidden := fun _ => inferInstanceAs (Decidable (_ ∨ _))

theorem Yaml.portable_of_not_isForbidden {c : Char} (h : ¬ Yaml.IsForbidden c) :
    Yaml.Portable c := by
  have valid : c.toNat < 0xd800 ∨ (0xdfff < c.toNat ∧ c.toNat < 0x110000) := c.valid
  have apart : ∀ d : Char, isBreak d = true → d.toNat < 0x20 ∨ IsForbidden d := by
    intro d hd
    simp only [isBreak, Bool.or_eq_true, beq_iff_eq] at hd
    rcases hd with (((rfl | rfl) | rfl) | rfl) | rfl <;> decide
  by_cases low : c.toNat < 0x20
  · exact .inl low
  · refine .inr ⟨?_, ?_⟩
    · simp only [IsForbidden, List.mem_cons, List.not_mem_nil, or_false] at h
      simp only [isAllowed, Bool.or_eq_true, Bool.and_eq_true, beq_iff_eq, bne_iff_ne,
        decide_eq_true_eq]
      omega
    · by_contra broken
      exact (apart c (by simpa using broken)).elim low h

namespace Document

open Json (Value)
open Yaml (node itemNodes memberNodes Fits IsPortable)

namespace YamlReader

variable (anchors : Anchors) (place : Place)

theorem readText_scalar (expected : Shape) (s : Yaml.Scalar) :
    readText anchors expected place (.scalar none s) = pure s.text := by
  simp [readText, follow]

/-- Texts and flags are resolved to themselves: a text, because it stands in quotes. -/
theorem readValue_node (depth : Nat) {v : Value} (h : (∃ s, v = .text s) ∨ ∃ c, v = .bool c) :
    readValue anchors depth place (node v) = pure v := by
  have outer (inner : Option (Place → Yaml.Node → Reader Value)) :
      readOuter anchors inner place (node v) = pure v := by
    rcases h with ⟨s, rfl⟩ | ⟨c, rfl⟩
    · simp [node, readOuter, follow, refuseVariant, variant?, readScalar, Yaml.Resolve.scalar]
    · have word (c : Bool) : Yaml.Resolve.plain (if c then "true" else "false") = .bool c := by
        cases c <;> rfl
      simp [node, readOuter, follow, refuseVariant, variant?, readScalar, Yaml.Resolve.scalar, word]
  cases depth with
  | zero => exact outer none
  | succ depth => exact outer _

theorem readMembers_memberNodes (depth : Nat) (expected : Shape) {members : List (String × Value)}
    (h : ∀ m ∈ members, (∃ s, m.2 = .text s) ∨ ∃ c, m.2 = .bool c) :
    readMembers anchors (readValue anchors depth) place expected (memberNodes members) =
      pure members := by
  induction members generalizing expected with
  | nil => rfl
  | cons m rest ih =>
    obtain ⟨k, v⟩ := m
    have value (place : Place) := readValue_node anchors place depth (h (k, v) (by simp))
    rw [memberNodes, readMembers, readText_scalar, pure_bind, value, pure_bind,
      ih _ fun n hn => h n (by simp [hn]), pure_bind]

theorem readConfiguration_ofBlock (b : Block) :
    readConfiguration anchors place
      (.mapping none none (memberNodes (Configuration.ofBlock b)) true) =
      pure (Configuration.ofBlock b) := by
  have members := readMembers_memberNodes anchors place (depthLimit - 4) .text
    fun _ (h : _ ∈ Configuration.ofBlock b) => Configuration.text_or_bool_of_mem_ofBlock h
  have sorted : Json.sortMembers (Configuration.ofBlock b) = Configuration.ofBlock b :=
    Json.sortMembers_sortMembers _
  simp [readConfiguration, follow, members, sorted, leave]

theorem readRole_name (r : Role) :
    readRole anchors place (.scalar none ⟨r.name, .doubleQuoted, none⟩) = pure r := by
  cases r <;> simp [readRole, follow, variant?, Role.name, roleOfName, lift]

theorem readNode_node {n : Node} (hn : n.block.Canonical) :
    readNode anchors place (node (nodeValue n)) = pure n := by
  have configuration (place : Place) := readConfiguration_ofBlock anchors place n.block
  have record : readRecord anchors nodeName {} (nodeField anchors) NodeFields.toRecord place
      (node (nodeValue n)) = pure (.ofNode n) := by
    simp [nodeValue, NodeRecord.ofNode, node, memberNodes, readRecord, follow, readFields,
      readText_scalar, nodeField, once, readRole_name, configuration, leave,
      NodeFields.toRecord, lift]
  rw [readNode, record, pure_bind, NodeRecord.toNode_ofNode hn]
  rfl

theorem readEdge_node (e : Edge) : readEdge anchors place (node (edgeValue e)) = pure e := by
  simp [edgeValue, node, memberNodes, readEdge, readRecord, follow, readFields, readText_scalar,
    edgeField, once, leave, EdgeFields.toEdge, lift]

theorem readList_itemNodes {α : Type} (read : Place → Yaml.Node → Reader α) (write : α → Value)
    (items : List α) (hr : ∀ a ∈ items, ∀ place, read place (node (write a)) = pure a) :
    readList anchors read place (.sequence none none (itemNodes (items.map write)) true) =
      pure items := by
  have inner (i : Nat) : readItems read place i (itemNodes (items.map write)) = pure items := by
    induction items generalizing i with
    | nil => rfl
    | cons a rest ih =>
      rw [List.map_cons, itemNodes, readItems, hr a (by simp), pure_bind,
        ih fun b hb => hr b (by simp [hb]), pure_bind]
  simp [readList, follow, inner, leave]

theorem readGraph_node {g : Graph} (h : Canonical g) :
    readGraph anchors place (node (graphValue g)) = pure g := by
  have nodes (place : Place) :=
    readList_itemNodes anchors place (readNode anchors) nodeValue g.nodes
    fun n hn place => readNode_node anchors place (h n hn)
  have edges (place : Place) :=
    readList_itemNodes anchors place (readEdge anchors) edgeValue g.edges
    fun e _ place => readEdge_node anchors place e
  simp [graphValue, node, memberNodes, readGraph, readRecord, follow, readFields, readText_scalar,
    graphField, once, nodes, edges, leave, GraphFields.toGraph, lift]

end YamlReader

/-- The keys that configurations are written with. -/
def settingNames : List String :=
  Configuration.triggerKeys ++ ["nodeVersion", "pythonVersion", "goVersion", "imageName"] ++
    ["checkout", "runsOn", "command"]

theorem mem_ofBlock {n : Node} {m : String × Value} (h : m ∈ Configuration.ofBlock n.block) :
    m.1 ∈ settingNames ∧ ((∃ s ∈ n.strings, m.2 = .text s) ∨ ∃ c, m.2 = .bool c) := by
  have entries := Json.mem_of_mem_sortMembers h
  obtain ⟨id, label, block⟩ := n
  cases block with
  | trigger t =>
    simp only [List.mem_append, List.mem_map] at entries
    rcases entries with (⟨s, hs, rfl⟩ | ⟨s, hs, rfl⟩) | ⟨s, hs, rfl⟩ <;>
      exact ⟨by simp [settingNames, Configuration.triggerKeys],
        .inl ⟨s, by simp [Node.strings, Node.texts, Node.runTexts, Option.mem_toList.mp hs], rfl⟩⟩
  | job j =>
    simp only [List.mem_append, List.mem_map] at entries
    rcases entries with ((hm | ⟨c, -, rfl⟩) | ⟨s, hs, rfl⟩) | ⟨s, hs, rfl⟩
    · split at hm
      · next key _ =>
        obtain ⟨s, hs, rfl⟩ := List.mem_map.mp hm
        exact ⟨by cases key <;> simp [settingNames, SettingKey.name],
          .inl ⟨s, by simp [Node.strings, Node.texts, Option.mem_toList.mp hs], rfl⟩⟩
      · cases hm
    · exact ⟨by simp [settingNames], .inr ⟨c, rfl⟩⟩
    · exact ⟨by simp [settingNames],
        .inl ⟨s, by simp [Node.strings, Node.runTexts, Option.mem_toList.mp hs], rfl⟩⟩
    · exact ⟨by simp [settingNames],
        .inl ⟨s, by simp [Node.strings, Node.texts, Option.mem_toList.mp hs], rfl⟩⟩

theorem isPortable_of_not_isForbidden {s : String} (h : ∀ c ∈ s.toList, ¬ Yaml.IsForbidden c) :
    IsPortable s :=
  fun c hc => Yaml.portable_of_not_isForbidden (h c hc)

theorem fits_configuration {n : Node} (h : ∀ s ∈ n.strings, IsPortable s) :
    Fits (.object (Configuration.ofBlock n.block)) := by
  have names : ∀ k ∈ settingNames, IsPortable k ∧ Yaml.IsShort k := by decide
  have values : ∀ m ∈ Configuration.ofBlock n.block, IsPortable m.1 ∧ Yaml.IsShort m.1 ∧
      Fits m.2 := by
    intro m hm
    obtain ⟨key, value⟩ := mem_ofBlock hm
    obtain ⟨portable, short⟩ := names m.1 key
    refine ⟨portable, short, ?_⟩
    rcases value with ⟨s, hs, eq⟩ | ⟨c, eq⟩
    · rw [eq]
      exact h s hs
    · rw [eq]
      trivial
  exact (Yaml.membersFit_iff _).mpr values

/-- The keys that records are written with. -/
def fieldNames : List String :=
  ["nodes", "edges", "id", "role", "blockType", "label", "configuration", "source", "target"]

theorem field_fits {m : String × Value} (hk : m.1 ∈ fieldNames) (hv : Fits m.2) :
    IsPortable m.1 ∧ Yaml.IsShort m.1 ∧ Fits m.2 := by
  have names : ∀ k ∈ fieldNames, IsPortable k ∧ Yaml.IsShort k := by decide
  exact ⟨(names m.1 hk).1, (names m.1 hk).2, hv⟩

theorem fits_nodeValue {n : Node} (h : ∀ s ∈ n.strings, IsPortable s) : Fits (nodeValue n) := by
  have role : IsPortable n.role.name := by cases n.role <;> decide
  have texts : IsPortable n.id ∧ IsPortable n.blockType ∧ IsPortable n.label := by
    refine ⟨h _ ?_, h _ ?_, h _ ?_⟩ <;> simp [Node.strings, Node.texts]
  apply (Yaml.membersFit_iff _).mpr
  intro m hm
  simp only [NodeRecord.ofNode, List.mem_cons, List.not_mem_nil, or_false] at hm
  rcases hm with rfl | rfl | rfl | rfl | rfl
  · exact field_fits (by simp [fieldNames]) texts.1
  · exact field_fits (by simp [fieldNames]) role
  · exact field_fits (by simp [fieldNames]) texts.2.1
  · exact field_fits (by simp [fieldNames]) texts.2.2
  · exact field_fits (by simp [fieldNames]) (fits_configuration h)

theorem fits_edgeValue {e : Edge} (source : IsPortable e.source) (target : IsPortable e.target) :
    Fits (edgeValue e) := by
  apply (Yaml.membersFit_iff _).mpr
  intro m hm
  simp only [List.mem_cons, List.not_mem_nil, or_false] at hm
  rcases hm with rfl | rfl
  · exact field_fits (by simp [fieldNames]) source
  · exact field_fits (by simp [fieldNames]) target

theorem fits_graphValue {g : Graph} (h : ∀ s ∈ g.strings, IsPortable s) : Fits (graphValue g) := by
  have nodes : Fits (.array (g.nodes.map nodeValue)) := by
    apply (Yaml.allFit_iff _).mpr
    intro v hv
    obtain ⟨n, hn, rfl⟩ := List.mem_map.mp hv
    apply fits_nodeValue
    intro s hs
    exact h s (List.mem_append_left _ (List.mem_flatMap.mpr ⟨n, hn, hs⟩))
  have edges : Fits (.array (g.edges.map edgeValue)) := by
    apply (Yaml.allFit_iff _).mpr
    intro v hv
    obtain ⟨e, he, rfl⟩ := List.mem_map.mp hv
    have ends (s : String) (hs : s ∈ [e.source, e.target]) : IsPortable s :=
      h s (List.mem_append_right _ (List.mem_flatMap.mpr ⟨e, he, hs⟩))
    exact fits_edgeValue (ends _ (by simp)) (ends _ (by simp))
  apply (Yaml.membersFit_iff _).mpr
  intro m hm
  simp only [List.mem_cons, List.not_mem_nil, or_false] at hm
  rcases hm with rfl | rfl
  · exact field_fits (by simp [fieldNames]) nodes
  · exact field_fits (by simp [fieldNames]) edges

theorem yaml_graphOfText_toJson {g : Graph} (h : Canonical g) (hs : ∀ s ∈ g.strings, IsPortable s) :
    YamlReader.graphOfText (toJson g) = .ok g := by
  rw [YamlReader.graphOfText, toJson, Yaml.ofText_pretty (fits_graphValue hs)]
  simp only [YamlReader.readGraph_node _ [] h]
  rfl

/-- A graph that was read from a document is read back from its JSON text in either format, if YAML
allows every character of its strings. -/
theorem parseFrom_toJson_either {origin : String} {format : DocumentFormat}
    {text : String} {g : Graph} (h : parseFrom origin format text = .ok g)
    (hs : ∀ s ∈ g.strings, ∀ c ∈ s.toList, ¬ Yaml.IsForbidden c) (again : String) :
    parseFrom again .yaml (toJson g) = .ok g ∧
      parseFrom again .yaml (toJson g) = parseFrom again .json (toJson g) := by
  have canonical := canonical_of_parse (Outcome.mapError_eq_ok.mp h)
  have portable : ∀ s ∈ g.strings, IsPortable s :=
    fun s hm => isPortable_of_not_isForbidden (hs s hm)
  have yaml : parseFrom again .yaml (toJson g) = .ok g := by
    rw [parseFrom, parse, yaml_graphOfText_toJson canonical portable]
    rfl
  have json : parseFrom again .json (toJson g) = .ok g := by
    rw [parseFrom, parse, graphOfText_toJson canonical]
    rfl
  exact ⟨yaml, yaml.trans json.symm⟩

/-- Strings that mean something else in YAML when they stand without quotes. -/
def lookalikes : Graph :=
  ⟨[⟨"true", "null", .job ⟨.unknown "1.10", { command := some "- \"a\\b\": [\t&x]\x01\n# c" }⟩⟩,
    ⟨"~", "---", .trigger ⟨"\x7b", { branch := some "0x10" }⟩⟩], [⟨"true", "*x"⟩]⟩

theorem parseFrom_toJson_either_lookalikes :
    parseFrom "a" .json (toJson lookalikes) = .ok lookalikes ∧
      (∀ s ∈ lookalikes.strings, ∀ c ∈ s.toList, ¬ Yaml.IsForbidden c) ∧
      parseFrom "b" .yaml (toJson lookalikes) = .ok lookalikes ∧
      parseFrom "b" .yaml (toJson lookalikes) = parseFrom "b" .json (toJson lookalikes) := by
  have canonical : Canonical lookalikes := by
    intro n hn
    simp only [lookalikes, List.mem_cons, List.not_mem_nil, or_false] at hn
    rcases hn with rfl | rfl
    · exact ⟨rfl, by decide, by decide, by decide⟩
    · exact ⟨by decide, by decide, by decide⟩
  have read : parseFrom "a" .json (toJson lookalikes) = .ok lookalikes := by
    rw [parseFrom, parse, graphOfText_toJson canonical]
    rfl
  have allowed : ∀ s ∈ lookalikes.strings, ∀ c ∈ s.toList, ¬ Yaml.IsForbidden c := by
    have clear : lookalikes.strings.all (·.toList.all fun c => !decide (Yaml.IsForbidden c)) =
        true := by decide
    intro s hs c hc
    simpa using List.all_eq_true.mp (List.all_eq_true.mp clear s hs) c hc
  exact ⟨read, allowed, parseFrom_toJson_either read allowed "b"⟩

end Document

end PipelineCompiler
