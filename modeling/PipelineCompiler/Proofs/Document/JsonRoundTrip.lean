import PipelineCompiler.Document.JsonReader
import PipelineCompiler.Document.JsonWriter
import PipelineCompiler.Proofs.Document.Canonical
import PipelineCompiler.Proofs.Json.Structure

namespace PipelineCompiler.Document

open Json (Outline Value)
open Json.Outline (ofValue ofItems ofMembers)

/-- Every block of a graph is as reading leaves it. -/
def Canonical (g : Graph) : Prop := ∀ n ∈ g.nodes, n.block.Canonical

namespace JsonReader

theorem enter_eq_ok {depth : Nat} (h : depth < depthLimit) : enter depth = .ok () := if_pos h

theorem readMembers_ofMembers (depth : Nat) {members : List (String × Value)}
    (h : ∀ m ∈ members, (∃ s, m.2 = .text s) ∨ ∃ c, m.2 = .bool c) :
    readMembers depth (ofMembers members) = .ok members := by
  induction members with
  | nil => rfl
  | cons m rest ih =>
    obtain ⟨k, v⟩ := m
    have first : readValue depth (ofValue v) = .ok v := by
      rcases h (k, v) (by simp) with ⟨s, rfl⟩ | ⟨c, rfl⟩ <;> rfl
    rw [ofMembers, readMembers, first, ih fun n hn => h n (by simp [hn])]
    rfl

theorem readConfiguration_ofBlock {depth : Nat} (h : depth < depthLimit) (b : Block) :
    readConfiguration depth (.object (ofMembers (Configuration.ofBlock b)) true) =
      .ok (Configuration.ofBlock b) := by
  have members := readMembers_ofMembers (depth + 1)
    fun _ (h : _ ∈ Configuration.ofBlock b) => Configuration.text_or_bool_of_mem_ofBlock h
  have sorted : Json.sortMembers (Configuration.ofBlock b) = Configuration.ofBlock b :=
    Json.sortMembers_sortMembers _
  rw [readConfiguration, enter_eq_ok h]
  simp [members, sorted, leave, bind, Except.bind]

theorem readRole_name (depth : Nat) (r : Role) : readRole depth (.text (some r.name)) = .ok r := by
  cases r <;> rfl

theorem readNode_ofValue {depth : Nat} (h : depth + 1 < depthLimit) {n : Node}
    (hn : n.block.Canonical) : readNode depth (ofValue (nodeValue n)) = .ok n := by
  have configuration := readConfiguration_ofBlock h n.block
  have record : readNodeRecord depth (ofValue (nodeValue n)) = .ok (.ofNode n) := by
    simp only [nodeValue, ofValue, ofMembers, readNodeRecord]
    rw [enter_eq_ok (by omega)]
    simp [NodeRecord.ofNode, readFields, nodeField, once, readText, readRole_name, configuration,
      leave, NodeFields.toRecord, bind, Except.bind, Except.map, pure, Except.pure]
  rw [readNode, record]
  exact NodeRecord.toNode_ofNode hn

theorem readEdge_ofValue {depth : Nat} (h : depth < depthLimit) (e : Edge) :
    readEdge depth (ofValue (edgeValue e)) = .ok e := by
  simp [edgeValue, ofValue, ofMembers, readEdge, enter_eq_ok h, readFields, edgeField, once,
    readText, leave, EdgeFields.toEdge, bind, Except.bind, Except.map, pure, Except.pure]

theorem readList_ofItems {α : Type} (read : Nat → Outline → Except Fault α) (write : α → Value)
    {depth : Nat} (h : depth < depthLimit) (items : List α)
    (hr : ∀ a ∈ items, read (depth + 1) (ofValue (write a)) = .ok a) :
    readList read depth (.array (ofItems (items.map write)) true) = .ok items := by
  have inner : (ofItems (items.map write)).mapM (read (depth + 1)) = .ok items := by
    induction items with
    | nil => rfl
    | cons a rest ih =>
      rw [List.map_cons, ofItems, List.mapM_cons, hr a (by simp),
        ih fun b hb => hr b (by simp [hb])]
      rfl
  rw [readList, enter_eq_ok h]
  simp [inner, leave, bind, Except.bind]

theorem readGraph_ofValue {g : Graph} (h : Canonical g) :
    readGraph 0 (ofValue (graphValue g)) = .ok g := by
  have one : 1 < depthLimit := by decide
  have nodes := readList_ofItems readNode nodeValue one g.nodes fun n hn =>
    readNode_ofValue (by decide) (h n hn)
  have edges := readList_ofItems readEdge edgeValue one g.edges fun e _ =>
    readEdge_ofValue (by decide) e
  simp only [graphValue, ofValue, ofMembers, readGraph]
  rw [enter_eq_ok (by decide)]
  simp [readFields, graphField, once, nodes, edges, leave, GraphFields.toGraph, bind, Except.bind,
    Except.map, pure, Except.pure]

end JsonReader

theorem isNumberFree_nodeValue (n : Node) : (nodeValue n).isNumberFree = true := by
  have configuration : Json.areMembersNumberFree (Configuration.ofBlock n.block) = true := by
    apply (Json.areMembersNumberFree_iff _).mpr
    intro m hm
    rcases Configuration.text_or_bool_of_mem_ofBlock hm with ⟨s, hs⟩ | ⟨c, hc⟩
    · rw [hs]; rfl
    · rw [hc]; rfl
  simpa [nodeValue, NodeRecord.ofNode, Value.isNumberFree, Json.areMembersNumberFree]
    using configuration

theorem isNumberFree_graphValue (g : Graph) : (graphValue g).isNumberFree = true := by
  have nodes : Json.areNumberFree (g.nodes.map nodeValue) = true := by
    apply (Json.areNumberFree_iff _).mpr
    intro v hv
    obtain ⟨n, -, rfl⟩ := List.mem_map.mp hv
    exact isNumberFree_nodeValue n
  have edges : Json.areNumberFree (g.edges.map edgeValue) = true := by
    apply (Json.areNumberFree_iff _).mpr
    intro v hv
    obtain ⟨e, -, rfl⟩ := List.mem_map.mp hv
    rfl
  simp [graphValue, Value.isNumberFree, Json.areMembersNumberFree, nodes, edges]

theorem graphOfText_toJson {g : Graph} (h : Canonical g) :
    JsonReader.graphOfText (toJson g) = .ok g := by
  rw [JsonReader.graphOfText, JsonReader.whole, toJson,
    Json.Outline.ofText_pretty _ _ (isNumberFree_graphValue g)]
  simp only [JsonReader.readGraph_ofValue h]
  rfl
end PipelineCompiler.Document
