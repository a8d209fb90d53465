import PipelineCompiler.Document.NodeRecord
import PipelineCompiler.Proofs.Json.Members
import PipelineCompiler.Proofs.Outcome

namespace PipelineCompiler

theorem Json.Number.text_ne_empty (n : Json.Number) : n.text ≠ "" := by
  cases n with
  | int n =>
    change Int.repr n ≠ ""
    cases n <;> simp [Int.repr]
  | double negative x =>
    simp only [Json.Number.text, Decimal.Layout.text, Decimal.positionalText,
      Decimal.scientificText]
    split_ifs <;> simp

namespace JobKind

theorem ofBlockType_setting? (blockType : String) (setting : Option String) :
    ofBlockType blockType (ofBlockType blockType setting).setting? =
      ofBlockType blockType setting := by
  unfold ofBlockType
  split <;> rfl

theorem settingKey?_ofBlockType (blockType : String) (s t : Option String) :
    (ofBlockType blockType s).settingKey? = (ofBlockType blockType t).settingKey? := by
  unfold ofBlockType
  split <;> rfl

theorem setting?_ofBlockType (blockType : String) (s : Option String) :
    (ofBlockType blockType s).setting? = s ∨ (ofBlockType blockType s).setting? = none := by
  unfold ofBlockType
  split <;> simp [setting?]

theorem setting?_of_settingKey? {kind : JobKind} (h : kind.settingKey? = none) :
    kind.setting? = none := by
  cases kind <;> first | rfl | cases h

end JobKind

/-- What a trigger or a job may hold after it has been read. -/
def Block.Canonical : Block → Prop
  | .trigger t =>
      t.settings.trigger ≠ some "" ∧ t.settings.branch ≠ some "" ∧ t.settings.cron ≠ some ""
  | .job j =>
      JobKind.ofBlockType j.kind.blockType j.kind.setting? = j.kind ∧ j.kind.setting? ≠ some "" ∧
      j.options.runsOn ≠ some "" ∧ j.options.command ≠ some ""

namespace Configuration

open Json (Value)

theorem scalarText?_ne_empty {v : Value} {s : Option String} (h : scalarText? v = .ok s) :
    s ≠ some "" := by
  unfold scalarText? at h
  split at h <;> cases h
  · simp
  · split_ifs with he <;> simp [he]
  · simpa using Json.Number.text_ne_empty _
  · simp
  · simp

theorem text?_ne_empty (key : String) (fields : List (String × Value)) :
    text? key fields ≠ some "" := by
  unfold text?
  split
  · next v _ =>
    cases h : scalarText? v with
    | ok s => exact scalarText?_ne_empty h
    | error fault => simp [Except.toOption]
  · simp

/-- A record that is read has been made of some fields. -/
theorem exists_fields_of_readRecord {α : Type} {record : String} {names texts : List String}
    {make : List (String × Value) → α} {v : Value} {a : α}
    (h : readRecord record names texts make v = .ok a) : ∃ fields, make fields = a := by
  unfold readRecord at h
  obtain ⟨⟨fields, excess⟩, -, h⟩ := Outcome.bind_eq_ok.mp h
  obtain ⟨-, -, h⟩ := Outcome.bind_eq_ok.mp h
  cases excess with
  | some fault => cases h
  | none => exact ⟨fields, Except.ok.inj h⟩

theorem checkScalars_eq_ok_iff {keys : List String} {fields : List (String × Value)} :
    checkScalars keys fields = .ok () ↔ ∀ m ∈ fields, m.1 ∈ keys → isScalar m.2 = true := by
  unfold checkScalars
  split
  · next k v found =>
    have refused := List.find?_some found
    simp only [Bool.and_eq_true, List.contains_iff_mem, Bool.not_eq_true'] at refused
    constructor
    · intro impossible
      cases impossible
    · intro all
      have scalar := all _ (List.mem_of_find?_eq_some found) refused.1
      rw [refused.2] at scalar
      cases scalar
  · next found =>
    refine ⟨fun _ m hm key => ?_, fun _ => rfl⟩
    have accepted := List.find?_eq_none.mp found m hm
    simpa [key] using accepted

theorem readRecord_object {α : Type} {record : String} {names texts : List String}
    {make : List (String × Value) → α} {fields : List (String × Value)}
    (h : ∀ m ∈ fields, isScalar m.2 = true) :
    readRecord record names texts make (.object fields) = .ok (make fields) := by
  simp [readRecord, fieldsOf, checkScalars_eq_ok_iff.mpr fun m hm _ => h m hm, bind, Except.bind]

theorem text_or_bool_of_mem_ofBlock {b : Block} {m : String × Value} (h : m ∈ ofBlock b) :
    (∃ s, m.2 = .text s) ∨ ∃ c, m.2 = .bool c := by
  have hm := Json.mem_of_mem_sortMembers h
  cases b with
  | trigger t =>
    simp only [List.mem_append, List.mem_map] at hm
    rcases hm with (⟨s, _, rfl⟩ | ⟨s, _, rfl⟩) | ⟨s, _, rfl⟩ <;> exact .inl ⟨s, rfl⟩
  | job j =>
    simp only [List.mem_append, List.mem_map] at hm
    rcases hm with ((hm | ⟨c, _, rfl⟩) | ⟨s, _, rfl⟩) | ⟨s, _, rfl⟩
    · split at hm
      · obtain ⟨s, _, rfl⟩ := List.mem_map.mp hm
        exact .inl ⟨s, rfl⟩
      · cases hm
    · exact .inr ⟨c, rfl⟩
    · exact .inl ⟨s, rfl⟩
    · exact .inl ⟨s, rfl⟩

theorem isScalar_of_mem_ofBlock {b : Block} {m : String × Value} (h : m ∈ ofBlock b) :
    isScalar m.2 = true := by
  rcases text_or_bool_of_mem_ofBlock h with ⟨s, hs⟩ | ⟨c, hc⟩
  · rw [hs]; rfl
  · rw [hc]; rfl

theorem find?_append (key : String) (a b : List (String × Value)) :
    find? key (a ++ b) = (find? key a).or (find? key b) := by
  simp only [find?, List.find?_append]
  cases a.find? (·.1 == key) <;> rfl

/-- The entry of an optional setting, looked up. -/
theorem find?_entry {α : Type} (key k : String) (f : α → Value) (s : Option α) :
    find? key (s.toList.map fun s => (k, f s)).reverse = if k = key then s.map f else none := by
  cases s <;> simp [find?]

theorem text?_eq {key : String} {fields : List (String × Value)} {s : Option String}
    (h : find? key fields = s.map .text) (hs : s ≠ some "") : text? key fields = s := by
  unfold text?
  rw [h]
  cases s with
  | none => rfl
  | some s =>
    have filled : s ≠ "" := by simpa using hs
    simp [scalarText?, filled, Except.toOption]

theorem find?_ofBlock_trigger (key : String) (t : Trigger) : find? key (ofBlock (.trigger t)) =
    (if "cron" = key then t.settings.cron.map .text else none).or
      ((if "branch" = key then t.settings.branch.map .text else none).or
        (if "trigger" = key then t.settings.trigger.map .text else none)) := by
  simp only [ofBlock, find?_sortMembers, List.reverse_append, find?_append, find?_entry]

theorem find?_ofBlock_job (key : String) (j : Job) : find? key (ofBlock (.job j)) =
    (if "command" = key then j.options.command.map .text else none).or
      ((if "runsOn" = key then j.options.runsOn.map .text else none).or
        ((if "checkout" = key then j.options.checkout.map .bool else none).or
          (j.kind.settingKey?.bind fun k =>
            if k.name = key then j.kind.setting?.map .text else none))) := by
  simp only [ofBlock, find?_sortMembers, List.reverse_append, find?_append, find?_entry]
  cases j.kind.settingKey? with
  | none => rfl
  | some k => simp only [find?_entry, Option.bind_some]

theorem readTrigger_ofBlock {t : Trigger} (h : (Block.trigger t).Canonical) :
    readTrigger (.object (ofBlock (.trigger t))) = .ok t.settings := by
  obtain ⟨trigger, branch, cron⟩ := h
  rw [readTrigger, readRecord_object fun m => isScalar_of_mem_ofBlock]
  rw [text?_eq (by simp [find?_ofBlock_trigger]) trigger,
    text?_eq (by simp [find?_ofBlock_trigger]) branch,
    text?_eq (by simp [find?_ofBlock_trigger]) cron]

theorem readOptions_ofBlock {j : Job} (h : (Block.job j).Canonical) :
    readOptions (.object (ofBlock (.job j))) = .ok j.options := by
  obtain ⟨-, -, runsOn, command⟩ := h
  -- A setting has a key of its own, so the options are found behind it.
  have apart (key : String) (hk : key ∈ ["checkout", "runsOn", "command"]) (k : SettingKey) :
      k.name ≠ key := by
    cases k <;> revert hk key <;> decide
  have flag : flag? "checkout" (ofBlock (.job j)) = j.options.checkout := by
    have none := fun k => apart "checkout" (by simp) k
    unfold flag?
    rw [find?_ofBlock_job]
    cases hc : j.options.checkout <;> simp [none]
  have first : find? "runsOn" (ofBlock (.job j)) = j.options.runsOn.map .text := by
    have none := fun k => apart "runsOn" (by simp) k
    simp [find?_ofBlock_job, none]
  have second : find? "command" (ofBlock (.job j)) = j.options.command.map .text := by
    have none := fun k => apart "command" (by simp) k
    simp [find?_ofBlock_job, none]
  rw [readOptions, readRecord_object fun m => isScalar_of_mem_ofBlock, flag, text?_eq first runsOn,
    text?_eq second command]

theorem readKind_ofBlock {j : Job} (h : (Block.job j).Canonical) :
    readKind j.kind.blockType (.object (ofBlock (.job j))) = .ok j.kind := by
  obtain ⟨kind, setting, -, -⟩ := h
  have key : (JobKind.ofBlockType j.kind.blockType none).settingKey? = j.kind.settingKey? := by
    rw [JobKind.settingKey?_ofBlockType _ none j.kind.setting?, kind]
  unfold readKind
  rw [key]
  cases hk : j.kind.settingKey? with
  | none =>
    rw [JobKind.setting?_of_settingKey? hk] at kind
    simp [kind]
  | some k =>
    have found : find? k.name (ofBlock (.job j)) = j.kind.setting?.map .text := by
      rw [find?_ofBlock_job, hk]
      cases k <;> simp [SettingKey.name]
    simp only
    rw [readRecord_object fun m => isScalar_of_mem_ofBlock, text?_eq found setting, kind]

/-- A kind that is read is the one that the block type names, with no setting or a
text that is not empty. -/
theorem ofBlockType_of_readKind {blockType : String} {v : Value} {kind : JobKind}
    (h : readKind blockType v = .ok kind) :
    ∃ s, s ≠ some "" ∧ JobKind.ofBlockType blockType s = kind := by
  unfold readKind at h
  split at h
  · exact ⟨none, by simp, Except.ok.inj h⟩
  · next key _ =>
    obtain ⟨fields, made⟩ := exists_fields_of_readRecord h
    exact ⟨_, text?_ne_empty key.name fields, made⟩

end Configuration

namespace Document.NodeRecord

open PipelineCompiler.Configuration

theorem canonical_of_toBlock {r : NodeRecord} {b : Block} (h : r.toBlock = .ok b) :
    b.Canonical := by
  unfold toBlock at h
  split at h
  · obtain ⟨settings, read, made⟩ := Outcome.bind_eq_ok.mp h
    obtain ⟨fields, rfl⟩ := exists_fields_of_readRecord read
    cases made
    exact ⟨text?_ne_empty _ _, text?_ne_empty _ _, text?_ne_empty _ _⟩
  · obtain ⟨kind, readKind, h⟩ := Outcome.bind_eq_ok.mp h
    obtain ⟨options, read, made⟩ := Outcome.bind_eq_ok.mp h
    obtain ⟨s, hs, rfl⟩ := ofBlockType_of_readKind readKind
    obtain ⟨fields, rfl⟩ := exists_fields_of_readRecord read
    cases made
    refine ⟨?_, ?_, text?_ne_empty _ _, text?_ne_empty _ _⟩
    · rw [JobKind.blockType_ofBlockType, JobKind.ofBlockType_setting?]
    · rcases JobKind.setting?_ofBlockType r.blockType s with same | none
      · rw [same]; exact hs
      · simp [none]

theorem canonical_of_toNode {r : NodeRecord} {n : Node} (h : r.toNode = .ok n) :
    n.block.Canonical := by
  unfold toNode at h
  split at h
  · next b hb =>
    cases h
    exact canonical_of_toBlock hb
  · cases h

/-- A node is read back from the record that is written for it. -/
theorem toNode_ofNode {n : Node} (h : n.block.Canonical) : (ofNode n).toNode = .ok n := by
  obtain ⟨id, label, block⟩ := n
  have made : (ofNode ⟨id, label, block⟩).toBlock = .ok block := by
    cases block with
    | trigger t =>
      simp only [toBlock, ofNode, Node.role, Node.blockType, Block.blockType]
      rw [readTrigger_ofBlock h]
      rfl
    | job j =>
      simp only [toBlock, ofNode, Node.role, Node.blockType, Block.blockType]
      rw [readKind_ofBlock h, readOptions_ofBlock h]
      rfl
  rw [toNode, made]
  rfl

end Document.NodeRecord

end PipelineCompiler
