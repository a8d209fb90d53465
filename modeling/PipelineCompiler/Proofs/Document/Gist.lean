import PipelineCompiler.Proofs.Document.Conversion

namespace PipelineCompiler

open Json (Value)

namespace Configuration

/-- What a value counts for: of a list or an object no more than that it is one. -/
def gist : Value → Value
  | .number n => .text n.text
  | .array _ => .array []
  | .object _ => .object []
  | v => v

def gists (c : List (String × Value)) : List (String × Value) := c.map fun m => (m.1, gist m.2)

theorem isScalar_gist (v : Value) : isScalar (gist v) = isScalar v := by cases v <;> rfl

theorem scalarText?_gist {v : Value} (scalar : isScalar v = true) :
    scalarText? (gist v) = scalarText? v := by
  cases v with
  | number n => exact congrArg Except.ok (if_neg n.text_ne_empty)
  | array items => cases scalar
  | object members => cases scalar
  | null | bool _ | text _ => rfl

theorem toOption_scalarText?_gist (v : Value) :
    (scalarText? (gist v)).toOption = (scalarText? v).toOption := by
  cases scalar : isScalar v with
  | true => rw [scalarText?_gist scalar]
  | false => cases v <;> first | rfl | cases scalar

section Gists

variable (c : List (String × Value))

theorem find?_gists (key : String) : find? key (gists c) = (find? key c).map gist := by
  induction c with
  | nil => rfl
  | cons m rest ih =>
    rw [gists, List.map_cons, find?_cons, find?_cons]
    split
    · rfl
    · exact ih

theorem text?_gists (key : String) : text? key (gists c) = text? key c := by
  unfold text?
  rw [find?_gists]
  cases find? key c with
  | none => rfl
  | some v => exact congrArg Option.join (toOption_scalarText?_gist v)

theorem flag?_gists (key : String) : flag? key (gists c) = flag? key c := by
  unfold flag?
  rw [find?_gists]
  cases find? key c with
  | none => rfl
  | some v => cases v <;> rfl

theorem checkScalars_gists (keys : List String) (u : Unit) :
    checkScalars keys (gists c) = .ok u ↔ checkScalars keys c = .ok u := by
  rw [checkScalars_eq_ok_iff, checkScalars_eq_ok_iff, gists, List.forall_mem_map]
  simp only [isScalar_gist]

end Gists

end Configuration

open PipelineCompiler.Configuration

namespace Document.NodeRecord

theorem block_gists (r : NodeRecord) :
    block { r with configuration := gists r.configuration } = r.block := by
  unfold block
  simp only [text?_gists, flag?_gists]

theorem toNode_gists (r : NodeRecord) (n : Node) :
    toNode { r with configuration := gists r.configuration } = .ok n ↔ r.toNode = .ok n := by
  have keys : firstKeys { r with configuration := gists r.configuration } = r.firstKeys ∧
      laterKeys { r with configuration := gists r.configuration } = r.laterKeys := ⟨rfl, rfl⟩
  simp only [toNode_eq, Outcome.mapError_eq_ok, Outcome.bind_eq_ok, block_gists, keys.1, keys.2,
    checkScalars_gists]

/-- Records whose configurations count for the same are the same node, if they are one. -/
theorem toNode_of_gists_eq {r : NodeRecord} {c : List (String × Value)}
    (same : gists r.configuration = gists c) (n : Node) :
    toNode { r with configuration := c } = .ok n ↔ r.toNode = .ok n := by
  rw [← toNode_gists r, same, ← toNode_gists { r with configuration := c }]

theorem text?_of_gist {c : List (String × Value)} {key s : String} {v : Value}
    (found : find? key c = some v) (text : gist v = .text s) (filled : s ≠ "") :
    text? key c = some s := by
  have scalar : scalarText? (gist v) = .ok (some s) := by rw [text, scalarText?, if_neg filled]
  rw [text?, found]
  dsimp only
  rw [← toOption_scalarText?_gist, scalar]
  rfl

/-- A job has the version that its configuration gives. -/
theorem setting_of_toNode {r : NodeRecord} {n : Node} (h : r.toNode = .ok n) (role : r.role = .job)
    {key : SettingKey} (kind : (JobKind.ofBlockType r.blockType none).settingKey? = some key)
    {v : Value} {s : String} (found : find? key.name r.configuration = some v)
    (text : gist v = .text s) (filled : s ≠ "") :
    ∃ j, n.block = .job j ∧ j.kind.settingKey? = some key ∧ j.kind.setting? = some s := by
  rw [toNode_eq, Outcome.mapError_eq_ok] at h
  obtain ⟨-, -, h⟩ := Outcome.bind_eq_ok.mp h
  obtain ⟨-, -, ⟨⟩⟩ := Outcome.bind_eq_ok.mp h
  have made : JobKind.ofBlockType r.blockType
      ((JobKind.ofBlockType r.blockType none).settingKey?.bind fun key =>
        text? key.name r.configuration) =
        .ofBlockType r.blockType (some s) := by
    rw [kind, Option.bind_some, text?_of_gist found text filled]
  have kind' : (JobKind.ofBlockType r.blockType (some s)).settingKey? = some key :=
    (JobKind.settingKey?_ofBlockType _ _ _).trans kind
  have job : r.block = .job ⟨.ofBlockType r.blockType (some s), ⟨flag? "checkout" r.configuration,
      text? "runsOn" r.configuration, text? "command" r.configuration⟩⟩ := by
    rw [block, role]
    dsimp only
    rw [made]
  exact ⟨_, job, kind', JobKind.setting?_ofBlockType_of_settingKey? kind'⟩

end Document.NodeRecord

end PipelineCompiler
