import PipelineCompiler.Document.Source
import PipelineCompiler.Proofs.Document.Settings
import PipelineCompiler.Proofs.Json.Whole

namespace PipelineCompiler

open Json (Outline Text Value KeysSorted)

/-- The block types of the jobs that are known. -/
def JobKind.names : List String :=
  ["node_test", "node_build", "python_test", "python_build", "go_build", "docker_build", "lint",
    "security_scan", "cache", "deploy_vercel", "deploy_aws", "deploy_gcp", "notify_slack"]

theorem JobKind.setting?_ofBlockType_of_settingKey? {blockType : String} {s : Option String}
    {key : SettingKey} (h : (ofBlockType blockType s).settingKey? = some key) :
    (ofBlockType blockType s).setting? = s := by
  revert h
  unfold ofBlockType
  split <;> simp [settingKey?, setting?]

namespace Configuration

/-- The entry of a version or an image, for the block types that have one. -/
def settingKeys (blockType : String) : List String :=
  ((JobKind.ofBlockType blockType none).settingKey?.map SettingKey.name).toList

def AllScalar (keys : List String) (c : List (String × Value)) : Prop :=
  ∀ k ∈ keys, ∀ v, find? k c = some v → isScalar v = true

/-- The value of the first key, in the order of keys, that is no scalar. -/
def FirstBad (keys : List String) (c : List (String × Value)) (v : Value) : Prop :=
  ∃ k ∈ keys, find? k c = some v ∧ isScalar v = false ∧
    ∀ k' ∈ keys, ∀ w, find? k' c = some w → isScalar w = false → k ≤ k'

section Sorted

variable {c : List (String × Value)} (sorted : KeysSorted c)
include sorted

theorem nodup_of_keysSorted : (c.map (·.1)).Nodup :=
  List.pairwise_map.mpr (sorted.imp fun lt => String.ne_of_lt lt)

theorem checkScalars_eq_ok {keys : List String} :
    checkScalars keys c = .ok () ↔ AllScalar keys c := by
  rw [checkScalars_eq_ok_iff]
  constructor
  · intro h k hk v found
    exact h (k, v) ((find?_eq_some_iff (nodup_of_keysSorted sorted)).mp found) hk
  · rintro h ⟨k, v⟩ hm hk
    exact h k hk v ((find?_eq_some_iff (nodup_of_keysSorted sorted)).mpr hm)

omit sorted in
theorem FirstBad.unique {keys : List String} {v w : Value} (hv : FirstBad keys c v)
    (hw : FirstBad keys c w) : v = w := by
  obtain ⟨k, hk, foundV, badV, leastV⟩ := hv
  obtain ⟨k', hk', foundW, badW, leastW⟩ := hw
  have same : k = k' := String.le_antisymm (leastV k' hk' w foundW badW) (leastW k hk v foundV badV)
  rw [same, foundW] at foundV
  exact (Option.some.inj foundV).symm

omit sorted in
theorem FirstBad.not_allScalar {keys : List String} {v : Value} (h : FirstBad keys c v) :
    ¬ AllScalar keys c := by
  obtain ⟨k, hk, found, bad, -⟩ := h
  intro all
  rw [all k hk v found] at bad
  cases bad

/-- What is refused is the first bad value, since the entries are in the order of their keys. -/
theorem firstBad_of_checkScalars {keys : List String} {e : Fault}
    (h : checkScalars keys c = .error e) : ∃ v, FirstBad keys c v ∧ e = .notScalar v := by
  have entry {k : String} {v : Value} : find? k c = some v ↔ (k, v) ∈ c :=
    find?_eq_some_iff (nodup_of_keysSorted sorted)
  unfold checkScalars at h
  split at h
  · next k v found =>
    obtain ⟨bad, before, after, split, fine⟩ := List.find?_eq_some_iff_append.mp found
    simp only [Bool.and_eq_true, List.contains_iff_mem, Bool.not_eq_true'] at bad
    refine ⟨v, ⟨k, bad.1, entry.mpr (by simp [split]), bad.2, fun k' hk' w found' bad' => ?_⟩,
      (Except.error.inj h).symm⟩
    have inside := entry.mp found'
    rw [split] at inside sorted
    rcases List.mem_append.mp inside with early | late
    · have accepted := fine _ early
      simp [hk', bad'] at accepted
    · rcases List.mem_cons.mp late with same | late
      · cases same
        exact String.le_refl _
      · have ordered := (List.pairwise_cons.mp (List.pairwise_append.mp sorted).2.1).1 _ late
        exact Std.not_lt.mp (String.lt_asymm ordered)
  · cases h

theorem checkScalars_eq_error {keys : List String} {e : Fault} :
    checkScalars keys c = .error e ↔ ∃ v, FirstBad keys c v ∧ e = .notScalar v := by
  refine ⟨firstBad_of_checkScalars sorted, ?_⟩
  rintro ⟨v, first, rfl⟩
  cases checked : checkScalars keys c with
  | ok => exact absurd ((checkScalars_eq_ok sorted).mp checked) first.not_allScalar
  | error e =>
    obtain ⟨w, other, rfl⟩ := firstBad_of_checkScalars sorted checked
    rw [first.unique other]

omit sorted in
theorem AgreeOn.allScalar {keys : List String} {c' : List (String × Value)}
    (h : AgreeOn keys c c') : AllScalar keys c ↔ AllScalar keys c' := by
  unfold AllScalar
  exact forall₂_congr fun k hk => by rw [h k hk]

omit sorted in
theorem AgreeOn.firstBad {keys : List String} {c' : List (String × Value)}
    (h : AgreeOn keys c c') (v : Value) : FirstBad keys c v ↔ FirstBad keys c' v := by
  unfold FirstBad
  refine exists_congr fun k => and_congr_right fun hk => ?_
  rw [h k hk]
  refine and_congr_right fun _ => and_congr_right fun _ => forall₂_congr fun k' hk' => ?_
  rw [h k' hk']

theorem AgreeOn.checkScalars {keys : List String} {c' : List (String × Value)}
    (h : AgreeOn keys c c') (sorted' : KeysSorted c') :
    checkScalars keys c = checkScalars keys c' := by
  cases checked : Configuration.checkScalars keys c' with
  | ok =>
    exact (checkScalars_eq_ok sorted).mpr
      (h.allScalar.mpr ((checkScalars_eq_ok sorted').mp checked))
  | error e =>
    obtain ⟨v, first, rfl⟩ := (checkScalars_eq_error sorted').mp checked
    exact (checkScalars_eq_error sorted).mpr ⟨v, (h.firstBad v).mpr first, rfl⟩

end Sorted

theorem checkScalars_nil (c : List (String × Value)) : checkScalars [] c = .ok () :=
  checkScalars_eq_ok_iff.mpr (by simp)

theorem readRecord_eq {α : Type} {record : String} {names texts : List String}
    {make : List (String × Value) → α} (c : List (String × Value)) :
    readRecord record names texts make (.object c) = (checkScalars texts c).map fun _ =>
      make c := by
  simp only [readRecord, fieldsOf, bind, Except.bind]
  cases checkScalars texts c <;> rfl

end Configuration

namespace Document

open PipelineCompiler.Configuration

namespace NodeRecord

/-- What is read of a configuration first. -/
def firstKeys (r : NodeRecord) : List String :=
  match r.role with
  | .trigger => []
  | .job => settingKeys r.blockType

def laterKeys (r : NodeRecord) : List String :=
  match r.role with
  | .trigger => triggerKeys
  | .job => ["runsOn", "command"]

/-- The block that is made once the texts have passed. -/
def block (r : NodeRecord) : Block :=
  match r.role with
  | .trigger =>
      .trigger ⟨r.blockType, ⟨text? "trigger" r.configuration, text? "branch" r.configuration,
      text? "cron" r.configuration⟩⟩
  | .job => .job ⟨.ofBlockType r.blockType
        ((JobKind.ofBlockType r.blockType none).settingKey?.bind fun key =>
          text? key.name r.configuration),
      ⟨flag? "checkout" r.configuration, text? "runsOn" r.configuration,
        text? "command" r.configuration⟩⟩

theorem toBlock_eq (r : NodeRecord) : r.toBlock = (do
    checkScalars r.firstKeys r.configuration
    checkScalars r.laterKeys r.configuration
    return r.block) := by
  unfold toBlock firstKeys laterKeys block
  cases r.role with
  | trigger =>
    simp only [readTrigger, readRecord_eq, checkScalars_nil]
    cases checkScalars triggerKeys r.configuration <;> rfl
  | job =>
    have kind : readKind r.blockType (.object r.configuration) =
        (checkScalars (settingKeys r.blockType) r.configuration).map fun _ =>
          .ofBlockType r.blockType
            ((JobKind.ofBlockType r.blockType none).settingKey?.bind fun key =>
              text? key.name r.configuration) := by
      unfold readKind settingKeys
      cases (JobKind.ofBlockType r.blockType none).settingKey? with
      | none => rw [Option.map_none, Option.toList_none, checkScalars_nil]; rfl
      | some key => exact readRecord_eq r.configuration
    simp only [kind, readOptions, readRecord_eq]
    cases checkScalars (settingKeys r.blockType) r.configuration with
    | error e => rfl
    | ok => cases checkScalars ["runsOn", "command"] r.configuration <;> rfl

theorem toNode_eq (r : NodeRecord) : r.toNode = (do
    checkScalars r.firstKeys r.configuration
    checkScalars r.laterKeys r.configuration
    return ⟨r.id, r.label, r.block⟩ :
      Except Fault Node).mapError (.configuration r.id r.blockType) := by
  rw [toNode, toBlock_eq]
  cases checkScalars r.firstKeys r.configuration with
  | error e => rfl
  | ok => cases checkScalars r.laterKeys r.configuration <;> rfl

section Sorted

variable {r : NodeRecord} (sorted : KeysSorted r.configuration)
include sorted

end Sorted

end NodeRecord

namespace JsonReader

section Offender

variable {r : NodeRecord} {e : Fault} (refused : r.toNode = .error e)
include refused

end Offender

end JsonReader

end Document

end PipelineCompiler
