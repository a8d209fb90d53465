import Mathlib.Tactic.ByContra
import PipelineCompiler.Proofs.Diagnostic.Kinds
import PipelineCompiler.Proofs.FirstUse

namespace PipelineCompiler.Diagnostic

/-- The keys of the job nodes, in node order. -/
def jobKeys (g : Graph) : List String := g.jobs.map (·.1.jobKey)

/-- The ids of the job nodes with a key. -/
def nodesWith (g : Graph) (key : String) : List NodeId :=
  (g.jobs.filter (·.1.jobKey = key)).map (·.1.id)

theorem length_nodesWith (g : Graph) (key : String) :
    (nodesWith g key).length = (jobKeys g).count key := by
  rw [nodesWith, jobKeys, List.length_map, List.count, List.countP_map,
    List.countP_eq_length_filter]
  rfl

theorem addToGroup_map {keys : List String} (nodup : keys.Nodup) (ids : String → List NodeId)
    (key : String) (id : NodeId) : addToGroup key id (keys.map fun k => (k, ids k)) =
      if key ∈ keys then keys.map fun k => (k, if k = key then ids k ++ [id] else ids k)
      else (keys.map fun k => (k, ids k)) ++ [(key, [id])] := by
  induction keys with
  | nil => rfl
  | cons k rest ih =>
    obtain ⟨fresh, nodup⟩ := List.nodup_cons.mp nodup
    rw [List.map_cons, addToGroup]
    by_cases same : k = key
    · subst same
      have others : (rest.map fun l => (l, if l = k then ids l ++ [id] else ids l)) =
          rest.map fun l => (l, ids l) := by
        apply List.map_congr_left
        intro l hl
        have ne : l ≠ k := fun eq => fresh (eq ▸ hl)
        rw [if_neg ne]
      simp [others]
    · rw [if_neg same, ih nodup]
      by_cases later : key ∈ rest
      · simp [later, same]
      · simp [later, Ne.symm same]

theorem foldl_addToGroup (jobs : List (Node × Job)) :
    jobs.foldl (fun groups job => addToGroup job.1.jobKey job.1.id groups) [] =
      (jobs.map (·.1.jobKey)).eraseDups.map fun key =>
        (key, (jobs.filter (·.1.jobKey = key)).map (·.1.id)) := by
  induction jobs using List.reverseRecOn with
  | nil => rfl
  | append_singleton rest job ih =>
    rw [List.foldl_append, ih, List.foldl_cons, List.foldl_nil, addToGroup_map (nodup_eraseDups _),
      List.map_append, List.map_singleton, eraseDups_concat]
    simp only [List.mem_eraseDups]
    split_ifs with used
    · apply List.map_congr_left
      intro key _
      by_cases same : job.1.jobKey = key
      · simp [same]
      · simp [same, Ne.symm same]
    · have others (key : String) (hk : key ∈ (rest.map (·.1.jobKey)).eraseDups) :
          job.1.jobKey ≠ key := by
        rintro rfl
        exact used (List.mem_eraseDups.mp hk)
      have unused : rest.filter (·.1.jobKey = job.1.jobKey) = [] := by
        apply List.filter_eq_nil_iff.mpr
        intro other ho same
        exact used (List.mem_map.mpr ⟨other, ho, by simpa using same⟩)
      rw [List.map_append]
      congr 1
      · apply List.map_congr_left
        intro key hk
        simp [others key hk]
      · simp [unused]

theorem groups_eq (g : Graph) :
    groups g = (jobKeys g).eraseDups.map fun key => (key, nodesWith g key) :=
  foldl_addToGroup g.jobs

theorem ofJobKeys_eq (g : Graph) : ofJobKeys g =
    ((jobKeys g).eraseDups.filter fun key => (jobKeys g).count key > 1).map fun key =>
      .duplicateJobKey key (nodesWith g key) := by
  rw [ofJobKeys, groups_eq, List.filter_map, List.map_map]
  simp [Function.comp_def, length_nodesWith]

theorem duplicateJobKey_mem_diagnose {g : Graph} {key : String} {nodes : List NodeId} :
    .duplicateJobKey key nodes ∈ diagnose g ↔ .duplicateJobKey key nodes ∈ ofJobKeys g :=
  mem_diagnose_iff

/-- No key is reported exactly when the keys of the jobs are all different. -/
theorem nodup_jobKeys_iff (g : Graph) :
    (jobKeys g).Nodup ↔ ∀ key nodes, Warning.duplicateJobKey key nodes ∉ diagnose g := by
  simp only [duplicateJobKey_mem_diagnose, ofJobKeys_eq, List.nodup_iff_count]
  constructor
  · intro few key nodes h
    obtain ⟨k, hk, -⟩ := List.mem_map.mp h
    have many := (List.mem_filter.mp hk).2
    have := few k
    simp at many
    omega
  · intro none key
    by_contra many
    have used : key ∈ jobKeys g := List.count_pos_iff.mp (by omega)
    apply none key (nodesWith g key)
    apply List.mem_map_of_mem
    exact List.mem_filter.mpr ⟨List.mem_eraseDups.mpr used, by simpa using Nat.lt_of_not_le many⟩

end PipelineCompiler.Diagnostic
