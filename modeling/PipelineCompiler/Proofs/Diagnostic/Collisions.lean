import Mathlib.Algebra.BigOperators.Group.Finset.Basic
import Mathlib.Algebra.GroupWithZero.Nat
import PipelineCompiler.Proofs.Dialect.JobGraph

namespace PipelineCompiler

/-- How many more jobs are written under a key than there should be. -/
def Warning.surplus : Warning → Nat
  | duplicateJobKey _ nodes => nodes.length - 1
  | _ => 0

namespace Diagnostic

variable (g : Graph)

theorem jobKeys_eq : jobKeys g = g.jobNodes.map Node.jobKey := Graph.map_jobs g Node.jobKey

theorem nodesWith_eq (key : String) :
    nodesWith g key = (g.jobNodes.filter (·.jobKey = key)).map (·.id) := by
  rw [nodesWith, ← Graph.map_fst_jobs, List.filter_map, List.map_map]
  rfl

/-- The keys that two or more jobs have, in the order of their first use. -/
def sharedKeys : List String := (jobKeys g).eraseDups.filter fun key => (jobKeys g).count key > 1

theorem mem_sharedKeys {key : String} : key ∈ sharedKeys g ↔ 2 ≤ (jobKeys g).count key := by
  rw [sharedKeys, List.mem_filter, List.mem_eraseDups, decide_eq_true_eq, and_iff_right_of_imp]
  · rfl
  · intro many
    exact List.count_pos_iff.mp (Nat.lt_trans Nat.zero_lt_one many)

theorem pairwise_sharedKeys :
    (sharedKeys g).Pairwise fun a b => (jobKeys g).idxOf a < (jobKeys g).idxOf b :=
  (pairwise_eraseDups _).sublist List.filter_sublist

theorem jobKeyWarnings_eq : (diagnose g).filter (·.kind = .jobKey) =
    (sharedKeys g).map fun key => .duplicateJobKey key (nodesWith g key) := by
  rw [filter_kind_diagnose, ofKind, ofJobKeys_eq, sharedKeys]

/-- Warnings of another kind report no surplus. -/
theorem surplus_of_kind {w : Warning} (other : w.kind ≠ .jobKey) : w.surplus = 0 := by
  cases w with
  | duplicateJobKey => exact absurd rfl other
  | _ => rfl

theorem sum_surplus_filter (ws : List Warning) :
    ((ws.filter (·.kind = .jobKey)).map Warning.surplus).sum = (ws.map Warning.surplus).sum := by
  induction ws with
  | nil => rfl
  | cons w rest ih =>
    by_cases same : w.kind = .jobKey
    · simp [same, ih]
    · simp [same, ih, surplus_of_kind same]

/-- A key that is not shared has no surplus either, so all keys may be counted. -/
theorem sum_surplus_sharedKeys : ((sharedKeys g).map fun key => (jobKeys g).count key - 1).sum =
    ∑ key ∈ (jobKeys g).toFinset, ((jobKeys g).count key - 1) := by
  have distinct : (sharedKeys g).Nodup := (nodup_eraseDups _).sublist List.filter_sublist
  rw [← List.sum_toFinset _ distinct]
  apply Finset.sum_subset
  · intro key shared
    rw [List.mem_toFinset, mem_sharedKeys] at shared
    exact List.mem_toFinset.mpr (List.count_pos_iff.mp (by omega))
  · intro key _ unshared
    rw [List.mem_toFinset, mem_sharedKeys] at unshared
    omega

/-- What is reported makes up for the difference between the jobs and their keys. -/
theorem length_jobKeys : (jobKeys g).length =
    (jobKeys g).toFinset.card + ((diagnose g).map Warning.surplus).sum := by
  have reported : ((diagnose g).map Warning.surplus).sum =
      ∑ key ∈ (jobKeys g).toFinset, ((jobKeys g).count key - 1) := by
    rw [← sum_surplus_filter, jobKeyWarnings_eq, List.map_map, ← sum_surplus_sharedKeys]
    simp [Function.comp_def, Warning.surplus, length_nodesWith]
  calc (jobKeys g).length
      = ∑ key ∈ (jobKeys g).toFinset, (jobKeys g).count key :=
        (List.sum_toFinset_count_eq_length _).symm
    _ = ∑ key ∈ (jobKeys g).toFinset, (1 + ((jobKeys g).count key - 1)) := by
        apply Finset.sum_congr rfl
        intro key used
        have := List.count_pos_iff.mpr (List.mem_toFinset.mp used)
        omega
    _ = (jobKeys g).toFinset.card + ((diagnose g).map Warning.surplus).sum := by
        rw [Finset.sum_add_distrib, ← Finset.card_eq_sum_ones, reported]

/-- Each key of two or more job nodes is reported once, with the ids of all of them, in the order of
first use, and no other key is. So nothing is reported exactly when all jobs are written under
different keys, and else the reports tell how many jobs are written beyond one for each key. -/
theorem shared_keys_reported (runner image : String) :
    (∃ keys : List String,
      (diagnose g).filter (·.kind = .jobKey) =
        keys.map (fun key =>
          .duplicateJobKey key ((g.jobNodes.filter (·.jobKey = key)).map (·.id))) ∧
      (∀ key, key ∈ keys ↔ 2 ≤ g.jobNodes.countP fun n => JobKey.normalize n.label = key) ∧
      keys.Pairwise fun a b =>
        (g.jobNodes.map Node.jobKey).idxOf a < (g.jobNodes.map Node.jobKey).idxOf b) ∧
    ((∀ key nodes, Warning.duplicateJobKey key nodes ∉ diagnose g) ↔
      (Github.compile runner g).keys.Nodup) ∧
    ((∀ key nodes, Warning.duplicateJobKey key nodes ∉ diagnose g) ↔
      (Gitlab.compile image g).keys.Nodup) ∧
    (Github.compile runner g).jobs.length =
      (Github.compile runner g).keys.toFinset.card + ((diagnose g).map Warning.surplus).sum ∧
    (Gitlab.compile image g).jobs.length =
      (Gitlab.compile image g).keys.toFinset.card + ((diagnose g).map Warning.surplus).sum := by
  have github : (Github.compile runner g).keys = jobKeys g := by
    rw [Github.keys_compile, jobKeys_eq]
  have gitlab : (Gitlab.compile image g).keys = jobKeys g := by rw [Gitlab.keys_compile, jobKeys_eq]
  have distinct := (nodup_jobKeys_iff g).symm
  refine ⟨⟨sharedKeys g, ?_, ?_, ?_⟩, github ▸ distinct, gitlab ▸ distinct, ?_, ?_⟩
  · simp only [jobKeyWarnings_eq, nodesWith_eq]
  · intro key
    rw [mem_sharedKeys, jobKeys_eq, List.count, List.countP_map]
    rfl
  · rw [← jobKeys_eq]
    exact pairwise_sharedKeys g
  · rw [github, ← length_jobKeys, jobKeys]
    simp [Github.compile]
  · rw [gitlab, ← length_jobKeys, jobKeys]
    simp [Gitlab.compile]

end Diagnostic

end PipelineCompiler
