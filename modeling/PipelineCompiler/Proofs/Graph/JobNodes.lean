import Mathlib.Data.List.Nodup
import PipelineCompiler.Graph

namespace PipelineCompiler

theorem Node.isJob_iff {n : Node} : n.isJob = true ↔ n.role = .job := by
  unfold isJob job? role
  cases n.block <;> simp

theorem Node.role_eq_trigger_or_job (n : Node) : n.role = .trigger ∨ n.role = .job := by
  cases n.role <;> simp

namespace Graph

def jobNodes (g : Graph) : List Node := g.nodes.filter (·.role = .job)

theorem mem_jobNodes {g : Graph} {n : Node} : n ∈ g.jobNodes ↔ n ∈ g.nodes ∧ n.role = .job := by
  simp [jobNodes]

theorem map_fst_jobs (g : Graph) : g.jobs.map (·.1) = g.jobNodes := by
  unfold jobs jobNodes
  induction g.nodes with
  | nil => rfl
  | cons n rest ih =>
    by_cases job : n.role = .job
    · obtain ⟨j, hj⟩ := Option.isSome_iff_exists.mp (Node.isJob_iff.mpr job)
      simp [hj, job, ih]
    · have none : n.job? = none := by
        have notJob := mt Node.isJob_iff.mp job
        simpa [Node.isJob] using notJob
      simp [none, job, ih]

theorem length_jobs (g : Graph) : g.jobs.length = g.jobNodes.length := by
  rw [← map_fst_jobs, List.length_map]

theorem map_jobs {α : Type} (g : Graph) (f : Node → α) :
    (g.jobs.map fun job => f job.1) = g.jobNodes.map f := by
  rw [← map_fst_jobs, List.map_map]
  rfl

variable {g : Graph}

/-- In a graph whose ids are all different, a node is found under its id. -/
theorem node?_of_mem (distinct : (g.nodes.map (·.id)).Nodup) {n : Node} (hn : n ∈ g.nodes) :
    g.node? n.id = some n := by
  obtain ⟨m, hm⟩ : ∃ m, g.node? n.id = some m := by
    apply Option.isSome_iff_exists.mp
    exact List.find?_isSome.mpr ⟨n, hn, by simp⟩
  have same : m.id = n.id := by simpa using List.find?_some hm
  rw [hm, List.inj_on_of_nodup_map distinct (List.mem_of_find?_eq_some hm) hn same]

theorem node?_eq_none {id : NodeId} : g.node? id = none ↔ ∀ n ∈ g.nodes, n.id ≠ id := by
  simp [node?]

end Graph

end PipelineCompiler
