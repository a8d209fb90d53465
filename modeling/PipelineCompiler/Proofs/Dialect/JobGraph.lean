import PipelineCompiler.Proofs.Dependency.Schedule
import PipelineCompiler.Proofs.Graph.JobNodes

namespace PipelineCompiler

/-- The keys that the jobs are written under. -/
def Github.Workflow.keys (w : Workflow) : List String := w.jobs.map (·.1)

def Gitlab.Pipeline.keys (p : Pipeline) : List String := p.jobs.map (·.1)

theorem Github.keys_compile (runner : String) (g : Graph) :
    (compile runner g).keys = g.jobNodes.map Node.jobKey := by
  rw [← Graph.map_jobs]
  simp [Workflow.keys, compile]

theorem Gitlab.keys_compile (image : String) (g : Graph) :
    (compile image g).keys = g.jobNodes.map Node.jobKey := by
  rw [← Graph.map_jobs]
  simp [Pipeline.keys, compile]

/-- Also when ids repeat, the node that an edge starts from is a job of its own. -/
theorem Dependency.exists_jobNode_of_mem_needs {g : Graph} {n : Node} {key : String}
    (h : key ∈ needs g n) : ∃ u ∈ g.jobNodes, u.jobKey = key := by
  obtain ⟨u, hu, same, -⟩ := mem_needs.mp h
  have job := Node.isJob_iff.mp (mem_vertices.mp hu).1
  exact ⟨u, Graph.mem_jobNodes.mpr ⟨mem_nodes_of_mem_vertices hu, job⟩, same⟩

/-- A workflow for one branch is for the branch of its graph. -/
theorem Github.branch_of_compileStart {g : Graph} {event only : String}
    (h : compileStart (g.trigger?.map (·.2)) = .branch event only) : only = g.branch := by
  unfold Graph.branch
  cases found : g.trigger? with
  | none =>
    rw [found] at h
    exact (Start.branch.inj h).2.symm
  | some first =>
    simp only [found, Option.map_some, compileStart] at h
    split at h
    case h_1 => exact (Start.branch.inj h).2.symm
    case h_2 => exact (Start.branch.inj h).2.symm
    all_goals cases h

namespace Dialect

/-- Whatever the graph, its jobs have the same keys and the same needs in both dialects, and nothing
is needed that is not there. -/
theorem compile_agree (g : Graph) (runner image : String) :
    (Github.compile runner g).keys = g.jobNodes.map (fun n => JobKey.normalize n.label) ∧
    (Gitlab.compile image g).keys = g.jobNodes.map (fun n => JobKey.normalize n.label) ∧
    (Github.compile runner g).jobs.map (·.2.needs) = (Gitlab.compile image g).jobs.map (·.2.needs) ∧
    (∀ e ∈ (Github.compile runner g).jobs, ∀ key ∈ e.2.needs,
      key ∈ (Github.compile runner g).keys) ∧
    (∀ e ∈ (Gitlab.compile image g).jobs, ∀ key ∈ e.2.needs, key ∈ (Gitlab.compile image g).keys) ∧
    (∀ e ∈ (Gitlab.compile image g).jobs, ∃ branch, e.2.rules = [.onBranch branch] ∧
      ∀ event only, (Github.compile runner g).start = .branch event only → branch = only) := by
  have resolved {n : Node} {key : String} (h : key ∈ Dependency.needs g n) :
      key ∈ g.jobNodes.map Node.jobKey := by
    obtain ⟨u, hu, rfl⟩ := Dependency.exists_jobNode_of_mem_needs h
    exact List.mem_map_of_mem hu
  refine ⟨Github.keys_compile runner g, Gitlab.keys_compile image g, ?_, ?_, ?_, ?_⟩
  · simp [Github.compile, Github.compileJob, Gitlab.compile, Gitlab.compileJob]
  · intro e he key hk
    obtain ⟨⟨n, j⟩, -, rfl⟩ := List.mem_map.mp he
    rw [Github.keys_compile]
    exact resolved hk
  · intro e he key hk
    obtain ⟨⟨n, j⟩, -, rfl⟩ := List.mem_map.mp he
    rw [Gitlab.keys_compile]
    exact resolved hk
  · intro e he
    obtain ⟨⟨n, j⟩, -, rfl⟩ := List.mem_map.mp he
    exact ⟨g.branch, rfl, fun event only h => (Github.branch_of_compileStart h).symm⟩

end Dialect

end PipelineCompiler
