import PipelineCompiler.Proofs.Dialect.Sections
import PipelineCompiler.Proofs.Graph.JobNodes

namespace PipelineCompiler

namespace Graph

/-- A node is placed, and then edges are drawn. -/
def extend (g : Graph) (n : Node) (edges : List Edge) : Graph := edges.foldl addEdge (g.addNode n)

theorem extend_eq (g : Graph) (n : Node) (edges : List Edge) :
    g.extend n edges = ⟨g.nodes ++ [n], g.edges ++ edges⟩ := by
  have drawn (h : Graph) : edges.foldl addEdge h = ⟨h.nodes, h.edges ++ edges⟩ := by
    induction edges generalizing h with
    | nil => simp
    | cons e rest ih => simp [ih, addEdge]
  rw [extend, drawn, addNode]

section Job

variable {g : Graph} {n : Node} {j : Job} {edges : List Edge} (block : n.block = .job j)
include block

theorem jobs_extend : (g.extend n edges).jobs = g.jobs ++ [(n, j)] := by
  rw [extend_eq]
  simp [jobs, Node.job?, block]

theorem triggers_extend : (g.extend n edges).triggers = g.triggers := by
  rw [extend_eq]
  simp [triggers, Node.trigger?, block]

theorem trigger?_extend : (g.extend n edges).trigger? = g.trigger? := by
  rw [trigger?, triggers_extend block, trigger?]

theorem branch_extend : (g.extend n edges).branch = g.branch := by
  rw [branch, trigger?_extend block, branch]

/-- The stages so far stay where they are. -/
theorem stages_extend : Stage.ofGraph (g.extend n edges) =
    Stage.addTo (Stage.ofGraph g) (Stage.classify n.blockType) := by
  rw [Stage.ofGraph, jobs_extend block, List.map_append, List.foldl_append]
  rfl

end Job

section Needs

variable {g : Graph} {n : Node} {edges : List Edge}

/-- A new node is found only under its own id. -/
theorem node?_extend {id : NodeId} (other : id ≠ n.id) :
    (g.extend n edges).node? id = g.node? id := by
  have missed : (n.id == id) = false := by simpa using other.symm
  rw [extend_eq]
  simp [node?, missed]

/-- Edges into the new node are no concern of the others. -/
theorem incoming_extend {id : NodeId} (other : id ≠ n.id) (into : ∀ e ∈ edges, e.target = n.id) :
    (g.extend n edges).incoming id = g.incoming id := by
  have none : edges.filter (·.target == id) = [] := by
    apply List.filter_eq_nil_iff.mpr
    intro e he
    simpa [into e he] using other.symm
  rw [extend_eq]
  simp [incoming, none]

/-- The jobs before it need what they needed. -/
theorem needs_extend {m : Node} (other : m.id ≠ n.id) (unmentioned : ∀ e ∈ g.edges, e.source ≠ n.id)
    (into : ∀ e ∈ edges, e.target = n.id) :
    Dependency.needs (g.extend n edges) m = Dependency.needs g m := by
  rw [Dependency.needs, incoming_extend other into, Dependency.needs]
  apply List.filterMap_congr
  intro e he
  rw [node?_extend (unmentioned e (List.mem_of_mem_filter he))]

end Needs

end Graph

section Compile

variable {g : Graph} {n : Node} {j : PipelineCompiler.Job} {edges : List Edge}
  (block : n.block = .job j)
  (fresh : ∀ m ∈ g.nodes, m.id ≠ n.id) (unmentioned : ∀ e ∈ g.edges, e.source ≠ n.id)
  (into : ∀ e ∈ edges, e.target = n.id)
include block fresh unmentioned into

open PipelineCompiler.Graph

omit block in
theorem Dependency.needs_job_extend {e : Node × PipelineCompiler.Job} (he : e ∈ g.jobs) :
    needs (g.extend n edges) e.1 = needs g e.1 := by
  have node : e.1 ∈ g.jobNodes := map_fst_jobs g ▸ List.mem_map_of_mem he
  exact needs_extend (fresh e.1 (mem_jobNodes.mp node).1) unmentioned into

theorem Github.compile_extend (runner : String) : compile runner (g.extend n edges) =
    { compile runner g with
      jobs :=
        (compile runner g).jobs ++ [(n.jobKey, compileJob runner (g.extend n edges) n j)] } := by
  have kept : g.jobs.map (fun e => (e.1.jobKey, compileJob runner (g.extend n edges) e.1 e.2)) =
      g.jobs.map fun e => (e.1.jobKey, compileJob runner g e.1 e.2) := by
    apply List.map_congr_left
    intro e he
    simp only [compileJob, Dependency.needs_job_extend fresh unmentioned into he]
  simp only [compile, workflowName, trigger?_extend block, jobs_extend block, List.map_append, kept,
    List.map_cons, List.map_nil]

theorem Gitlab.compile_extend (image : String) : compile image (g.extend n edges) =
    { compile image g with
      stages := Stage.addTo (compile image g).stages (Stage.classify n.blockType)
      jobs := (compile image g).jobs ++ [(n.jobKey, compileJob (g.extend n edges) n j)] } := by
  have kept : g.jobs.map (fun e => (e.1.jobKey, compileJob (g.extend n edges) e.1 e.2)) =
      g.jobs.map fun e => (e.1.jobKey, compileJob g e.1 e.2) := by
    apply List.map_congr_left
    intro e he
    simp only [compileJob, Dependency.needs_job_extend fresh unmentioned into he,
      branch_extend block]
  simp only [compile, stages_extend block, jobs_extend block, List.map_append, kept,
    List.map_cons, List.map_nil]

end Compile

/-- Further jobs only add to the text of a workflow that has one. -/
theorem Github.Workflow.render_append {w : Workflow} (some : w.jobs ≠ []) (key : String) (j : Job) :
    render { w with jobs := w.jobs ++ [(key, j)] } =
      w.render ++ Text.unlines (jobSection key j) := by
  obtain ⟨first, rest, jobs⟩ := List.exists_cons_of_ne_nil some
  simp only [render, jobs, List.cons_append, header]
  rw [← Text.unlines_append]
  simp

namespace Dialect

/-- A job that is appended, with edges into it, is appended to what both dialects make of the graph.
Nothing that was there changes, repeated ids and edges to nowhere included. -/
theorem appended_job_follows {g : Graph} {n : Node} {j : Job} {edges : List Edge}
    (block : n.block = .job j) (fresh : ∀ m ∈ g.nodes, m.id ≠ n.id)
    (unmentioned : ∀ e ∈ g.edges, e.source ≠ n.id) (into : ∀ e ∈ edges, e.target = n.id)
    (runner image : String) :
    Github.compile runner (g.extend n edges) =
      { Github.compile runner g with
        jobs := (Github.compile runner g).jobs ++
          [(n.jobKey, Github.compileJob runner (g.extend n edges) n j)] } ∧
    Gitlab.compile image (g.extend n edges) =
      { Gitlab.compile image g with
        stages :=
          if Stage.classify n.blockType ∈
          (Gitlab.compile image g).stages then (Gitlab.compile image g).stages
          else (Gitlab.compile image g).stages ++ [Stage.classify n.blockType]
        jobs :=
          (Gitlab.compile image g).jobs ++
          [(n.jobKey, Gitlab.compileJob (g.extend n edges) n j)] } ∧
    (g.jobs ≠ [] →
      (Emitter.github runner).emit (g.extend n edges) = (Emitter.github runner).emit g ++
      Text.unlines (Github.Workflow.jobSection n.jobKey
        (Github.compileJob runner (g.extend n edges) n j))) := by
  have github := Github.compile_extend block fresh unmentioned into runner
  refine ⟨github, Gitlab.compile_extend block fresh unmentioned into image, fun some => ?_⟩
  have full : g.isEmpty = false := by
    rw [Graph.isEmpty, List.isEmpty_eq_false_iff]
    intro empty
    exact some (by simp [Graph.jobs, empty])
  have filled : (g.extend n edges).isEmpty = false := by simp [Graph.extend_eq, Graph.isEmpty]
  have sections : (Github.compile runner g).jobs ≠ [] := by simpa [Github.compile] using some
  rw [emit_github filled, emit_github full, github, Github.Workflow.render_append sections]

/-- Two nodes of one id, and an edge from a node that is not there. -/
def crowdedGraph : Graph :=
  ⟨[⟨"a", "Lint", .job ⟨.lint, {}⟩⟩, ⟨"a", "Scan", .job ⟨.securityScan, {}⟩⟩], [⟨"b", "a"⟩]⟩

def shipNode : Node := ⟨"c", "Ship it", .job ⟨.deployAws, {}⟩⟩

/-- The new job needs the first node with the id and, by the edge from itself, itself. -/
theorem appended_job_follows_crowded :
    (∀ m ∈ crowdedGraph.nodes, m.id ≠ shipNode.id) ∧
    (∀ e ∈ crowdedGraph.edges, e.source ≠ shipNode.id) ∧
    (Gitlab.compile "alpine" (crowdedGraph.extend shipNode [⟨"a", "c"⟩, ⟨"c", "c"⟩])).stages =
      [.test, .deploy] ∧
    (Emitter.github "ubuntu").emit (crowdedGraph.extend shipNode [⟨"a", "c"⟩, ⟨"c", "c"⟩]) =
      (Emitter.github "ubuntu").emit crowdedGraph ++
        Text.unlines (Github.Workflow.jobSection "ship_it"
          { runsOn := "ubuntu"
            needs := ["lint", "ship_it"]
            steps := (Plan.steps "Ship it" ⟨.deployAws, {}⟩).flatMap Github.planStep }) := by
  have fresh : ∀ m ∈ crowdedGraph.nodes, m.id ≠ shipNode.id := by decide
  have unmentioned : ∀ e ∈ crowdedGraph.edges, e.source ≠ shipNode.id := by decide
  have into : ∀ e ∈ [(⟨"a", "c"⟩ : Edge), ⟨"c", "c"⟩], e.target = shipNode.id := by decide
  obtain ⟨-, gitlab, text⟩ := appended_job_follows rfl fresh unmentioned into "ubuntu" "alpine"
  refine ⟨fresh, unmentioned, ?_, ?_⟩
  · rw [gitlab]
    decide +kernel
  · have ship :
        Github.compileJob "ubuntu" (crowdedGraph.extend shipNode [⟨"a", "c"⟩, ⟨"c", "c"⟩]) shipNode
        ⟨.deployAws, {}⟩ =
        { runsOn := "ubuntu"
          needs := ["lint", "ship_it"]
          steps :=
            (Plan.steps "Ship it" ⟨.deployAws, {}⟩).flatMap Github.planStep } := by decide +kernel
    have key : shipNode.jobKey = "ship_it" := by decide +kernel
    rw [text (by decide), ship, key]

end Dialect

end PipelineCompiler
