import PipelineCompiler.Emitter
import PipelineCompiler.Proofs.Graph.JobNodes

namespace PipelineCompiler

theorem Node.trigger?_eq_none {n : Node} : n.trigger? = none ↔ n.isJob = true := by
  unfold trigger? isJob job?
  cases n.block <;> simp

theorem Node.job?_eq_none {n : Node} : n.job? = none ↔ n.isJob = false := by
  simp [isJob]

namespace Graph

/-- When ids are not repeated, a job that is looked up by its id is found also when
only jobs are searched. -/
theorem filter_node? {g : Graph} (distinct : (g.nodes.map (·.id)).Nodup) (id : NodeId) :
    (g.node? id).filter Node.isJob = g.jobNodes.find? (·.id == id) := by
  unfold node? jobNodes
  generalize g.nodes = nodes at distinct
  induction nodes with
  | nil => rfl
  | cons n rest ih =>
    obtain ⟨fresh, distinct⟩ := List.nodup_cons.mp distinct
    have job : decide (n.role = .job) = n.isJob := by
      rw [Bool.eq_iff_iff, decide_eq_true_eq, Node.isJob_iff]
    rw [List.find?_cons, List.filter_cons, job]
    by_cases same : n.id = id
    · subst same
      have others : (rest.filter (·.role = .job)).find? (·.id == n.id) = none := by
        apply List.find?_eq_none.mpr
        intro m hm eq
        apply fresh
        have used : m.id = n.id := by simpa using eq
        exact List.mem_map.mpr ⟨m, List.mem_of_mem_filter hm, used⟩
      cases hn : n.isJob <;> simp [hn, others]
    · have other : (n.id == id) = false := by simpa using same
      rw [other, ih distinct]
      split
      · rw [List.find?_cons, other]
      · rfl

/-- Graphs without repeated ids, with the same edges and the same jobs. -/
structure SameJobs (g h : Graph) : Prop where
  edges : g.edges = h.edges
  jobs : g.jobs = h.jobs
  distinct : (g.nodes.map (·.id)).Nodup
  distinct' : (h.nodes.map (·.id)).Nodup

variable {g h : Graph}

/-- Whether an edge starts at a trigger or nowhere makes no difference to what the jobs need. -/
theorem SameJobs.needs (same : SameJobs g h) (n : Node) :
    Dependency.needs g n = Dependency.needs h n := by
  have source (g : Graph) (distinct : (g.nodes.map (·.id)).Nodup) (e : Edge) :
      ((g.node? e.source).bind fun s => if s.isJob then some s.jobKey else none) =
        (g.jobNodes.find? (·.id == e.source)).map Node.jobKey := by
    rw [← filter_node? distinct]
    cases g.node? e.source with
    | none => rfl
    | some s => cases hs : s.isJob <;> simp [Option.filter, hs]
  have nodes : g.jobNodes = h.jobNodes := by rw [← map_fst_jobs, same.jobs, map_fst_jobs]
  simp only [Dependency.needs, incoming, source g same.distinct, source h same.distinct',
    nodes, same.edges]

/-- The pipelines are the same if besides the jobs the name, the start and the branch are. -/
theorem SameJobs.emit (same : SameJobs g h) (full : g.isEmpty = h.isEmpty)
    (name : Github.workflowName g = Github.workflowName h)
    (start : Github.compileStart (g.trigger?.map (·.2)) =
      Github.compileStart (h.trigger?.map (·.2)))
    (branch : g.branch = h.branch) (runner image : String) :
    (Emitter.github runner).emit g = (Emitter.github runner).emit h ∧
    (Emitter.gitlab image).emit g = (Emitter.gitlab image).emit h := by
  have github : Github.compile runner g = Github.compile runner h := by
    simp only [Github.compile, Github.compileJob, name, start, same.jobs, same.needs]
  have gitlab : Gitlab.compile image g = Gitlab.compile image h := by
    simp only [Gitlab.compile, Gitlab.compileJob, Stage.ofGraph, branch, same.jobs, same.needs]
  simp only [Emitter.github, Emitter.gitlab, Emitter.onNodes, full, github, gitlab, and_self]

/-- The nodes without the triggers behind the first one. -/
def dropLaterTriggers : List Node → List Node
  | [] => []
  | n :: rest => if n.isJob then n :: dropLaterTriggers rest else n :: rest.filter (·.isJob)

/-- The graph with its first trigger only. The edges stay, also those of the triggers that go. -/
def firstTriggerOnly (g : Graph) : Graph := { g with nodes := dropLaterTriggers g.nodes }

theorem dropLaterTriggers_sublist (nodes : List Node) :
    (dropLaterTriggers nodes).Sublist nodes := by
  induction nodes with
  | nil => exact .refl _
  | cons n rest ih =>
    rw [dropLaterTriggers]
    split
    · exact ih.cons_cons n
    · exact List.filter_sublist.cons_cons n

theorem jobs_dropLaterTriggers (nodes : List Node) (edges : List Edge) :
    (Graph.mk (dropLaterTriggers nodes) edges).jobs = (Graph.mk nodes edges).jobs := by
  unfold jobs
  induction nodes with
  | nil => rfl
  | cons n rest ih =>
    rw [dropLaterTriggers]
    split
    · simp only [List.filterMap_cons, ih]
    · have kept : (rest.filter (·.isJob)).filterMap (fun n => n.job?.map (n, ·)) =
          rest.filterMap fun n => n.job?.map (n, ·) := by
        rw [List.filterMap_filter]
        apply List.filterMap_congr
        intro m _
        cases hm : m.isJob
        · simp [Node.job?_eq_none.mpr hm]
        · simp
      simp only [List.filterMap_cons, kept]

theorem trigger?_dropLaterTriggers (nodes : List Node) (edges : List Edge) :
    (Graph.mk (dropLaterTriggers nodes) edges).trigger? = (Graph.mk nodes edges).trigger? := by
  unfold trigger? triggers
  induction nodes with
  | nil => rfl
  | cons n rest ih =>
    rw [dropLaterTriggers]
    split
    · next job => simpa [Node.trigger?_eq_none.mpr job] using ih
    · next notJob =>
      obtain ⟨t, ht⟩ := Option.ne_none_iff_exists'.mp (mt Node.trigger?_eq_none.mp notJob)
      simp [ht]

theorem sameJobs_firstTriggerOnly (distinct : (g.nodes.map (·.id)).Nodup) :
    SameJobs g.firstTriggerOnly g where
  edges := rfl
  jobs := jobs_dropLaterTriggers g.nodes g.edges
  distinct := distinct.sublist ((dropLaterTriggers_sublist g.nodes).map _)
  distinct' := distinct

theorem emit_firstTriggerOnly (distinct : (g.nodes.map (·.id)).Nodup) (runner image : String) :
    (Emitter.github runner).emit g.firstTriggerOnly = (Emitter.github runner).emit g ∧
    (Emitter.gitlab image).emit g.firstTriggerOnly = (Emitter.gitlab image).emit g := by
  have first : g.firstTriggerOnly.trigger? = g.trigger? :=
    trigger?_dropLaterTriggers g.nodes g.edges
  have full : g.firstTriggerOnly.isEmpty = g.isEmpty := by
    unfold isEmpty firstTriggerOnly
    cases g.nodes with
    | nil => rfl
    | cons n rest => rw [dropLaterTriggers]; split <;> rfl
  apply (sameJobs_firstTriggerOnly distinct).emit full
  · rw [Github.workflowName, first, Github.workflowName]
  · rw [first]
  · rw [branch, first, branch]

/-- A trigger without label and settings. -/
def plainTrigger (id : NodeId) (blockType : String) : Node := ⟨id, "", .trigger ⟨blockType, {}⟩⟩

theorem emit_plainTrigger {before after : List Node} {edges : List Edge} {id : NodeId}
    (blockType : String) (noTrigger : (Graph.mk (before ++ after) edges).triggers = [])
    (someJob : (Graph.mk (before ++ after) edges).jobs ≠ [])
    (distinct : ((before ++ after).map (·.id)).Nodup) (unused : ∀ n ∈ before ++ after, n.id ≠ id)
    (runner image : String) :
    (Emitter.github runner).emit ⟨before ++ plainTrigger id blockType :: after, edges⟩ =
      (Emitter.github runner).emit ⟨before ++ after, edges⟩ ∧
    (Emitter.gitlab image).emit ⟨before ++ plainTrigger id blockType :: after, edges⟩ =
      (Emitter.gitlab image).emit ⟨before ++ after, edges⟩ := by
  have same : SameJobs ⟨before ++ plainTrigger id blockType :: after,
    edges⟩ ⟨before ++ after, edges⟩ := by
    refine ⟨rfl, ?_, ?_, distinct⟩
    · simp [jobs, plainTrigger, Node.job?]
    · rw [List.map_append, List.map_cons, List.nodup_middle, ← List.map_append]
      apply List.nodup_cons.mpr ⟨?_, distinct⟩
      intro used
      obtain ⟨n, hn, eq⟩ := List.mem_map.mp used
      exact unused n hn eq
  have without : (Graph.mk (before ++ after) edges).trigger? = none := by
    rw [trigger?, noTrigger]
    rfl
  have first : (Graph.mk (before ++ plainTrigger id blockType :: after) edges).trigger? =
      some (plainTrigger id blockType, ⟨blockType, {}⟩) := by
    simp only [triggers, List.filterMap_append, List.append_eq_nil_iff] at noTrigger
    rw [trigger?, triggers, List.filterMap_append, noTrigger.1]
    rfl
  have full : (before ++ after).isEmpty = false := by
    rw [List.isEmpty_eq_false_iff]
    intro empty
    rw [empty] at someJob
    exact someJob rfl
  apply same.emit
  · simp only [isEmpty, full]
    simp
  · simp only [Github.workflowName, first, without]
    rfl
  · simp only [first, without]
    rfl
  · simp only [branch, first, without]
    rfl

/-- When ids are not repeated, only the first trigger matters, and to have none is to have
one that says nothing. -/
theorem only_first_trigger_matters (runner image : String) :
    (∀ g : Graph, (g.nodes.map (·.id)).Nodup →
      (Emitter.github runner).emit g.firstTriggerOnly = (Emitter.github runner).emit g ∧
      (Emitter.gitlab image).emit g.firstTriggerOnly = (Emitter.gitlab image).emit g) ∧
    (∀ (before after : List Node) (edges : List Edge) (id : NodeId) (blockType : String),
      (Graph.mk (before ++ after) edges).triggers = [] →
        (Graph.mk (before ++ after) edges).jobs ≠ [] →
      ((before ++ after).map (·.id)).Nodup → (∀ n ∈ before ++ after, n.id ≠ id) →
      (Emitter.github runner).emit ⟨before ++ plainTrigger id blockType :: after, edges⟩ =
        (Emitter.github runner).emit ⟨before ++ after, edges⟩ ∧
      (Emitter.gitlab image).emit ⟨before ++ plainTrigger id blockType :: after, edges⟩ =
        (Emitter.gitlab image).emit ⟨before ++ after, edges⟩) :=
  ⟨fun _ distinct => emit_firstTriggerOnly distinct runner image,
    fun _ _ _ _ blockType noTrigger someJob distinct unused =>
      emit_plainTrigger blockType noTrigger someJob distinct unused runner image⟩

/-- Three triggers, each with an edge, and two jobs. -/
def triggeredGraph : Graph :=
  ⟨[⟨"a", "Lint", .job ⟨.lint, {}⟩⟩,
    ⟨"t", "Nightly", .trigger ⟨"trigger_schedule", ⟨some "schedule", none, none⟩⟩⟩,
      ⟨"u", "Push", .trigger ⟨"trigger_push", ⟨none, some "next", none⟩⟩⟩, ⟨"b", "Scan",
        .job ⟨.securityScan, {}⟩⟩,
      ⟨"v", "", .trigger ⟨"trigger_push", {}⟩⟩],
    [⟨"t", "a"⟩, ⟨"u", "b"⟩, ⟨"a", "b"⟩, ⟨"b", "v"⟩]⟩

/-- Two of the triggers go, and a job that waits for a trigger meets one. -/
theorem only_first_trigger_matters_triggered :
    triggeredGraph.firstTriggerOnly.nodes.map (·.id) = ["a", "t", "b"] ∧
    (Emitter.github "ubuntu").emit triggeredGraph.firstTriggerOnly =
      (Emitter.github "ubuntu").emit triggeredGraph ∧
    (Emitter.gitlab "alpine").emit ⟨[plainTrigger "w" "clock", ⟨"a", "Lint", .job ⟨.lint, {}⟩⟩],
      [⟨"w", "a"⟩]⟩ =
      (Emitter.gitlab "alpine").emit ⟨[⟨"a", "Lint", .job ⟨.lint, {}⟩⟩], [⟨"w", "a"⟩]⟩ := by
  have distinct : (triggeredGraph.nodes.map (·.id)).Nodup := by decide
  have laws := only_first_trigger_matters "ubuntu" "alpine"
  refine ⟨rfl, (laws.1 triggeredGraph distinct).1, ?_⟩
  have met := laws.2 [] [⟨"a", "Lint", .job ⟨.lint, {}⟩⟩] [⟨"w", "a"⟩] "w" "clock" rfl (by decide)
    (by decide) (by decide)
  exact met.2

end Graph

end PipelineCompiler
