import PipelineCompiler.Emitter
import PipelineCompiler.Proofs.Graph.JobNodes

namespace PipelineCompiler

/-- A job with other options. -/
def Job.mapOptions (f : JobOptions → JobOptions) (j : Job) : Job :=
  { j with options := f j.options }

/-- A job node with other options; a trigger has none. -/
def Node.mapOptions (f : JobOptions → JobOptions) (n : Node) : Node :=
  match n.block with
  | .trigger _ => n
  | .job j => { n with block := .job (j.mapOptions f) }

def Graph.mapOptions (f : JobOptions → JobOptions) (g : Graph) : Graph :=
  { g with nodes := g.nodes.map (·.mapOptions f) }

def JobOptions.setCommand (command : Option String) (o : JobOptions) : JobOptions :=
  { o with command }

/-- Neither checkout nor runner is set. -/
def JobOptions.unsetRunner (o : JobOptions) : JobOptions :=
  { o with checkout := none, runsOn := none }

namespace Node

variable (f : JobOptions → JobOptions) (n : Node)

@[simp] theorem mapOptions_id : (n.mapOptions f).id = n.id := by
  unfold mapOptions
  cases n.block <;> rfl

@[simp] theorem mapOptions_label : (n.mapOptions f).label = n.label := by
  unfold mapOptions
  cases n.block <;> rfl

@[simp] theorem mapOptions_jobKey : (n.mapOptions f).jobKey = n.jobKey := by simp [jobKey]

@[simp] theorem mapOptions_blockType : (n.mapOptions f).blockType = n.blockType := by
  unfold mapOptions
  cases hb : n.block <;> simp [blockType, Block.blockType, hb, Job.mapOptions]

@[simp] theorem mapOptions_trigger? : (n.mapOptions f).trigger? = n.trigger? := by
  unfold mapOptions
  cases hb : n.block <;> simp [trigger?, hb]

@[simp] theorem mapOptions_job? : (n.mapOptions f).job? = n.job?.map (·.mapOptions f) := by
  unfold mapOptions
  cases hb : n.block <;> simp [job?, hb]

@[simp] theorem mapOptions_isJob : (n.mapOptions f).isJob = n.isJob := by simp [isJob]

/-- The options that were there are forgotten. -/
@[simp] theorem mapOptions_mapOptions (h : JobOptions → JobOptions) :
    (n.mapOptions f).mapOptions h = n.mapOptions (h ∘ f) := by
  unfold mapOptions
  cases hb : n.block <;> simp [hb, Job.mapOptions]

/-- A trigger is the same node still. -/
theorem mapOptions_of_trigger? {t : Trigger} (h : n.trigger? = some t) : n.mapOptions f = n := by
  unfold trigger? at h
  unfold mapOptions
  cases block : n.block with
  | trigger t' => rfl
  | job j =>
    rw [block] at h
    cases h

end Node

namespace Graph

variable (f : JobOptions → JobOptions) (g : Graph)

theorem jobs_mapOptions :
    (g.mapOptions f).jobs = g.jobs.map fun (n, j) => (n.mapOptions f, j.mapOptions f) := by
  simp only [jobs, mapOptions, List.filterMap_map, List.map_filterMap]
  congr 1
  funext n
  simp only [Function.comp_apply, Node.mapOptions_job?]
  cases n.job? <;> rfl

theorem triggers_mapOptions : (g.mapOptions f).triggers = g.triggers := by
  simp only [triggers, mapOptions, List.filterMap_map]
  congr 1
  funext n
  simp only [Function.comp_apply, Node.mapOptions_trigger?]
  cases ht : n.trigger? with
  | none => rfl
  | some t => simp [n.mapOptions_of_trigger? f ht]

theorem trigger?_mapOptions : (g.mapOptions f).trigger? = g.trigger? := by
  rw [trigger?, triggers_mapOptions, trigger?]

theorem branch_mapOptions : (g.mapOptions f).branch = g.branch := by
  rw [branch, trigger?_mapOptions, branch]

theorem stages_mapOptions : Stage.ofGraph (g.mapOptions f) = Stage.ofGraph g := by
  rw [Stage.ofGraph, jobs_mapOptions, List.map_map, Stage.ofGraph]
  congr 1
  apply List.map_congr_left
  intro job _
  simp

theorem node?_mapOptions (id : NodeId) :
    (g.mapOptions f).node? id = (g.node? id).map (·.mapOptions f) := by
  rw [node?, mapOptions, List.find?_map, node?]
  congr 2
  funext n
  simp

theorem needs_mapOptions (n : Node) :
    Dependency.needs (g.mapOptions f) n = Dependency.needs g n := by
  simp only [Dependency.needs, incoming, node?_mapOptions]
  apply List.filterMap_congr
  intro e _
  cases g.node? e.source <;> simp

/-- Two graphs that are the same when no options are set. -/
def SameButOptions (g h : Graph) : Prop := g.mapOptions (fun _ => {}) = h.mapOptions fun _ => {}

namespace SameButOptions

variable {g h : Graph} (same : SameButOptions g h)
include same

theorem needs (n : Node) : Dependency.needs g n = Dependency.needs h n := by
  rw [← needs_mapOptions (fun _ => {}) g, same, needs_mapOptions]

theorem trigger? : g.trigger? = h.trigger? := by
  rw [← trigger?_mapOptions (fun _ => {}) g, same, trigger?_mapOptions]

theorem branch : g.branch = h.branch := by
  rw [← branch_mapOptions (fun _ => {}) g, same, branch_mapOptions]

theorem stages : Stage.ofGraph g = Stage.ofGraph h := by
  rw [← stages_mapOptions (fun _ => {}) g, same, stages_mapOptions]

theorem workflowName : Github.workflowName g = Github.workflowName h := by
  rw [Github.workflowName, same.trigger?, Github.workflowName]

theorem github_compileJob (runner : String) (n : Node) (j : Job) :
    Github.compileJob runner g n j = Github.compileJob runner h n j := by
  rw [Github.compileJob, same.needs, Github.compileJob]

theorem gitlab_compileJob (n : Node) (j : Job) :
    Gitlab.compileJob g n j = Gitlab.compileJob h n j := by
  rw [Gitlab.compileJob, same.needs, same.branch, Gitlab.compileJob]

end SameButOptions

end Graph

namespace Gitlab

variable (g : Graph) (n : Node) (j : PipelineCompiler.Job)

theorem compileJob_unsetRunner :
    compileJob g (n.mapOptions .unsetRunner) (j.mapOptions .unsetRunner) = compileJob g n j := by
  -- A checkout is not written, so it makes no difference whether the plan begins with one.
  have script : (Plan.steps n.label (j.mapOptions .unsetRunner)).flatMap planScript =
      (Plan.steps n.label j).flatMap planScript := by
    simp only [Plan.steps, List.flatMap_append]
    congr 1
    simp only [apply_ite (List.flatMap planScript), List.flatMap_cons, List.flatMap_nil, planScript,
      List.append_nil, ite_self]
  have cache : PlanStep.cache ∈ Plan.steps n.label (j.mapOptions .unsetRunner) ↔
      PlanStep.cache ∈ Plan.steps n.label j := by
    simp only [Plan.steps, List.mem_append, List.mem_ite_nil_right, List.mem_singleton,
      reduceCtorEq, and_false, false_or]
    rfl
  simp only [compileJob, Node.mapOptions_label, Node.mapOptions_blockType, script, cache]
  simp [Job.mapOptions, Dependency.needs]

/-- A pipeline does not depend on the checkouts and the runners. -/
theorem compile_unsetRunner (image : String) :
    compile image (g.mapOptions .unsetRunner) = compile image g := by
  have same : Graph.SameButOptions (g.mapOptions .unsetRunner) g := by
    simp [Graph.SameButOptions, Graph.mapOptions, Function.comp_def]
  simp only [compile, same.stages, same.gitlab_compileJob, Graph.jobs_mapOptions, List.map_map,
    Function.comp_def, compileJob_unsetRunner, Node.mapOptions_jobKey]

end Gitlab

namespace Plan

/-- What a job does before its work: its sources, its toolchain and its cache. -/
def groundwork (j : Job) : List PlanStep :=
  (if j.options.checksOut then [.checkout] else []) ++
    (preparation j.kind ++ if j.kind = .cache then [.cache] else [])

theorem steps_of_known {j : Job} (known : j.kind.isKnown = true) (label : String) :
    steps label j = groundwork j ++ [work label j] := by
  rw [steps, if_pos known, ← List.append_assoc, groundwork]

/-- What is left to do behind the groundwork. -/
def remainder (label : String) (kind : JobKind) : Option String → PlanStep
  | some c => .command label c
  | none => .builtin kind

theorem steps_setCommand {j : Job} (known : j.kind.isKnown = true) (label : String)
    (c : Option String) :
    steps label (j.mapOptions (.setCommand c)) = groundwork j ++ [remainder label j.kind c] := by
  have same := steps_of_known (j := j.mapOptions (.setCommand c)) known label
  cases c <;> exact same

/-- A job of unknown kind has no use for a command. -/
theorem steps_of_unknown {j : Job} (unknown : j.kind.isKnown = false) (label : String)
    (c : Option String) : steps label (j.mapOptions (.setCommand c)) = steps label j := by
  simp [steps, Job.mapOptions, JobOptions.setCommand, unknown, JobOptions.checksOut]

end Plan

/-- A script says nothing of the groundwork. -/
theorem Gitlab.flatMap_groundwork (j : PipelineCompiler.Job) :
    (Plan.groundwork j).flatMap planScript = [] := by
  rw [List.flatMap_eq_nil_iff]
  intro s hs
  simp only [Plan.groundwork, Plan.preparation, List.mem_append, List.mem_ite_nil_right,
    List.mem_singleton] at hs
  grind [planScript]

section Command

variable {j : PipelineCompiler.Job} (known : j.kind.isKnown = true) (g : Graph) (n : Node)
  (c : Option String)
include known

theorem Github.compileJob_setCommand (runner : String) :
    compileJob runner g n (j.mapOptions (.setCommand c)) =
    { compileJob runner g n j with
      steps :=
        (Plan.groundwork j).flatMap planStep ++ planStep (Plan.remainder n.label j.kind c) } := by
  simp only [compileJob, Plan.steps_setCommand known, List.flatMap_append, List.flatMap_cons,
    List.flatMap_nil, List.append_nil]
  rfl

/-- A cache is never left to do. -/
theorem Gitlab.compileJob_setCommand : compileJob g n (j.mapOptions (.setCommand c)) =
    { compileJob g n j with script := planScript (Plan.remainder n.label j.kind c) } := by
  have cache : PlanStep.cache ∈ Plan.steps n.label (j.mapOptions (.setCommand c)) ↔
      PlanStep.cache ∈ Plan.steps n.label j := by
    rw [Plan.steps_setCommand known, Plan.steps_of_known known, Plan.work, Plan.remainder.eq_def]
    grind
  simp only [compileJob, cache]
  simp only [Plan.steps_setCommand known, List.flatMap_append, flatMap_groundwork, List.nil_append,
    List.flatMap_cons, List.flatMap_nil, List.append_nil]
  rfl

end Command

namespace Graph

/-- The graph with the command of the node at a position set or unset. -/
def setCommandAt (g : Graph) (i : Nat) (c : Option String) : Graph :=
  { g with nodes := g.nodes.modify i (·.mapOptions (.setCommand c)) }

/-- How many jobs stand before a position. -/
def jobsBefore (g : Graph) (i : Nat) : Nat := (g.nodes.take i).countP (·.isJob)

theorem sameButOptions_setCommandAt (g : Graph) (i : Nat) (c : Option String) :
    SameButOptions (g.setCommandAt i c) g := by
  have same : (g.nodes.modify i (·.mapOptions (.setCommand c))).map (·.mapOptions fun _ => {}) =
      g.nodes.map (·.mapOptions fun _ => {}) := by
    apply List.ext_getElem?
    intro k
    rw [List.getElem?_map, List.getElem?_modify, List.getElem?_map]
    cases g.nodes[k]? with
    | none => rfl
    | some m => by_cases here : i = k <;> simp [here, Function.comp_def]
  simp only [SameButOptions, mapOptions, setCommandAt, same]

end Graph

section Position

variable {g : Graph} {i : Nat} {n : Node} {j : PipelineCompiler.Job} (here : g.nodes[i]? = some n)
  (block : n.block = .job j)
include here block

/-- The job of the node, and the jobs around it. -/
theorem Graph.jobs_setCommandAt :
    ∃ front back, front.length = g.jobsBefore i ∧ ∀ c, (g.setCommandAt i c).jobs =
    front ++ (n.mapOptions (.setCommand c), j.mapOptions (.setCommand c)) :: back := by
  obtain ⟨inside, rfl⟩ := List.getElem?_eq_some_iff.mp here
  have job : g.nodes[i].job? = some j := by rw [Node.job?, block]
  refine ⟨(Graph.mk (g.nodes.take i) []).jobs, (Graph.mk (g.nodes.drop (i + 1)) []).jobs,
    ?_, fun c => ?_⟩
  · rw [length_jobs, jobNodes, jobsBefore, ← List.countP_eq_length_filter]
    apply List.countP_congr
    intro m _
    simp [Node.isJob_iff]
  · simp only [jobs, setCommandAt]
    rw [List.modify_eq_take_cons_drop inside]
    simp [job]

theorem Github.compile_setCommandAt (runner : String) :
    ∃ front back, front.length = g.jobsBefore i ∧
    ∀ c, compile runner (g.setCommandAt i c) =
      { compile runner g with
        jobs :=
          front ++ (n.jobKey, compileJob runner g n (j.mapOptions (.setCommand c))) :: back } := by
  obtain ⟨front, back, place, jobs⟩ := Graph.jobs_setCommandAt here block
  refine ⟨front.map fun e => (e.1.jobKey, compileJob runner g e.1 e.2),
    back.map fun e => (e.1.jobKey, compileJob runner g e.1 e.2), by simpa using place, fun c => ?_⟩
  have same := Graph.sameButOptions_setCommandAt g i c
  simp only [compile, jobs, same.workflowName, same.trigger?, same.github_compileJob,
    List.map_append, List.map_cons, Node.mapOptions_jobKey]
  simp [compileJob, Dependency.needs]

theorem Gitlab.compile_setCommandAt (image : String) : ∃ front back, front.length = g.jobsBefore i ∧
    ∀ c, compile image (g.setCommandAt i c) =
      { compile image g with
        jobs := front ++ (n.jobKey, compileJob g n (j.mapOptions (.setCommand c))) :: back } := by
  obtain ⟨front, back, place, jobs⟩ := Graph.jobs_setCommandAt here block
  refine ⟨front.map fun e => (e.1.jobKey, compileJob g e.1 e.2),
    back.map fun e => (e.1.jobKey, compileJob g e.1 e.2), by simpa using place, fun c => ?_⟩
  have same := Graph.sameButOptions_setCommandAt g i c
  simp only [compile, jobs, same.stages, same.gitlab_compileJob, List.map_append, List.map_cons,
    Node.mapOptions_jobKey]
  simp [compileJob, Dependency.needs]

end Position

namespace Dialect

/-- The custom command of a job of known kind stands where the steps of its kind would stand, behind
the same groundwork, and changes nothing else; that of a job of unknown kind changes nothing at all.
GitLab has no use for checkout and runner. -/
theorem command_replaces_builtin {g : Graph} {i : Nat} {n : Node} {j : Job}
    (here : g.nodes[i]? = some n) (block : n.block = .job j) (runner image : String) :
    (j.kind.isKnown = true →
      (∃ job, (Github.compile runner (g.setCommandAt i none)).jobs[g.jobsBefore i]? =
        some (n.jobKey, job) ∧
        job.steps = (Plan.groundwork j).flatMap Github.planStep ++ Github.builtinSteps j.kind ∧
        ∀ c, Github.compile runner (g.setCommandAt i (some c)) =
          { Github.compile runner (g.setCommandAt i none) with
            jobs := (Github.compile runner (g.setCommandAt i none)).jobs.set (g.jobsBefore i)
              (n.jobKey, { job with
                steps := (Plan.groundwork j).flatMap Github.planStep ++ [.runs n.label c] }) }) ∧
      ∃ job, (Gitlab.compile image (g.setCommandAt i none)).jobs[g.jobsBefore i]? =
      some (n.jobKey, job) ∧
        job.script = Gitlab.builtinScript j.kind ∧
        ∀ c, Gitlab.compile image (g.setCommandAt i (some c)) =
          { Gitlab.compile image (g.setCommandAt i none) with
            jobs := (Gitlab.compile image (g.setCommandAt i none)).jobs.set (g.jobsBefore i)
              (n.jobKey, { job with script := [c] }) }) ∧
    (j.kind.isKnown = false → ∀ c,
      Github.compile runner (g.setCommandAt i c) = Github.compile runner (g.setCommandAt i none) ∧
      Gitlab.compile image (g.setCommandAt i c) = Gitlab.compile image (g.setCommandAt i none)) ∧
    ∀ h : Graph, Gitlab.compile image (h.mapOptions .unsetRunner) = Gitlab.compile image h := by
  obtain ⟨front, back, place, github⟩ := Github.compile_setCommandAt here block runner
  obtain ⟨front', back', place', gitlab⟩ := Gitlab.compile_setCommandAt here block image
  refine ⟨fun known => ⟨?_, ?_⟩, fun unknown c => ?_, fun h => Gitlab.compile_unsetRunner h image⟩
  · refine ⟨Github.compileJob runner g n (j.mapOptions (.setCommand none)), ?_, ?_, fun c => ?_⟩
    · simp [github, ← place]
    · rw [Github.compileJob_setCommand known]
      rfl
    · rw [github, github, ← place, List.set_append_right _ _ (Nat.le_refl _), Nat.sub_self,
        List.set_cons_zero, Github.compileJob_setCommand known, Github.compileJob_setCommand known]
      rfl
  · refine ⟨Gitlab.compileJob g n (j.mapOptions (.setCommand none)), ?_, ?_, fun c => ?_⟩
    · simp [gitlab, ← place']
    · rw [Gitlab.compileJob_setCommand known]
      rfl
    · rw [gitlab, gitlab, ← place', List.set_append_right _ _ (Nat.le_refl _), Nat.sub_self,
        List.set_cons_zero, Gitlab.compileJob_setCommand known, Gitlab.compileJob_setCommand known]
      rfl
  · simp only [github, gitlab, Github.compileJob, Gitlab.compileJob, Plan.steps_of_unknown unknown]
    exact ⟨rfl, rfl⟩

/-- A cache behind another job. -/
def cachedGraph : Graph :=
  ⟨[⟨"t", "Push", .trigger ⟨"trigger_push", {}⟩⟩, ⟨"a", "Lint", .job ⟨.lint, {}⟩⟩,
      ⟨"b", "Store", .job ⟨.cache, { checkout := some false, command := some "true" }⟩⟩],
      [⟨"a", "b"⟩]⟩

/-- The second job keeps its cache in front of its command. -/
theorem command_replaces_builtin_cached :
    (∃ job, (Github.compile "ubuntu" (cachedGraph.setCommandAt 2 none)).jobs[1]? =
      some ("store", job) ∧
      Github.compile "ubuntu" (cachedGraph.setCommandAt 2 (some "make")) =
        { Github.compile "ubuntu" (cachedGraph.setCommandAt 2 none) with
          jobs := (Github.compile "ubuntu" (cachedGraph.setCommandAt 2 none)).jobs.set 1
            ("store", { job with steps := Github.planStep .cache ++ [.runs "Store" "make"] }) }) ∧
    Gitlab.compile "alpine" (cachedGraph.mapOptions .unsetRunner) =
    Gitlab.compile "alpine" cachedGraph := by
  obtain ⟨known, -, runner⟩ :=
    command_replaces_builtin (g := cachedGraph) (i := 2) rfl rfl "ubuntu" "alpine"
  obtain ⟨⟨job, found, -, replaced⟩, -⟩ := known rfl
  have key : (cachedGraph.nodes[2]).jobKey = "store" := by decide +kernel
  refine ⟨⟨job, ?_, ?_⟩, runner cachedGraph⟩
  · rw [← key]
    exact found
  · rw [← key]
    exact replaced "make"

end Dialect

end PipelineCompiler
