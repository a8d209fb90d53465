import PipelineCompiler.Proofs.Diagnostic.Kinds
import PipelineCompiler.Proofs.Dialect.Options
import PipelineCompiler.Proofs.Graph.Texts

namespace PipelineCompiler

theorem Node.blockType_of_block {n : Node} {j : Job} (block : n.block = .job j) :
    n.blockType = j.kind.blockType := by
  rw [blockType, block, Block.blockType]

theorem JobOptions.checksOut_eq_false_iff {o : JobOptions} :
    o.checksOut = false ↔ o.checkout = some false := by
  simp [checksOut]

namespace Gitlab

theorem builtinScript_eq_nil_iff (kind : JobKind) :
    builtinScript kind = [] ↔ kind.isKnown = false := by
  cases kind <;> simp [builtinScript, JobKind.isKnown]

theorem script_of_known {j : PipelineCompiler.Job} (known : j.kind.isKnown = true)
    (g : Graph) (n : Node) : (compileJob g n j).script = planScript (Plan.work n.label j) := by
  rw [compileJob, Plan.steps_of_known known, List.flatMap_append, flatMap_groundwork,
    List.nil_append, List.flatMap_singleton]

theorem script_eq_nil_iff (g : Graph) (n : Node) (j : PipelineCompiler.Job) :
    (compileJob g n j).script = [] ↔ j.kind.isKnown = false := by
  cases known : j.kind.isKnown with
  | false =>
    have silent : planScript .checkout = [] := rfl
    simp [compileJob, Plan.steps, known, apply_ite (List.flatMap planScript), silent]
  | true =>
    rw [script_of_known known, Plan.work]
    cases command : j.options.command with
    | some c => simp [planScript]
    | none =>
      rw [← known]
      exact builtinScript_eq_nil_iff j.kind

end Gitlab

namespace Github

/-- The step either uses an action or runs a command, and only an action is given
inputs and an environment. -/
structure Step.WellFormed (s : Step) : Prop where
  uses_or_runs : s.action.isSome = !s.command.isSome
  given : s.inputs ≠ [] ∨ s.env ≠ [] → s.action.isSome = true

theorem Step.wellFormed_uses (name action : String) (inputs env : List (String × String)) :
    (uses name action inputs env).WellFormed := ⟨rfl, fun _ => rfl⟩

theorem Step.wellFormed_runs (name command : String) : (runs name command).WellFormed :=
  ⟨rfl, fun given => absurd given (by simp [runs])⟩

theorem wellFormed_builtinSteps (kind : JobKind) : ∀ s ∈ builtinSteps kind, s.WellFormed := by
  cases kind with
  | nodeTest | nodeBuild | pythonTest | pythonBuild | lint =>
    exact List.forall_mem_singleton.mpr (Step.wellFormed_runs _ _)
  | goBuild =>
    exact List.forall_mem_cons.mpr
      ⟨Step.wellFormed_runs _ _, List.forall_mem_singleton.mpr (Step.wellFormed_runs _ _)⟩
  | securityScan | deployVercel | deployAws | deployGcp | notifySlack =>
    exact List.forall_mem_singleton.mpr (Step.wellFormed_uses _ _ _ _)
  | dockerBuild | cache | unknown => exact List.forall_mem_nil _

theorem wellFormed_planStep (p : PlanStep) : ∀ s ∈ planStep p, s.WellFormed := by
  cases p with
  | checkout | cache => exact List.forall_mem_singleton.mpr (Step.wellFormed_uses _ _ _ _)
  | setup t =>
    cases t with
    | node | python | go => exact List.forall_mem_singleton.mpr (Step.wellFormed_uses _ _ _ _)
    | docker =>
      exact List.forall_mem_cons.mpr
        ⟨Step.wellFormed_uses _ _ _ _, List.forall_mem_singleton.mpr (Step.wellFormed_runs _ _)⟩
  | install t =>
    cases t with
    | node | python => exact List.forall_mem_singleton.mpr (Step.wellFormed_runs _ _)
    | go | docker => exact List.forall_mem_nil _
  | command => exact List.forall_mem_singleton.mpr (Step.wellFormed_runs _ _)
  | builtin kind => exact wellFormed_builtinSteps kind

/-- Two kinds bring no steps of their own. -/
theorem builtinSteps_eq_nil {kind : JobKind} (known : kind.isKnown = true)
    (none : builtinSteps kind = []) : kind = .cache ∨ ∃ image, kind = .dockerBuild image := by
  cases kind with
  | cache => exact .inl rfl
  | dockerBuild image => exact .inr ⟨image, rfl⟩
  | unknown => cases known
  | _ => cases none

/-- What such a kind does is a step of its plan: an image is built when its toolchain is set
up, a cache is restored. -/
theorem exists_written {j : PipelineCompiler.Job} (known : j.kind.isKnown = true) (label : String) :
    ∃ p ∈ Plan.steps label j, planStep p ≠ [] := by
  cases command : j.options.command with
  | some c =>
    exact ⟨.command label c, by simp [Plan.steps, known, Plan.work, command], List.cons_ne_nil _ _⟩
  | none =>
    by_cases silent : builtinSteps j.kind = []
    · rcases builtinSteps_eq_nil known silent with cache | ⟨image, docker⟩
      · refine ⟨.cache, ?_, List.cons_ne_nil _ _⟩
        simp [Plan.steps, cache, JobKind.isKnown]
      · have setup :
            Toolchain.ofKind? j.kind =
            some (.docker (image.getD SettingKey.imageName.fallback)) := by
          rw [docker]
          rfl
        refine ⟨.setup (.docker (image.getD SettingKey.imageName.fallback)), ?_,
          List.cons_ne_nil _ _⟩
        simp [Plan.steps, known, Plan.preparation, setup]
    · refine ⟨.builtin j.kind, ?_, silent⟩
      simp [Plan.steps, known, Plan.work, command]

theorem steps_eq_nil_iff (runner : String) (g : Graph) (n : Node) (j : PipelineCompiler.Job) :
    (compileJob runner g n j).steps = [] ↔ j.kind.isKnown = false ∧
    j.options.checkout = some false := by
  rw [← JobOptions.checksOut_eq_false_iff, compileJob]
  cases known : j.kind.isKnown with
  | false =>
    cases checkout : j.options.checksOut <;> simp [Plan.steps, known, checkout, planStep]
  | true =>
    obtain ⟨p, hp, written⟩ := exists_written known n.label
    have some : (Plan.steps n.label j).flatMap planStep ≠ [] := by
      intro none
      exact written (List.flatMap_eq_nil_iff.mp none p hp)
    simp only [some, Bool.true_eq_false, false_and]

end Github

namespace Diagnostic

/-- What is reported is what has no script. -/
theorem ofBlockTypes_eq (g : Graph) (image : String) : ofBlockTypes g =
    ((g.jobNodes.zip (Gitlab.compile image g).jobs).filter fun (_, e) => e.2.script = []).map
      fun (n, _) => .unknownBlockType n.id n.blockType := by
  have silent (job : Node × Job) :
      decide ((Gitlab.compileJob g job.1 job.2).script = []) = !job.2.kind.isKnown := by
    rw [Bool.eq_iff_iff, decide_eq_true_eq, Bool.not_eq_true', Gitlab.script_eq_nil_iff]
  rw [← Graph.map_fst_jobs, Gitlab.compile, List.zip_map', List.filter_map,
    List.map_map, ofBlockTypes]
  simp only [Function.comp_def, silent]
  apply List.map_congr_left
  intro job hj
  rw [Node.blockType_of_block (Graph.mem_jobs.mp (List.mem_of_mem_filter hj)).2]

theorem isKnown_of_unreported {g : Graph}
    (unreported : ∀ node blockType, .unknownBlockType node blockType ∉ diagnose g)
    {job : Node × Job} (hj : job ∈ g.jobs) : job.2.kind.isKnown = true := by
  cases known : job.2.kind.isKnown with
  | true => rfl
  | false =>
    have reported : .unknownBlockType job.1.id job.2.kind.blockType ∈ ofBlockTypes g :=
      List.mem_map.mpr ⟨job, List.mem_filter.mpr ⟨hj, by simp [known]⟩, rfl⟩
    exact absurd (mem_diagnose_iff.mpr reported) (unreported _ _)

end Diagnostic

namespace Dialect

open Diagnostic in
/-- The jobs without a script are reported, each once and in node order, and no others; a job
without steps is among them, and does not check out its sources. So every job of a graph where no
block type is reported does something. -/
theorem runnable_unless_reported (g : Graph) (runner image : String) :
    (diagnose g).filter (·.kind = .blockType) =
      ((g.jobNodes.zip (Gitlab.compile image g).jobs).filter fun (_, e) => e.2.script = []).map
        (fun (n, _) => .unknownBlockType n.id n.blockType) ∧
    List.Forall₂ (fun job e => e.2.script = [] ↔ job.2.kind.isKnown = false) g.jobs
      (Gitlab.compile image g).jobs ∧
    List.Forall₂ (fun job e => e.2.steps = [] ↔ job.2.kind.isKnown = false ∧
      job.2.options.checkout = some false)
      g.jobs (Github.compile runner g).jobs ∧
    (∀ e ∈ (Github.compile runner g).jobs, ∀ s ∈ e.2.steps, s.WellFormed) ∧
    ((∀ node blockType, .unknownBlockType node blockType ∉ diagnose g) →
      (∀ e ∈ (Github.compile runner g).jobs, e.2.steps ≠ []) ∧
      ∀ e ∈ (Gitlab.compile image g).jobs, e.2.script ≠ []) := by
  refine ⟨?_, ?_, ?_, ?_, fun unreported => ⟨?_, ?_⟩⟩
  · exact (filter_kind_diagnose g .blockType).trans (ofBlockTypes_eq g image)
  · apply List.forall₂_map_right_iff.mpr
    apply List.forall₂_same.mpr
    intro job _
    exact Gitlab.script_eq_nil_iff g job.1 job.2
  · apply List.forall₂_map_right_iff.mpr
    apply List.forall₂_same.mpr
    intro job _
    exact Github.steps_eq_nil_iff runner g job.1 job.2
  · intro e he s hs
    obtain ⟨job, -, rfl⟩ := List.mem_map.mp he
    obtain ⟨p, -, hp⟩ := List.mem_flatMap.mp hs
    exact Github.wellFormed_planStep p s hp
  · intro e he
    obtain ⟨job, hj, rfl⟩ := List.mem_map.mp he
    simp [Github.steps_eq_nil_iff, isKnown_of_unreported unreported hj]
  · intro e he
    obtain ⟨job, hj, rfl⟩ := List.mem_map.mp he
    simp [Gitlab.script_eq_nil_iff, isKnown_of_unreported unreported hj]

/-- The two kinds that bring no steps, and nothing is checked out. -/
def bareGraph : Graph :=
  ⟨[⟨"t", "Push", .trigger ⟨"trigger_push", {}⟩⟩,
      ⟨"a", "Image", .job ⟨.dockerBuild none, { checkout := some false }⟩⟩,
      ⟨"b", "Store", .job ⟨.cache, { checkout := some false }⟩⟩], [⟨"a", "b"⟩]⟩

theorem runnable_unless_reported_bare :
    (∀ node blockType, .unknownBlockType node blockType ∉ Diagnostic.diagnose bareGraph) ∧
    (∀ e ∈ (Github.compile "ubuntu" bareGraph).jobs, e.2.steps ≠ []) ∧
    ∀ e ∈ (Gitlab.compile "alpine" bareGraph).jobs, e.2.script ≠ [] := by
  have silent : Diagnostic.diagnose bareGraph = [] := by decide +kernel
  have unreported :
      ∀ node blockType, .unknownBlockType node blockType ∉ Diagnostic.diagnose bareGraph := by
    simp [silent]
  exact ⟨unreported, (runnable_unless_reported bareGraph "ubuntu" "alpine").2.2.2.2 unreported⟩

end Dialect

end PipelineCompiler
