import Mathlib.Data.List.Infix
import PipelineCompiler.Gitlab.Compile
import PipelineCompiler.Proofs.FirstUse
import PipelineCompiler.Proofs.Graph.JobNodes

namespace PipelineCompiler

namespace Stage

theorem startsWith_iff (start cs : List Char) : startsWith start cs = true ↔ start <+: cs := by
  induction start generalizing cs with
  | nil => simp [startsWith]
  | cons p start ih =>
    cases cs with
    | nil => simp [startsWith]
    | cons c cs => simp [startsWith, ih, List.cons_prefix_cons]

theorem contains_iff (part cs : List Char) : contains part cs = true ↔ part <:+: cs := by
  induction cs with
  | nil => simp [contains]
  | cons c cs ih => rw [contains, Bool.or_eq_true, startsWith_iff, ih, List.infix_cons_iff]

/-- What a block type begins with decides before what it contains does. -/
theorem classify_eq (blockType : String) : classify blockType =
    if "deploy".toList <+: blockType.toList then deploy
    else if "build".toList <:+: blockType.toList ∨ blockType = "cache" then build
    else test := by
  simp only [classify, startsWith_iff, contains_iff]

theorem foldl_addTo (stages : List Stage) : stages.foldl addTo [] = stages.eraseDups := by
  induction stages using List.reverseRecOn with
  | nil => rfl
  | append_singleton stages s ih =>
    rw [List.foldl_append, ih, eraseDups_concat, List.foldl_cons, List.foldl_nil, addTo]
    simp only [List.mem_eraseDups]

theorem ofGraph_eq (g : Graph) :
    ofGraph g = (g.jobNodes.map fun n => classify n.blockType).eraseDups := by
  rw [ofGraph, foldl_addTo, ← Graph.map_jobs]

end Stage

namespace Gitlab

/-- The stages that the jobs have, job by job. -/
def Pipeline.jobStages (p : Pipeline) : List Stage := p.jobs.map (·.2.stage)

theorem jobStages_compile (image : String) (g : Graph) :
    (compile image g).jobStages = g.jobNodes.map fun n => Stage.classify n.blockType := by
  rw [← Graph.map_jobs]
  simp [Pipeline.jobStages, compile, compileJob]

theorem stages_compile (image : String) (g : Graph) :
    (compile image g).stages = (compile image g).jobStages.eraseDups := by
  rw [jobStages_compile, ← Stage.ofGraph_eq, compile]

/-- Each job is in the stage that its block type says, whatever the block type, and the stages of
the pipeline are those of its jobs, each listed once and in the order of the first jobs in them. -/
theorem stages_match_jobs (g : Graph) (image : String) :
    (compile image g).stages.Nodup ∧
    (∀ s, s ∈ (compile image g).stages ↔ ∃ e ∈ (compile image g).jobs, e.2.stage = s) ∧
    (compile image g).stages.Pairwise (fun s t =>
      (compile image g).jobs.findIdx (·.2.stage = s) <
        (compile image g).jobs.findIdx (·.2.stage = t)) ∧
    (compile image g).jobs.map (fun e => (e.1, e.2.stage)) =
      g.jobNodes.map (fun n => (n.jobKey, Stage.classify n.blockType)) ∧
    ∀ blockType, Stage.classify blockType =
      if "deploy".toList <+: blockType.toList then .deploy
      else if "build".toList <:+: blockType.toList ∨ blockType = "cache" then .build
      else .test := by
  have first (s : Stage) : (compile image g).jobStages.idxOf s =
      (compile image g).jobs.findIdx (·.2.stage = s) := by
    rw [Pipeline.jobStages, List.idxOf, List.findIdx_map]
    rfl
  refine ⟨?_, fun s => ?_, ?_, ?_, Stage.classify_eq⟩
  · rw [stages_compile]
    exact nodup_eraseDups _
  · rw [stages_compile, List.mem_eraseDups, Pipeline.jobStages, List.mem_map]
  · simp only [← first]
    rw [stages_compile]
    exact pairwise_eraseDups _
  · rw [← Graph.map_jobs]
    simp [compile, compileJob]

end Gitlab

end PipelineCompiler
