import PipelineCompiler.Proofs.Github.Sections
import PipelineCompiler.Proofs.Gitlab.Sections

namespace PipelineCompiler.Dialect

open Text (Forges lineCount)

section Emit

variable {g : Graph} (some : g.isEmpty = false)
include some

theorem emit_github (runner : String) :
    (Emitter.github runner).emit g = (Github.compile runner g).render := by
  simp [Emitter.github, Emitter.onNodes, some]

theorem emit_gitlab (image : String) :
    (Emitter.gitlab image).emit g = (Gitlab.compile image g).render := by
  simp [Emitter.gitlab, Emitter.onNodes, some]

end Emit

/-- No section is lost, whatever the values are, and none is added unless a value has
the line that opens it. -/
theorem sections_counted {g : Graph} (some : g.isEmpty = false) (runner image : String) :
    g.jobNodes.length ≤ lineCount "    steps:" ((Emitter.github runner).emit g) ∧
    g.jobNodes.length ≤ lineCount "  script:" ((Emitter.gitlab image).emit g) ∧
    ((∀ t ∈ runner :: (g.texts ++ g.runTexts), ¬ Forges "    steps:" t) →
      lineCount "    steps:" ((Emitter.github runner).emit g) = g.jobNodes.length) ∧
    ((∀ t ∈ image :: g.texts, ¬ Forges "  script:" t) →
      lineCount "  script:" ((Emitter.gitlab image).emit g) = g.jobNodes.length) := by
  rw [emit_github some, emit_gitlab some]
  refine ⟨?_, ?_, ?_, ?_⟩
  · exact Github.length_jobs_compile runner g ▸ Github.Workflow.length_le_lineCount _
  · exact Gitlab.length_jobs_compile image g ▸ Gitlab.Pipeline.length_le_lineCount _
  · intro h
    obtain ⟨hr, texts⟩ := List.forall_mem_cons.mp h
    have unforged := Github.robust_compile (Text.robust_not_forges (by decide)) texts hr
    rw [(Github.titled_compile runner g).lineCount_eq unforged, Github.length_jobs_compile]
  · intro h
    obtain ⟨hi, texts⟩ := List.forall_mem_cons.mp h
    have unforged := Gitlab.robust_compile (Text.robust_not_forges (by decide)) texts hi
    rw [(Gitlab.titled_compile image g).lineCount_eq unforged, Gitlab.length_jobs_compile]

/-- One job whose command is a script of the given lines. -/
def scriptGraph (command : String) : Graph :=
  ⟨[⟨"a", "Build", .job ⟨.lint, { command := some command }⟩⟩], []⟩

theorem sections_counted_indented :
    lineCount "    steps:" ((Emitter.github "ubuntu").emit (scriptGraph "make\n     steps:")) = 1 ∧
    lineCount "  script:" ((Emitter.gitlab "alpine").emit (scriptGraph "make\n script:")) = 1 := by
  obtain ⟨-, -, steps, -⟩ :=
    sections_counted (g := scriptGraph "make\n     steps:") rfl "ubuntu" "alpine"
  obtain ⟨-, -, -, script⟩ :=
    sections_counted (g := scriptGraph "make\n script:") rfl "ubuntu" "alpine"
  exact ⟨steps (by decide +kernel), script (by decide +kernel)⟩

theorem section_forged :
    (scriptGraph "make\n    steps:\n  script:").jobNodes.length = 1 ∧
    lineCount "    steps:" (Emitter.github.emit (scriptGraph "make\n    steps:\n  script:")) = 2 ∧
    lineCount "  script:" (Emitter.gitlab.emit (scriptGraph "make\n    steps:\n  script:")) =
      2 := by
  rw [emit_github rfl, Github.Workflow.lineCount_render, emit_gitlab rfl,
    Gitlab.Pipeline.lineCount_render]
  -- Line by line, which is much less to compute than the text.
  decide +kernel

end PipelineCompiler.Dialect
