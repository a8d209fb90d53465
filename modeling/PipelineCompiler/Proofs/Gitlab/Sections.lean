import PipelineCompiler.Proofs.Gitlab.Texts
import PipelineCompiler.Proofs.Graph.JobNodes
import PipelineCompiler.Proofs.Text.LineCount

namespace PipelineCompiler.Gitlab

open Text

theorem lineCount_blank : lineCount "  script:" "" = 0 := lineCount_of_ne (by decide) (by decide)

theorem Cache.tally_lines {c : Cache} (h : ∀ t ∈ c.texts, ¬ Forges "  script:" t) :
    tally "  script:" c.lines = 0 := by
  obtain ⟨key, paths⟩ := List.forall_mem_cons.mp h
  have opening : lineCount "  script:" "  cache:" = 0 := lineCount_of_ne (by decide) (by decide)
  have title : lineCount "  script:" "    paths:" = 0 := lineCount_of_ne (by decide) (by decide)
  rw [← List.append_nil c.lines, lines_append]
  simp only [tally_cons, tally_append, tally_nil, opening, title]
  rw [lineCount_behind (by decide) (by decide) key, tally_map (by decide) (by decide) paths]

namespace Job

variable {j : Job}

theorem tally_scriptLines (script : ∀ t ∈ j.script, ¬ Forges "  script:" t)
    (rules : ∀ t ∈ j.rules.map Rule.condition, ¬ Forges "  script:" t) :
    tally "  script:" (j.scriptLines []) = 1 := by
  have items : ∀ t ∈ j.rules.map ruleItem, ¬ Forges "  script:" t := by
    refine List.forall_mem_map.mpr fun r hr => ?_
    rw [ruleItem, forges_behind (by decide)]
    exact rules _ (List.mem_map_of_mem hr)
  simp only [scriptLines, tally_cons, tally_append, tally_nil, lineCount_blank]
  rw [lineCount_self (by decide), tally_map (by decide) (by decide) script,
    tally_titled (by decide) (by decide) (by decide) (by decide) items]

theorem tally_lines (needs : ∀ key ∈ j.needs, OneLine key)
    (h : ∀ t ∈ j.texts, ¬ Forges "  script:" t) : tally "  script:" j.lines = 1 := by
  simp only [texts, List.forall_mem_append] at h
  obtain ⟨⟨⟨⟨image, services⟩, cache⟩, script⟩, rules⟩ := h
  have stage : lineCount "  script:" ("  stage: " ++ j.stage.name) = 0 :=
    lineCount_behind (by decide) (by decide) (not_forges_of_oneLine (oneLine_stageName j.stage))
  have quoted : ∀ q ∈ j.needs.map quoted, OneLine q := by
    refine List.forall_mem_map.mpr fun key hk => ?_
    simp [quoted, needs key hk, (by decide : OneLine "\"")]
  have cached :
      tally "  script:" (j.cache.toList.flatMap Cache.lines) = j.cache.toList.length * 0 :=
    tally_flatMap fun c hc => Cache.tally_lines (List.forall_mem_flatMap.mp cache c hc)
  rw [← List.append_nil j.lines, lines_append, needLines]
  simp only [tally_cons, tally_append, stage, cached, tally_scriptLines script rules]
  rw [tally_map (by decide) (by decide) image,
    tally_titled (by decide) (by decide) (by decide) (by decide) services,
    tally_bracketed (by decide) (by decide) quoted]
  simp

end Job

/-- The title of a job is another line, for want of blanks. -/
theorem lineCount_title {key : String} (line : OneLine key) (blank : ' ' ∉ key.toList) :
    lineCount "  script:" (key ++ ":") = 0 := by
  apply lineCount_of_ne
  · exact oneLine_append.mpr ⟨line, by decide⟩
  · intro same
    have inner : key ++ ":" = "  script" ++ ":" := same
    rw [String.append_left_inj] at inner
    exact blank (inner ▸ by decide)

namespace Pipeline

/-- The keys of the jobs are single words, and no need spans lines. -/
structure Titled (p : Pipeline) : Prop where
  keys : ∀ e ∈ p.jobs, OneLine e.1 ∧ ' ' ∉ e.1.toList
  needs : ∀ e ∈ p.jobs, ∀ key ∈ e.2.needs, OneLine key

theorem lineCount_render (p : Pipeline) : lineCount "  script:" p.render =
    tally "  script:" p.header + tally "  script:" (p.jobs.flatMap fun e =>
      jobSection e.1 e.2) := by
  have ended : p.render = unlines p.lines ++ "" := by rw [String.append_empty, render_eq_unlines]
  rw [ended, lineCount_unlines_append, lineCount_blank, lines, tally_append, Nat.add_zero]

/-- No text keeps the line from a job. -/
theorem length_le_lineCount (p : Pipeline) : p.jobs.length ≤ lineCount "  script:" p.render := by
  have sections : p.jobs.length ≤ tally "  script:" (p.jobs.flatMap fun e => jobSection e.1 e.2) :=
    length_le_tally_flatMap fun e _ => one_le_tally (by decide) (by simp [jobSection, Job.lines])
  rw [lineCount_render]
  exact Nat.le_add_left_of_le sections

theorem tally_header {p : Pipeline} (image : ¬ Forges "  script:" p.defaultImage) :
    tally "  script:" p.header = 0 := by
  have stages : tally "  script:" (stageLines p.stages) = 0 := by
    cases p.stages with
    | nil => exact lineCount_blank
    | cons s stages =>
      refine tally_eq_zero (List.forall_mem_map.mpr fun t _ => ?_)
      exact lineCount_behind (by decide) (by decide) (not_forges_of_oneLine (oneLine_stageName t))
  have title : lineCount "  script:" "# GitLab CI Pipeline" = 0 :=
    lineCount_of_ne (by decide) (by decide)
  have author : lineCount "  script:" "# Generated by PipeForge" = 0 :=
    lineCount_of_ne (by decide) (by decide)
  have settings : lineCount "  script:" "default:" = 0 := lineCount_of_ne (by decide) (by decide)
  have list : lineCount "  script:" "stages:" = 0 := lineCount_of_ne (by decide) (by decide)
  simp only [header, tally_append, tally_cons, tally_nil, title, author, settings, list,
    lineCount_blank, stages]
  rw [lineCount_behind (by decide) (by decide) image]

namespace Titled

variable {p : Pipeline} (titled : p.Titled)
include titled

theorem tally_jobSection {e : String × Job} (he : e ∈ p.jobs)
    (h : ∀ t ∈ e.2.texts, ¬ Forges "  script:" t) : tally "  script:" (jobSection e.1 e.2) = 1 := by
  obtain ⟨line, noBlank⟩ := titled.keys e he
  rw [jobSection, tally_cons, lineCount_title line noBlank, Job.tally_lines (titled.needs e he) h]

/-- Where no text brings the line along, it opens the scripts of the jobs and nothing else. -/
theorem lineCount_eq (h : ∀ t ∈ p.texts, ¬ Forges "  script:" t) :
    lineCount "  script:" p.render = p.jobs.length := by
  obtain ⟨image, jobs⟩ := List.forall_mem_cons.mp h
  have sections : tally "  script:" (p.jobs.flatMap fun e => jobSection e.1 e.2) =
      p.jobs.length * 1 :=
    tally_flatMap fun e he => titled.tally_jobSection he (List.forall_mem_flatMap.mp jobs e he)
  rw [lineCount_render, tally_header image, sections, Nat.mul_one, Nat.zero_add]

end Titled

end Pipeline

theorem titled_compile (image : String) (g : Graph) : (compile image g).Titled where
  keys := by
    intro e he
    obtain ⟨⟨n, j⟩, -, rfl⟩ := List.mem_map.mp he
    exact ⟨oneLine_jobKey n, notMem_jobKey (by decide) (by decide) n⟩
  needs := by
    intro e he key hk
    obtain ⟨⟨n, j⟩, -, rfl⟩ := List.mem_map.mp he
    exact (needs_plain key hk).1

theorem length_jobs_compile (image : String) (g : Graph) :
    (compile image g).jobs.length = g.jobNodes.length := by
  rw [← Graph.length_jobs]
  exact List.length_map _

end PipelineCompiler.Gitlab
