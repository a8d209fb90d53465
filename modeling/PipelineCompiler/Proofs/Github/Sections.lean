import PipelineCompiler.Proofs.Github.Texts
import PipelineCompiler.Proofs.Graph.JobNodes
import PipelineCompiler.Proofs.Text.LineCount

namespace PipelineCompiler.Github

open Text

theorem lineCount_blank : lineCount "    steps:" "" = 0 := lineCount_of_ne (by decide) (by decide)

theorem Step.tally_lines {s : Step} (h : ∀ t ∈ s.texts, ¬ Forges "    steps:" t) :
    tally "    steps:" s.lines = 0 := by
  simp only [texts, List.forall_mem_cons, List.forall_mem_append] at h
  obtain ⟨name, ⟨⟨action, command⟩, inputs⟩, env⟩ := h
  rw [← List.append_nil s.lines, lines_append, settingLines]
  simp only [tally_cons, tally_append, tally_nil, lineCount_blank]
  rw [lineCount_behind (by decide) (by decide) name, tally_map (by decide) (by decide) action,
    tally_map (by decide) (by decide) command,
    tally_titled (by decide) (by decide) (by decide) (by decide) inputs,
    tally_titled (by decide) (by decide) (by decide) (by decide) env]

theorem Job.tally_lines {j : Job} (needs : ∀ key ∈ j.needs, OneLine key)
    (h : ∀ t ∈ j.texts, ¬ Forges "    steps:" t) : tally "    steps:" j.lines = 1 := by
  obtain ⟨runsOn, texts⟩ := List.forall_mem_cons.mp h
  have steps : tally "    steps:" (j.steps.flatMap Step.lines) = j.steps.length * 0 :=
    tally_flatMap fun s hs => Step.tally_lines (List.forall_mem_flatMap.mp texts s hs)
  rw [← List.append_nil j.lines, lines_append]
  simp only [tally_cons, tally_append, tally_nil, steps]
  rw [lineCount_behind (by decide) (by decide) runsOn,
    tally_bracketed (by decide) (by decide) needs, lineCount_self (by decide)]
  simp

/-- A title of the layout is another line, for want of further blanks. -/
theorem lineCount_title {name : String} (line : OneLine name) (blank : ' ' ∉ name.toList) :
    lineCount "    steps:" ("  " ++ name ++ ":") = 0 := by
  apply lineCount_of_ne
  · exact oneLine_append.mpr ⟨oneLine_append.mpr ⟨by decide, line⟩, by decide⟩
  · intro same
    have inner : "  " ++ name ++ ":" = "  " ++ "  steps" ++ ":" := same
    rw [String.append_left_inj, String.append_right_inj] at inner
    exact blank (inner ▸ by decide)

theorem Start.tally_lines {s : Start}
    (event : ∀ on only, s = .branch on only → OneLine on ∧ ' ' ∉ on.toList)
    (h : ∀ t ∈ s.texts, ¬ Forges "    steps:" t) : tally "    steps:" s.lines = 0 := by
  have title : lineCount "    steps:" "on:" = 0 := lineCount_of_ne (by decide) (by decide)
  cases s with
  | branch on only =>
    obtain ⟨line, noBlank⟩ := event on only rfl
    have text : ¬ Forges "    steps:" only := h only (by simp [texts])
    simp only [lines, tally_cons, tally_nil, title, lineCount_blank, lineCount_title line noBlank]
    rw [lineCount_enclosed (by decide) (by decide) (by decide) (by decide) (by decide) text]
  | schedule cron =>
    have text : ¬ Forges "    steps:" cron := h cron (by simp [texts])
    have schedule : lineCount "    steps:" "  schedule:" = 0 :=
      lineCount_of_ne (by decide) (by decide)
    simp only [lines, tally_cons, tally_nil, title, schedule, lineCount_blank]
    rw [lineCount_enclosed (by decide) (by decide) (by decide) (by decide) (by decide) text]
  | event name =>
    have text : ¬ Forges "    steps:" name := h name (by simp [texts])
    simp only [lines, tally_cons, tally_nil, lineCount_blank]
    rw [lineCount_enclosed (by decide) (by decide) (by decide) (by decide) (by decide) text]

namespace Workflow

/-- The titles of the workflow are single words, and no need spans lines. -/
structure Titled (w : Workflow) : Prop where
  event : ∀ on only, w.start = .branch on only → OneLine on ∧ ' ' ∉ on.toList
  keys : ∀ e ∈ w.jobs, OneLine e.1 ∧ ' ' ∉ e.1.toList
  needs : ∀ e ∈ w.jobs, ∀ key ∈ e.2.needs, OneLine key

/-- Neither the title of all jobs nor what stands in their place is the line. -/
theorem lineCount_render (w : Workflow) : lineCount "    steps:" w.render =
    tally "    steps:" w.header + tally "    steps:" (w.jobs.flatMap fun e =>
      jobSection e.1 e.2) := by
  rw [render_eq, lineCount_unlines_append, tally_append, Nat.add_assoc]
  congr 1
  cases w.jobs with
  | nil =>
    have none : lineCount "    steps:" noJobs = 0 := lineCount_of_ne (by decide) (by decide)
    simp [jobLines, none]
  | cons e jobs =>
    have title : lineCount "    steps:" "jobs:" = 0 := lineCount_of_ne (by decide) (by decide)
    have shown : jobLines (e :: jobs) = ("jobs:" :: (e :: jobs).flatMap fun e =>
      jobSection e.1 e.2, "") := rfl
    rw [shown, tally_cons, title, lineCount_blank, Nat.zero_add, Nat.add_zero]

/-- No text keeps the line from a job. -/
theorem length_le_lineCount (w : Workflow) : w.jobs.length ≤ lineCount "    steps:" w.render := by
  have sections : w.jobs.length ≤ tally "    steps:" (w.jobs.flatMap fun e => jobSection e.1 e.2) :=
    length_le_tally_flatMap fun e _ => one_le_tally (by decide) (by simp [jobSection, Job.lines])
  rw [lineCount_render]
  exact Nat.le_add_left_of_le sections

namespace Titled

variable {w : Workflow} (titled : w.Titled)
include titled

theorem tally_header (name : ¬ Forges "    steps:" w.name)
    (start : ∀ t ∈ w.start.texts, ¬ Forges "    steps:" t) : tally "    steps:" w.header = 0 := by
  simp only [header, tally_append, tally_cons, tally_nil, lineCount_blank,
    Start.tally_lines titled.event start]
  rw [lineCount_behind (by decide) (by decide) name]

theorem tally_jobSection {e : String × Job} (he : e ∈ w.jobs)
    (h : ∀ t ∈ e.2.texts, ¬ Forges "    steps:" t) :
    tally "    steps:" (jobSection e.1 e.2) = 1 := by
  obtain ⟨line, noBlank⟩ := titled.keys e he
  simp only [jobSection, tally_append, tally_cons, tally_nil, lineCount_blank,
    lineCount_title line noBlank]
  rw [Job.tally_lines (titled.needs e he) h]

/-- Where no text brings the line along, it opens the steps of the jobs and nothing else. -/
theorem lineCount_eq (h : ∀ t ∈ w.texts, ¬ Forges "    steps:" t) :
    lineCount "    steps:" w.render = w.jobs.length := by
  simp only [texts, List.forall_mem_cons, List.forall_mem_append] at h
  obtain ⟨name, start, jobs⟩ := h
  have sections : tally "    steps:" (w.jobs.flatMap fun e => jobSection e.1 e.2) =
      w.jobs.length * 1 :=
    tally_flatMap fun e he => titled.tally_jobSection he (List.forall_mem_flatMap.mp jobs e he)
  rw [lineCount_render, titled.tally_header name start, sections, Nat.mul_one, Nat.zero_add]

end Titled

end Workflow

theorem event_of_compileStart {trigger : Option Trigger} {event only : String}
    (h : compileStart trigger = .branch event only) : event = "push" ∨ event = "pull_request" := by
  unfold compileStart at h
  split at h
  · exact .inl (Start.branch.inj h).1.symm
  · split at h
    case h_1 => exact .inl (Start.branch.inj h).1.symm
    case h_2 => exact .inr (Start.branch.inj h).1.symm
    all_goals cases h

theorem titled_compile (runner : String) (g : Graph) : (compile runner g).Titled where
  event := by
    intro event only h
    rcases event_of_compileStart h with rfl | rfl <;> decide
  keys := by
    intro e he
    obtain ⟨⟨n, j⟩, -, rfl⟩ := List.mem_map.mp he
    exact ⟨oneLine_jobKey n, notMem_jobKey (by decide) (by decide) n⟩
  needs := by
    intro e he key hk
    obtain ⟨⟨n, j⟩, -, rfl⟩ := List.mem_map.mp he
    exact (needs_plain key hk).1

theorem length_jobs_compile (runner : String) (g : Graph) :
    (compile runner g).jobs.length = g.jobNodes.length := by
  rw [← Graph.length_jobs]
  exact List.length_map _

end PipelineCompiler.Github
