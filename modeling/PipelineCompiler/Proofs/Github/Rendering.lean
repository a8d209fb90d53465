import PipelineCompiler.Emitter
import PipelineCompiler.Proofs.Graph.Texts

namespace PipelineCompiler.Github

open Text

namespace Step

/-- No text of the step spans lines, and no key of an entry holds the colon that ends it. -/
structure Plain (s : Step) : Prop where
  name : OneLine s.name
  action : ∀ a ∈ s.action, OneLine a
  command : ∀ c ∈ s.command, OneLine c
  inputs : ∀ e ∈ s.inputs, OneLine (entry e) ∧ ':' ∉ e.1.toList
  env : ∀ e ∈ s.env, OneLine (entry e) ∧ ':' ∉ e.1.toList

end Step

/-- No text of the job spans lines, and no need holds the comma that ends it. -/
structure Job.Plain (j : Job) : Prop where
  runsOn : OneLine j.runsOn
  needs : ∀ key ∈ j.needs, OneLine key ∧ ',' ∉ key.toList
  steps : ∀ s ∈ j.steps, s.Plain

def Start.texts : Start → List String
  | .branch on only => [on, only]
  | .schedule cron => [cron]
  | .event name => [name]

structure Workflow.Plain (w : Workflow) : Prop where
  name : OneLine w.name
  start : ∀ s ∈ w.start.texts, OneLine s
  keys : ∀ e ∈ w.jobs, OneLine e.1
  jobs : ∀ e ∈ w.jobs, e.2.Plain

theorem entryLines_eq (title : String) (entries : List (String × String)) :
    entryLines title entries =
      titled ("        " ++ title ++ ":") "          " (entries.map entry) := by
  cases entries with
  | nil => rfl
  | cons e entries => simp [entryLines, titled, entry, String.append_assoc]

theorem oneLine_entryLines (title : String) (ht : OneLine title) {entries : List (String × String)}
    (h : ∀ e ∈ entries, OneLine (entry e)) : ∀ l ∈ entryLines title entries, OneLine l := by
  have indent : OneLine "        " := by decide
  have colon : OneLine ":" := by decide
  rw [entryLines_eq]
  apply oneLine_titled
  · simp [ht, indent, colon]
  · decide
  · exact List.forall_mem_map.mpr h

namespace Step

theorem Plain.oneLine_lines {s : Step} (h : s.Plain) : ∀ l ∈ s.lines, OneLine l := by
  have name : OneLine ("      - name: " ++ s.name) := oneLine_append.mpr ⟨by decide, h.name⟩
  have action :=
    oneLine_map "        uses: " (by decide) fun a ha => h.action a (Option.mem_toList.mp ha)
  have command :=
    oneLine_map "        run: " (by decide) fun c hc => h.command c (Option.mem_toList.mp hc)
  have inputs := oneLine_entryLines "with" (by decide) fun e he => (h.inputs e he).1
  have env := oneLine_entryLines "env" (by decide) fun e he => (h.env e he).1
  have blank : OneLine "" := by decide
  simp only [lines, List.forall_mem_append, List.forall_mem_singleton]
  exact ⟨⟨⟨⟨⟨name, action⟩, command⟩, inputs⟩, env⟩, blank⟩

/-- The lines of a step behind its command, with what follows the step. -/
def settingLines (s : Step) (rest : List String) : List String :=
  titled "        with:" "          " (s.inputs.map entry) ++
    (titled "        env:" "          " (s.env.map entry) ++ "" :: rest)

theorem lines_append (s : Step) (rest : List String) :
    s.lines ++ rest = ("      - name: " ++ s.name) ::
      (s.action.toList.map ("        uses: " ++ ·) ++
        (s.command.toList.map ("        run: " ++ ·) ++ s.settingLines rest)) := by
  simp [lines, settingLines, entryLines_eq]

theorem settingLines_inj {s t : Step} (hs : s.Plain) (ht : t.Plain) {xs ys : List String}
    (h : s.settingLines xs = t.settingLines ys) :
    s.inputs = t.inputs ∧ s.env = t.env ∧ xs = ys := by
  have noInputs (u : Step) (zs : List String) :
      Avoids "        with:" (titled "        env:" "          " (u.env.map entry) ++ "" :: zs) ∧
      Avoids "          " (titled "        env:" "          " (u.env.map entry) ++ "" :: zs) :=
    ⟨avoids_titled (by decide) (avoids_blank (by decide) zs) _,
      avoids_titled (by decide) (avoids_blank (by decide) zs) _⟩
  have noEnv (zs : List String) :
      Avoids "        env:" ("" :: zs) ∧ Avoids "          " ("" :: zs) :=
    ⟨avoids_blank (by decide) zs, avoids_blank (by decide) zs⟩
  obtain ⟨inputs, h⟩ := titled_append_inj (noInputs s xs) (noInputs t ys) h
  obtain ⟨env, h⟩ := titled_append_inj (noEnv xs) (noEnv ys) h
  refine ⟨?_, ?_, (List.cons.inj h).2⟩
  · exact map_entry_inj (fun e he => (hs.inputs e he).2) (fun e he => (ht.inputs e he).2) inputs
  · exact map_entry_inj (fun e he => (hs.env e he).2) (fun e he => (ht.env e he).2) env

theorem avoids_settingLines {mark : String} (hi : ¬ mark.toList <+: "        with:".toList)
    (he : ¬ mark.toList <+: "        env:".toList) (hb : mark ≠ "") (s : Step)
    (rest : List String) : Avoids mark (s.settingLines rest) :=
  avoids_titled hi (avoids_titled he (avoids_blank hb rest) _) _

/-- The blank line at its end tells a step from whatever follows. -/
theorem readable : Readable Plain lines fun _ => True := by
  intro s t xs ys hs ht _ _ h
  rw [lines_append, lines_append] at h
  -- Line by line from the front: no later line of a step begins with the mark of an earlier part.
  obtain ⟨name, h⟩ := List.cons.inj h
  have noCommand (u : Step) (zs : List String) : Avoids "        run: " (u.settingLines zs) :=
    avoids_settingLines (by decide) (by decide) (by decide) u zs
  have noAction (u : Step) (zs : List String) :
      Avoids "        uses: " (u.command.toList.map ("        run: " ++ ·) ++ u.settingLines zs) :=
    avoids_map (by decide) (avoids_settingLines (by decide) (by decide) (by decide) u zs) _
  obtain ⟨action, h⟩ := optional_append_inj (noAction s xs) (noAction t ys) h
  obtain ⟨command, h⟩ := optional_append_inj (noCommand s xs) (noCommand t ys) h
  obtain ⟨inputs, env, h⟩ := settingLines_inj hs ht h
  have same : s = t := by
    cases s
    cases t
    simp_all [String.append_right_inj]
  exact ⟨same, h⟩

/-- Steps are read up to a line that does not begin a step. -/
theorem readable_flatMap :
    Readable (fun steps => ∀ s ∈ steps, Plain s) (List.flatMap lines)
      (Avoids "      - name: ") := by
  apply readable.flatMap
  · intro _ _
    trivial
  · intro _ _
    trivial
  · intro s xs
    rw [lines_append]
    intro avoids
    exact avoids _ _ rfl

end Step

namespace Job

theorem Plain.oneLine_lines {j : Job} (h : j.Plain) : ∀ l ∈ j.lines, OneLine l := by
  have runsOn : OneLine ("    runs-on: " ++ j.runsOn) := oneLine_append.mpr ⟨by decide, h.runsOn⟩
  have needs := oneLine_bracketed "    needs: [" (by decide) fun key hk => (h.needs key hk).1
  have title : OneLine "    steps:" := by decide
  have steps : ∀ l ∈ j.steps.flatMap Step.lines, OneLine l :=
    List.forall_mem_flatMap.mpr fun s hs => (h.steps s hs).oneLine_lines
  simp only [lines, List.forall_mem_append, List.forall_mem_singleton]
  exact ⟨⟨⟨runsOn, needs⟩, title⟩, steps⟩

theorem lines_append (j : Job) (rest : List String) :
    j.lines ++ rest = ("    runs-on: " ++ j.runsOn) ::
      (bracketed "    needs: [" j.needs ++ "    steps:" ::
        (j.steps.flatMap Step.lines ++ rest)) := by
  simp [lines, bracketed]

theorem readable : Readable Plain lines (Avoids "      - name: ") := by
  intro j k xs ys hj hk hx hy h
  rw [lines_append, lines_append] at h
  obtain ⟨runsOn, h⟩ := List.cons.inj h
  have noNeeds (zs : List String) : Avoids "    needs: [" ("    steps:" :: zs) :=
    avoids_line (by decide) zs
  obtain ⟨needs, h⟩ := bracketed_append_inj (fun key hkey => (hj.needs key hkey).2)
    (fun key hkey => (hk.needs key hkey).2) (noNeeds _) (noNeeds _) h
  obtain ⟨steps, h⟩ := Step.readable_flatMap hj.steps hk.steps hx hy (List.cons.inj h).2
  have same : j = k := by
    cases j
    cases k
    simp_all [String.append_right_inj]
  exact ⟨same, h⟩

end Job

theorem Start.oneLine_lines {s : Start} (h : ∀ t ∈ s.texts, OneLine t) :
    ∀ l ∈ s.lines, OneLine l := by
  cases s with
  | branch on only =>
    obtain ⟨hon, honly⟩ : OneLine on ∧ OneLine only := by simpa [texts] using h
    simp only [lines, List.forall_mem_cons, oneLine_append, hon, honly, and_true, List.not_mem_nil,
      false_imp_iff, implies_true]
    decide
  | schedule cron =>
    have hcron : OneLine cron := by simpa [texts] using h
    simp only [lines, List.forall_mem_cons, oneLine_append, hcron, and_true, List.not_mem_nil,
      false_imp_iff, implies_true]
    decide
  | event name =>
    have hname : OneLine name := by simpa [texts] using h
    simp only [lines, List.forall_mem_cons, oneLine_append, hname, and_true, List.not_mem_nil,
      false_imp_iff, implies_true]
    decide

namespace Start

variable (on only cron name : String) (xs ys : List String)

theorem branch_ne_schedule : (branch on only).lines ++ xs ≠ (schedule cron).lines ++ ys := by
  intro h
  have marks : Apart "    branches: [\"" "    - cron: \"" := by decide
  simp only [lines, List.cons_append, String.append_assoc, List.cons.injEq] at h
  exact marks.append_ne _ _ h.2.2.1

theorem branch_ne_event : (branch on only).lines ++ xs ≠ (event name).lines ++ ys := by
  intro h
  have list : Avoids "on: [" ((branch on only).lines ++ xs) := avoids_line (by decide) _
  simp only [lines, List.cons_append, String.append_assoc] at h list
  exact list _ _ h

theorem schedule_ne_event : (schedule cron).lines ++ xs ≠ (event name).lines ++ ys := by
  intro h
  have list : Avoids "on: [" ((schedule cron).lines ++ xs) := avoids_line (by decide) _
  simp only [lines, List.cons_append, String.append_assoc] at h list
  exact list _ _ h

variable {xs ys}

theorem lines_append_inj {s t : Start} (h : s.lines ++ xs = t.lines ++ ys) : s = t ∧ xs = ys := by
  cases s with
  | branch on only =>
    cases t with
    | branch on' only' => simpa [lines, and_assoc] using h
    | schedule cron => exact absurd h (branch_ne_schedule on only cron xs ys)
    | event name => exact absurd h (branch_ne_event on only name xs ys)
  | schedule cron =>
    cases t with
    | branch on only => exact absurd h.symm (branch_ne_schedule on only cron ys xs)
    | schedule cron' => simpa [lines] using h
    | event name => exact absurd h (schedule_ne_event cron name xs ys)
  | event name =>
    cases t with
    | branch on only => exact absurd h.symm (branch_ne_event on only name ys xs)
    | schedule cron => exact absurd h.symm (schedule_ne_event cron name ys xs)
    | event name' => simpa [lines] using h

end Start

namespace Workflow

theorem readable_jobSection :
    Readable (fun e : String × Job => e.2.Plain) (fun e =>
      jobSection e.1 e.2) (Avoids "      - name: ") := by
  intro d e xs ys hd he hx hy h
  simp only [jobSection, List.cons_append, List.nil_append] at h
  obtain ⟨-, h⟩ := List.cons.inj h
  obtain ⟨title, h⟩ := List.cons.inj h
  have key := (String.append_right_inj "  ").mp ((String.append_left_inj ":").mp title)
  obtain ⟨job, h⟩ := Job.readable hd he hx hy h
  exact ⟨Prod.ext key job, h⟩

theorem readable_jobs :
    Readable (fun jobs : List (String × Job) => ∀ e ∈ jobs, e.2.Plain)
      (List.flatMap fun e => jobSection e.1 e.2) (· = []) := by
  apply readable_jobSection.flatMap
  · intro e xs
    exact avoids_blank (by decide) _
  · rintro xs rfl
    exact avoids_nil
  · intro e xs none
    simp [jobSection] at none

/-- The lines of the jobs, and what stands behind them. -/
def jobLines : List (String × Job) → List String × String
  | [] => ([], noJobs)
  | jobs => ("jobs:" :: jobs.flatMap fun e => jobSection e.1 e.2, "")

theorem render_eq (w : Workflow) :
    w.render = unlines (w.header ++ (jobLines w.jobs).1) ++ (jobLines w.jobs).2 := by
  unfold render
  split
  · next none => simp [none, jobLines]
  · next some =>
    rw [jobLines, String.append_empty, List.append_assoc]
    · rfl
    · exact some

theorem jobLines_inj {jobs others : List (String × Job)} (hj : ∀ e ∈ jobs, e.2.Plain)
    (ho : ∀ e ∈ others, e.2.Plain) (h : jobLines jobs = jobLines others) : jobs = others := by
  cases jobs with
  | nil =>
    cases others with
    | nil => rfl
    | cons e others => cases (Prod.mk.inj h).1
  | cons d jobs =>
    cases others with
    | nil => cases (Prod.mk.inj h).1
    | cons e others =>
      have lines := (List.cons.inj (Prod.mk.inj h).1).2
      have ended := congrArg (· ++ ([] : List String)) lines
      exact (readable_jobs hj ho rfl rfl ended).1

theorem oneLine_jobSection {key : String} {j : Job} (hk : OneLine key) (hj : j.Plain) :
    ∀ l ∈ jobSection key j, OneLine l := by
  have title : OneLine ("  " ++ key ++ ":") := by simp [hk, (by decide : OneLine "  "),
    (by decide : OneLine ":")]
  have blank : OneLine "" := by decide
  simpa [jobSection, blank, title] using hj.oneLine_lines

theorem oneLine_jobLines {jobs : List (String × Job)} (keys : ∀ e ∈ jobs, OneLine e.1)
    (plain : ∀ e ∈ jobs, e.2.Plain) :
    (∀ l ∈ (jobLines jobs).1, OneLine l) ∧ OneLine (jobLines jobs).2 := by
  cases jobs with
  | nil => exact ⟨by simp [jobLines], by decide⟩
  | cons e jobs =>
    have ended : OneLine "" := by decide
    refine ⟨List.forall_mem_cons.mpr ⟨by decide, ?_⟩, ended⟩
    exact List.forall_mem_flatMap.mpr fun d hd => oneLine_jobSection (keys d hd) (plain d hd)

theorem Plain.oneLine_header {w : Workflow} (h : w.Plain) : ∀ l ∈ w.header, OneLine l := by
  have name : OneLine ("name: " ++ w.name) := oneLine_append.mpr ⟨by decide, h.name⟩
  have blank : OneLine "" := by decide
  simpa [header, name, blank] using Start.oneLine_lines h.start

/-- The text of a workflow is the text of no other. -/
theorem render_injective {v w : Workflow} (hv : v.Plain) (hw : w.Plain) (h : v.render = w.render) :
    v = w := by
  rw [render_eq, render_eq] at h
  obtain ⟨vl, vr⟩ := oneLine_jobLines hv.keys hv.jobs
  obtain ⟨wl, wr⟩ := oneLine_jobLines hw.keys hw.jobs
  obtain ⟨lines, behind⟩ :=
    unlines_append_inj (List.forall_mem_append.mpr ⟨hv.oneLine_header, vl⟩) vr
    (List.forall_mem_append.mpr ⟨hw.oneLine_header, wl⟩) wr h
  simp only [header, List.cons_append, List.nil_append] at lines
  obtain ⟨name, lines⟩ := List.cons.inj lines
  obtain ⟨start, jobs⟩ := Start.lines_append_inj (List.cons.inj lines).2
  have jobs := jobLines_inj hv.jobs hw.jobs (Prod.ext jobs behind)
  cases v
  cases w
  simp_all [String.append_right_inj]

end Workflow

end PipelineCompiler.Github
