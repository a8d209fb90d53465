import PipelineCompiler.Proofs.Github.Rendering

namespace PipelineCompiler.Github

open Text (OneLine Robust entry oneLine_ofList)

def Step.texts (s : Step) : List String :=
  s.name :: (s.action.toList ++ s.command.toList ++ s.inputs.map entry ++ s.env.map entry)

def Job.texts (j : Job) : List String := j.runsOn :: j.steps.flatMap Step.texts

def Workflow.texts (w : Workflow) : List String :=
  w.name :: (w.start.texts ++ w.jobs.flatMap fun e => e.2.texts)

section Robust

variable {Q : String → Prop}

theorem robust_runs {name command : String} (hn : Q name) (hc : Q command) :
    ∀ t ∈ (Step.runs name command).texts, Q t := by
  simp [Step.texts, Step.runs, hn, hc]

theorem robust_uses {name action : String} {inputs env : List (String × String)} (hn : Q name)
    (ha : Q action) (hi : ∀ e ∈ inputs ++ env, Q (entry e)) :
    ∀ t ∈ (Step.uses name action inputs env).texts, Q t := by
  have entries : ∀ t ∈ (inputs ++ env).map entry, Q t := List.forall_mem_map.mpr hi
  simp only [Step.texts, Step.uses, List.forall_mem_cons, ← List.map_append, List.append_assoc,
    List.forall_mem_append]
  exact ⟨hn, by simpa using ha, by simp, entries⟩

/-- No built-in step takes anything from the graph. -/
theorem oneLine_builtinSteps (kind : JobKind) :
    ∀ s ∈ builtinSteps kind, ∀ t ∈ s.texts, OneLine t := by
  cases kind with
  | nodeTest | nodeBuild | pythonTest | pythonBuild | lint =>
    exact List.forall_mem_singleton.mpr
      (robust_runs (oneLine_ofList (by decide)) (oneLine_ofList (by decide)))
  | goBuild =>
    refine List.forall_mem_cons.mpr ⟨?_, List.forall_mem_singleton.mpr ?_⟩
    all_goals exact robust_runs (oneLine_ofList (by decide)) (oneLine_ofList (by decide))
  | securityScan | deployVercel | deployAws | deployGcp | notifySlack =>
    refine List.forall_mem_singleton.mpr
      (robust_uses (oneLine_ofList (by decide)) (oneLine_ofList (by decide)) ?_)
    simp only [List.cons_append, List.nil_append, List.forall_mem_cons, List.not_mem_nil,
      false_imp_iff, implies_true, and_true, entry, expression, Text.oneLine_append]
    and_intros <;> exact oneLine_ofList (by decide)
  | dockerBuild | cache | unknown => exact List.forall_mem_nil _

variable (robust : Robust Q)
include robust

theorem robust_version {key v : String} (hk : OneLine key) (hv : Q v) :
    ∀ e ∈ [(key, version v)] ++ [], Q (entry e) := by
  refine List.forall_mem_singleton.mpr ?_
  have quoted : Q (version v) := robust.enclose "\"" "\"" (by decide) (by decide) (by decide) hv
  exact robust.behind quoted (key ++ ": ") (Text.oneLine_append.mpr ⟨hk, by decide⟩)

theorem robust_setup {t : Toolchain} (h : Q t.setting) :
    ∀ s ∈ planStep (.setup t), ∀ x ∈ s.texts, Q x := by
  have fixed {cs : List Char} (hcs : '\n' ∉ cs) : Q (String.ofList cs) :=
    robust.oneLine (oneLine_ofList hcs)
  cases t with
  | node v | python v | go v =>
    refine List.forall_mem_singleton.mpr (robust_uses (fixed (by decide)) (fixed (by decide)) ?_)
    exact robust_version robust (oneLine_ofList (by decide)) h
  | docker image =>
    have build : Q ("docker build -t " ++ image ++ ":latest .") :=
      robust.enclose _ _ (by decide) (by decide) (by decide) h
    refine List.forall_mem_cons.mpr ⟨?_, List.forall_mem_singleton.mpr ?_⟩
    · exact robust_uses (fixed (by decide)) (fixed (by decide)) (List.forall_mem_nil _)
    · exact robust_runs (fixed (by decide)) build

theorem robust_planStep {p : PlanStep} (h : ∀ s ∈ p.texts, Q s) :
    ∀ s ∈ planStep p, ∀ t ∈ s.texts, Q t := by
  have fixed {cs : List Char} (hcs : '\n' ∉ cs) : Q (String.ofList cs) :=
    robust.oneLine (oneLine_ofList hcs)
  cases p with
  | checkout =>
    exact List.forall_mem_singleton.mpr
      (robust_uses (fixed (by decide)) (fixed (by decide)) (List.forall_mem_nil _))
  | setup t => exact robust_setup robust (List.forall_mem_singleton.mp h)
  | install t =>
    cases t with
    | node | python =>
      exact List.forall_mem_singleton.mpr (robust_runs (fixed (by decide)) (fixed (by decide)))
    | go | docker => exact List.forall_mem_nil _
  | cache =>
    refine List.forall_mem_singleton.mpr (robust_uses (fixed (by decide)) (fixed (by decide)) ?_)
    have path : OneLine (entry ("path", "~/.npm")) := by
      rw [entry, Text.oneLine_append, Text.oneLine_append]
      and_intros <;> exact oneLine_ofList (by decide)
    have key : OneLine (entry ("key", expression "runner.os" ++ "-node-" ++
        expression "hashFiles('**/package-lock.json')")) := by
      simp only [entry, expression, Text.oneLine_append]
      and_intros <;> exact oneLine_ofList (by decide)
    simp [robust.oneLine path, robust.oneLine key]
  | command label command =>
    obtain ⟨hl, hc⟩ := List.forall_mem_cons.mp h
    exact List.forall_mem_singleton.mpr (robust_runs hl (List.forall_mem_singleton.mp hc))
  | builtin kind => exact fun s hs t ht => robust.oneLine (oneLine_builtinSteps kind s hs t ht)

section Compile

variable {g : Graph} {runner : String} (h : ∀ s ∈ g.texts ++ g.runTexts, Q s)
include h

theorem robust_compileJob (hr : Q runner) {n : Node} {j : PipelineCompiler.Job} (hn : n ∈ g.nodes)
    (hb : n.block = .job j) : ∀ t ∈ (compileJob runner g n j).texts, Q t := by
  obtain ⟨texts, runTexts⟩ := List.forall_mem_append.mp h
  refine List.forall_mem_cons.mpr ⟨?_, List.forall_mem_flatMap.mpr ?_⟩
  · cases runsOn : j.options.runsOn with
    | none => simpa [compileJob, runsOn] using hr
    | some machine =>
      have written : machine ∈ g.runTexts := mem_runTexts hn (by simp [Node.runTexts, hb, runsOn])
      simpa [compileJob, runsOn] using runTexts machine written
  · intro s hs
    obtain ⟨p, hp, hs⟩ := List.mem_flatMap.mp hs
    exact robust_planStep robust (Plan.robust_steps_of_mem robust texts hn hb p hp) s hs

theorem robust_workflowName : Q (workflowName g) := by
  obtain ⟨texts, -⟩ := List.forall_mem_append.mp h
  have fallback : Q defaultName := robust.oneLine (oneLine_ofList (by decide))
  unfold workflowName
  split
  · next n t ht =>
    split_ifs
    · exact fallback
    · exact texts _ (label_mem_texts (Graph.trigger?_mem ht).1)
  · exact fallback

theorem robust_compileStart : ∀ s ∈ (compileStart (g.trigger?.map (·.2))).texts, Q s := by
  obtain ⟨texts, runTexts⟩ := List.forall_mem_append.mp h
  have push : Q "push" := robust.oneLine (by decide)
  cases ht : g.trigger? with
  | none =>
    have branch : Q Trigger.defaultBranch := robust.oneLine (by decide)
    simp [compileStart, Start.texts, push, branch]
  | some first =>
    obtain ⟨n, t⟩ := first
    obtain ⟨hn, hb⟩ := Graph.trigger?_mem ht
    have branch := robust_triggerBranch robust texts hn hb
    have cron : Q t.cron := by
      apply robust.getD _ (by decide)
      exact fun s hs => runTexts s (mem_runTexts hn (by simp_all [Node.runTexts]))
    have event : Q (t.settings.trigger.getD "push") := by
      apply robust.getD _ (by decide)
      exact fun s hs => runTexts s (mem_runTexts hn (by simp_all [Node.runTexts]))
    have pullRequest : Q "pull_request" := robust.oneLine (by decide)
    simp only [Option.map_some, compileStart]
    split
    · simp [Start.texts, push, branch]
    · simp [Start.texts, pullRequest, branch]
    · simpa [Start.texts] using cron
    · next name other =>
      rw [Event.eq_of_ofName other] at event
      simpa [Start.texts] using event

/-- What holds of the texts of a graph and of the runner holds of the texts of the workflow. -/
theorem robust_compile (hr : Q runner) : ∀ t ∈ (compile runner g).texts, Q t := by
  refine List.forall_mem_cons.mpr ⟨robust_workflowName robust h,
    List.forall_mem_append.mpr ⟨?_, ?_⟩⟩
  · exact robust_compileStart robust h
  · refine List.forall_mem_flatMap.mpr fun e he => ?_
    obtain ⟨⟨n, j⟩, hj, rfl⟩ := List.mem_map.mp he
    obtain ⟨hn, hb⟩ := Graph.mem_jobs.mp hj
    exact robust_compileJob robust h hr hn hb

end Compile

end Robust

end PipelineCompiler.Github
