import PipelineCompiler.Proofs.Github.Texts

namespace PipelineCompiler.Github

open Text (OneLine)

theorem Step.plain_of_texts {s : Step} (h : ∀ t ∈ s.texts, OneLine t)
    (colon : ∀ k ∈ (s.inputs ++ s.env).map (·.1), ':' ∉ k.toList) : s.Plain := by
  simp only [texts, List.forall_mem_cons, List.forall_mem_append, List.forall_mem_map] at h
  simp only [List.forall_mem_map, List.forall_mem_append] at colon
  obtain ⟨name, ⟨⟨action, command⟩, inputs⟩, env⟩ := h
  obtain ⟨inputKeys, envKeys⟩ := colon
  exact {
    name
    action := fun a ha => action a (Option.mem_toList.mpr ha)
    command := fun c hc => command c (Option.mem_toList.mpr hc)
    inputs := fun e he => ⟨inputs e he, inputKeys e he⟩
    env := fun e he => ⟨env e he, envKeys e he⟩ }

theorem colon_notMem_builtinSteps (kind : JobKind) :
    ∀ s ∈ builtinSteps kind, ∀ k ∈ (s.inputs ++ s.env).map (·.1), ':' ∉ k.toList := by
  cases kind with
  | securityScan | deployVercel | deployAws | deployGcp | notifySlack =>
    exact List.forall_mem_singleton.mpr (by decide)
  | _ => simp [builtinSteps, Step.runs]

/-- The keys of entries are fixed. -/
theorem colon_notMem_planStep (p : PlanStep) :
    ∀ s ∈ planStep p, ∀ k ∈ (s.inputs ++ s.env).map (·.1), ':' ∉ k.toList := by
  cases p with
  | cache => exact List.forall_mem_singleton.mpr (by decide)
  | setup t => cases t <;> simp [planStep, Step.runs, Step.uses]
  | install t => cases t <;> simp [planStep, Step.runs]
  | builtin kind => exact colon_notMem_builtinSteps kind
  | checkout | command => simp [planStep, Step.runs, Step.uses]

section Compile

variable {g : Graph} {runner : String} (h : ∀ s ∈ g.texts ++ g.runTexts, OneLine s)
  (hr : OneLine runner)
include h hr

theorem plain_compileJob {n : Node} {j : PipelineCompiler.Job} (hn : n ∈ g.nodes)
    (hb : n.block = .job j) : (compileJob runner g n j).Plain := by
  obtain ⟨runsOn, steps⟩ :=
    List.forall_mem_cons.mp (robust_compileJob Text.robust_oneLine h hr hn hb)
  refine ⟨runsOn, needs_plain, fun s hs => ?_⟩
  obtain ⟨p, -, hp⟩ := List.mem_flatMap.mp hs
  exact Step.plain_of_texts (List.forall_mem_flatMap.mp steps s hs) (colon_notMem_planStep p s hp)

theorem plain_compile : (compile runner g).Plain where
  name := robust_workflowName Text.robust_oneLine h
  start := robust_compileStart Text.robust_oneLine h
  keys := by
    intro e he
    obtain ⟨⟨n, j⟩, -, rfl⟩ := List.mem_map.mp he
    exact oneLine_jobKey n
  jobs := by
    intro e he
    obtain ⟨⟨n, j⟩, hj, rfl⟩ := List.mem_map.mp he
    obtain ⟨hn, hb⟩ := Graph.mem_jobs.mp hj
    exact plain_compileJob h hr hn hb

end Compile

/-- Graphs with the same text have the same workflow: no job, need, step or value is lost, merged
or taken for another. -/
theorem workflow_eq_of_emit_eq {g h : Graph} {r s : String} (ng : g.isEmpty = false)
    (nh : h.isEmpty = false) (hg : ∀ t ∈ g.texts ++ g.runTexts, OneLine t)
    (hh : ∀ t ∈ h.texts ++ h.runTexts, OneLine t) (hr : OneLine r) (hs : OneLine s)
    (same : (Emitter.github r).emit g = (Emitter.github s).emit h) : compile r g = compile s h := by
  have texts : (compile r g).render = (compile s h).render := by
    simpa [Emitter.github, Emitter.onNodes, ng, nh] using same
  exact Workflow.render_injective (plain_compile hg hr) (plain_compile hh hs) texts

/-- Jobs whose values look like lines of the layout, on the runner that they are given. -/
def lookalikeGraph (runsOn : Option String) : Graph :=
  ⟨[⟨"a", "steps:", .job ⟨.unknown "mine", { runsOn }⟩⟩,
      ⟨"b", "x # - name: y",
        .job ⟨.nodeTest (some "20\", z: \"1"),
          { runsOn, command := some "      - name: [a, b]" }⟩⟩],
    [⟨"a", "b"⟩, ⟨"a", "b"⟩]⟩

theorem workflow_eq_of_emit_eq_lookalike :
    lookalikeGraph none ≠ lookalikeGraph (some "self: hosted") ∧
    compile "self: hosted" (lookalikeGraph none) =
      compile "ubuntu" (lookalikeGraph (some "self: hosted")) := by
  refine ⟨by decide, workflow_eq_of_emit_eq rfl rfl ?_ ?_ (by decide) (by decide) ?_⟩
  · decide +kernel
  · decide +kernel
  · decide +kernel

end PipelineCompiler.Github
