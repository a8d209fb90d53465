import PipelineCompiler.Proofs.Gitlab.Texts

namespace PipelineCompiler.Gitlab

open Text (OneLine)

theorem Job.plain_of_texts {j : Job} (h : ∀ t ∈ j.texts, OneLine t)
    (needs : ∀ key ∈ j.needs, OneLine key ∧ ',' ∉ key.toList) : j.Plain := by
  simp only [texts, List.forall_mem_append, List.forall_mem_flatMap, List.forall_mem_map] at h
  obtain ⟨⟨⟨⟨image, services⟩, cache⟩, script⟩, rules⟩ := h
  exact {
    image := fun i hi => image i (Option.mem_toList.mpr hi)
    services
    needs
    cache := fun c hc => List.forall_mem_cons.mp (cache c (Option.mem_toList.mpr hc))
    script
    rules }

section Compile

variable {g : Graph} (h : ∀ s ∈ g.texts, OneLine s)
include h

theorem plain_compileJob {n : Node} {j : PipelineCompiler.Job} (hn : n ∈ g.nodes)
    (hb : n.block = .job j) : (compileJob g n j).Plain :=
  Job.plain_of_texts (robust_compileJob Text.robust_oneLine h hn hb) needs_plain

theorem plain_compile {image : String} (hi : OneLine image) : (compile image g).Plain where
  defaultImage := hi
  keys := by
    intro e he
    obtain ⟨⟨n, j⟩, -, rfl⟩ := List.mem_map.mp he
    exact oneLine_jobKey n
  jobs := by
    intro e he
    obtain ⟨⟨n, j⟩, hj, rfl⟩ := List.mem_map.mp he
    obtain ⟨hn, hb⟩ := Graph.mem_jobs.mp hj
    exact plain_compileJob h hn hb

end Compile

/-- Graphs with the same text have the same pipeline: the borders of all sections are recovered,
whichever of them a job has. -/
theorem pipeline_eq_of_emit_eq {g h : Graph} {i j : String} (ng : g.isEmpty = false)
    (nh : h.isEmpty = false) (hg : ∀ t ∈ g.texts, OneLine t) (hh : ∀ t ∈ h.texts, OneLine t)
    (hi : OneLine i) (hj : OneLine j) (same : (Emitter.gitlab i).emit g =
      (Emitter.gitlab j).emit h) : compile i g = compile j h := by
  have texts : (compile i g).render = (compile j h).render := by
    simpa [Emitter.gitlab, Emitter.onNodes, ng, nh] using same
  exact Pipeline.render_injective (plain_compile hg hi) (plain_compile hh hj) texts

/-- A script line that looks like a rule, on the default branch or on a branch of that name, and a
job that has neither image nor script. -/
def lookalikeGraph (branch : Option String) : Graph :=
  ⟨[⟨"t", "Push", .trigger ⟨"trigger_push", { branch }⟩⟩,
    ⟨"a", "script:", .job ⟨.unknown "mine", {}⟩⟩,
    ⟨"b", "b",
      .job ⟨.dockerBuild none, { command := some "if: $CI_COMMIT_BRANCH == \"main\"" }⟩⟩],
    [⟨"a", "b"⟩, ⟨"a", "b"⟩]⟩

theorem pipeline_eq_of_emit_eq_lookalike :
    lookalikeGraph none ≠ lookalikeGraph (some "main") ∧
    compile "alpine" (lookalikeGraph none) = compile "alpine" (lookalikeGraph (some "main")) := by
  refine ⟨by decide, pipeline_eq_of_emit_eq rfl rfl ?_ ?_ (by decide) (by decide) ?_⟩
  · decide +kernel
  · decide +kernel
  · decide +kernel

end PipelineCompiler.Gitlab
