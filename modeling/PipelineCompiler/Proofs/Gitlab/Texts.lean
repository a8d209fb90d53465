import PipelineCompiler.Emitter
import PipelineCompiler.Proofs.Gitlab.Rendering
import PipelineCompiler.Proofs.Graph.Texts

namespace PipelineCompiler.Gitlab

open Text (OneLine Robust oneLine_ofList)

def Cache.texts (c : Cache) : List String := c.key :: c.paths

def Job.texts (j : Job) : List String :=
  j.image.toList ++ j.services ++ j.cache.toList.flatMap Cache.texts ++ j.script ++
  j.rules.map Rule.condition

def Pipeline.texts (p : Pipeline) : List String :=
  p.defaultImage :: p.jobs.flatMap fun e => e.2.texts

theorem oneLine_servicesOf (t : Toolchain) : ∀ s ∈ servicesOf t, OneLine s := by
  cases t with
  | docker image => exact List.forall_mem_singleton.mpr (oneLine_ofList (by decide))
  | node | python | go => exact List.forall_mem_nil _

theorem oneLine_packageCache : ∀ s ∈ packageCache.texts, OneLine s := by
  refine List.forall_mem_cons.mpr ⟨?_, List.forall_mem_singleton.mpr ?_⟩
  all_goals exact oneLine_ofList (by decide)

section Robust

variable {Q : String → Prop} (robust : Robust Q)
include robust

theorem robust_imageOf {t : Toolchain} (h : Q t.setting) : Q (imageOf t) := by
  cases t with
  | node v | python v => exact robust.enclose _ _ (by decide) (by decide) (by decide) h
  | go v => exact robust.behind h "golang:" (by decide)
  | docker image => exact robust.oneLine (oneLine_ofList (by decide))

theorem robust_builtinScript {kind : JobKind} (h : ∀ s ∈ kind.setting?, Q s) :
    ∀ s ∈ builtinScript kind, Q s := by
  have fixed {cs : List Char} (hcs : '\n' ∉ cs) : Q (String.ofList cs) :=
    robust.oneLine (oneLine_ofList hcs)
  cases kind with
  | dockerBuild image =>
    have name : Q (image.getD SettingKey.imageName.fallback) := robust.getD h (by decide)
    exact List.forall_mem_singleton.mpr
      (robust.enclose _ _ (by decide) (by decide) (by decide) name)
  | unknown => exact List.forall_mem_nil _
  | nodeTest | nodeBuild | pythonTest | pythonBuild | goBuild | lint =>
    refine List.forall_mem_cons.mpr ⟨?_, List.forall_mem_singleton.mpr ?_⟩
    all_goals exact fixed (by decide)
  | notifySlack =>
    refine List.forall_mem_singleton.mpr (robust.oneLine (Text.oneLine_append.mpr ⟨?_, ?_⟩))
    all_goals exact oneLine_ofList (by decide)
  | securityScan | deployVercel | deployAws | deployGcp | cache =>
    exact List.forall_mem_singleton.mpr (fixed (by decide))

theorem robust_planScript {p : PlanStep} (h : ∀ s ∈ p.texts, Q s) : ∀ s ∈ planScript p, Q s := by
  cases p with
  | checkout | setup | install | cache => exact List.forall_mem_nil _
  | command label command => exact (List.forall_mem_cons.mp h).2
  | builtin kind =>
    apply robust_builtinScript robust
    simpa [PlanStep.texts] using h

theorem robust_onBranch {branch : String} (h : Q branch) : Q (Rule.onBranch branch).condition :=
  robust.enclose _ _ (oneLine_ofList (by decide)) (by decide) (by decide) h

section Compile

variable {g : Graph} (h : ∀ s ∈ g.texts, Q s)
include h

theorem robust_compileJob {n : Node} {j : PipelineCompiler.Job} (hn : n ∈ g.nodes)
    (hb : n.block = .job j) : ∀ s ∈ (compileJob g n j).texts, Q s := by
  have image : ∀ s ∈ (Toolchain.ofKind? j.kind).map imageOf, Q s := by
    intro s hs
    obtain ⟨t, ht, rfl⟩ := Option.map_eq_some_iff.mp hs
    have setting := fun s hs => h s (setting_mem_texts hn hb s hs)
    exact robust_imageOf robust (Toolchain.robust_setting robust setting ht)
  have services : ∀ s ∈ ((Toolchain.ofKind? j.kind).map servicesOf).getD [], Q s := by
    cases Toolchain.ofKind? j.kind with
    | none => exact List.forall_mem_nil _
    | some t => exact fun s hs => robust.oneLine (oneLine_servicesOf t s hs)
  have cache : ∀ s ∈ (compileJob g n j).cache.toList.flatMap Cache.texts, Q s := by
    refine List.forall_mem_flatMap.mpr fun c hc => ?_
    obtain ⟨-, same⟩ := Option.ite_none_right_eq_some.mp (Option.mem_toList.mp hc)
    rw [← Option.some.inj same]
    exact fun s hs => robust.oneLine (oneLine_packageCache s hs)
  have script : ∀ s ∈ (compileJob g n j).script, Q s := by
    refine List.forall_mem_flatMap.mpr fun p hp => ?_
    exact robust_planScript robust (Plan.robust_steps_of_mem robust h hn hb p hp)
  have rule : Q (Rule.onBranch g.branch).condition :=
    robust_onBranch robust (robust_branch robust h)
  simp only [Job.texts, List.forall_mem_append]
  exact ⟨⟨⟨⟨fun s hs => image s (Option.mem_toList.mp hs), services⟩, cache⟩, script⟩,
    List.forall_mem_singleton.mpr rule⟩

/-- What holds of the texts of a graph and of the image holds of the texts of the pipeline. -/
theorem robust_compile {image : String} (hi : Q image) : ∀ s ∈ (compile image g).texts, Q s := by
  refine List.forall_mem_cons.mpr ⟨hi, List.forall_mem_flatMap.mpr fun e he => ?_⟩
  obtain ⟨⟨n, j⟩, hj, rfl⟩ := List.mem_map.mp he
  obtain ⟨hn, hb⟩ := Graph.mem_jobs.mp hj
  exact robust_compileJob robust h hn hb

end Compile

end Robust

end PipelineCompiler.Gitlab
