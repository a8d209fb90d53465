import PipelineCompiler.Plan
import PipelineCompiler.Proofs.Dependency.Reachability
import PipelineCompiler.Proofs.JobKey
import PipelineCompiler.Proofs.Text.Layout

namespace PipelineCompiler

open Text (OneLine Robust)

/-- What is copied out of a node in every dialect. -/
def Node.texts (n : Node) : List String :=
  n.label ::
    match n.block with
    | .trigger t => t.settings.branch.toList
    | .job j => j.kind.setting?.toList ++ j.options.command.toList

/-- What only some dialects spell out: when a pipeline runs, and on what machines. -/
def Node.runTexts (n : Node) : List String :=
  match n.block with
  | .trigger t => t.settings.trigger.toList ++ t.settings.cron.toList
  | .job j => j.options.runsOn.toList

namespace Graph

def texts (g : Graph) : List String := g.nodes.flatMap Node.texts

def runTexts (g : Graph) : List String := g.nodes.flatMap Node.runTexts

theorem mem_jobs {g : Graph} {n : Node} {j : Job} :
    (n, j) ∈ g.jobs ↔ n ∈ g.nodes ∧ n.block = .job j := by
  simp only [jobs, List.mem_filterMap, Option.map_eq_some_iff, Prod.mk.injEq]
  constructor
  · rintro ⟨m, hm, k, hk, rfl, rfl⟩
    refine ⟨hm, ?_⟩
    unfold Node.job? at hk
    split at hk
    · next hb => rw [hb, Option.some.inj hk]
    · cases hk
  · rintro ⟨hn, hb⟩
    exact ⟨n, hn, j, by simp [Node.job?, hb], rfl, rfl⟩

theorem mem_triggers {g : Graph} {n : Node} {t : Trigger} :
    (n, t) ∈ g.triggers ↔ n ∈ g.nodes ∧ n.block = .trigger t := by
  simp only [triggers, List.mem_filterMap, Option.map_eq_some_iff, Prod.mk.injEq]
  constructor
  · rintro ⟨m, hm, k, hk, rfl, rfl⟩
    refine ⟨hm, ?_⟩
    unfold Node.trigger? at hk
    split at hk
    · next hb => rw [hb, Option.some.inj hk]
    · cases hk
  · rintro ⟨hn, hb⟩
    exact ⟨n, hn, t, by simp [Node.trigger?, hb], rfl, rfl⟩

theorem trigger?_mem {g : Graph} {n : Node} {t : Trigger} (h : g.trigger? = some (n, t)) :
    n ∈ g.nodes ∧ n.block = .trigger t :=
  mem_triggers.mp (List.mem_of_head? h)

end Graph

theorem Event.eq_of_ofName {s name : String} (h : Event.ofName s = .other name) : s = name := by
  unfold Event.ofName at h
  split at h
  case h_4 => exact Event.other.inj h
  all_goals cases h

section Mem

variable {g : Graph} {n : Node} (hn : n ∈ g.nodes)
include hn

theorem mem_texts {s : String} (hs : s ∈ n.texts) : s ∈ g.texts := List.mem_flatMap.mpr ⟨n, hn, hs⟩

theorem mem_runTexts {s : String} (hs : s ∈ n.runTexts) :
    s ∈ g.runTexts := List.mem_flatMap.mpr ⟨n, hn, hs⟩

theorem label_mem_texts : n.label ∈ g.texts := mem_texts hn (by simp [Node.texts])

variable {j : Job} (hb : n.block = .job j)
include hb

theorem setting_mem_texts : ∀ s ∈ j.kind.setting?, s ∈ g.texts :=
  fun _ hs => mem_texts hn (by simp_all [Node.texts])

theorem command_mem_texts : ∀ s ∈ j.options.command, s ∈ g.texts :=
  fun _ hs => mem_texts hn (by simp_all [Node.texts])

end Mem

section Robust

variable {Q : String → Prop} (robust : Robust Q) {g : Graph} (h : ∀ s ∈ g.texts, Q s)
include robust h

theorem robust_triggerBranch {n : Node} {t : Trigger} (hn : n ∈ g.nodes)
    (hb : n.block = .trigger t) : Q t.branch := by
  apply robust.getD _ (by decide)
  exact fun s hs => h s (mem_texts hn (by simp_all [Node.texts]))

theorem robust_branch : Q g.branch := by
  unfold Graph.branch
  split
  · next n t ht =>
    obtain ⟨hn, hb⟩ := Graph.trigger?_mem ht
    exact robust_triggerBranch robust h hn hb
  · exact robust.oneLine (by decide)

end Robust

/-- A character that is no small letter, digit or underscore is in no key. -/
theorem notMem_jobKey {c : Char} (plain : JobKey.isPlain c = false)
    (underscore : c ≠ '_') (n : Node) : c ∉ n.jobKey.toList := by
  intro h
  rcases JobKey.mem_normalize h with hc | hc
  · rw [plain] at hc
    cases hc
  · exact underscore hc

theorem oneLine_jobKey (n : Node) : OneLine n.jobKey := notMem_jobKey (by decide) (by decide) n

/-- Needs are keys of jobs. -/
theorem needs_plain {g : Graph} {n : Node} :
    ∀ key ∈ Dependency.needs g n, OneLine key ∧ ',' ∉ key.toList := by
  intro key h
  obtain ⟨u, -, rfl, -⟩ := Dependency.mem_needs.mp h
  exact ⟨oneLine_jobKey u, notMem_jobKey (by decide) (by decide) u⟩

namespace Toolchain

/-- The version or image of a toolchain. -/
def setting : Toolchain → String
  | node v | python v | go v | docker v => v

theorem setting_of_ofKind? {kind : JobKind} {t : Toolchain} (h : ofKind? kind = some t) :
    kind.effectiveSetting? = some t.setting := by
  unfold ofKind? at h
  split at h
  case h_5 => cases h
  all_goals
    next hv =>
      rw [hv, ← Option.some.inj h]
      rfl

theorem robust_setting {Q : String → Prop} (robust : Robust Q) {kind : JobKind} {t : Toolchain}
    (hs : ∀ s ∈ kind.setting?, Q s) (h : ofKind? kind = some t) : Q t.setting := by
  obtain ⟨key, -, hk⟩ := Option.map_eq_some_iff.mp (setting_of_ofKind? h)
  rw [← hk]
  apply robust.getD hs
  cases key <;> decide

end Toolchain

/-- What a step of a plan takes from the graph. -/
def PlanStep.texts : PlanStep → List String
  | .checkout | .cache => []
  | .setup t | .install t => [t.setting]
  | .command label line => [label, line]
  | .builtin kind => kind.setting?.toList

namespace Plan

variable {Q : String → Prop} (robust : Robust Q)
include robust

theorem robust_preparation {kind : JobKind} (hs : ∀ s ∈ kind.setting?, Q s) :
    ∀ p ∈ preparation kind, ∀ s ∈ p.texts, Q s := by
  unfold preparation
  split
  · next t ht =>
    have setting := Toolchain.robust_setting robust hs ht
    split_ifs <;> simp [PlanStep.texts, setting]
  · simp

/-- What holds of the texts of a job holds of the texts of its plan. -/
theorem robust_steps {label : String} {j : Job} (hl : Q label) (hs : ∀ s ∈ j.kind.setting?, Q s)
    (hc : ∀ s ∈ j.options.command, Q s) : ∀ p ∈ steps label j, ∀ s ∈ p.texts, Q s := by
  have worked : ∀ s ∈ (work label j).texts, Q s := by
    unfold work
    split
    · next command hcommand => simp [PlanStep.texts, hl, hc command hcommand]
    · simpa [PlanStep.texts] using hs
  intro p hp
  simp only [steps, List.mem_append, List.mem_ite_nil_right, List.mem_singleton] at hp
  rcases hp with ⟨-, rfl⟩ | ⟨-, (hp | ⟨-, rfl⟩) | rfl⟩
  · simp [PlanStep.texts]
  · exact robust_preparation robust hs p hp
  · simp [PlanStep.texts]
  · exact worked

/-- What holds of the texts of a graph holds of the texts of the plans of its jobs. -/
theorem robust_steps_of_mem {g : Graph} (h : ∀ s ∈ g.texts, Q s) {n : Node} {j : Job}
    (hn : n ∈ g.nodes) (hb : n.block = .job j) : ∀ p ∈ steps n.label j, ∀ s ∈ p.texts, Q s :=
  robust_steps robust (h _ (label_mem_texts hn)) (fun s hs => h s (setting_mem_texts hn hb s hs))
    fun s hs => h s (command_mem_texts hn hb s hs)

end Plan

end PipelineCompiler
