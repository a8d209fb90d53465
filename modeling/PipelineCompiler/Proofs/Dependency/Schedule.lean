import Mathlib.Data.Finset.Card
import Mathlib.Data.List.Nodup
import PipelineCompiler.Emitter
import PipelineCompiler.Proofs.Diagnostic.JobKeys
import PipelineCompiler.Proofs.Graph.Texts

namespace PipelineCompiler

/-- Jobs by key, each with the keys of the jobs that it needs. -/
abbrev NeedTable := List (String × List String)

def Github.Workflow.needTable (w : Github.Workflow) : NeedTable :=
  w.jobs.map fun (key, j) => (key, j.needs)

def Gitlab.Pipeline.needTable (p : Gitlab.Pipeline) : NeedTable :=
  p.jobs.map fun (key, j) => (key, j.needs)

namespace NeedTable

open Relation (TransGen)

variable {jobs : NeedTable}

/-- A job under the key `b` needs `a`. -/
def Needs (jobs : NeedTable) (a b : String) : Prop := ∃ needed, (b, needed) ∈ jobs ∧ a ∈ needed

def Acyclic (jobs : NeedTable) : Prop := ∀ key, ¬ TransGen (Needs jobs) key key

/-- Every job comes after all jobs that it needs. -/
def IsSchedule (order : NeedTable) : Prop :=
  ∀ i j : Fin order.length, (order.get i).1 ∈ (order.get j).2 → i < j

def Schedulable (jobs : NeedTable) : Prop := ∃ order : NeedTable, order.Perm jobs ∧ IsSchedule order

/-- In a schedule, a job that needs a key in some steps comes after every job under that key. -/
theorem after_of_transGen {order : NeedTable} (h : IsSchedule order) {a b : String}
    (path : TransGen (Needs order) a b) :
    ∃ j : Fin order.length, (order.get j).1 = b ∧ ∀ i : Fin order.length,
    (order.get i).1 = a → i < j := by
  induction path with
  | single step =>
    obtain ⟨needed, hb, ha⟩ := step
    obtain ⟨j, hj⟩ := List.mem_iff_get.mp hb
    refine ⟨j, by rw [hj], fun i hi => h i j ?_⟩
    rw [hi, hj]
    exact ha
  | tail _ step ih =>
    obtain ⟨k, hk, before⟩ := ih
    obtain ⟨needed, hb, ha⟩ := step
    obtain ⟨j, hj⟩ := List.mem_iff_get.mp hb
    have last : k < j := h k j (by rw [hk, hj]; exact ha)
    exact ⟨j, by rw [hj], fun i hi => Fin.lt_trans (before i hi) last⟩

theorem acyclic_of_schedulable (h : Schedulable jobs) : Acyclic jobs := by
  obtain ⟨order, perm, schedule⟩ := h
  intro key cycle
  have same : Needs jobs = Needs order := by
    funext a b
    simp only [Needs, perm.mem_iff]
  rw [same] at cycle
  obtain ⟨j, hj, before⟩ := after_of_transGen schedule cycle
  exact Nat.lt_irrefl _ (before j hj)

open Classical in
/-- How many keys of the table lead to a key. -/
noncomputable def rank (jobs : NeedTable) (key : String) : Nat :=
  ((jobs.map (·.1)).toFinset.filter fun a => TransGen (Needs jobs) a key).card

theorem rank_lt (h : Acyclic jobs) {a b : String} (ha : a ∈ jobs.map (·.1))
    (step : Needs jobs a b) : rank jobs a < rank jobs b := by
  classical
  apply Finset.card_lt_card
  apply Finset.ssubset_iff_subset_ne.mpr
  constructor
  · intro c hc
    obtain ⟨hc, path⟩ := Finset.mem_filter.mp hc
    exact Finset.mem_filter.mpr ⟨hc, path.tail step⟩
  · intro same
    have mem :=
      (Finset.ext_iff.mp same a).mpr (Finset.mem_filter.mpr ⟨List.mem_toFinset.mpr ha,
        .single step⟩)
    exact h a (Finset.mem_filter.mp mem).2

/-- Sorting the jobs by rank is a schedule. -/
theorem schedulable_of_acyclic (h : Acyclic jobs) : Schedulable jobs := by
  let order := jobs.mergeSort fun x y => rank jobs x.1 ≤ rank jobs y.1
  have perm : order.Perm jobs := List.mergeSort_perm _ _
  have sorted : order.Pairwise fun x y => rank jobs x.1 ≤ rank jobs y.1 := by
    have decided : order.Pairwise fun x y => decide (rank jobs x.1 ≤ rank jobs y.1) = true := by
      apply List.pairwise_mergeSort
      · simpa using fun a b c => Nat.le_trans
      · simpa using fun a b => Nat.le_total _ _
    simpa using decided
  refine ⟨order, perm, fun i j need => ?_⟩
  have less : rank jobs (order.get i).1 < rank jobs (order.get j).1 := by
    apply rank_lt h
    · exact List.mem_map_of_mem (perm.mem_iff.mp (List.get_mem _ _))
    · exact ⟨(order.get j).2, perm.mem_iff.mp (List.get_mem _ _), need⟩
  by_contra behind
  rcases Nat.lt_or_eq_of_le (Nat.le_of_not_lt behind) with earlier | same
  · have := List.pairwise_iff_get.mp sorted j i earlier
    omega
  · have : i = j := Fin.ext same.symm
    subst this
    exact Nat.lt_irrefl _ less

theorem acyclic_iff_schedulable (jobs : NeedTable) : Acyclic jobs ↔ Schedulable jobs :=
  ⟨schedulable_of_acyclic, acyclic_of_schedulable⟩

end NeedTable

namespace Dependency

open Relation (TransGen)
open NeedTable

/-- What the jobs of a graph need, whatever the dialect. -/
def needTable (g : Graph) : NeedTable := g.jobs.map fun (n, _) => (n.jobKey, needs g n)

theorem needTable_github (runner : String) (g : Graph) :
    (Github.compile runner g).needTable = needTable g := by
  simp [Github.Workflow.needTable, Github.compile, Github.compileJob, needTable]

theorem needTable_gitlab (image : String) (g : Graph) :
    (Gitlab.compile image g).needTable = needTable g := by
  simp [Gitlab.Pipeline.needTable, Gitlab.compile, Gitlab.compileJob, needTable]

theorem exists_mem_jobs_iff {g : Graph} {n : Node} :
    (∃ j, (n, j) ∈ g.jobs) ↔ n ∈ g.nodes ∧ n.isJob = true := by
  simp only [Graph.mem_jobs, Node.isJob, Node.job?]
  cases n.block with
  | trigger t => simp
  | job j => simp

theorem needs_needTable_iff {g : Graph} {a b : String} : Needs (needTable g) a b ↔
    ∃ n ∈ g.nodes, n.isJob = true ∧ n.jobKey = b ∧
      ∃ u ∈ vertices g, u.jobKey = a ∧ ⟨u.id, n.id⟩ ∈ g.edges := by
  simp only [Needs, needTable, List.mem_map, Prod.mk.injEq]
  constructor
  · rintro ⟨_, ⟨⟨n, j⟩, hn, rfl, rfl⟩, ha⟩
    obtain ⟨hn, job⟩ := exists_mem_jobs_iff.mp ⟨j, hn⟩
    exact ⟨n, hn, job, rfl, mem_needs.mp ha⟩
  · rintro ⟨n, hn, job, rfl, h⟩
    obtain ⟨j, hj⟩ := exists_mem_jobs_iff.mpr ⟨hn, job⟩
    exact ⟨needs g n, ⟨(n, j), hj, rfl, rfl⟩, mem_needs.mpr h⟩

theorem eq_of_jobKey_eq {g : Graph} (distinct : (Diagnostic.jobKeys g).Nodup) {m n : Node}
    (hm : m ∈ g.nodes) (hn : n ∈ g.nodes) (jm : m.isJob = true) (jn : n.isJob = true)
    (same : m.jobKey = n.jobKey) : m = n := by
  obtain ⟨j, hj⟩ := exists_mem_jobs_iff.mpr ⟨hm, jm⟩
  obtain ⟨k, hk⟩ := exists_mem_jobs_iff.mpr ⟨hn, jn⟩
  have pairs : (m, j) = (n, k) := List.inj_on_of_nodup_map distinct hj hk same
  exact congrArg Prod.fst pairs

/-- The key of the first node with an id. -/
def keyOf (g : Graph) (id : NodeId) : String := ((g.node? id).map Node.jobKey).getD ""

theorem keyOf_vertex {g : Graph} {v : Node} (hv : v ∈ vertices g) : keyOf g v.id = v.jobKey := by
  rw [keyOf, (mem_vertices.mp hv).2]
  rfl

theorem mem_nodes_of_mem_vertices {g : Graph} {v : Node} (hv : v ∈ vertices g) : v ∈ g.nodes :=
  List.mem_of_find?_eq_some (mem_vertices.mp hv).2

/-- An arrow between vertices is a need between their jobs. -/
theorem needs_of_leads {g : Graph} {s t : NodeId} (h : Leads (arrows g) s t) :
    Needs (needTable g) (keyOf g s) (keyOf g t) := by
  obtain ⟨he, hs, ht⟩ := leads_arrows_iff.mp h
  obtain ⟨u, hu, rfl⟩ := List.mem_map.mp hs
  obtain ⟨v, hv, rfl⟩ := List.mem_map.mp ht
  rw [keyOf_vertex hu, keyOf_vertex hv]
  exact needs_needTable_iff.mpr
    ⟨v, mem_nodes_of_mem_vertices hv, (mem_vertices.mp hv).1, rfl, u, hu, rfl, he⟩

/-- With distinct keys, needs that end at a vertex come from a path of arrows to it. A job that is
no vertex is needed by none, so no path leads through it. -/
theorem leads_of_needs {g : Graph} (distinct : (Diagnostic.jobKeys g).Nodup) {a b : String}
    (path : TransGen (Needs (needTable g)) a b) {v : Node} (hv : v ∈ vertices g)
    (hb : v.jobKey = b) :
    ∃ u ∈ vertices g, u.jobKey = a ∧ TransGen (Leads (arrows g)) u.id v.id := by
  have last {a : String} {v : Node} (hv : v ∈ vertices g) (step : Needs (needTable g) a v.jobKey) :
      ∃ u ∈ vertices g, u.jobKey = a ∧ Leads (arrows g) u.id v.id := by
    obtain ⟨n, hn, job, same, u, hu, ha, he⟩ := needs_needTable_iff.mp step
    have eq :=
      eq_of_jobKey_eq distinct hn (mem_nodes_of_mem_vertices hv) job (mem_vertices.mp hv).1 same
    subst eq
    exact ⟨u, hu, ha, leads_arrows_iff.mpr ⟨he, List.mem_map_of_mem hu, List.mem_map_of_mem hv⟩⟩
  induction path generalizing v with
  | single step =>
    subst hb
    obtain ⟨u, hu, ha, arrow⟩ := last hv step
    exact ⟨u, hu, ha, .single arrow⟩
  | tail _ step ih =>
    subst hb
    obtain ⟨w, hw, hc, arrow⟩ := last hv step
    obtain ⟨u, hu, ha, before⟩ := ih hw hc
    exact ⟨u, hu, ha, before.tail arrow⟩

theorem cycles_eq_nil_iff_acyclic {g : Graph} (distinct : (Diagnostic.jobKeys g).Nodup) :
    cycles g = [] ↔ Acyclic (needTable g) := by
  rw [cycles_eq_nil_iff]
  constructor
  · intro none key cycle
    obtain ⟨b, first, -⟩ := TransGen.head'_iff.mp cycle
    obtain ⟨-, -, -, -, v, hv, hk, -⟩ := needs_needTable_iff.mp first
    obtain ⟨u, hu, same, path⟩ := leads_of_needs distinct cycle hv hk
    have eq :=
      eq_of_jobKey_eq distinct (mem_nodes_of_mem_vertices hu) (mem_nodes_of_mem_vertices hv)
      (mem_vertices.mp hu).1 (mem_vertices.mp hv).1 (same.trans hk.symm)
    subst eq
    exact none u hu path
  · intro acyclic v _ path
    exact acyclic _ (path.lift (keyOf g) fun _ _ => needs_of_leads)

theorem dependencyCycle_mem_diagnose {g : Graph} {jobs : List String} :
    .dependencyCycle jobs ∈ Diagnostic.diagnose g ↔ .dependencyCycle jobs ∈ Diagnostic.ofCycles g :=
  Diagnostic.mem_diagnose_iff

theorem cycles_eq_nil_iff_diagnose (g : Graph) :
    cycles g = [] ↔ ∀ jobs, Warning.dependencyCycle jobs ∉ Diagnostic.diagnose g := by
  simp only [dependencyCycle_mem_diagnose, Diagnostic.ofCycles]
  constructor
  · intro none jobs h
    simp [none] at h
  · intro unreported
    apply List.eq_nil_iff_forall_not_mem.mpr
    intro c hc
    exact unreported _ (List.mem_map_of_mem hc)

/-- Where all keys differ, a graph without a reported cycle is one whose jobs, in either dialect,
can be put in an order that respects their needs. -/
theorem cycle_unreported_iff_schedulable {g : Graph}
    (distinct : ∀ key nodes, Warning.duplicateJobKey key nodes ∉ Diagnostic.diagnose g)
    (runner image : String) :
    (Github.compile runner g).needTable = (Gitlab.compile image g).needTable ∧
    ((∀ jobs, Warning.dependencyCycle jobs ∉ Diagnostic.diagnose g) ↔
      Acyclic (Github.compile runner g).needTable) ∧
    (Acyclic (Github.compile runner g).needTable ↔
      Schedulable (Github.compile runner g).needTable) := by
  have keys := (Diagnostic.nodup_jobKeys_iff g).mpr distinct
  refine ⟨?_, ?_, acyclic_iff_schedulable _⟩
  · rw [needTable_github, needTable_gitlab]
  · rw [needTable_github, ← cycles_eq_nil_iff_diagnose, cycles_eq_nil_iff_acyclic keys]

/-- Two jobs that need each other, a third with the id of the first, an edge from
nowhere, and a repeated one. -/
def tangledGraph : Graph :=
  ⟨[⟨"t", "Push", .trigger ⟨"trigger_push", {}⟩⟩, ⟨"a", "Lint", .job ⟨.lint, {}⟩⟩,
      ⟨"b", "Scan", .job ⟨.securityScan, {}⟩⟩, ⟨"a", "Cache", .job ⟨.cache, {}⟩⟩],
    [⟨"a", "b"⟩, ⟨"t", "a"⟩, ⟨"x", "b"⟩, ⟨"b", "a"⟩, ⟨"a", "b"⟩]⟩

theorem cycle_unreported_iff_schedulable_tangled :
    (∀ key nodes, Warning.duplicateJobKey key nodes ∉ Diagnostic.diagnose tangledGraph) ∧
    Warning.dependencyCycle ["lint", "scan"] ∈ Diagnostic.diagnose tangledGraph ∧
    ¬ Schedulable (Github.compile "ubuntu" tangledGraph).needTable := by
  have distinct := (Diagnostic.nodup_jobKeys_iff tangledGraph).mp (by decide +kernel)
  have reported : Warning.dependencyCycle ["lint", "scan"] ∈ Diagnostic.diagnose tangledGraph := by
    decide +kernel
  have equivalent := cycle_unreported_iff_schedulable distinct "ubuntu" "alpine"
  refine ⟨distinct, reported, fun schedulable => ?_⟩
  exact equivalent.2.1.mpr (equivalent.2.2.mpr schedulable) _ reported

end Dependency

end PipelineCompiler
