import Mathlib.Algebra.BigOperators.Group.List.Basic
import Mathlib.Algebra.GroupWithZero.Nat
import PipelineCompiler.Proofs.Diagnostic.Kinds
import PipelineCompiler.Proofs.Graph.JobNodes

namespace PipelineCompiler

def Warning.isDanglingEdge : Warning → Bool
  | danglingEdge .. => true
  | _ => false

/-- The warnings about edges whose ends are not there. -/
def Diagnostic.danglingEdges (g : Graph) : List Warning := (diagnose g).filter (·.isDanglingEdge)

/-- The graph with a single edge. -/
def Graph.only (g : Graph) (e : Edge) : Graph := { g with edges := [e] }

/-- No node has the id. -/
def Graph.Lacks (g : Graph) (id : NodeId) : Prop := ∀ n ∈ g.nodes, n.id ≠ id

namespace Edge

/-- The edge leads from one node to another, and the two are related. -/
def Joins (g : Graph) (related : Node → Node → Prop) (e : Edge) : Prop :=
  ∃ s ∈ g.nodes, s.id = e.source ∧ ∃ t ∈ g.nodes, t.id = e.target ∧ related s t

def JoinsJobs (g : Graph) : Edge → Prop := Joins g fun s t => s.role = .job ∧ t.role = .job

def MeetsTrigger (g : Graph) : Edge → Prop :=
  Joins g fun s t => s.role = .trigger ∨ t.role = .trigger

def Dangles (g : Graph) (e : Edge) : Prop := g.Lacks e.source ∨ g.Lacks e.target

instance (g : Graph) : DecidablePred (MeetsTrigger g) := fun e =>
  inferInstanceAs (Decidable (∃ s ∈ g.nodes, s.id = e.source ∧ ∃ t ∈ g.nodes, t.id = e.target ∧
    (s.role = .trigger ∨ t.role = .trigger)))

/-- What the edge by itself makes of the needs of the jobs, and of the warnings. -/
def Yields (g : Graph) (e : Edge) (needed : Node → List String) (warnings : List Warning) : Prop :=
  (∀ n ∈ g.jobNodes, Dependency.needs (g.only e) n = needed n) ∧
    Diagnostic.danglingEdges (g.only e) = warnings

end Edge

namespace Diagnostic

theorem danglingEdges_eq (g : Graph) : danglingEdges g = ofEdges g := by
  have kinds (w : Warning) : w.isDanglingEdge = decide (w.kind = .edge) := by
    cases w <;> rfl
  simp only [danglingEdges, kinds]
  exact filter_kind_diagnose g .edge

theorem danglingEdges_only (g : Graph) (e : Edge) : danglingEdges (g.only e) =
    ((missingEnd? g e).map fun id => Warning.danglingEdge e.source e.target id).toList := by
  rw [danglingEdges_eq, ofEdges, List.filterMap_eq_flatMap_toList]
  exact List.flatMap_singleton _ _

/-- The warnings follow the edges. -/
theorem danglingEdges_eq_flatMap (g : Graph) :
    danglingEdges g = g.edges.flatMap fun e => danglingEdges (g.only e) := by
  simp only [danglingEdges_only]
  rw [danglingEdges_eq, ofEdges, List.filterMap_eq_flatMap_toList]

theorem missingEnd?_eq_none {g : Graph} {e : Edge} : missingEnd? g e = none ↔ ¬ e.Dangles g := by
  simp [missingEnd?, Edge.Dangles, Graph.Lacks, Graph.node?]

theorem missingEnd?_eq_some {g : Graph} {e : Edge} {id : NodeId} (h : missingEnd? g e = some id) :
    (id = e.source ∨ id = e.target) ∧ g.Lacks id := by
  constructor
  · simpa using List.mem_of_find?_eq_some h
  · have none : (g.node? id).isNone = true := List.find?_some (p := fun i => (g.node? i).isNone) h
    exact Graph.node?_eq_none.mp (Option.isNone_iff_eq_none.mp none)

end Diagnostic

namespace Dependency

/-- What an edge by itself adds to the needs of a node. -/
theorem needs_only (g : Graph) (e : Edge) (n : Node) : needs (g.only e) n =
    if e.target = n.id then
      ((g.node? e.source).bind fun s => if s.isJob then some s.jobKey else none).toList
    else [] := by
  rw [needs, Graph.incoming, List.filterMap_eq_flatMap_toList]
  by_cases h : e.target = n.id
  · simp [Graph.only, h, Graph.node?]
  · simp [Graph.only, h]

/-- The needs follow the edges. -/
theorem needs_eq_flatMap (g : Graph) (n : Node) :
    needs g n = g.edges.flatMap fun e => needs (g.only e) n := by
  simp only [needs_only]
  rw [needs, Graph.incoming, List.filterMap_eq_flatMap_toList]
  induction g.edges with
  | nil => rfl
  | cons e rest ih =>
    by_cases h : e.target = n.id <;> simp [h, ih]

end Dependency

namespace Edge

variable {g : Graph} {e : Edge}

theorem not_dangles_iff : ¬ e.Dangles g ↔ e.Joins g fun _ _ => True := by
  simp only [Dangles, Graph.Lacks, Joins, not_or, not_forall, not_not, exists_prop, and_true]
  constructor
  · rintro ⟨⟨s, hs, source⟩, target⟩
    exact ⟨s, hs, source, target⟩
  · rintro ⟨s, hs, source, target⟩
    exact ⟨⟨s, hs, source⟩, target⟩

theorem Joins.mono {p q : Node → Node → Prop} (h : e.Joins g p) (imp : ∀ s t, p s t → q s t) :
    e.Joins g q := by
  obtain ⟨s, hs, source, t, ht, target, related⟩ := h
  exact ⟨s, hs, source, t, ht, target, imp s t related⟩

theorem Dangles.yields (h : e.Dangles g) : ∃ id, (id = e.source ∨ id = e.target) ∧ g.Lacks id ∧
    e.Yields g (fun _ => []) [.danglingEdge e.source e.target id] := by
  obtain ⟨id, found⟩ : ∃ id, Diagnostic.missingEnd? g e = some id := by
    apply Option.ne_none_iff_exists'.mp
    exact mt Diagnostic.missingEnd?_eq_none.mp (not_not_intro h)
  obtain ⟨isEnd, lacks⟩ := Diagnostic.missingEnd?_eq_some found
  refine ⟨id, isEnd, lacks, fun n hn => ?_, ?_⟩
  · rw [Dependency.needs_only]
    rcases h with source | target
    · simp [Graph.node?_eq_none.mpr source]
    · have other : e.target ≠ n.id := fun same => target n (Graph.mem_jobNodes.mp hn).1 same.symm
      simp [other]
  · rw [Diagnostic.danglingEdges_only, found]
    rfl

theorem Joins.danglingEdges_only {p : Node → Node → Prop} (h : e.Joins g p) :
    Diagnostic.danglingEdges (g.only e) = [] := by
  have none :=
    Diagnostic.missingEnd?_eq_none.mpr (not_dangles_iff.mpr (h.mono fun _ _ _ => trivial))
  rw [Diagnostic.danglingEdges_only, none]
  rfl

section Distinct

variable (distinct : (g.nodes.map (·.id)).Nodup)
include distinct

theorem MeetsTrigger.not_joinsJobs (h : MeetsTrigger g e) : ¬ JoinsJobs g e := by
  rintro ⟨s, hs, source, t, ht, target, sourceJob, targetJob⟩
  obtain ⟨s', hs', source', t', ht', target', trigger⟩ := h
  have sameSource := List.inj_on_of_nodup_map distinct hs hs' (source.trans source'.symm)
  have sameTarget := List.inj_on_of_nodup_map distinct ht ht' (target.trans target'.symm)
  subst sameSource sameTarget
  rcases trigger with h | h
  · rw [h] at sourceJob
    cases sourceJob
  · rw [h] at targetJob
    cases targetJob

/-- An edge is of one of three kinds, and of no other. -/
theorem joinsJobs_or_meetsTrigger_or_dangles (e : Edge) :
    (e.JoinsJobs g ∧ ¬ e.MeetsTrigger g ∧ ¬ e.Dangles g) ∨
      (¬ e.JoinsJobs g ∧ e.MeetsTrigger g ∧ ¬ e.Dangles g) ∨
      (¬ e.JoinsJobs g ∧ ¬ e.MeetsTrigger g ∧ e.Dangles g) := by
  by_cases dangles : e.Dangles g
  · have apart (p : Node → Node → Prop) : ¬ e.Joins g p := fun h =>
      not_dangles_iff.mpr (h.mono fun _ _ _ => trivial) dangles
    exact .inr (.inr ⟨apart _, apart _, dangles⟩)
  · by_cases trigger : e.MeetsTrigger g
    · exact .inr (.inl ⟨trigger.not_joinsJobs distinct, trigger, dangles⟩)
    · refine .inl ⟨?_, trigger, dangles⟩
      obtain ⟨s, hs, source, t, ht, target, -⟩ := not_dangles_iff.mp dangles
      have jobs : s.role = .job ∧ t.role = .job := by
        constructor
        · exact s.role_eq_trigger_or_job.resolve_left fun h =>
            trigger ⟨s, hs, source, t, ht, target, .inl h⟩
        · exact t.role_eq_trigger_or_job.resolve_left fun h =>
            trigger ⟨s, hs, source, t, ht, target, .inr h⟩
      exact ⟨s, hs, source, t, ht, target, jobs⟩

theorem JoinsJobs.yields (h : e.JoinsJobs g) : e.Joins g fun s t =>
    t.role = .job ∧ e.Yields g (fun n => if n = t then [s.jobKey] else []) [] := by
  obtain ⟨s, hs, source, t, ht, target, sourceJob, targetJob⟩ := id h
  refine ⟨s, hs, source, t, ht, target, targetJob, fun n hn => ?_, Joins.danglingEdges_only h⟩
  have found : g.node? e.source = some s := source ▸ Graph.node?_of_mem distinct hs
  have job := Node.isJob_iff.mpr sourceJob
  rw [Dependency.needs_only, found, ← target]
  by_cases same : n = t
  · simp [same, job]
  · have other : t.id ≠ n.id := fun eq =>
      same (List.inj_on_of_nodup_map distinct (Graph.mem_jobNodes.mp hn).1 ht eq.symm)
    simp [same, other]

theorem MeetsTrigger.yields (h : e.MeetsTrigger g) : e.Yields g (fun _ => []) [] := by
  refine ⟨fun n hn => ?_, Joins.danglingEdges_only h⟩
  obtain ⟨s, hs, source, t, ht, target, trigger⟩ := h
  obtain ⟨hn, job⟩ := Graph.mem_jobNodes.mp hn
  have found : g.node? e.source = some s := source ▸ Graph.node?_of_mem distinct hs
  rw [Dependency.needs_only, found]
  rcases trigger with sourceTrigger | targetTrigger
  · have idle : s.isJob = false := by
      rw [Bool.eq_false_iff, Ne, Node.isJob_iff, sourceTrigger]
      decide
    simp [idle]
  · have other : e.target ≠ n.id := by
      intro eq
      have same := List.inj_on_of_nodup_map distinct hn ht (eq.symm.trans target.symm)
      rw [same, targetTrigger] at job
      cases job
    simp [other]

/-- An edge counts once: as an entry in the needs of a job, as an edge at a
trigger, or as a warning. -/
theorem counts_once (e : Edge) :
    (g.jobNodes.map fun n => (Dependency.needs (g.only e) n).length).sum +
    (if e.MeetsTrigger g then 1 else 0) + (Diagnostic.danglingEdges (g.only e)).length = 1 := by
  have unneeded {warnings : List Warning} (h : e.Yields g (fun _ => []) warnings) :
      (g.jobNodes.map fun n => (Dependency.needs (g.only e) n).length).sum = 0 := by
    apply List.sum_eq_zero
    exact List.forall_mem_map.mpr fun n hn => by rw [h.1 n hn, List.length_nil]
  rcases joinsJobs_or_meetsTrigger_or_dangles distinct e with ⟨jobs, trigger, -⟩ | ⟨-, trigger, -⟩ |
    ⟨-, trigger, h⟩
  · obtain ⟨s, -, -, t, ht, -, job, needed, silent⟩ := jobs.yields distinct
    have lengths : (g.jobNodes.map fun n => (Dependency.needs (g.only e) n).length) =
        g.jobNodes.map fun n => if n = t then 1 else 0 := by
      apply List.map_congr_left
      intro n hn
      rw [needed n hn]
      by_cases same : n = t <;> simp [same]
    have once : g.jobNodes.count t = 1 :=
      List.count_eq_one_of_mem (distinct.of_map.filter _) (Graph.mem_jobNodes.mpr ⟨ht, job⟩)
    have sum := List.sum_map_eq_nsmul_single t (fun n => if n = t then 1 else 0) (l := g.jobNodes)
      fun n other _ => if_neg other
    rw [lengths, sum, once, if_neg trigger, silent]
    simp
  · have yields := trigger.yields distinct
    rw [unneeded yields, yields.2, if_pos trigger]
    rfl
  · obtain ⟨id, -, -, yields⟩ := h.yields
    rw [unneeded yields, yields.2, if_neg trigger]
    rfl

/-- Any run of edges counts as many times as it is long. -/
theorem counts (es : List Edge) :
    (g.jobNodes.map fun n => (es.flatMap fun e => Dependency.needs (g.only e) n).length).sum +
      es.countP (·.MeetsTrigger g) + (es.flatMap fun e =>
        Diagnostic.danglingEdges (g.only e)).length =
        es.length := by
  induction es with
  | nil => simp
  | cons e rest ih =>
    have one := counts_once distinct e
    simp only [List.flatMap_cons, List.length_append, List.sum_map_add, List.countP_cons,
      List.length_cons, decide_eq_true_eq]
    omega

end Distinct

end Edge

namespace Dependency

/-- In a graph without repeated ids every edge is an entry in the needs of the one job that it
leads to, or has a trigger at an end and counts for nothing, or is reported; needs and reports
come in the order of the edges. -/
theorem edges_conserved {g : Graph} (distinct : (g.nodes.map (·.id)).Nodup) :
    (∀ e ∈ g.edges,
      ((e.JoinsJobs g ∧ ¬ e.MeetsTrigger g ∧ ¬ e.Dangles g) ∨
        (¬ e.JoinsJobs g ∧ e.MeetsTrigger g ∧ ¬ e.Dangles g) ∨
        (¬ e.JoinsJobs g ∧ ¬ e.MeetsTrigger g ∧ e.Dangles g)) ∧
      (e.JoinsJobs g → e.Joins g fun s t =>
        t.role = .job ∧ e.Yields g (fun n => if n = t then [s.jobKey] else []) []) ∧
      (e.MeetsTrigger g → e.Yields g (fun _ => []) []) ∧
      (e.Dangles g → ∃ id, (id = e.source ∨ id = e.target) ∧ g.Lacks id ∧
        e.Yields g (fun _ => []) [.danglingEdge e.source e.target id])) ∧
    (∀ n, needs g n = g.edges.flatMap fun e => needs (g.only e) n) ∧
    (Diagnostic.danglingEdges g = g.edges.flatMap fun e => Diagnostic.danglingEdges (g.only e)) ∧
    (g.jobNodes.map fun n => (needs g n).length).sum + g.edges.countP (·.MeetsTrigger g) +
      (Diagnostic.danglingEdges g).length = g.edges.length := by
  refine ⟨fun e _ => ?_, needs_eq_flatMap g, Diagnostic.danglingEdges_eq_flatMap g, ?_⟩
  · exact ⟨Edge.joinsJobs_or_meetsTrigger_or_dangles distinct e, fun h => h.yields distinct,
      fun h => h.yields distinct, Edge.Dangles.yields⟩
  · have counts := Edge.counts distinct g.edges
    rwa [← Diagnostic.danglingEdges_eq_flatMap,
      List.map_congr_left fun n _ => by rw [← needs_eq_flatMap]] at counts

/-- A repeated edge, a job that needs itself, edges into and out of a trigger, and edges with
one end or with none. -/
def mixedGraph : Graph :=
  ⟨[⟨"t", "Push", .trigger ⟨"trigger_push", {}⟩⟩, ⟨"a", "Lint", .job ⟨.lint, {}⟩⟩,
      ⟨"b", "Scan", .job ⟨.securityScan, {}⟩⟩],
    [⟨"a", "b"⟩, ⟨"t", "a"⟩, ⟨"x", "b"⟩, ⟨"a", "a"⟩, ⟨"a", "b"⟩, ⟨"b", "t"⟩,
      ⟨"x", "y"⟩, ⟨"b", "y"⟩]⟩

theorem edges_conserved_mixed : (mixedGraph.nodes.map (·.id)).Nodup ∧
    (mixedGraph.jobNodes.map fun n => (needs mixedGraph n).length).sum = 3 ∧
    mixedGraph.edges.countP (·.MeetsTrigger mixedGraph) = 2 ∧
    (Diagnostic.danglingEdges mixedGraph).length = 3 := by
  have distinct : (mixedGraph.nodes.map (·.id)).Nodup := by decide
  have needed : (mixedGraph.jobNodes.map fun n => (needs mixedGraph n).length).sum = 3 := by
    decide +kernel
  have triggers : mixedGraph.edges.countP (·.MeetsTrigger mixedGraph) = 2 := by decide +kernel
  have total := (edges_conserved distinct).2.2.2
  rw [needed, triggers] at total
  have edges : mixedGraph.edges.length = 8 := rfl
  exact ⟨distinct, needed, triggers, by omega⟩

end Dependency

end PipelineCompiler
