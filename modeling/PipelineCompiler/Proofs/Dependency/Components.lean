import PipelineCompiler.Proofs.Dependency.Reachability
import PipelineCompiler.Proofs.Diagnostic.Kinds
import PipelineCompiler.Proofs.Graph.JobNodes

namespace PipelineCompiler

/-- The warnings about jobs that need each other. -/
def Diagnostic.cycleWarnings (g : Graph) : List Warning := (diagnose g).filter (·.kind = .cycle)

namespace Dependency

open Relation (TransGen)

/-- The node is a job, and the first node with its id. -/
def IsVertex (g : Graph) (n : Node) : Prop := n.role = .job ∧ g.node? n.id = some n

/-- An edge leads from one vertex to another. -/
structure Follows (g : Graph) (u v : Node) : Prop where
  source : IsVertex g u
  target : IsVertex g v
  edge : ⟨u.id, v.id⟩ ∈ g.edges

/-- One or more edges lead from one vertex to another. -/
def Reaches (g : Graph) : Node → Node → Prop := TransGen (Follows g)

def Mutual (g : Graph) (u v : Node) : Prop := Reaches g u v ∧ Reaches g v u

/-- The one node stands in front of the other, where either is met first. -/
def Before (g : Graph) (u v : Node) : Prop := g.nodes.idxOf u < g.nodes.idxOf v

/-- The vertex is on a cycle, and no vertex of that cycle stands before it. -/
def Opens (g : Graph) (v : Node) : Prop := Reaches g v v ∧ ∀ u, Mutual g u v → ¬ Before g u v

variable {g : Graph} {u v w : Node}

theorem Mutual.symm (h : Mutual g u v) : Mutual g v u := ⟨h.2, h.1⟩

theorem Mutual.trans (h : Mutual g u v) (k : Mutual g v w) : Mutual g u w :=
  ⟨TransGen.trans h.1 k.1, TransGen.trans k.2 h.2⟩

theorem isVertex_iff : IsVertex g v ↔ v ∈ vertices g := by
  rw [mem_vertices, Node.isJob_iff, IsVertex]

theorem Reaches.source (h : Reaches g u v) : IsVertex g u := by
  obtain ⟨_, first, -⟩ := TransGen.head'_iff.mp h
  exact first.source

theorem Reaches.target (h : Reaches g u v) : IsVertex g v := by
  obtain ⟨_, -, last⟩ := TransGen.tail'_iff.mp h
  exact last.target

theorem IsVertex.eq_of_id (hu : IsVertex g u) (hv : IsVertex g v) (same : u.id = v.id) : u = v := by
  have found := hu.2
  rw [same, hv.2] at found
  exact (Option.some.inj found).symm

/-- The arrows that the search follows are the edges between vertices. -/
theorem leads_iff_follows (hu : IsVertex g u) (hv : IsVertex g v) :
    Leads (arrows g) u.id v.id ↔ Follows g u v := by
  rw [leads_arrows_iff]
  constructor
  · rintro ⟨edge, -, -⟩
    exact ⟨hu, hv, edge⟩
  · intro step
    exact ⟨step.edge, List.mem_map_of_mem (isVertex_iff.mp hu),
      List.mem_map_of_mem (isVertex_iff.mp hv)⟩

theorem transGen_leads_iff (hu : IsVertex g u) (hv : IsVertex g v) :
    TransGen (Leads (arrows g)) u.id v.id ↔ Reaches g u v := by
  constructor
  · -- Every id on the way is that of a vertex, so the path can be followed node by node.
    have along {b : NodeId} (path : TransGen (Leads (arrows g)) u.id b) :
        ∀ w, IsVertex g w → w.id = b → Reaches g u w := by
      induction path with
      | single step =>
        rintro w hw rfl
        exact .single ((leads_iff_follows hu hw).mp step)
      | tail _ step ih =>
        rintro w hw rfl
        obtain ⟨-, isSource, -⟩ := leads_arrows_iff.mp step
        obtain ⟨m, hm, rfl⟩ := List.mem_map.mp isSource
        have hm := isVertex_iff.mpr hm
        exact (ih m hm rfl).tail ((leads_iff_follows hm hw).mp step)
    intro path
    exact along path v hv rfl
  · intro path
    exact TransGen.lift Node.id (fun _ _ step =>
      (leads_iff_follows step.source step.target).mpr step) _ _ path

theorem pairwise_vertices_go (seen : List NodeId) (nodes : List Node) :
    (vertices.go seen nodes).Pairwise fun u v => nodes.idxOf u < nodes.idxOf v := by
  induction nodes generalizing seen with
  | nil => exact .nil
  | cons n rest ih =>
    -- What is met later has another id than `n`, so its place moves by one.
    have later {seen : List NodeId} (hn : n.id ∈ seen) :
        (vertices.go seen rest).Pairwise fun u v => (n :: rest).idxOf u < (n :: rest).idxOf v := by
      have other {v : Node} (hv : v ∈ vertices.go seen rest) : n ≠ v := by
        rintro rfl
        exact (mem_vertices_go.mp hv).2.1 hn
      refine (ih seen).imp_of_mem fun hu hv less => ?_
      rw [List.idxOf_cons_ne rest (other hu), List.idxOf_cons_ne rest (other hv)]
      omega
    rw [vertices.go]
    split_ifs with known job
    · exact later known
    · refine .cons (fun v hv => ?_) (later List.mem_cons_self)
      have other : n ≠ v := by
        rintro rfl
        exact (mem_vertices_go.mp hv).2.1 List.mem_cons_self
      rw [List.idxOf_cons_self, List.idxOf_cons_ne rest other]
      omega
    · exact later List.mem_cons_self

/-- The vertices are listed in node order. -/
theorem pairwise_vertices (g : Graph) : (vertices g).Pairwise (Before g) :=
  pairwise_vertices_go [] g.nodes

theorem not_before_self (g : Graph) (v : Node) : ¬ Before g v v := Nat.lt_irrefl _

theorem Before.asymm (h : Before g u v) : ¬ Before g v u := Nat.lt_asymm h

open Classical in
/-- The vertices that reach a vertex and are reached by it. -/
noncomputable def classOf (g : Graph) (v : Node) : List Node := (vertices g).filter (Mutual g v)

theorem mem_classOf : w ∈ classOf g v ↔ Mutual g v w := by
  classical
  rw [classOf, List.mem_filter, decide_eq_true_eq, ← isVertex_iff]
  constructor
  · rintro ⟨-, both⟩
    exact both
  · intro both
    exact ⟨both.1.target, both⟩

theorem pairwise_classOf (g : Graph) (v : Node) : (classOf g v).Pairwise (Before g) :=
  (pairwise_vertices g).filter _

/-- A class is opened by the first of its vertices. -/
theorem exists_opens (h : Reaches g v v) : ∃ first, Opens g first ∧ Mutual g first v := by
  have own : v ∈ classOf g v := mem_classOf.mpr ⟨h, h⟩
  have order := pairwise_classOf g v
  cases members : classOf g v with
  | nil => simp [members] at own
  | cons first rest =>
    have met : Mutual g v first := mem_classOf.mp (members ▸ List.mem_cons_self)
    rw [members] at order
    refine ⟨first, ⟨met.symm.trans met |>.1, fun u both earlier => ?_⟩, met.symm⟩
    have inside : u ∈ classOf g v := mem_classOf.mpr (met.trans both.symm)
    rw [members] at inside
    rcases List.mem_cons.mp inside with rfl | behind
    · exact not_before_self g u earlier
    · exact (List.rel_of_pairwise_cons order behind).asymm earlier

theorem head?_classOf (h : Opens g v) : (classOf g v).head? = some v := by
  have own : v ∈ classOf g v := mem_classOf.mpr ⟨h.1, h.1⟩
  have order := pairwise_classOf g v
  cases members : classOf g v with
  | nil => simp [members] at own
  | cons first rest =>
    have met : Mutual g v first := mem_classOf.mp (members ▸ List.mem_cons_self)
    rw [members] at own order
    rcases List.mem_cons.mp own with same | behind
    · rw [List.head?_cons, same]
    · exact absurd (List.rel_of_pairwise_cons order behind) (h.2 first met.symm)

/-- A vertex with the ids that it leads to. -/
def row (g : Graph) (v : Node) : Node × List NodeId :=
  (v, reachable (arrows g) ((vertices g).map (·.id)) v.id)

theorem mem_row (hu : IsVertex g u) (hv : IsVertex g v) : v.id ∈ (row g u).2 ↔ Reaches g u v := by
  rw [row, mem_reachable_iff, transGen_leads_iff hu hv]

theorem members_eq (hv : IsVertex g v) :
    ((vertices g).map (row g)).filter (fun (w, back) =>
      (row g v).2.contains w.id && back.contains v.id) =
      (classOf g v).map (row g) := by
  classical
  rw [List.filter_map, classOf]
  congr 1
  apply List.filter_congr
  intro w hw
  have hw := isVertex_iff.mpr hw
  have both : Mutual g v w ↔ w.id ∈ (row g v).2 ∧ v.id ∈ (row g w).2 := by
    rw [Mutual, mem_row hv hw, mem_row hw hv]
  rw [Function.comp_apply, Bool.eq_iff_iff, decide_eq_true_eq, both, Bool.and_eq_true,
    List.contains_iff_mem, List.contains_iff_mem]
  rfl

theorem mem_ids_classOf (hw : IsVertex g w) : w.id ∈ (classOf g v).map (·.id) ↔ Mutual g v w := by
  rw [List.mem_map, ← mem_classOf]
  constructor
  · rintro ⟨m, hm, same⟩
    rw [hw.eq_of_id (mem_classOf.mp hm).1.target same.symm]
    exact hm
  · intro hw
    exact ⟨w, hw, rfl⟩

open Classical in
/-- A vertex on a cycle that is not done opens a class, and all of it is done then. -/
theorem collect_cons (hv : IsVertex g v) (done : List NodeId) (rest : List Node) :
    cycles.collect ((vertices g).map (row g)) done ((v :: rest).map (row g)) =
      if Reaches g v v ∧ v.id ∉ done then
        classOf g v :: cycles.collect ((vertices g).map (row g)) ((classOf g v).map (·.id) ++ done)
          (rest.map (row g))
      else cycles.collect ((vertices g).map (row g)) done (rest.map (row g)) := by
  have shape : row g v = (v, (row g v).2) := rfl
  have nodes : ((classOf g v).map (row g)).map (·.1) = classOf g v := by
    rw [List.map_map]
    exact List.map_id _
  have ids : (((classOf g v).map (row g)).map fun e => e.1.id) = (classOf g v).map (·.id) := by
    rw [List.map_map]
    rfl
  have test : ((row g v).2.contains v.id && !done.contains v.id) = true ↔ Reaches g v v ∧
      v.id ∉ done := by
    simp [mem_row hv hv]
  rw [List.map_cons, shape, cycles.collect, members_eq hv]
  simp only [nodes, ids, test]

/-- A vertex opens a class unless one in front of it has done so. -/
theorem opens_iff {before rest : List Node} (split : vertices g = before ++ v :: rest) :
    Opens g v ↔ Reaches g v v ∧ ∀ u ∈ before, ¬ Mutual g u v := by
  have order := pairwise_vertices g
  rw [split] at order
  obtain ⟨-, behind, apart⟩ := List.pairwise_append.mp order
  have first {u : Node} (hu : u ∈ before) : Before g u v := apart u hu v List.mem_cons_self
  constructor
  · rintro ⟨cycle, least⟩
    exact ⟨cycle, fun u hu both => least u both (first hu)⟩
  · rintro ⟨cycle, none⟩
    refine ⟨cycle, fun u both earlier => ?_⟩
    have hu := isVertex_iff.mp both.1.source
    rw [split] at hu
    rcases List.mem_append.mp hu with hu | hu
    · exact none u hu both
    rcases List.mem_cons.mp hu with rfl | hu
    · exact not_before_self g u earlier
    · exact (List.rel_of_pairwise_cons behind hu).asymm earlier

open Classical in
/-- When the classes of the vertices in front are done, those that the others open are collected. -/
theorem collect_eq (before rest : List Node) (split : vertices g = before ++ rest)
    (done : List NodeId) (known : ∀ w, IsVertex g w → (w.id ∈ done ↔ ∃ u ∈ before, Mutual g u w)) :
    cycles.collect ((vertices g).map (row g)) done (rest.map (row g)) =
      (rest.filter (Opens g)).map (classOf g) := by
  induction rest generalizing before done with
  | nil => rfl
  | cons v rest ih =>
    have hv : IsVertex g v := isVertex_iff.mpr (by simp [split])
    have next : vertices g = (before ++ [v]) ++ rest := by simp [split]
    have opens : Opens g v ↔ Reaches g v v ∧ v.id ∉ done := by
      rw [opens_iff split, known v hv]
      simp
    rw [collect_cons hv, List.filter_cons]
    by_cases new : Opens g v
    · have rest := ih (before ++ [v]) next ((classOf g v).map (·.id) ++ done) fun w hw => by
        rw [List.mem_append, mem_ids_classOf hw, known w hw]
        simp [or_and_right, exists_or, or_comm]
      rw [if_pos (opens.mp new), if_pos (decide_eq_true new), List.map_cons, rest]
    · -- Of a vertex that opens no class, nothing is mutual that was not done before.
      have old (w : Node) (both : Mutual g v w) : ∃ u ∈ before, Mutual g u w := by
        have seen : v.id ∈ done := by
          by_contra fresh
          exact new (opens.mpr ⟨(both.trans both.symm).1, fresh⟩)
        obtain ⟨u, hu, earlier⟩ := (known v hv).mp seen
        exact ⟨u, hu, earlier.trans both⟩
      have rest := ih (before ++ [v]) next done fun w hw => by
        rw [known w hw]
        constructor
        · rintro ⟨u, hu, both⟩
          exact ⟨u, List.mem_append_left _ hu, both⟩
        · rintro ⟨u, hu, both⟩
          rcases List.mem_append.mp hu with hu | hu
          · exact ⟨u, hu, both⟩
          · rw [List.mem_singleton.mp hu] at both
            exact old w both
      rw [if_neg (mt opens.mpr new), if_neg (by simpa using new), rest]

open Classical in
/-- The cycles are the classes that the vertices open, in node order. -/
theorem cycles_eq (g : Graph) : cycles g = ((vertices g).filter (Opens g)).map (classOf g) :=
  collect_eq [] (vertices g) rfl [] (by simp)

theorem exists_mem_cycles_iff {p : List Node → Prop} :
    (∃ c ∈ cycles g, p c) ↔ ∃ v, Opens g v ∧ p (classOf g v) := by
  classical
  rw [cycles_eq]
  constructor
  · rintro ⟨c, hc, holds⟩
    obtain ⟨v, hv, rfl⟩ := List.mem_map.mp hc
    exact ⟨v, of_decide_eq_true (List.mem_filter.mp hv).2, holds⟩
  · rintro ⟨v, opens, holds⟩
    have hv : v ∈ (vertices g).filter (Opens g) :=
      List.mem_filter.mpr ⟨isVertex_iff.mp opens.1.source, decide_eq_true opens⟩
    exact ⟨classOf g v, List.mem_map_of_mem hv, holds⟩

/-- Two nodes are on one cycle exactly when each reaches the other. -/
theorem mem_same_cycle_iff : (∃ c ∈ cycles g, u ∈ c ∧ v ∈ c) ↔ Mutual g u v := by
  rw [exists_mem_cycles_iff]
  constructor
  · rintro ⟨first, -, hu, hv⟩
    exact (mem_classOf.mp hu).symm.trans (mem_classOf.mp hv)
  · intro both
    obtain ⟨first, opens, own⟩ := exists_opens (both.trans both.symm).1
    exact ⟨first, opens, mem_classOf.mpr own, mem_classOf.mpr (own.trans both)⟩

theorem mem_cycle_iff : (∃ c ∈ cycles g, v ∈ c) ↔ Reaches g v v := by
  have same := mem_same_cycle_iff (g := g) (u := v) (v := v)
  rw [Mutual, and_self] at same
  simpa only [and_self] using same

theorem pairwise_of_mem_cycles {c : List Node} (hc : c ∈ cycles g) :
    c ≠ [] ∧ c.Pairwise (Before g) := by
  have each : ∀ c ∈ cycles g, c ≠ [] ∧ c.Pairwise (Before g) := by
    by_contra other
    push Not at other
    obtain ⟨first, opens, other⟩ := exists_mem_cycles_iff.mp other
    have full : classOf g first ≠ [] := List.ne_nil_of_mem (mem_classOf.mpr ⟨opens.1, opens.1⟩)
    exact other full (pairwise_classOf g first)
  exact each c hc

/-- Of two cycles the one whose first vertex stands in front comes first, and
they share no vertex. -/
theorem pairwise_cycles (g : Graph) : (cycles g).Pairwise fun c d =>
    (∀ u ∈ c.head?, ∀ v ∈ d.head?, Before g u v) ∧ c.Disjoint d := by
  classical
  rw [cycles_eq, List.pairwise_map]
  refine ((pairwise_vertices g).filter _).imp_of_mem fun hu hv before => ?_
  have opensLeft := of_decide_eq_true (List.mem_filter.mp hu).2
  have opensRight := of_decide_eq_true (List.mem_filter.mp hv).2
  constructor
  · rw [head?_classOf opensLeft, head?_classOf opensRight]
    rintro _ ⟨⟩ _ ⟨⟩
    exact before
  · intro w left right
    exact opensRight.2 _ ((mem_classOf.mp left).trans (mem_classOf.mp right).symm) before

theorem nodup_cycles (g : Graph) : (cycles g).flatten.Nodup := by
  refine List.nodup_flatten.mpr ⟨fun c hc => ?_, (pairwise_cycles g).imp fun h => h.2⟩
  refine (pairwise_of_mem_cycles hc).2.imp fun before same => ?_
  subst same
  exact not_before_self g _ before

/-- With the same edges in another order or another number, the same vertices reach each other. -/
theorem reaches_congr {edges : List Edge} (same : ∀ e, e ∈ edges ↔ e ∈ g.edges) :
    Reaches ⟨g.nodes, edges⟩ = Reaches g := by
  have step : Follows ⟨g.nodes, edges⟩ = Follows g := by
    funext u v
    apply propext
    constructor
    · rintro ⟨source, target, edge⟩
      exact ⟨source, target, (same _).mp edge⟩
    · rintro ⟨source, target, edge⟩
      exact ⟨source, target, (same _).mpr edge⟩
  rw [Reaches, step, Reaches]

theorem cycles_congr {edges : List Edge} (same : ∀ e, e ∈ edges ↔ e ∈ g.edges) :
    cycles ⟨g.nodes, edges⟩ = cycles g := by
  have both : Mutual ⟨g.nodes, edges⟩ = Mutual g := by
    funext u v
    rw [Mutual, reaches_congr same, Mutual]
  have opens : Opens ⟨g.nodes, edges⟩ = Opens g := by
    funext v
    rw [Opens, reaches_congr same, both, Opens]
    rfl
  have classes : classOf ⟨g.nodes, edges⟩ = classOf g := by
    funext v
    rw [classOf, both, classOf]
    rfl
  rw [cycles_eq, cycles_eq, opens, classes]
  rfl

theorem cycleWarnings_eq (g : Graph) :
    Diagnostic.cycleWarnings g = (cycles g).map fun c => .dependencyCycle (c.map Node.jobKey) :=
  Diagnostic.filter_kind_diagnose g .cycle

/-- The warnings about cycles tell the classes of vertices that reach each other, by key and in node
order. Which they are follows from what edges there are. -/
theorem cycles_are_classes (g : Graph) :
    Diagnostic.cycleWarnings g = (cycles g).map (fun c => .dependencyCycle (c.map Node.jobKey)) ∧
    (∀ v, (∃ c ∈ cycles g, v ∈ c) ↔ IsVertex g v ∧ Reaches g v v) ∧
    (∀ u v, (∃ c ∈ cycles g, u ∈ c ∧ v ∈ c) ↔ Reaches g u v ∧ Reaches g v u) ∧
    (cycles g).flatten.Nodup ∧
    (∀ c ∈ cycles g, c ≠ [] ∧ c.Pairwise (Before g)) ∧
    ((cycles g).Pairwise fun c d => ∀ u ∈ c.head?, ∀ v ∈ d.head?, Before g u v) ∧
    ∀ edges : List Edge, (∀ e, e ∈ edges ↔ e ∈ g.edges) →
      Diagnostic.cycleWarnings ⟨g.nodes, edges⟩ = Diagnostic.cycleWarnings g := by
  refine ⟨cycleWarnings_eq g, fun v => ?_, fun _ _ => mem_same_cycle_iff, nodup_cycles g,
    fun _ hc => pairwise_of_mem_cycles hc, (pairwise_cycles g).imp fun h =>
      h.1, fun edges same => ?_⟩
  · rw [mem_cycle_iff]
    exact ⟨fun cycle => ⟨cycle.source, cycle⟩, fun h => h.2⟩
  · rw [cycleWarnings_eq, cycleWarnings_eq, cycles_congr same]

/-- Two cycles that interlock in node order and are joined by an edge, a job that needs itself, a
second job with an id of the first cycle, and a trigger in what would be a cycle. -/
def knottedGraph : Graph :=
  ⟨[⟨"a", "Lint", .job ⟨.lint, {}⟩⟩, ⟨"b", "Scan", .job ⟨.securityScan, {}⟩⟩,
      ⟨"t", "Push", .trigger ⟨"trigger_push", {}⟩⟩, ⟨"c", "Cache", .job ⟨.cache, {}⟩⟩,
      ⟨"a", "Twin", .job ⟨.lint, {}⟩⟩, ⟨"d", "Plan", .job ⟨.unknown "terraform", {}⟩⟩,
      ⟨"e", "Alone", .job ⟨.lint, {}⟩⟩],
    [⟨"e", "e"⟩, ⟨"d", "b"⟩, ⟨"c", "a"⟩, ⟨"b", "d"⟩, ⟨"a", "c"⟩, ⟨"a", "b"⟩,
      ⟨"t", "a"⟩, ⟨"a", "t"⟩]⟩

theorem cycles_are_classes_knotted :
    Diagnostic.cycleWarnings ⟨knottedGraph.nodes,
      knottedGraph.edges.reverse ++ knottedGraph.edges⟩ =
      [.dependencyCycle ["lint", "cache"], .dependencyCycle ["scan", "plan"],
        .dependencyCycle ["alone"]] := by
  obtain ⟨-, -, -, -, -, -, any⟩ := cycles_are_classes knottedGraph
  have again := any (knottedGraph.edges.reverse ++ knottedGraph.edges) (by simp)
  rw [again]
  decide +kernel

end Dependency

end PipelineCompiler
