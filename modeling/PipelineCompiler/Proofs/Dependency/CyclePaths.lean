import PipelineCompiler.Proofs.Dependency.Components

namespace PipelineCompiler.Dependency

open Relation (TransGen)

variable {g : Graph} {c : List Node} {u v : Node}

/-- Each member is related to the next, and the last one to the first. -/
def IsRound (R : Node → Node → Prop) (c : List Node) : Prop := (c ++ c.take 1).IsChain R

/-- An edge between two vertices of a list. -/
structure FollowsWithin (g : Graph) (c : List Node) (u v : Node) : Prop where
  step : Follows g u v
  source : u ∈ c
  target : v ∈ c

theorem isRound_of_forall {R : Node → Node → Prop} (all : ∀ u ∈ c, ∀ v ∈ c, R u v) :
    IsRound R c := by
  have member {u : Node} (hu : u ∈ c ++ c.take 1) : u ∈ c :=
    (List.mem_append.mp hu).elim id List.mem_of_mem_take
  apply List.Pairwise.isChain
  exact List.pairwise_of_forall_mem_list fun u hu v hv => all u (member hu) v (member hv)

/-- With one vertex, a cycle holds all those that it reaches and that reach it, and no other. -/
theorem mem_iff_mutual (hc : c ∈ cycles g) (hu : u ∈ c) : v ∈ c ↔ Mutual g u v := by
  obtain ⟨first, -, rfl⟩ := exists_mem_cycles_iff.mp ⟨c, hc, rfl⟩
  rw [mem_classOf] at hu ⊢
  constructor
  · intro hv
    exact hu.symm.trans hv
  · intro both
    exact hu.trans both

/-- A path between two vertices of a cycle meets no other vertices than its own. -/
theorem transGen_followsWithin (hc : c ∈ cycles g) (hu : u ∈ c) (hv : v ∈ c) :
    TransGen (FollowsWithin g c) u v := by
  have along {w : Node} (path : Reaches g u w) : w ∈ c → TransGen (FollowsWithin g c) u w := by
    induction path with
    | single step => exact fun hw => .single ⟨step, hu, hw⟩
    | @tail b w before step ih =>
      intro hw
      have back : Reaches g w u := ((mem_iff_mutual hc hu).mp hw).2
      have hb : b ∈ c := (mem_iff_mutual hc hu).mpr ⟨before, .head step back⟩
      exact (ih hb).tail ⟨step, hb, hw⟩
  exact along ((mem_iff_mutual hc hu).mp hv).1 hv

theorem follows_of_single (path : TransGen (FollowsWithin g [u]) u u) : Follows g u u := by
  obtain ⟨b, first, -⟩ := TransGen.head'_iff.mp path
  have same : b = u := List.mem_singleton.mp first.target
  exact same ▸ first.step

theorem follows_of_pair (ne : v ≠ u) (pair : ∀ w ∈ c, w = u ∨ w = v)
    (path : TransGen (FollowsWithin g c) u v) : Follows g u v := by
  by_contra apart
  -- Without that edge, no step leads away from `u`.
  have stays {w : Node} (path : TransGen (FollowsWithin g c) u w) : w = u := by
    induction path with
    | single step => exact (pair _ step.target).resolve_right fun there => apart (there ▸ step.step)
    | tail _ step ih =>
      exact (pair _ step.target).resolve_right fun there => apart (there ▸ ih ▸ step.step)
  exact ne (stays path)

theorem isRound_of_length_le (hc : c ∈ cycles g) (few : c.length ≤ 2) : IsRound (Follows g) c := by
  have path {u v : Node} (hu : u ∈ c) (hv : v ∈ c) := transGen_followsWithin hc hu hv
  have order := (pairwise_of_mem_cycles hc).2
  match c with
  | [] => exact .nil
  | [u] =>
    have loop := follows_of_single (path (u := u) (v := u) (by simp) (by simp))
    simpa [IsRound] using loop
  | [u, v] =>
    have ne : u ≠ v := by
      rintro rfl
      simp [not_before_self] at order
    have there := follows_of_pair ne.symm (by simp) (path (u := u) (v := v) (by simp) (by simp))
    have back := follows_of_pair ne (by simp [or_comm]) (path (u := v) (v := u) (by simp) (by simp))
    simpa [IsRound] using ⟨there, back⟩
  | _ :: _ :: _ :: _ => simp at few

/-- The warnings about cycles tell the jobs of each cycle in node order. With one job, a cycle holds
all those that it reaches and that reach it, and no other. From each of them to the next, and from
the last back to the first, leads a path of one or more edges through jobs of the same warning.
Where there are at most two of them, each such path is an edge. -/
theorem arrows_are_paths (g : Graph) :
    Diagnostic.cycleWarnings g =
      (cycles g).map (fun c => .dependencyCycle (c.map Node.jobKey)) ∧
    ∀ c ∈ cycles g, c.Pairwise (Before g) ∧ (∀ u ∈ c, ∀ v, v ∈ c ↔ Mutual g u v) ∧
      IsRound (TransGen (FollowsWithin g c)) c ∧ (c.length ≤ 2 → IsRound (Follows g) c) := by
  refine ⟨cycleWarnings_eq g, fun c hc => ⟨(pairwise_of_mem_cycles hc).2, ?_, ?_, ?_⟩⟩
  · exact fun u hu v => mem_iff_mutual hc hu
  · exact isRound_of_forall fun u hu v hv => transGen_followsWithin hc hu hv
  · exact isRound_of_length_le hc

/-- Three jobs in a ring that runs against their order, and two more that need each other. -/
def crossedGraph : Graph :=
  ⟨[⟨"a", "A", .job ⟨.lint, {}⟩⟩, ⟨"b", "B", .job ⟨.lint, {}⟩⟩, ⟨"c", "C", .job ⟨.lint, {}⟩⟩,
      ⟨"d", "D", .job ⟨.cache, {}⟩⟩, ⟨"e", "E", .job ⟨.cache, {}⟩⟩],
    [⟨"a", "c"⟩, ⟨"c", "b"⟩, ⟨"b", "a"⟩, ⟨"e", "d"⟩, ⟨"d", "e"⟩]⟩

theorem arrows_are_paths_crossed :
    IsRound (TransGen (FollowsWithin crossedGraph (crossedGraph.nodes.take 3)))
      (crossedGraph.nodes.take 3) ∧
    IsRound (Follows crossedGraph) (crossedGraph.nodes.drop 3) := by
  have two : cycles crossedGraph = [crossedGraph.nodes.take 3,
    crossedGraph.nodes.drop 3] := by decide
  obtain ⟨-, rounds⟩ := arrows_are_paths crossedGraph
  obtain ⟨-, -, long, -⟩ := rounds (crossedGraph.nodes.take 3) (by simp [two])
  obtain ⟨-, -, -, short⟩ := rounds (crossedGraph.nodes.drop 3) (by simp [two])
  exact ⟨long, short (by decide)⟩

/-- The first warning reads as a path from a to b, to c and back, and no edge leads from a to b. -/
theorem arrow_without_edge :
    Warning.dependencyCycle ["a", "b", "c"] ∈ Diagnostic.diagnose crossedGraph ∧
    ¬ ∃ c, c.map Node.jobKey = ["a", "b", "c"] ∧ IsRound (Follows crossedGraph) c := by
  refine ⟨by decide, ?_⟩
  rintro ⟨c, keys, round⟩
  obtain ⟨u, rest, rfl, first, keys⟩ := List.map_eq_cons_iff.mp keys
  obtain ⟨v, rest, rfl, second, -⟩ := List.map_eq_cons_iff.mp keys
  have step : Follows crossedGraph u v := (List.isChain_cons_cons.mp round).1
  have none :
      ∀ u ∈ vertices crossedGraph, ∀ v ∈ vertices crossedGraph, u.jobKey = "a" → v.jobKey = "b" →
      ⟨u.id, v.id⟩ ∉ crossedGraph.edges := by decide
  exact none u (isVertex_iff.mp step.source) v (isVertex_iff.mp step.target) first second step.edge

end PipelineCompiler.Dependency
