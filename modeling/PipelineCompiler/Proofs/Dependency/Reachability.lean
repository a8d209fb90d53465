import Mathlib.Data.List.Basic
import Mathlib.Logic.Relation
import Mathlib.Tactic.ByContra
import Mathlib.Tactic.SplitIfs
import PipelineCompiler.Dependency

namespace PipelineCompiler.Dependency

open Relation (TransGen)

/-- There is an arrow between two ids. -/
def Leads (arrows : Arrows) (u v : NodeId) : Prop := (u, v) ∈ arrows

theorem mem_ahead {arrows : Arrows} {seen edge : List NodeId} {t : NodeId} :
    t ∈ ahead arrows seen edge ↔ t ∉ seen ∧ ∃ s ∈ edge, Leads arrows s t := by
  unfold ahead Leads
  rw [List.mem_eraseDups, List.mem_filterMap]
  constructor
  · rintro ⟨⟨s, u⟩, harrow, h⟩
    simp only [Option.ite_none_right_eq_some, Bool.and_eq_true, List.contains_eq_mem,
      decide_eq_true_eq, Bool.not_eq_true', decide_eq_false_iff_not, Option.some.injEq] at h
    obtain ⟨⟨hs, hu⟩, rfl⟩ := h
    exact ⟨hu, s, hs, harrow⟩
  · rintro ⟨ht, s, hs, harrow⟩
    exact ⟨(s, t), harrow, by simp [hs, ht]⟩

theorem close_succ (arrows : Arrows) (n : Nat) (seen edge : List NodeId) :
    close arrows (n + 1) seen edge =
      if ahead arrows seen edge = [] then seen
      else close arrows n (seen ++ ahead arrows seen edge) (ahead arrows seen edge) := by
  rw [close]
  split
  · next h => simp [h]
  · next h => rw [if_neg h]

/-- The state of a search: what is seen can be reached, and an arrow out of it leads to something
seen unless it starts at the edge. -/
structure Search (arrows : Arrows) (v : NodeId) (seen edge : List NodeId) : Prop where
  reached : ∀ w ∈ seen, TransGen (Leads arrows) v w
  known : ∀ s ∈ edge, s = v ∨ s ∈ seen
  followed : ∀ s t, Leads arrows s t → s = v ∨ s ∈ seen → s ∈ edge ∨ t ∈ seen

namespace Search

variable {arrows : Arrows} {v : NodeId} {seen edge : List NodeId}

theorem start (arrows : Arrows) (v : NodeId) : Search arrows v [] [v] where
  reached := by simp
  known := by simp
  followed := by simp

/-- A round of the search. -/
theorem step (h : Search arrows v seen edge) :
    Search arrows v (seen ++ ahead arrows seen edge) (ahead arrows seen edge) where
  reached := by
    intro w hw
    rcases List.mem_append.mp hw with hw | hw
    · exact h.reached w hw
    · obtain ⟨-, s, hs, harrow⟩ := mem_ahead.mp hw
      rcases h.known s hs with rfl | hs
      · exact .single harrow
      · exact (h.reached s hs).tail harrow
  known := fun s hs => .inr (List.mem_append_right _ hs)
  followed := by
    intro s t harrow hs
    by_cases ht : t ∈ seen
    · exact .inr (List.mem_append_left _ ht)
    · have old : s ∈ ahead arrows seen edge ∨ s ∈ edge := by
        rcases hs with rfl | hs
        · exact .inr ((h.followed _ t harrow (.inl rfl)).resolve_right ht)
        · rcases List.mem_append.mp hs with hs | hs
          · exact .inr ((h.followed s t harrow (.inr hs)).resolve_right ht)
          · exact .inl hs
      rcases old with hs | hs
      · exact .inl hs
      · exact .inr (List.mem_append_right _ (mem_ahead.mpr ⟨ht, s, hs, harrow⟩))

/-- With nothing ahead, all that can be reached is seen. -/
theorem complete (h : Search arrows v seen edge) (done : ahead arrows seen edge = []) {w : NodeId}
    (hw : TransGen (Leads arrows) v w) : w ∈ seen := by
  have next (s t : NodeId) (harrow : Leads arrows s t) (hs : s = v ∨ s ∈ seen) : t ∈ seen := by
    by_contra ht
    have hs := (h.followed s t harrow hs).resolve_right ht
    have new := mem_ahead.mpr ⟨ht, s, hs, harrow⟩
    rw [done] at new
    cases new
  induction hw with
  | single harrow => exact next _ _ harrow (.inl rfl)
  | tail _ harrow ih => exact next _ _ harrow (.inr ih)

/-- Each round meets an id that was not seen, so as many rounds as there are ids are enough. -/
theorem mem_close {ids : List NodeId} (targets : ∀ s t, Leads arrows s t → t ∈ ids) (n : Nat)
    (h : Search arrows v seen edge) (fuel : (ids.filter (· ∉ seen)).length < n) (w : NodeId) :
    w ∈ close arrows n seen edge ↔ TransGen (Leads arrows) v w := by
  induction n generalizing seen edge with
  | zero => omega
  | succ n ih =>
    rw [close_succ]
    split_ifs with done
    · exact ⟨h.reached w, h.complete done⟩
    · obtain ⟨t, ht⟩ := List.exists_mem_of_ne_nil _ done
      obtain ⟨unseen, s, -, harrow⟩ := mem_ahead.mp ht
      have fewer : (ids.filter (· ∉ seen ++ ahead arrows seen edge)).length <
          (ids.filter (· ∉ seen)).length := by
        have split : ids.filter (· ∉ seen ++ ahead arrows seen edge) =
            (ids.filter (· ∉ seen)).filter (· ∉ ahead arrows seen edge) := by
          rw [List.filter_filter]
          congr 1
          funext u
          simp [Bool.and_comm]
        rw [split]
        apply List.length_filter_lt_length_iff_exists.mpr
        exact ⟨t, List.mem_filter.mpr ⟨targets s t harrow, by simpa using unseen⟩, by
          simpa using ht⟩
      exact ih h.step (by omega)

end Search

/-- The arrows between vertices are the edges between them. -/
theorem leads_arrows_iff {g : Graph} {s t : NodeId} : Leads (arrows g) s t ↔
    ⟨s, t⟩ ∈ g.edges ∧ s ∈ (vertices g).map (·.id) ∧ t ∈ (vertices g).map (·.id) := by
  simp only [Leads, arrows, List.mem_map, List.mem_filter, Bool.and_eq_true, List.contains_iff_mem]
  constructor
  · rintro ⟨⟨a, b⟩, ⟨he, hs, ht⟩, heq⟩
    cases heq
    exact ⟨he, hs, ht⟩
  · rintro ⟨he, hs, ht⟩
    exact ⟨⟨s, t⟩, ⟨he, hs, ht⟩, rfl⟩

theorem mem_reachable_iff (g : Graph) (v w : NodeId) :
    w ∈ reachable (arrows g) ((vertices g).map (·.id)) v ↔ TransGen (Leads (arrows g)) v w := by
  apply (Search.start (arrows g) v).mem_close
  · exact fun s t h => (leads_arrows_iff.mp h).2.2
  · have bound := List.length_filter_le (· ∉ ([] : List NodeId)) ((vertices g).map (·.id))
    omega

theorem mem_vertices_go {seen : List NodeId} {nodes : List Node} {n : Node} :
    n ∈ vertices.go seen nodes ↔
      n.isJob = true ∧ n.id ∉ seen ∧ nodes.find? (·.id == n.id) = some n := by
  induction nodes generalizing seen with
  | nil => simp [vertices.go]
  | cons m rest ih =>
    rw [vertices.go, List.find?_cons]
    by_cases same : m.id = n.id
    · simp only [same, beq_self_eq_true, Option.some.injEq]
      split_ifs with hm hj
      · simp [ih, hm]
      · simp only [List.mem_cons, ih, hm]
        constructor
        · rintro (rfl | ⟨-, absurd, -⟩)
          · exact ⟨hj, by simp, rfl⟩
          · simp at absurd
        · rintro ⟨-, -, rfl⟩
          exact .inl rfl
      · simp only [ih, List.mem_cons, true_or, not_true, false_and, and_false, false_iff]
        rintro ⟨job, -, rfl⟩
        exact hj job
    · have other : (m.id == n.id) = false := by simpa using same
      have ne : n ≠ m := fun eq => same (eq ▸ rfl)
      rw [other]
      split_ifs with hm hj
      · exact ih
      · simp [ih, ne, Ne.symm same]
      · simp [ih, Ne.symm same]

/-- The vertices are the job nodes that are found under their own id. -/
theorem mem_vertices {g : Graph} {n : Node} :
    n ∈ vertices g ↔ n.isJob = true ∧ g.node? n.id = some n := by
  simp [vertices, mem_vertices_go, Graph.node?]

/-- A job needs the keys of the vertices that an edge to it starts from. -/
theorem mem_needs {g : Graph} {n : Node} {key : String} : key ∈ needs g n ↔
    ∃ u ∈ vertices g, u.jobKey = key ∧ ⟨u.id, n.id⟩ ∈ g.edges := by
  simp only [needs, Graph.incoming, List.mem_filterMap, List.mem_filter, Option.bind_eq_some_iff,
    Option.ite_none_right_eq_some, Option.some.injEq, beq_iff_eq]
  constructor
  · rintro ⟨⟨source, target⟩, ⟨he, rfl⟩, u, hu, job, rfl⟩
    have same : u.id = source := by simpa using List.find?_some hu
    subst same
    exact ⟨u, mem_vertices.mpr ⟨job, hu⟩, rfl, he⟩
  · rintro ⟨u, hu, rfl, he⟩
    obtain ⟨job, found⟩ := mem_vertices.mp hu
    exact ⟨⟨u.id, n.id⟩, ⟨he, rfl⟩, u, found, job, rfl⟩

theorem collect_eq_nil_iff (table rest : List (Node × List NodeId)) :
    cycles.collect table [] rest = [] ↔ ∀ row ∈ rest, row.1.id ∉ row.2 := by
  induction rest with
  | nil => simp [cycles.collect]
  | cons row rest ih =>
    obtain ⟨v, reach⟩ := row
    rw [cycles.collect, List.forall_mem_cons, ← ih]
    by_cases h : v.id ∈ reach <;> simp [h]

/-- There is a cycle exactly when some vertex can be reached from itself. -/
theorem cycles_eq_nil_iff (g : Graph) :
    cycles g = [] ↔ ∀ v ∈ vertices g, ¬ TransGen (Leads (arrows g)) v.id v.id := by
  rw [cycles, collect_eq_nil_iff, List.forall_mem_map]
  simp only [mem_reachable_iff]

end PipelineCompiler.Dependency
