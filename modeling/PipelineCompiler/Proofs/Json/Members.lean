import Mathlib.Data.List.Induction
import Mathlib.Tactic.SplitIfs
import PipelineCompiler.Json.Value
import PipelineCompiler.Document.Configuration

namespace PipelineCompiler.Json

variable {α : Type}

/-- Keys are in strict order. -/
def KeysSorted (members : List (String × α)) : Prop := members.Pairwise fun a b => a.1 < b.1

theorem mem_insertMember {key : String} {v : α} {members : List (String × α)} {m : String × α}
    (h : m ∈ insertMember key v members) : m = (key, v) ∨ m ∈ members := by
  induction members with
  | nil => exact .inl (List.mem_singleton.mp h)
  | cons n rest ih =>
    unfold insertMember at h
    split at h
    · exact List.mem_cons.mp h
    · split at h
      · rcases List.mem_cons.mp h with h | h
        · exact .inl h
        · exact .inr (List.mem_cons_of_mem _ h)
      · rcases List.mem_cons.mp h with h | h
        · exact .inr (List.mem_cons.mpr (.inl h))
        · exact (ih h).imp_right (List.mem_cons_of_mem _)

theorem keysSorted_insertMember {members : List (String × α)} (h : KeysSorted members)
    (key : String) (v : α) : KeysSorted (insertMember key v members) := by
  induction members with
  | nil => exact List.pairwise_singleton _ _
  | cons m rest ih =>
    obtain ⟨first, later⟩ := List.pairwise_cons.mp h
    unfold insertMember
    split
    · next lt =>
      apply List.pairwise_cons.mpr ⟨?_, h⟩
      intro n hn
      rcases List.mem_cons.mp hn with rfl | hn
      · exact lt
      · exact String.lt_trans lt (first n hn)
    · next nlt =>
      split
      · next eq => exact List.pairwise_cons.mpr ⟨fun n hn => eq ▸ first n hn, later⟩
      · next ne =>
        apply List.pairwise_cons.mpr ⟨?_, ih later⟩
        intro n hn
        rcases mem_insertMember hn with rfl | hn
        · exact Std.lt_of_le_of_ne (Std.not_lt.mp nlt) (Ne.symm ne)
        · exact first n hn

theorem keysSorted_sortMembers (members : List (String × α)) :
    KeysSorted (sortMembers members) := by
  induction members using List.reverseRecOn with
  | nil => exact .nil
  | append_singleton rest m ih =>
    rw [sortMembers, List.foldl_append]
    exact keysSorted_insertMember ih m.1 m.2

theorem mem_of_mem_sortMembers {members : List (String × α)} {m : String × α}
    (h : m ∈ sortMembers members) : m ∈ members := by
  induction members using List.reverseRecOn with
  | nil => exact h
  | append_singleton rest n ih =>
    rw [sortMembers, List.foldl_append] at h
    rcases mem_insertMember h with rfl | h
    · simp
    · exact List.mem_append_left _ (ih h)

theorem insertMember_last {members : List (String × α)} {key : String} (v : α)
    (h : ∀ m ∈ members, m.1 < key) : insertMember key v members = members ++ [(key, v)] := by
  induction members with
  | nil => rfl
  | cons m rest ih =>
    have lt := h m (by simp)
    have ne : key ≠ m.1 := fun eq => String.lt_irrefl key (eq ▸ lt)
    rw [insertMember, if_neg (String.lt_asymm lt), if_neg ne, ih fun n hn => h n (by simp [hn])]
    rfl

theorem sortMembers_of_keysSorted {members : List (String × α)} (h : KeysSorted members) :
    sortMembers members = members := by
  induction members using List.reverseRecOn with
  | nil => rfl
  | append_singleton rest m ih =>
    obtain ⟨before, -, last⟩ := List.pairwise_append.mp h
    have inner := ih before
    rw [sortMembers] at inner ⊢
    rw [List.foldl_append, inner]
    exact insertMember_last m.2 fun n hn => last n hn m (by simp)

theorem sortMembers_sortMembers (members : List (String × α)) :
    sortMembers (sortMembers members) = sortMembers members :=
  sortMembers_of_keysSorted (keysSorted_sortMembers members)

theorem insertMember_map {β : Type} (f : α → β) (key : String) (v : α)
    (members : List (String × α)) :
    insertMember key (f v) (members.map fun m => (m.1, f m.2)) =
      (insertMember key v members).map fun m => (m.1, f m.2) := by
  induction members with
  | nil => rfl
  | cons m rest ih =>
    simp only [List.map_cons, insertMember]
    split_ifs
    · rfl
    · rfl
    · rw [ih, List.map_cons]

/-- Sorting looks at the keys alone. -/
theorem sortMembers_map {β : Type} (f : α → β) (members : List (String × α)) :
    sortMembers (members.map fun m => (m.1, f m.2)) = (sortMembers members).map fun m =>
      (m.1, f m.2) := by
  induction members using List.reverseRecOn with
  | nil => rfl
  | append_singleton rest m ih =>
    have step {γ : Type} (l : List (String × γ)) (n : String × γ) :
        sortMembers (l ++ [n]) = insertMember n.1 n.2 (sortMembers l) := by simp [sortMembers]
    rw [List.map_append, List.map_singleton, step, step, ih]
    exact insertMember_map f m.1 m.2 _

end PipelineCompiler.Json

namespace PipelineCompiler.Configuration

open Json (Value)

theorem find?_cons (key : String) (m : String × Value) (members : List (String × Value)) :
    find? key (m :: members) = if m.1 = key then some m.2 else find? key members := by
  by_cases h : m.1 = key <;> simp [find?, h]

theorem find?_insertMember (key k : String) (v : Value) (members : List (String × Value)) :
    find? key (Json.insertMember k v members) = if k = key then some v else find? key members := by
  induction members with
  | nil => exact find?_cons key (k, v) []
  | cons m rest ih =>
    unfold Json.insertMember
    split
    · exact find?_cons key (k, v) _
    · split
      · next eq => simp only [find?_cons, eq]; split_ifs <;> rfl
      · next ne =>
        rw [find?_cons, find?_cons, ih]
        by_cases hm : m.1 = key
        · simp [hm, show k ≠ key from hm ▸ ne]
        · simp [hm]

/-- Of equal keys the last one counts. -/
theorem find?_sortMembers (key : String) (members : List (String × Value)) :
    find? key (Json.sortMembers members) = find? key members.reverse := by
  induction members using List.reverseRecOn with
  | nil => rfl
  | append_singleton rest m ih =>
    rw [Json.sortMembers] at ih ⊢
    rw [List.foldl_append, List.reverse_append, List.reverse_singleton, List.singleton_append,
      find?_cons, ← ih]
    exact find?_insertMember key m.1 m.2 _

end PipelineCompiler.Configuration
