import PipelineCompiler.Proofs.Document.Provenance

namespace PipelineCompiler.Document.JsonReader

open Json (Outline Text)

def graphFields : List String := ["nodes", "edges"]

def nodeFields : List String := ["id", "role", "blockType", "label", "configuration"]

def edgeFields : List String := ["source", "target"]

theorem once_eq_ok {α : Type} {name : String} {old a : Option α} {read : Except Fault α} :
    once name old read = .ok a ↔ old = none ∧ ∃ x, read = .ok x ∧ a = some x := by
  cases old with
  | some _ => simp [once]
  | none =>
    rw [once, Outcome.map_eq_ok]
    simp [eq_comm]

/-- What is stored in a field once the members have been read: the value of its only member, or
what was there before. -/
def IsField {α : Type} (name : String) (read : Outline → Except Fault α) (old : Option α)
    (members : List (Text × Outline)) (a : Option α) : Prop :=
  match members.filter (·.1 == some name) with
  | [] => a = old
  | [m] => old = none ∧ ∃ x, read m.2 = .ok x ∧ a = some x
  | _ => False

section Field

variable {α : Type} {name : String} {read : Outline → Except Fault α} {old a : Option α}

theorem isField_nil : IsField name read old [] a ↔ a = old := Iff.rfl

theorem isField_other {m : Text × Outline} (h : m.1 ≠ some name) (members : List (Text × Outline)) :
    IsField name read old (m :: members) a ↔ IsField name read old members a := by
  have passed : (m :: members).filter (·.1 == some name) = members.filter (·.1 == some name) := by
    simp [h]
  rw [IsField, passed, IsField]

theorem isField_same (o : Outline) (members : List (Text × Outline)) :
    IsField name read old ((some name, o) :: members) a ↔
      ∃ b, once name old (read o) = .ok b ∧ IsField name read b members a := by
  have kept : ((some name, o) :: members).filter (·.1 == some name) =
      (some name, o) :: members.filter (·.1 == some name) := by simp
  rw [IsField, kept]
  simp only [once_eq_ok, IsField]
  cases members.filter (·.1 == some name) with
  | nil =>
    constructor
    · rintro ⟨free, x, hx, rfl⟩
      exact ⟨some x, ⟨free, x, hx, rfl⟩, rfl⟩
    · rintro ⟨_, ⟨free, x, hx, rfl⟩, rfl⟩
      exact ⟨free, x, hx, rfl⟩
  | cons m others =>
    constructor
    · exact False.elim
    · rintro ⟨_, ⟨-, x, -, rfl⟩, twice⟩
      cases others with
      | nil => exact absurd twice.1 (by simp)
      | cons _ _ => exact twice

theorem IsField.perm {members members' : List (Text × Outline)}
    (h : IsField name read old members a) (hp : members.Perm members') :
    IsField name read old members' a := by
  have filtered := hp.filter (·.1 == some name)
  unfold IsField at h ⊢
  cases hf : members.filter (·.1 == some name) with
  | nil =>
    rw [hf] at h filtered
    rwa [List.nil_perm.mp filtered]
  | cons m others =>
    cases others with
    | nil =>
      rw [hf] at h filtered
      rwa [← List.singleton_perm.mp filtered]
    | cons _ _ =>
      rw [hf] at h
      exact h.elim

/-- The only member of a field gives it its value, and may be replaced. -/
theorem IsField.replace {before after : List (Text × Outline)} {o : Outline}
    (h : IsField name read none (before ++ (some name, o) :: after) a) :
    ∃ x, read o = .ok x ∧ a = some x ∧ ∀ o' x', read o' = .ok x' →
      IsField name read none (before ++ (some name, o') :: after) (some x') := by
  obtain ⟨b, stored, rest⟩ := (isField_same o _).mp (h.perm List.perm_middle)
  obtain ⟨-, x, hx, rfl⟩ := once_eq_ok.mp stored
  have alone : (before ++ after).filter (·.1 == some name) = [] ∧ a = some x := by
    unfold IsField at rest
    split at rest
    · exact ⟨‹_›, rest⟩
    · exact absurd rest.1 (by simp)
    · exact rest.elim
  refine ⟨x, hx, alone.2, fun o' x' hx' => ?_⟩
  apply IsField.perm _ List.perm_middle.symm
  apply (isField_same o' _).mpr ⟨some x', once_eq_ok.mpr ⟨rfl, x', hx', rfl⟩, ?_⟩
  rw [IsField, alone.1]

/-- Another field may hold anything. -/
theorem IsField.replace_other {before after : List (Text × Outline)} {other : String}
    (hn : other ≠ name) {o : Outline}
    (h : IsField name read old (before ++ (some other, o) :: after) a) (o' : Outline) :
    IsField name read old (before ++ (some other, o') :: after) a := by
  have passed (o : Outline) : ((some other, o) : Text × Outline).1 ≠ some name := by simpa using hn
  have rest := (isField_other (passed o) _).mp (h.perm List.perm_middle)
  exact ((isField_other (passed o') _).mpr rest).perm List.perm_middle.symm

end Field

/-- Every key of the members is a string. -/
def AreNamed (members : List (Text × Outline)) : Prop := ∀ m ∈ members, m.1 ≠ none

theorem AreNamed.replace {before after : List (Text × Outline)} {k : String} {o : Outline}
    (h : AreNamed (before ++ (some k, o) :: after)) (o' : Outline) :
    AreNamed (before ++ (some k, o') :: after) := by
  intro m hm
  rcases List.mem_cons.mp (List.perm_middle.mem_iff.mp hm) with rfl | hm
  · simp
  · exact h m (List.perm_middle.mem_iff.mpr (List.mem_cons_of_mem _ hm))

theorem areNamed_cons (key : String) (o : Outline) (members : List (Text × Outline)) :
    AreNamed ((some key, o) :: members) ↔ AreNamed members := by
  simp [AreNamed]

/-- A field that is stored, and the members behind it. -/
theorem store_eq_ok {σ α : Type} {step : σ → String → Outline → Except Fault σ}
    {read : Except Fault (Option α)} {set : Option α → σ}
    {members : List (Text × Outline)} {g : σ} :
    ((do return set (← read)) >>= fun f => readFields step f members) = .ok g ↔
      ∃ b, read = .ok b ∧ readFields step (set b) members = .ok g := by
  cases read with
  | ok b => simp [bind, Except.bind, pure, Except.pure]
  | error fault => simp [bind, Except.bind]

theorem readFields_edgeField {f g : EdgeFields} {members : List (Text × Outline)} :
    readFields edgeField f members = .ok g ↔ AreNamed members ∧
      IsField "source" readText f.source members g.source ∧
      IsField "target" readText f.target members g.target := by
  induction members generalizing f with
  | nil =>
    cases f
    cases g
    simp [readFields, AreNamed, isField_nil, eq_comm]
  | cons m rest ih =>
    obtain ⟨key, o⟩ := m
    cases key with
    | none => simp [readFields, AreNamed]
    | some key =>
      rw [readFields, areNamed_cons]
      generalize stepped : edgeField f key o = next
      unfold edgeField at stepped
      split at stepped <;> subst stepped
      · rw [store_eq_ok]
        simp only [ih, isField_same, isField_other, ne_eq, Option.some.injEq, String.reduceEq,
          not_false_eq_true]
        grind
      · rw [store_eq_ok]
        simp only [ih, isField_same, isField_other, ne_eq, Option.some.injEq, String.reduceEq,
          not_false_eq_true]
        grind
      · next source target =>
        have none {name : String} (h : ¬ key = name) :
            (some key, o).1 ≠ some name := by simpa using h
        rw [isField_other (none source), isField_other (none target)]
        exact ih

theorem readFields_nodeField {depth : Nat} {f g : NodeFields} {members : List (Text × Outline)} :
    readFields (nodeField depth) f members = .ok g ↔ AreNamed members ∧
      IsField "id" readText f.id members g.id ∧
      IsField "role" (readRole depth) f.role members g.role ∧
      IsField "blockType" readText f.blockType members g.blockType ∧
      IsField "label" readText f.label members g.label ∧
      IsField "configuration" (readConfiguration depth) f.configuration members
        g.configuration := by
  induction members generalizing f with
  | nil =>
    cases f
    cases g
    simp [readFields, AreNamed, isField_nil, eq_comm]
  | cons m rest ih =>
    obtain ⟨key, o⟩ := m
    cases key with
    | none => simp [readFields, AreNamed]
    | some key =>
      rw [readFields, areNamed_cons]
      generalize stepped : nodeField depth f key o = next
      unfold nodeField at stepped
      split at stepped <;> subst stepped
      case h_6 id role blockType label configuration =>
        have none {name : String} (h : ¬ key = name) :
            (some key, o).1 ≠ some name := by simpa using h
        rw [isField_other (none id), isField_other (none role), isField_other (none blockType),
          isField_other (none label), isField_other (none configuration)]
        exact ih
      all_goals
        rw [store_eq_ok]
        simp only [ih, isField_same, isField_other, ne_eq, Option.some.injEq, String.reduceEq,
          not_false_eq_true]
        grind

theorem readFields_graphField {depth : Nat} {f g : GraphFields} {members : List (Text × Outline)} :
    readFields (graphField depth) f members = .ok g ↔ AreNamed members ∧
      IsField "nodes" (readList readNode depth) f.nodes members g.nodes ∧
      IsField "edges" (readList readEdge depth) f.edges members g.edges := by
  induction members generalizing f with
  | nil =>
    cases f
    cases g
    simp [readFields, AreNamed, isField_nil, eq_comm]
  | cons m rest ih =>
    obtain ⟨key, o⟩ := m
    cases key with
    | none => simp [readFields, AreNamed]
    | some key =>
      rw [readFields, areNamed_cons]
      generalize stepped : graphField depth f key o = next
      unfold graphField at stepped
      split at stepped <;> subst stepped
      case h_3 nodes edges =>
        have none {name : String} (h : ¬ key = name) :
            (some key, o).1 ≠ some name := by simpa using h
        rw [isField_other (none nodes), isField_other (none edges)]
        exact ih
      all_goals
        rw [store_eq_ok]
        simp only [ih, isField_same, isField_other, ne_eq, Option.some.injEq, String.reduceEq,
          not_false_eq_true]
        grind

end PipelineCompiler.Document.JsonReader
