import Mathlib.Data.List.Induction
import Mathlib.Data.List.Nodup
import Mathlib.Tactic.SplitIfs
import PipelineCompiler.Emitter
import PipelineCompiler.Proofs.Json.Members

namespace PipelineCompiler

namespace Registry

/-- Of emitters registered one after the other, the last one of a name. -/
def latest? (es : List Emitter) (name : String) : Option Emitter :=
  es.reverse.find? (·.name == name)

/-- An emitter as an entry under its name. -/
def entry (e : Emitter) : String × Emitter := (e.name, e)

/-- Emitters are put in as members of an object are. -/
theorem map_entry_insert (e : Emitter) (es : List Emitter) :
    (insert e es).map entry = Json.insertMember e.name e (es.map entry) := by
  induction es with
  | nil => rfl
  | cons x rest ih =>
    simp only [insert, List.map_cons, entry, Json.insertMember]
    split_ifs
    · rfl
    · rfl
    · rw [List.map_cons, ← ih]
      rfl

theorem ofList_concat (es : List Emitter) (e : Emitter) :
    ofList (es ++ [e]) = (ofList es).register e := by
  rw [ofList, List.foldl_append]
  rfl

theorem map_entry_ofList (es : List Emitter) :
    (ofList es).emitters.map entry = Json.sortMembers (es.map entry) := by
  induction es using List.reverseRecOn with
  | nil => rfl
  | append_singleton es e ih =>
    rw [ofList_concat, register, map_entry_insert, ih, List.map_append, Json.sortMembers,
      Json.sortMembers, List.foldl_append]
    rfl

theorem pairwise_formats (es : List Emitter) : (ofList es).formats.Pairwise (· < ·) := by
  have sorted := Json.keysSorted_sortMembers (es.map entry)
  rw [← map_entry_ofList, Json.KeysSorted, List.pairwise_map] at sorted
  exact List.pairwise_map.mpr sorted

theorem nodup_formats (es : List Emitter) : (ofList es).formats.Nodup := by
  apply (pairwise_formats es).imp
  rintro a _ less rfl
  exact String.lt_irrefl a less

theorem find?_named (x : Emitter) (es : List Emitter) (name : String) :
    (x :: es).find? (·.name == name) =
      if x.name = name then some x else es.find? (·.name == name) := by
  by_cases here : x.name = name <;> simp [here]

theorem find?_insert (e : Emitter) (es : List Emitter) (name : String) :
    (insert e es).find? (·.name == name) =
      if e.name = name then some e else es.find? (·.name == name) := by
  induction es with
  | nil => exact find?_named e [] name
  | cons x rest ih =>
    rw [insert]
    split
    · exact find?_named e (x :: rest) name
    · split
      · next same =>
        rw [find?_named, find?_named, same]
        split_ifs <;> rfl
      · next other =>
        rw [find?_named, find?_named, ih]
        by_cases here : x.name = name
        · rw [if_pos here, if_neg fun same => other (same.trans here.symm), if_pos here]
        · rw [if_neg here, if_neg here]

theorem get?_register (r : Registry) (e : Emitter) (name : String) :
    (r.register e).get? name = if e.name = name then some e else r.get? name :=
  find?_insert e r.emitters name

theorem get?_ofList (es : List Emitter) (name : String) :
    (ofList es).get? name = latest? es name := by
  induction es using List.reverseRecOn with
  | nil => rfl
  | append_singleton es e ih =>
    rw [ofList_concat, get?_register, ih, latest?, latest?, List.reverse_append,
      List.reverse_singleton, List.singleton_append, find?_named]

theorem latest?_eq_none {es : List Emitter} {name : String} :
    latest? es name = none ↔ name ∉ es.map (·.name) := by
  simp [latest?]

theorem mem_formats_ofList {es : List Emitter} {name : String} :
    name ∈ (ofList es).formats ↔ name ∈ es.map (·.name) := by
  have found := get?_ofList es name
  rw [← not_iff_not, ← latest?_eq_none, ← found, get?, formats]
  simp

/-- Each emitter of the registry is found under its name. -/
theorem get?_of_mem {es : List Emitter} {e : Emitter} (he : e ∈ (ofList es).emitters) :
    (ofList es).get? e.name = some e := by
  have found : ((ofList es).get? e.name).isSome := List.find?_isSome.mpr ⟨e, he, by simp⟩
  obtain ⟨x, hx⟩ := Option.isSome_iff_exists.mp found
  have name : x.name = e.name := by simpa using List.find?_some hx
  rw [hx, List.inj_on_of_nodup_map (nodup_formats es) (List.mem_of_find?_eq_some hx) he name]

theorem info_ofList (es : List Emitter) :
    (ofList es).info.map some = (ofList es).formats.map fun name =>
      (latest? es name).map Emitter.info := by
  rw [info, formats, List.map_map, List.map_map]
  apply List.map_congr_left
  intro e he
  simp only [Function.comp_apply, ← get?_ofList, get?_of_mem he, Option.map_some]

/-- There is one way to sort by keys that are all different. -/
theorem mergeSort_eq {α : Type} (key : α → String) {walk sorted : List α} (same : walk.Perm sorted)
    (strict : sorted.Pairwise fun a b => key a < key b) :
    walk.mergeSort (fun a b => key a ≤ key b) = sorted := by
  have moved : (walk.mergeSort fun a b => key a ≤ key b).Perm sorted :=
    (List.mergeSort_perm _ _).trans same
  have ordered : (walk.mergeSort fun a b => key a ≤ key b).Pairwise fun a b => key a ≤ key b := by
    have trans (a b c : α) : decide (key a ≤ key b) = true → decide (key b ≤ key c) = true →
        decide (key a ≤ key c) = true := by simpa using String.le_trans
    have total (a b : α) : (decide (key a ≤ key b) || decide (key b ≤ key a)) = true := by
      simpa using String.le_total _ _
    simpa only [decide_eq_true_eq] using List.pairwise_mergeSort trans total walk
  have distinct : (sorted.map key).Nodup := by
    apply (List.pairwise_map.mpr strict).imp
    rintro a _ less rfl
    exact String.lt_irrefl a less
  refine moved.eq_of_pairwise (fun a b ha hb le ge => ?_) ordered (strict.imp Std.le_of_lt)
  exact List.inj_on_of_nodup_map distinct (moved.mem_iff.mp ha) hb (String.le_antisymm le ge)

section Walk

variable {es walk : List Emitter}

theorem sort_formats (h : walk.Perm (ofList es).emitters) :
    (walk.map (·.name)).mergeSort = (ofList es).formats :=
  mergeSort_eq (fun name => name) (h.map _) (pairwise_formats es)

theorem sort_info (h : walk.Perm (ofList es).emitters) :
    (walk.map Emitter.info).mergeSort (fun a b => a.format ≤ b.format) = (ofList es).info := by
  refine mergeSort_eq EmitterInfo.format (h.map _) ?_
  exact List.pairwise_map.mpr (List.pairwise_map.mp (pairwise_formats es))

end Walk

theorem emit_ofList (es : List Emitter) (name : String) (g : Graph) : (ofList es).emit name g =
    (latest? es name).elim (.error ⟨name, (ofList es).formats⟩) fun e => .ok (e.emit g) := by
  rw [emit, get?_ofList]
  cases latest? es name <;> rfl

theorem emit_eq_error {es : List Emitter} {name : String} {g : Graph} {fault : UnknownFormat} :
    (ofList es).emit name g = .error fault ↔ name ∉ es.map (·.name) ∧ fault = ⟨name,
      (ofList es).formats⟩ := by
  rw [emit_ofList, ← latest?_eq_none]
  cases latest? es name with
  | none => simp [eq_comm]
  | some e => simp

theorem emit_standard (g : Graph) (f : Format) : standard.emit f.name g = .ok (generate g f) := by
  rw [standard, emit_ofList]
  cases f <;> rfl

theorem mem_formats_standard {name : String} :
    name ∈ standard.formats ↔ ∃ f ∈ Format.all, f.name = name := by
  rw [standard, mem_formats_ofList, ← List.mem_map]
  rfl

/-- The name of a format may be written with capital letters. -/
theorem exists_ofName_iff {name : String} : (∃ f, Format.ofName name = .ok f) ↔
    String.ofList (name.toList.map Char.toLower) ∈ standard.formats := by
  have found : (∃ f, Format.ofName name = .ok f) ↔
      (Format.all.find? fun f => f.name.toList == name.toList.map Char.toLower).isSome := by
    rw [Format.ofName]
    cases Format.all.find? fun f => f.name.toList == name.toList.map Char.toLower <;> simp
  rw [found, List.find?_isSome, mem_formats_standard]
  simp only [beq_iff_eq, ← String.toList_inj, String.toList_ofList]

/-- A registry is the table of the last emitters registered under each name. Its lists are in
order by name whatever the order they are kept in; a text comes from the emitter last
registered, and the only failure is a name that never was. With the emitters of the library it
gives what the formats give. -/
theorem last_registration_counts (es : List Emitter) :
    (ofList es).formats.Pairwise (· < ·) ∧
    (∀ name, name ∈ (ofList es).formats ↔ name ∈ es.map (·.name)) ∧
    (ofList es).info.map some = (ofList es).formats.map (fun name =>
      (latest? es name).map Emitter.info) ∧
    (∀ walk : List Emitter, walk.Perm (ofList es).emitters →
      (walk.map (·.name)).mergeSort = (ofList es).formats ∧
      (walk.map Emitter.info).mergeSort (fun a b => a.format ≤ b.format) = (ofList es).info) ∧
    (∀ name g, (ofList es).emit name g =
      (latest? es name).elim (.error ⟨name, (ofList es).formats⟩) fun e => .ok (e.emit g)) ∧
    (∀ name g fault, (ofList es).emit name g = .error fault ↔
      name ∉ es.map (·.name) ∧ fault = ⟨name, (ofList es).formats⟩) ∧
    (∀ g f, standard.emit (Format.name f) g = .ok (generate g f)) ∧
    ∀ name, (∃ f, Format.ofName name = .ok f) ↔
      String.ofList (name.toList.map Char.toLower) ∈ standard.formats :=
  ⟨pairwise_formats es, fun _ => mem_formats_ofList, info_ofList es, fun _ kept =>
    ⟨sort_formats kept, sort_info kept⟩,
    emit_ofList es, fun _ _ _ => emit_eq_error, emit_standard, fun _ => exists_ofName_iff⟩

/-- An emitter, then one of another format, then one that replaces the first. -/
def replacedEmitters : List Emitter :=
  [.github "macos", .ofFormat .gitlab fun _ => "stages: []",
    .ofFormat .github fun _ => "jobs: none"]

theorem last_registration_counts_replaced :
    replacedEmitters.tail.Perm (ofList replacedEmitters).emitters ∧
    (replacedEmitters.tail.map (·.name)).mergeSort = (ofList replacedEmitters).formats ∧
    (ofList replacedEmitters).emit "github" {} = .ok "jobs: none" := by
  have kept : (ofList replacedEmitters).emitters = replacedEmitters.tail.reverse := rfl
  have walk : replacedEmitters.tail.Perm (ofList replacedEmitters).emitters := by
    rw [kept]
    exact (List.reverse_perm _).symm
  obtain ⟨-, -, -, sorted, texts, -⟩ := last_registration_counts replacedEmitters
  refine ⟨walk, (sorted _ walk).1, ?_⟩
  rw [texts]
  rfl

end Registry

end PipelineCompiler
