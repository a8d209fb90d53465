import Mathlib.Tactic.SplitIfs
import PipelineCompiler.CommandLine.Disk
import PipelineCompiler.Proofs.Outcome

namespace PipelineCompiler.CommandLine.Disk

/-- The file at a location, with its text. -/
def file? (d : Disk) (loc : Location) : Option (Option String) :=
  match d.at? loc with
  | some (.file text) => some text
  | _ => none

variable {d after : Disk} {loc other : Location}

theorem file?_congr (h : after.at? loc = d.at? loc) : after.file? loc = d.file? loc := by
  rw [file?, h, file?]

theorem leadsHome_of_at? (h : d.at? loc ≠ some .directory) : d.leadsHome loc = false := by
  unfold at? at h
  split at h
  · exact absurd rfl h
  · next away => simpa using away

/-- Making directories changes no file: what is new is a directory, where nothing was. -/
theorem at?_of_create {names : List String} (h : d.create loc names = .ok after)
    (other : Location) :
    after.at? other = d.at? other ∨ d.at? other = none ∧ after.at? other = some .directory := by
  induction names generalizing d loc with
  | nil =>
    cases h
    exact .inl rfl
  | cons name rest ih =>
    rw [create] at h
    split at h
    · exact ih h
    · cases h
    · next absent =>
      have made := ih h
      by_cases same : other = move loc name
      · subst same
        have away : d.leadsHome (move loc name) = false := leadsHome_of_at? (by simp [absent])
        rw [at?_set d _ _ away] at made
        refine .inr ⟨absent, ?_⟩
        rcases made with kept | ⟨none, -⟩
        · exact kept
        · cases none
      · rwa [at?_set_of_ne d _ same] at made

theorem file?_of_create {names : List String} (h : d.create loc names = .ok after)
    (other : Location) : after.file? other = d.file? other := by
  rcases at?_of_create h other with same | ⟨absent, made⟩
  · exact file?_congr same
  · rw [file?, made, file?, absent]

theorem write_eq_ok {path text : String} (h : d.write path text = .ok after) :
    ∃ loc, d.locate path = .ok loc ∧ d.at? loc ≠ some .directory ∧ asksDirectory path = false ∧
      after = d.set loc (.file (some text)) := by
  obtain ⟨loc, found, h⟩ := Outcome.bind_eq_ok.mp h
  refine ⟨loc, found, ?_⟩
  split at h
  · cases h
  · next there =>
    split_ifs at h with asks
    cases h
    exact ⟨by simp [there], by simpa using asks, rfl⟩
  · next absent =>
    split_ifs at h with slash asks
    cases h
    exact ⟨by simp [absent], by simpa using asks, rfl⟩

/-- A path leads where it led before a file was put there, since it passes only directories. -/
theorem follow_set {start : Location} {names : List String} (h : d.follow start names = .ok loc)
    (noDirectory : d.at? other ≠ some .directory) (e : Entry) :
    (d.set other e).follow start names = .ok loc := by
  induction names generalizing start with
  | nil => exact h
  | cons name rest ih =>
    rw [follow] at h
    split at h
    · cases h
    · cases h
    · next passed =>
      have ne : start ≠ other := by
        rintro rfl
        exact noDirectory passed
      rw [follow, at?_set_of_ne d e ne, passed]
      exact ih h

theorem locate_set {path : String} (h : d.locate path = .ok loc)
    (noDirectory : d.at? loc ≠ some .directory) (e : Entry) :
    (d.set loc e).locate path = .ok loc := by
  unfold locate at h ⊢
  split_ifs at h ⊢
  exact follow_set h noDirectory e

/-- Where a write leads, the text can be read, and no other file is touched. -/
structure Wrote (d after : Disk) (w : FileWrite) (loc : Location) : Prop where
  located : after.locate w.path = .ok loc
  read : after.read w.path = .ok w.text
  file : after.file? loc = some (some w.text)
  others : ∀ other, other ≠ loc → after.file? other = d.file? other

theorem wrote_of_write {w : FileWrite} (h : d.write w.path w.text = .ok after) :
    ∃ loc, Wrote d after w loc := by
  obtain ⟨loc, found, noDirectory, noSlash, rfl⟩ := write_eq_ok h
  have located := locate_set found noDirectory (.file (some w.text))
  have there := at?_set d loc (.file (some w.text)) (leadsHome_of_at? noDirectory)
  refine ⟨loc, located, ?_, ?_, fun other ne => file?_congr (at?_set_of_ne d _ ne)⟩
  · rw [read, located]
    simp only [bind, Except.bind, there, noSlash]
    rfl
  · rw [file?, there]

/-- A write is made on a disk that has at most some more directories. -/
theorem save_eq_ok {w : FileWrite} (h : d.save w = .ok after) : ∃ between : Disk,
    (∀ other, between.file? other = d.file? other) ∧ between.write w.path w.text = .ok after := by
  unfold save at h
  split at h
  · exact ⟨d, fun _ => rfl, Outcome.mapError_eq_ok.mp h⟩
  · obtain ⟨between, made, h⟩ := Outcome.bind_eq_ok.mp h
    exact ⟨between, file?_of_create (Outcome.mapError_eq_ok.mp made), Outcome.mapError_eq_ok.mp h⟩

theorem wrote_of_save {w : FileWrite} (h : d.save w = .ok after) : ∃ loc, Wrote d after w loc := by
  obtain ⟨between, kept, h⟩ := save_eq_ok h
  obtain ⟨loc, wrote⟩ := wrote_of_write h
  exact ⟨loc, wrote.located, wrote.read, wrote.file,
    fun other ne => (wrote.others other ne).trans (kept other)⟩

end PipelineCompiler.CommandLine.Disk
