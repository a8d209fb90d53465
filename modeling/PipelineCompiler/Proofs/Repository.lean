import Mathlib.Data.List.DropRight
import PipelineCompiler.Proofs.Text.Layout
import PipelineCompiler.Publishing

namespace PipelineCompiler

namespace Text

variable {cs : List Char} {c : Char}

theorem trim_eq (cs : List Char) : trim cs = (cs.dropWhile isWhiteSpace).rdropWhile isWhiteSpace :=
  rfl

/-- Only white space is left out. -/
theorem exists_trim (cs : List Char) : ∃ before after, cs = before ++ trim cs ++ after ∧
    (∀ c ∈ before, isWhiteSpace c = true) ∧ ∀ c ∈ after, isWhiteSpace c = true := by
  refine ⟨cs.takeWhile isWhiteSpace, (cs.dropWhile isWhiteSpace).rtakeWhile isWhiteSpace, ?_,
    fun c hc => List.mem_takeWhile_imp hc, fun c hc => List.mem_rtakeWhile_imp hc⟩
  rw [trim_eq, List.append_assoc, List.rdropWhile_append_rtakeWhile,
    List.takeWhile_append_dropWhile]

theorem head?_trim (h : (trim cs).head? = some c) : isWhiteSpace c = false := by
  have begins : (cs.dropWhile isWhiteSpace).head? = some c := by
    obtain ⟨rest, whole⟩ := List.rdropWhile_prefix isWhiteSpace (cs.dropWhile isWhiteSpace)
    rw [← whole, ← trim_eq, List.head?_append, h, Option.some_or]
  have stops := List.head?_dropWhile_not isWhiteSpace cs
  rwa [begins] at stops

theorem getLast?_trim (h : (trim cs).getLast? = some c) : isWhiteSpace c = false := by
  obtain ⟨full, rfl⟩ := List.mem_getLast?_eq_getLast h
  exact
    Bool.eq_false_iff.mpr (List.rdropWhile_last_not isWhiteSpace (cs.dropWhile isWhiteSpace) full)

theorem trim_trim (cs : List Char) : trim (trim cs) = trim cs := by
  have front : (trim cs).dropWhile isWhiteSpace = trim cs := by
    cases left : trim cs with
    | nil => rfl
    | cons c rest =>
      have first : isWhiteSpace c = false := head?_trim (left ▸ List.head?_cons)
      rw [List.dropWhile_cons_of_neg (Bool.eq_false_iff.mp first)]
  rw [trim_eq (trim cs), front, trim_eq, List.rdropWhile_idempotent]

/-- Two parts are the text before and behind the only separator. -/
theorem split_eq_pair {separator : Char} {a b : List Char} :
    split separator cs = [a, b] ↔ cs = a ++ separator :: b ∧ separator ∉ a ∧ separator ∉ b := by
  constructor
  · intro parts
    have joined := intercalate_split separator cs
    rw [parts] at joined
    refine ⟨?_, separator_not_mem_of_mem_split (parts ▸ List.mem_cons_self), ?_⟩
    · simpa [List.intercalate] using joined.symm
    · exact separator_not_mem_of_mem_split (by simp [parts] : b ∈ split separator cs)
  · rintro ⟨rfl, ha, hb⟩
    rw [split_append_cons ha, split_of_notMem hb]

end Text

namespace Repository

open Text

variable {text : String} {r : Repository}

/-- A part of a reference: something without a slash in it. -/
def IsPart (part : String) : Prop := part ≠ "" ∧ '/' ∉ part.toList

theorem toList_display (r : Repository) :
    r.display.toList = r.owner.toList ++ '/' :: r.name.toList := by
  simp [display]

theorem ofText_eq_ok :
    ofText text = .ok r ↔ trim text.toList = r.display.toList ∧ IsPart r.owner ∧ IsPart r.name := by
  rw [toList_display]
  constructor
  · intro h
    unfold ofText at h
    split at h
    · next owner name parts =>
      split at h
      · cases h
      · next full =>
        cases h
        obtain ⟨whole, owned, named⟩ := split_eq_pair.mp parts
        simp only [Bool.or_eq_true, List.isEmpty_iff, not_or] at full
        simpa [IsPart, whole, owned, named] using full
    · cases h
  · rintro ⟨whole, owner, name⟩
    rw [ofText, whole, split_append_cons owner.2, split_of_notMem name.2]
    simp [owner.1, name.1]

/-- A valid reference is shown as it was given, without the white space around it. -/
theorem display_of_ofText (h : ofText text = .ok r) :
    r.display = String.ofList (trim text.toList) := by
  rw [(ofText_eq_ok.mp h).1, String.ofList_toList]

theorem ofText_error {fault : PublishFault} (h : ofText text = .error fault) :
    fault = .invalidRepository text := by
  unfold ofText at h
  split at h
  · split at h <;> cases h
    rfl
  · cases h
    rfl

theorem exists_ofText_iff : (∃ r, ofText text = .ok r) ↔ (trim text.toList).count '/' = 1 ∧
    ∃ owner name, trim text.toList = owner ++ '/' :: name ∧ owner ≠ [] ∧ name ≠ [] := by
  constructor
  · rintro ⟨r, h⟩
    obtain ⟨whole, owner, name⟩ := ofText_eq_ok.mp h
    rw [whole, toList_display, List.count_append, List.count_cons_self,
      List.count_eq_zero.mpr owner.2, List.count_eq_zero.mpr name.2]
    exact ⟨rfl, r.owner.toList, r.name.toList, rfl, by simpa using owner.1, by simpa using name.1⟩
  · rintro ⟨once, owner, name, whole, owned, named⟩
    rw [whole, List.count_append, List.count_cons_self] at once
    have alone : '/' ∉ owner ∧ '/' ∉ name := by
      rw [← List.count_eq_zero, ← List.count_eq_zero]
      omega
    refine ⟨⟨String.ofList owner, String.ofList name⟩, ofText_eq_ok.mpr ?_⟩
    rw [toList_display]
    simp [whole, IsPart, owned, named, alone]

/-- A part of a reference is more than white space: each of the two stands at one end of it. -/
theorem exists_notWhite_of_ofText (h : ofText text = .ok r) :
    (∃ c ∈ r.owner.toList, isWhiteSpace c = false) ∧
    ∃ c ∈ r.name.toList, isWhiteSpace c = false := by
  obtain ⟨whole, owner, name⟩ := ofText_eq_ok.mp h
  rw [toList_display] at whole
  have owned : r.owner.toList ≠ [] := by simpa using owner.1
  have named : r.name.toList ≠ [] := by simpa using name.1
  constructor
  · have first : (trim text.toList).head? = some (r.owner.toList.head owned) := by
      rw [whole, List.head?_append_of_ne_nil _ owned, List.head?_eq_some_head owned]
    exact ⟨_, List.head_mem owned, head?_trim first⟩
  · have last : (trim text.toList).getLast? = some (r.name.toList.getLast named) := by
      rw [whole, List.getLast?_append_of_ne_nil _ (List.cons_ne_nil _ _),
        List.getLast?_cons_of_ne_nil named, List.getLast?_eq_some_getLast named]
    exact ⟨_, List.getLast_mem named, getLast?_trim last⟩

/-- What is shown of a repository is a reference to it. -/
theorem ofText_display (h : ofText text = .ok r) : ofText r.display = .ok r := by
  obtain ⟨whole, parts⟩ := ofText_eq_ok.mp h
  refine ofText_eq_ok.mpr ⟨?_, parts⟩
  rw [← whole, trim_trim]

/-- The text is what is shown of the repository, with nothing but white space around it. -/
theorem exists_around_of_ofText (h : ofText text = .ok r) : ∃ before after,
    text.toList = before ++ r.display.toList ++ after ∧
    ∀ c ∈ before ++ after, isWhiteSpace c = true := by
  obtain ⟨before, after, whole, left, right⟩ := exists_trim text.toList
  refine ⟨before, after, ?_, List.forall_mem_append.mpr ⟨left, right⟩⟩
  rw [← (ofText_eq_ok.mp h).1, ← whole]

/-- A text names a repository exactly when, without the white space around it, it has one slash and
something on each side. It is then shown that way, and what is shown is read as the same repository;
if not, the whole text is told. -/
theorem reference_read_back (text : String) :
    ((∃ r, ofText text = .ok r) ↔ (trim text.toList).count '/' = 1 ∧
      ∃ owner name, trim text.toList = owner ++ '/' :: name ∧ owner ≠ [] ∧ name ≠ []) ∧
    (∀ r, ofText text = .ok r → r.display = String.ofList (trim text.toList) ∧
      ofText r.display = .ok r ∧
      (∃ before after, text.toList = before ++ r.display.toList ++ after ∧
        ∀ c ∈ before ++ after, isWhiteSpace c = true) ∧
      ∀ part ∈ [r.owner, r.name], part ≠ "" ∧ '/' ∉ part.toList ∧ ∃ c ∈ part.toList,
        isWhiteSpace c = false) ∧
    ∀ fault, ofText text = .error fault → fault = .invalidRepository text := by
  refine ⟨exists_ofText_iff,
    fun r h => ⟨display_of_ofText h, ofText_display h, exists_around_of_ofText h, ?_⟩, fun _ =>
      ofText_error⟩
  obtain ⟨-, owner, name⟩ := ofText_eq_ok.mp h
  obtain ⟨owned, named⟩ := exists_notWhite_of_ofText h
  simp only [List.forall_mem_cons]
  exact ⟨⟨owner.1, owner.2, owned⟩, ⟨name.1, name.2, named⟩, by simp⟩

/-- White space of several kinds goes, except at the slash; and a second slash is one too many. -/
theorem reference_read_back_spaced :
    ofText "\u2003 acme \u00a0/\tweb\n\u3000" = .ok ⟨"acme \u00a0", "\tweb"⟩ ∧
    ofText "acme \u00a0/\tweb" = .ok ⟨"acme \u00a0", "\tweb"⟩ ∧
    ofText " acme/web/ " = .error (.invalidRepository " acme/web/ ") := by
  have read : ofText "\u2003 acme \u00a0/\tweb\n\u3000" = .ok ⟨"acme \u00a0", "\tweb"⟩ := by decide
  obtain ⟨-, shown, -⟩ := reference_read_back "\u2003 acme \u00a0/\tweb\n\u3000"
  have two : ¬ ∃ r, ofText " acme/web/ " = .ok r := by
    rw [(reference_read_back " acme/web/ ").1]
    intro once
    exact absurd once.1 (by decide)
  obtain ⟨-, -, told⟩ := reference_read_back " acme/web/ "
  refine ⟨read, (shown _ read).2.1, ?_⟩
  cases failed : ofText " acme/web/ " with
  | ok r => exact absurd ⟨r, failed⟩ two
  | error fault => rw [told fault failed]

end Repository

end PipelineCompiler
