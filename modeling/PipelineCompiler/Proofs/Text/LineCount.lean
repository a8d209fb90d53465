import Mathlib.Algebra.BigOperators.Group.List.Basic
import Mathlib.Algebra.GroupWithZero.Nat
import PipelineCompiler.Proofs.Text.Layout

namespace PipelineCompiler.Text

section Split

variable {separator : Char}

theorem split_append_of_notMem_left {cs rest p : List Char} {ps : List (List Char)}
    (h : separator ∉ cs) (hps : split separator rest = p :: ps) :
    split separator (cs ++ rest) = (cs ++ p) :: ps := by
  induction cs with
  | nil => exact hps
  | cons c cs ih =>
    obtain ⟨hc, hcs⟩ := List.ne_and_not_mem_of_not_mem_cons h
    rw [List.cons_append, split, if_neg (Ne.symm hc), ih hcs]
    rfl

theorem split_append_of_notMem_right {cs rest p : List Char} {ps : List (List Char)}
    (h : separator ∉ rest) (hps : split separator cs = ps ++ [p]) :
    split separator (cs ++ rest) = ps ++ [p ++ rest] := by
  induction cs generalizing ps p with
  | nil =>
    obtain ⟨none, same⟩ : [] = ps ∧ [[]] = [p] := List.append_inj' hps rfl
    rw [← none, ← List.singleton_inj.mp same]
    exact split_of_notMem h
  | cons c cs ih =>
    obtain ⟨q, qs, hqs⟩ := exists_split_eq_cons separator cs
    rw [split, hqs] at hps
    rw [List.cons_append, split]
    split_ifs at hps ⊢ with hc
    · cases ps with
      | nil => simp at hps
      | cons o os =>
        obtain ⟨rfl, others⟩ := List.cons.inj hps
        rw [ih (hqs.trans others)]
        rfl
    · cases ps with
      | nil =>
        obtain ⟨rfl, rfl⟩ := List.cons.inj hps
        have only : split separator cs = [] ++ [q] := hqs
        rw [ih only]
        rfl
      | cons o os =>
        obtain ⟨rfl, rfl⟩ := List.cons.inj hps
        have more : split separator cs = (q :: os) ++ [p] := hqs
        rw [ih more]
        rfl

end Split

/-- How many lines of a text are the given one. -/
def lineCount (line text : String) : Nat := (split '\n' text.toList).count line.toList

/-- A line of the text, other than its first, is the given one. -/
def Forges (line text : String) : Prop := line.toList ∈ (split '\n' text.toList).tail

instance (line : String) : DecidablePred (Forges line) := fun text =>
  inferInstanceAs (Decidable (line.toList ∈ (split '\n' text.toList).tail))

variable {line : String}

theorem not_forges_of_oneLine {text : String} (h : OneLine text) : ¬ Forges line text := by
  simp [Forges, split_of_notMem h]

theorem forges_behind {before : String} (h : OneLine before) (text : String) :
    Forges line (before ++ text) ↔ Forges line text := by
  obtain ⟨p, ps, hps⟩ := exists_split_eq_cons '\n' text.toList
  rw [Forges, Forges, String.toList_append, split_append_of_notMem_left h hps, hps]
  rfl

/-- What is put behind a text changes its last line, and makes it a line with another end. -/
theorem not_forges_before {text after : String} (h : ¬ Forges line text) (ha : OneLine after)
    (apart : after = "" ∨ ¬ after.toList <:+ line.toList) : ¬ Forges line (text ++ after) := by
  obtain ⟨q, qs, hqs⟩ := exists_split_eq_cons '\n' text.toList
  obtain ⟨ps, p, hps⟩ :=
    (List.eq_nil_or_concat' (split '\n' text.toList)).resolve_left (by simp [hqs])
  rw [Forges, hps] at h
  rw [Forges, String.toList_append, split_append_of_notMem_right ha hps]
  cases ps with
  | nil => simp
  | cons o os =>
    obtain ⟨middle, last⟩ : line.toList ∉ os ∧ line.toList ≠ p := by simpa using h
    intro forged
    rcases List.mem_append.mp forged with within | ended
    · exact middle within
    · have same := List.mem_singleton.mp ended
      rcases apart with rfl | other
      · exact last (by simpa using same)
      · exact other (same ▸ List.suffix_append _ _)

/-- A line that ends in a colon is not forged by putting a text between pieces of one line. -/
theorem robust_not_forges (colon : line.toList.getLast? = some ':') :
    Robust fun text => ¬ Forges line text where
  oneLine := not_forges_of_oneLine
  enclose := by
    intro text before after hb ha ended h
    rw [String.append_assoc, forges_behind hb]
    apply not_forges_before h ha
    rw [or_iff_not_imp_left]
    rintro some ⟨start, whole⟩
    apply ended
    rw [← colon, ← whole, List.getLast?_append_of_ne_nil _ (by simpa using some)]

theorem lineCount_self (h : OneLine line) : lineCount line line = 1 := by
  simp [lineCount, split_of_notMem h]

theorem lineCount_of_ne {text : String} (h : OneLine text) (ne : text ≠ line) :
    lineCount line text = 0 := by
  rw [lineCount, split_of_notMem h, List.count_eq_zero]
  simpa [String.toList_inj, eq_comm] using ne

theorem lineCount_behind {before text : String} (hb : OneLine before)
    (apart : ¬ before.toList <+: line.toList) (h : ¬ Forges line text) :
    lineCount line (before ++ text) = 0 := by
  obtain ⟨p, ps, hps⟩ := exists_split_eq_cons '\n' text.toList
  rw [Forges, hps] at h
  rw [lineCount, String.toList_append, split_append_of_notMem_left hb hps, List.count_eq_zero,
    List.mem_cons, not_or]
  refine ⟨fun same => apart ?_, h⟩
  rw [same]
  exact List.prefix_append _ _

theorem lineCount_enclosed (colon : line.toList.getLast? = some ':') {before text after : String}
    (hb : OneLine before) (apart : ¬ before.toList <+: line.toList) (ha : OneLine after)
    (ended : after.toList.getLast? ≠ some ':') (h : ¬ Forges line text) :
    lineCount line (before ++ text ++ after) = 0 := by
  rw [String.append_assoc]
  apply lineCount_behind hb apart
  simpa using (robust_not_forges colon).enclose "" after (by decide) ha ended h

/-- How often the line stands in texts that are written one to a line. -/
def tally (line : String) (texts : List String) : Nat := (texts.map (lineCount line)).sum

@[simp] theorem tally_nil (line : String) : tally line [] = 0 := rfl

@[simp] theorem tally_cons (line text : String) (texts : List String) :
    tally line (text :: texts) = lineCount line text + tally line texts := by
  simp [tally]

@[simp] theorem tally_append (line : String) (ts us : List String) :
    tally line (ts ++ us) = tally line ts + tally line us := by
  simp [tally]

theorem tally_eq_zero {texts : List String} (h : ∀ t ∈ texts, lineCount line t = 0) :
    tally line texts = 0 :=
  List.sum_eq_zero (List.forall_mem_map.mpr h)

theorem tally_map {mark : String} (hm : OneLine mark) (apart : ¬ mark.toList <+: line.toList)
    {texts : List String} (h : ∀ t ∈ texts, ¬ Forges line t) :
    tally line (texts.map (mark ++ ·)) = 0 :=
  tally_eq_zero (List.forall_mem_map.mpr fun t ht => lineCount_behind hm apart (h t ht))

theorem tally_titled {title mark : String} (ht : OneLine title) (ne : title ≠ line)
    (hm : OneLine mark) (apart : ¬ mark.toList <+: line.toList) {items : List String}
    (h : ∀ t ∈ items, ¬ Forges line t) : tally line (titled title mark items) = 0 := by
  cases items with
  | nil => rfl
  | cons t items =>
    have shown : titled title mark (t :: items) = title :: (t :: items).map (mark ++ ·) := rfl
    rw [shown, tally_cons, lineCount_of_ne ht ne, tally_map hm apart h]

theorem tally_bracketed {mark : String} (hm : OneLine mark) (apart : ¬ mark.toList <+: line.toList)
    {parts : List String} (h : ∀ p ∈ parts, OneLine p) : tally line (bracketed mark parts) = 0 := by
  have joined : OneLine (", ".intercalate parts ++ "]") :=
    oneLine_append.mpr ⟨oneLine_intercalate (by decide) h, by decide⟩
  cases parts with
  | nil => rfl
  | cons p parts =>
    rw [bracketed_cons, tally_cons, lineCount_behind hm apart (not_forges_of_oneLine joined),
      tally_nil]

theorem one_le_tally (hl : OneLine line) {texts : List String} (h : line ∈ texts) :
    1 ≤ tally line texts := by
  obtain ⟨before, after, rfl⟩ := List.append_of_mem h
  rw [tally_append, tally_cons, lineCount_self hl]
  omega

/-- Where each of the parts has the line equally often. -/
theorem tally_flatMap {α : Type} {as : List α} {f : α → List String} {n : Nat}
    (h : ∀ a ∈ as, tally line (f a) = n) : tally line (as.flatMap f) = as.length * n := by
  induction as with
  | nil => simp
  | cons a as ih =>
    obtain ⟨first, rest⟩ := List.forall_mem_cons.mp h
    rw [List.flatMap_cons, tally_append, first, ih rest, List.length_cons,
      Nat.succ_mul, Nat.add_comm]

theorem length_le_tally_flatMap {α : Type} {as : List α} {f : α → List String}
    (h : ∀ a ∈ as, 1 ≤ tally line (f a)) : as.length ≤ tally line (as.flatMap f) := by
  induction as with
  | nil => simp
  | cons a as ih =>
    obtain ⟨first, rest⟩ := List.forall_mem_cons.mp h
    have others := ih rest
    simp only [List.flatMap_cons, tally_append, List.length_cons]
    omega

theorem lineCount_unlines_append (line : String) (texts : List String) (rest : String) :
    lineCount line (unlines texts ++ rest) = tally line texts + lineCount line rest := by
  induction texts with
  | nil => simp
  | cons t texts ih =>
    have text : (unlines (t :: texts) ++ rest).toList =
        t.toList ++ '\n' :: (unlines texts ++ rest).toList := by
      simp [String.toList_append, toList_unlines_cons]
    rw [lineCount, text, split_append_separator, List.count_append, tally_cons, Nat.add_assoc, ← ih]
    rfl

end PipelineCompiler.Text
