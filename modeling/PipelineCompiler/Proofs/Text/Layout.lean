import Mathlib.Data.List.Basic
import PipelineCompiler.Text.Lines
import PipelineCompiler.Text.Split

namespace PipelineCompiler.Text

/-- A text without line feeds. -/
def OneLine (s : String) : Prop := '\n' ∉ s.toList

instance : DecidablePred OneLine := fun s => inferInstanceAs (Decidable ('\n' ∉ s.toList))

@[simp] theorem oneLine_append {s t : String} : OneLine (s ++ t) ↔ OneLine s ∧ OneLine t := by
  simp [OneLine, String.toList_append]

/-- A text is a list of characters in disguise, and so is decided much faster. -/
theorem notMem_ofList {c : Char} {cs : List Char} (h : c ∉ cs) : c ∉ (String.ofList cs).toList := by
  simpa using h

theorem oneLine_ofList {cs : List Char} (h : '\n' ∉ cs) : OneLine (String.ofList cs) :=
  notMem_ofList h

theorem oneLine_intercalate {separator : String} (hs : OneLine separator) {parts : List String}
    (h : ∀ p ∈ parts, OneLine p) : OneLine (separator.intercalate parts) := by
  induction parts with
  | nil => simp [OneLine]
  | cons p parts ih =>
    have hp := h p (by simp)
    have rest := ih fun q hq => h q (by simp [hq])
    cases parts with
    | nil => simpa using hp
    | cons q parts =>
      rw [String.intercalate_cons_cons]
      simp [hp, hs, rest]

theorem oneLine_map (mark : String) (hm : OneLine mark) {items : List String}
    (h : ∀ x ∈ items, OneLine x) : ∀ l ∈ items.map (mark ++ ·), OneLine l := by
  refine List.forall_mem_map.mpr fun x hx => ?_
  exact oneLine_append.mpr ⟨hm, h x hx⟩

/-- A property that every text of one line has, and that a text keeps between pieces of one line,
unless a colon ends the piece behind it. -/
structure Robust (Q : String → Prop) : Prop where
  oneLine : ∀ {s}, OneLine s → Q s
  enclose : ∀ {s} (before after : String), OneLine before → OneLine after →
    after.toList.getLast? ≠ some ':' → Q s → Q (before ++ s ++ after)

theorem robust_oneLine : Robust OneLine where
  oneLine := id
  enclose := fun _ _ hb ha _ hs => oneLine_append.mpr ⟨oneLine_append.mpr ⟨hb, hs⟩, ha⟩

namespace Robust

variable {Q : String → Prop} (robust : Robust Q) {s : String}
include robust

theorem behind (hs : Q s) (before : String) (hb : OneLine before) : Q (before ++ s) := by
  simpa using robust.enclose before "" hb (by decide) (by decide) hs

theorem getD {a : Option String} (ha : ∀ t ∈ a, Q t) (hs : OneLine s) : Q (a.getD s) := by
  cases a with
  | none => exact robust.oneLine hs
  | some t => exact ha t rfl

end Robust

section Split

variable {separator : Char}

theorem exists_split_eq_cons (separator : Char) (cs : List Char) :
    ∃ p ps, split separator cs = p :: ps := by
  apply List.exists_cons_of_ne_nil
  intro none
  simpa [none] using length_split separator cs

theorem split_append_separator (cs rest : List Char) :
    split separator (cs ++ separator :: rest) = split separator cs ++ split separator rest := by
  induction cs with
  | nil => simp [split]
  | cons c cs ih =>
    obtain ⟨p, ps, hps⟩ := exists_split_eq_cons separator cs
    rw [List.cons_append, split, split, ih, hps]
    split_ifs <;> rfl

theorem split_of_notMem {cs : List Char} (h : separator ∉ cs) : split separator cs = [cs] := by
  induction cs with
  | nil => rfl
  | cons c cs ih =>
    obtain ⟨hc, hcs⟩ := List.ne_and_not_mem_of_not_mem_cons h
    rw [split, if_neg (Ne.symm hc), ih hcs]

theorem split_append_cons {cs : List Char} (h : separator ∉ cs) (rest : List Char) :
    split separator (cs ++ separator :: rest) = cs :: split separator rest := by
  rw [split_append_separator, split_of_notMem h]
  rfl

end Split

theorem toList_unlines_cons (l : String) (ls : List String) :
    (unlines (l :: ls)).toList = l.toList ++ '\n' :: (unlines ls).toList := by
  simp [unlines, String.toList_join]

theorem unlines_append (ls ms : List String) : unlines (ls ++ ms) = unlines ls ++ unlines ms := by
  rw [unlines, List.map_append, String.join_append]
  rfl

theorem split_unlines {lines : List String} {rest : String} (hl : ∀ l ∈ lines, OneLine l)
    (hr : OneLine rest) :
    split '\n' (unlines lines ++ rest).toList = lines.map String.toList ++ [rest.toList] := by
  rw [String.toList_append]
  induction lines with
  | nil => simpa using split_of_notMem hr
  | cons l ls ih =>
    have first : '\n' ∉ l.toList := hl l (by simp)
    rw [toList_unlines_cons, List.append_assoc, List.cons_append, split_append_cons first,
      ih fun m hm => hl m (by simp [hm])]
    rfl

/-- Lines without line feeds are read off their text, with what stands behind them. -/
theorem unlines_append_inj {ls ms : List String} {s t : String} (hl : ∀ l ∈ ls, OneLine l)
    (hs : OneLine s) (hm : ∀ m ∈ ms, OneLine m) (ht : OneLine t)
    (h : unlines ls ++ s = unlines ms ++ t) : ls = ms ∧ s = t := by
  have parts : ls.map String.toList ++ [s.toList] = ms.map String.toList ++ [t.toList] := by
    rw [← split_unlines hl hs, ← split_unlines hm ht, h]
  obtain ⟨lines, rest⟩ := List.append_inj' parts rfl
  constructor
  · exact List.map_injective_iff.mpr (fun _ _ => String.toList_inj.mp) lines
  · exact String.toList_inj.mp (List.singleton_inj.mp rest)

/-- Neither mark begins the other, so no line begins with both. -/
def Apart (p q : String) : Prop := ¬ p.toList <+: q.toList ∧ ¬ q.toList <+: p.toList

instance (p q : String) : Decidable (Apart p q) := inferInstanceAs (Decidable (_ ∧ _))

theorem Apart.append_ne {p q : String} (h : Apart p q) (x y : String) : p ++ x ≠ q ++ y := by
  intro same
  have both : p.toList ++ x.toList = q.toList ++ y.toList := by
    simpa only [String.toList_append] using congrArg String.toList same
  rcases List.prefix_or_prefix_of_prefix (List.prefix_append p.toList x.toList)
    (both ▸ List.prefix_append q.toList y.toList) with hpq | hqp
  · exact h.1 hpq
  · exact h.2 hqp

/-- The first line, if there is one, does not begin with the mark. -/
def Avoids (mark : String) (lines : List String) : Prop := ∀ x rest, lines ≠ (mark ++ x) :: rest

variable {mark : String}

theorem avoids_nil : Avoids mark [] := by
  intro x rest h
  cases h

theorem avoids_cons {q : String} (h : Apart mark q) (x : String) (rest : List String) :
    Avoids mark ((q ++ x) :: rest) := by
  intro y more same
  exact h.append_ne y x (List.cons.inj same).1.symm

theorem avoids_line {line : String} (h : ¬ mark.toList <+: line.toList) (rest : List String) :
    Avoids mark (line :: rest) := by
  intro x more same
  apply h
  rw [(List.cons.inj same).1, String.toList_append]
  exact List.prefix_append _ _

theorem avoids_blank (h : mark ≠ "") (rest : List String) : Avoids mark ("" :: rest) := by
  intro x more same
  exact h (String.append_eq_empty_iff.mp (List.cons.inj same).1.symm).1

theorem avoids_map {q : String} (h : Apart mark q) {xs : List String} (hx : Avoids mark xs)
    (items : List String) : Avoids mark (items.map (q ++ ·) ++ xs) := by
  cases items with
  | nil => exact hx
  | cons x items => exact avoids_cons h x _

/-- Lines with a mark, as many as there are, before lines without it. -/
theorem map_append_inj {ts us xs ys : List String} (hx : Avoids mark xs) (hy : Avoids mark ys)
    (h : ts.map (mark ++ ·) ++ xs = us.map (mark ++ ·) ++ ys) : ts = us ∧ xs = ys := by
  induction ts generalizing us with
  | nil =>
    cases us with
    | nil => exact ⟨rfl, h⟩
    | cons u us => exact absurd h (hx u _)
  | cons t ts ih =>
    cases us with
    | nil => exact absurd h.symm (hy t _)
    | cons u us =>
      obtain ⟨first, rest⟩ := List.cons.inj h
      obtain ⟨same, after⟩ := ih rest
      rw [(String.append_right_inj mark).mp first, same]
      exact ⟨rfl, after⟩

theorem optional_inj {α : Type} {a b : Option α} (h : a.toList = b.toList) : a = b := by
  have heads := congrArg List.head? h
  rwa [Option.head?_toList, Option.head?_toList] at heads

theorem optional_append_inj {a b : Option String} {xs ys : List String} (hx : Avoids mark xs)
    (hy : Avoids mark ys) (h : a.toList.map (mark ++ ·) ++ xs = b.toList.map (mark ++ ·) ++ ys) :
    a = b ∧ xs = ys := by
  obtain ⟨same, after⟩ := map_append_inj hx hy h
  exact ⟨optional_inj same, after⟩

/-- A list under a title of its own, nothing when it is empty. -/
def titled (title mark : String) : List String → List String
  | [] => []
  | items => title :: items.map (mark ++ ·)

theorem oneLine_titled {title : String} (ht : OneLine title) (hm : OneLine mark)
    {items : List String} (h : ∀ x ∈ items, OneLine x) :
    ∀ l ∈ titled title mark items, OneLine l := by
  cases items with
  | nil => simp [titled]
  | cons x items => exact List.forall_mem_cons.mpr ⟨ht, oneLine_map mark hm h⟩

theorem avoids_titled {title q : String} (ht : ¬ mark.toList <+: title.toList) {xs : List String}
    (hx : Avoids mark xs) (items : List String) : Avoids mark (titled title q items ++ xs) := by
  cases items with
  | nil => exact hx
  | cons x items => exact avoids_line ht _

theorem titled_append_inj {title : String} {ts us xs ys : List String}
    (hx : Avoids title xs ∧ Avoids mark xs) (hy : Avoids title ys ∧ Avoids mark ys)
    (h : titled title mark ts ++ xs = titled title mark us ++ ys) : ts = us ∧ xs = ys := by
  have untitled {zs : List String} (hz : Avoids title zs) (rest : List String) :
      zs ≠ title :: rest := by
    simpa using hz "" rest
  cases ts with
  | nil =>
    cases us with
    | nil => exact ⟨rfl, h⟩
    | cons u us => exact absurd h (untitled hx.1 _)
  | cons t ts =>
    cases us with
    | nil => exact absurd h.symm (untitled hy.1 _)
    | cons u us => exact map_append_inj hx.2 hy.2 (List.cons.inj h).2

theorem split_intercalate_comma {part : String} {parts : List String} (first : ',' ∉ part.toList)
    (h : ∀ p ∈ parts, ',' ∉ p.toList) :
    split ',' (", ".intercalate (part :: parts)).toList =
      part.toList :: parts.map fun p => ' ' :: p.toList := by
  induction parts generalizing part with
  | nil => simpa using split_of_notMem first
  | cons q parts ih =>
    obtain ⟨hq, rest⟩ := List.forall_mem_cons.mp h
    -- The blank behind a comma goes to the part after it.
    have comma : (", " : String).toList = [',', ' '] := rfl
    rw [String.intercalate_cons_cons, String.toList_append, String.toList_append, comma,
      List.append_assoc, List.cons_append, split_append_cons first, List.cons_append,
      List.nil_append, split, if_neg (by decide), ih hq rest]
    rfl

/-- Parts without commas are read off their list, also when they are empty. -/
theorem intercalate_comma_inj {ps qs : List String} (hp : ∀ p ∈ ps, ',' ∉ p.toList)
    (hq : ∀ q ∈ qs, ',' ∉ q.toList) (np : ps ≠ []) (nq : qs ≠ [])
    (h : ", ".intercalate ps = ", ".intercalate qs) : ps = qs := by
  obtain ⟨p, ps, rfl⟩ := List.exists_cons_of_ne_nil np
  obtain ⟨q, qs, rfl⟩ := List.exists_cons_of_ne_nil nq
  obtain ⟨hp, hps⟩ := List.forall_mem_cons.mp hp
  obtain ⟨hq, hqs⟩ := List.forall_mem_cons.mp hq
  have parts := congrArg (fun s => split ',' s.toList) h
  simp only [split_intercalate_comma hp hps, split_intercalate_comma hq hqs] at parts
  obtain ⟨first, rest⟩ := List.cons.inj parts
  have spaced : Function.Injective fun p : String => ' ' :: p.toList := by
    intro p q same
    exact String.toList_inj.mp (List.cons.inj same).2
  rw [String.toList_inj.mp first, List.map_injective_iff.mpr spaced rest]

/-- A list on one line between brackets, no line when it is empty. -/
def bracketed (mark : String) (parts : List String) : List String :=
  if parts.isEmpty then [] else [mark ++ ", ".intercalate parts ++ "]"]

theorem bracketed_cons (mark part : String) (parts : List String) :
    bracketed mark (part :: parts) = [mark ++ (", ".intercalate (part :: parts) ++ "]")] := by
  simp [bracketed, String.append_assoc]

theorem oneLine_bracketed (mark : String) (hm : OneLine mark) {parts : List String}
    (h : ∀ p ∈ parts, OneLine p) : ∀ l ∈ bracketed mark parts, OneLine l := by
  have joined : OneLine (", ".intercalate parts) := oneLine_intercalate (by decide) h
  have closing : OneLine "]" := by decide
  unfold bracketed
  split_ifs <;> simp [hm, joined, closing]

theorem avoids_bracketed {q : String} (h : Apart mark q) {xs : List String} (hx : Avoids mark xs)
    (parts : List String) : Avoids mark (bracketed q parts ++ xs) := by
  cases parts with
  | nil => exact hx
  | cons p parts =>
    rw [bracketed_cons]
    exact avoids_cons h _ _

theorem bracketed_append_inj {ps qs xs ys : List String} (hp : ∀ p ∈ ps, ',' ∉ p.toList)
    (hq : ∀ q ∈ qs, ',' ∉ q.toList) (hx : Avoids mark xs) (hy : Avoids mark ys)
    (h : bracketed mark ps ++ xs = bracketed mark qs ++ ys) : ps = qs ∧ xs = ys := by
  cases ps with
  | nil =>
    cases qs with
    | nil => exact ⟨rfl, h⟩
    | cons q qs =>
      rw [bracketed_cons] at h
      exact absurd h (hx _ _)
  | cons p ps =>
    cases qs with
    | nil =>
      rw [bracketed_cons] at h
      exact absurd h.symm (hy _ _)
    | cons q qs =>
      rw [bracketed_cons, bracketed_cons] at h
      obtain ⟨line, rest⟩ := List.cons.inj h
      have inner := (String.append_left_inj "]").mp ((String.append_right_inj mark).mp line)
      exact ⟨intercalate_comma_inj hp hq (by simp) (by simp) inner, rest⟩

/-- A key with its value. -/
def entry (e : String × String) : String := e.1 ++ ": " ++ e.2

theorem entry_inj {d e : String × String} (hd : ':' ∉ d.1.toList) (he : ':' ∉ e.1.toList)
    (h : entry d = entry e) : d = e := by
  have chars : d.1.toList ++ ':' :: ' ' :: d.2.toList = e.1.toList ++ ':' :: ' ' :: e.2.toList := by
    simpa [entry] using congrArg String.toList h
  have parts := congrArg (split ':') chars
  rw [split_append_cons hd, split_append_cons he] at parts
  have key : d.1 = e.1 := String.toList_inj.mp (List.cons.inj parts).1
  have value : entry d = d.1 ++ ": " ++ e.2 := by rw [h, entry, key]
  exact Prod.ext key ((String.append_right_inj _).mp value)

theorem map_entry_inj {ds es : List (String × String)} (hd : ∀ d ∈ ds, ':' ∉ d.1.toList)
    (he : ∀ e ∈ es, ':' ∉ e.1.toList) (h : ds.map entry = es.map entry) : ds = es := by
  induction ds generalizing es with
  | nil => exact (List.map_eq_nil_iff.mp h.symm).symm
  | cons d ds ih =>
    cases es with
    | nil => simp at h
    | cons e es =>
      obtain ⟨first, rest⟩ := List.cons.inj h
      rw [entry_inj (hd d (by simp)) (he e (by simp)) first,
        ih (fun x hx => hd x (by simp [hx])) (fun x hx => he x (by simp [hx])) rest]

variable {α : Type}

/-- From the lines of a plain value, followed by lines of the kind `Next`, the value and what
follows it are recovered. -/
def Readable (plain : α → Prop) (lines : α → List String) (Next : List String → Prop) : Prop :=
  ∀ ⦃a b xs ys⦄, plain a → plain b → Next xs → Next ys → lines a ++ xs = lines b ++ ys →
  a = b ∧ xs = ys

/-- Values that can be read one by one can be read as a list, up to lines that
cannot begin a value. -/
theorem Readable.flatMap {plain : α → Prop} {lines : α → List String}
    {Next End : List String → Prop} (each : Readable plain lines Next)
    (next : ∀ a xs, Next (lines a ++ xs)) (last : ∀ xs, End xs → Next xs)
    (begun : ∀ a xs, ¬ End (lines a ++ xs)) :
    Readable (fun as : List α => ∀ a ∈ as, plain a) (List.flatMap lines) End := by
  have follow (as : List α) {xs : List String} (hx : End xs) : Next (as.flatMap lines ++ xs) := by
    cases as with
    | nil => exact last xs hx
    | cons a as =>
      rw [List.flatMap_cons, List.append_assoc]
      exact next a _
  intro as bs xs ys ha hb hx hy h
  -- A list that is over stands before a line that ends both, so the other list is over too.
  induction as generalizing bs with
  | nil =>
    cases bs with
    | nil => exact ⟨rfl, h⟩
    | cons b bs =>
      rw [List.flatMap_nil, List.nil_append, List.flatMap_cons, List.append_assoc] at h
      exact absurd (h ▸ hx) (begun b _)
  | cons a as ih =>
    cases bs with
    | nil =>
      rw [List.flatMap_nil, List.nil_append, List.flatMap_cons, List.append_assoc] at h
      exact absurd (h ▸ hy) (begun a _)
    | cons b bs =>
      rw [List.flatMap_cons, List.flatMap_cons, List.append_assoc, List.append_assoc] at h
      obtain ⟨first, rest⟩ := each (ha a (by simp)) (hb b (by simp)) (follow as hx) (follow bs hy) h
      obtain ⟨same, after⟩ :=
        ih (fun c hc => ha c (by simp [hc])) (fun c hc => hb c (by simp [hc])) rest
      rw [first, same]
      exact ⟨rfl, after⟩

end PipelineCompiler.Text
