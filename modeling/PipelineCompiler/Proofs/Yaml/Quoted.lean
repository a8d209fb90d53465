import Mathlib.Tactic.SplitIfs
import PipelineCompiler.Json.Value
import PipelineCompiler.Yaml.Scalar

namespace PipelineCompiler.Yaml

/-- A character that JSON text escapes, or that stands for itself in a YAML text too. -/
def Portable (c : Char) : Prop := c.toNat < 0x20 ∨ (isAllowed c = true ∧ isBreak c = false)

instance : DecidablePred Portable := fun _ => inferInstanceAs (Decidable (_ ∨ _))

/-- White space that is still open, all in one line. -/
def Unbroken (gap : Option Gap) : Prop := ∀ g ∈ gap, g.broken = false

theorem unbroken_none : Unbroken none := by
  intro g hg
  cases hg

theorem unbroken_withBlank {gap : Option Gap} (h : Unbroken gap) (c : Char) :
    Unbroken (withBlank gap c) := by
  intro g hg
  obtain rfl := Option.some.inj hg
  cases gap with
  | none => rfl
  | some g => simp [Gap.addBlank, h g rfl]

theorem joined_withBlank {gap : Option Gap} (h : Unbroken gap) (acc : List Char) (c : Char) :
    joined acc (withBlank gap c) = c :: joined acc gap := by
  cases gap with
  | none => rfl
  | some g =>
    have line : g.broken = false := h g rfl
    simp [joined, withBlank, Gap.addBlank, Gap.text, line]

theorem codePoint?_digits : ∀ n < 32,
    Text.codePoint? ['0', '0', Nat.digitChar (n / 16), Nat.digitChar (n % 16)] =
      some (Char.ofNat n) := by
  decide

theorem scanDouble_short {e c : Char} (he : escape? e = some c) (line : isBreak e = false)
    (letter : e ≠ 'x' ∧ e ≠ 'u' ∧ e ≠ 'U') (acc : List Char) (gap : Option Gap) (p : Place)
    (rest : List Char) :
    scanDouble acc gap p ('\\' :: e :: rest) =
      scanDouble (c :: joined acc gap) none (p.move 2) rest := by
  have ret : e ≠ '\r' := by
    rintro rfl
    cases line
  rw [scanDouble]
  · simp [line, he]
  · intros; simp_all
  · intros; simp_all
  · intros; simp_all
  · intros; simp_all

theorem scanDouble_unicode {c : Char} (low : c.toNat < 0x20) (acc : List Char)
    (gap : Option Gap) (p : Place) (rest : List Char) :
    scanDouble acc gap p (Json.unicodeEscape c ++ rest) =
      scanDouble (c :: joined acc gap) none (p.move 6) rest := by
  rw [Json.unicodeEscape]
  simp only [List.cons_append, List.nil_append]
  rw [scanDouble]
  simp only [codePoint?_digits c.toNat low, Char.ofNat_toNat]

theorem scanDouble_blank (acc : List Char) (gap : Option Gap) (p : Place) (rest : List Char) :
    scanDouble acc gap p (' ' :: rest) = scanDouble acc (withBlank gap ' ') p.step rest := by
  rw [scanDouble]
  · simp [isBlank]
  all_goals intros; simp_all

/-- Off the start of a line a character that is no mark stands for itself. -/
theorem scanDouble_raw {c : Char} (quote : c ≠ '"') (backslash : c ≠ '\\')
    (blank : isBlank c = false) (line : isBreak c = false) (acc : List Char) (gap : Option Gap)
    {p : Place} (hp : 0 < p.column) (rest : List Char) :
    scanDouble acc gap p (c :: rest) = scanDouble (c :: joined acc gap) none p.step rest := by
  have ret : c ≠ '\r' := by
    rintro rfl
    cases line
  have inner : (p.column == 0) = false := by simpa using Nat.ne_of_gt hp
  rw [scanDouble]
  · simp [blank, line, markInside, inner]
  all_goals intros; simp_all

/-- However a character is written, the scalar gets that character; blanks stay open. -/
theorem scanDouble_escapeChar {c : Char} (hc : Portable c) (acc : List Char) {gap : Option Gap}
    (hg : Unbroken gap) {p : Place} (hp : 0 < p.column) (rest : List Char) :
    ∃ acc' gap', scanDouble acc gap p (Json.escapeChar c ++ rest) =
        scanDouble acc' gap' (p.move (Json.escapeChar c).length) rest ∧
      joined acc' gap' = c :: joined acc gap ∧ Unbroken gap' := by
  have plain {text : List Char} {n : Nat} (h : scanDouble acc gap p (text ++ rest) =
      scanDouble (c :: joined acc gap) none (p.move n) rest) (hn : text.length = n) :
      ∃ acc' gap', scanDouble acc gap p (text ++ rest) =
      scanDouble acc' gap' (p.move text.length) rest ∧
        joined acc' gap' = c :: joined acc gap ∧ Unbroken gap' :=
    ⟨_, none, hn ▸ h, rfl, unbroken_none⟩
  unfold Json.escapeChar
  split_ifs with quote backslash backspace feed line ret tab low
  · subst quote; exact plain (scanDouble_short rfl rfl (by decide) acc gap p rest) rfl
  · subst backslash; exact plain (scanDouble_short rfl rfl (by decide) acc gap p rest) rfl
  · subst backspace; exact plain (scanDouble_short rfl rfl (by decide) acc gap p rest) rfl
  · subst feed; exact plain (scanDouble_short rfl rfl (by decide) acc gap p rest) rfl
  · subst line; exact plain (scanDouble_short rfl rfl (by decide) acc gap p rest) rfl
  · subst ret; exact plain (scanDouble_short rfl rfl (by decide) acc gap p rest) rfl
  · subst tab; exact plain (scanDouble_short rfl rfl (by decide) acc gap p rest) rfl
  · exact plain (scanDouble_unicode low acc gap p rest) rfl
  · have other : isBreak c = false := (hc.resolve_left low).2
    by_cases space : c = ' '
    · subst space
      exact ⟨acc, withBlank gap ' ', scanDouble_blank acc gap p rest, joined_withBlank hg acc ' ',
        unbroken_withBlank hg ' '⟩
    · exact plain (scanDouble_raw quote backslash (by simp [isBlank, space,
        tab]) other acc gap hp rest) rfl

theorem scanDouble_escaped {cs : List Char} (hc : ∀ c ∈ cs, Portable c) (acc : List Char)
    {gap : Option Gap} (hg : Unbroken gap) {p : Place} (hp : 0 < p.column) (rest : List Char) :
    scanDouble acc gap p (cs.flatMap Json.escapeChar ++ '"' :: rest) =
      some ⟨String.ofList ((joined acc gap).reverse ++ cs), rest,
        p.move ((cs.flatMap Json.escapeChar).length + 1)⟩ := by
  induction cs generalizing acc gap p with
  | nil => simp [scanDouble, Place.step, Place.move]
  | cons c cs ih =>
    obtain ⟨acc', gap', scanned, read, line⟩ := scanDouble_escapeChar (hc c (by simp)) acc hg hp
      (cs.flatMap Json.escapeChar ++ '"' :: rest)
    have further : 0 < (p.move (Json.escapeChar c).length).column :=
      Nat.lt_of_lt_of_le hp (Nat.le_add_right _ _)
    rw [List.flatMap_cons, List.append_assoc, scanned,
      ih (fun d hd => hc d (by simp [hd])) acc' line further, read]
    simp [Place.move, Nat.add_assoc]

/-- The characters of an escaped string may stand in a YAML text. -/
theorem isAllowed_escapeChar {c : Char} (hc : Portable c) :
    ∀ d ∈ Json.escapeChar c, isAllowed d = true := by
  have digit : ∀ n < 16, isAllowed (Nat.digitChar n) = true := by decide
  have short {e : Char} (he : isAllowed e = true) : ∀ d ∈ ['\\', e], isAllowed d = true := by
    intro d hd
    simp only [List.mem_cons, List.not_mem_nil, or_false] at hd
    rcases hd with rfl | rfl
    · rfl
    · exact he
  unfold Json.escapeChar
  split_ifs with quote backslash backspace feed line ret tab low
  · exact short rfl
  · exact short rfl
  · exact short rfl
  · exact short rfl
  · exact short rfl
  · exact short rfl
  · exact short rfl
  · have first : c.toNat / 16 < 16 := by omega
    have second : c.toNat % 16 < 16 := Nat.mod_lt _ (by decide)
    intro d hd
    simp only [Json.unicodeEscape, List.mem_cons, List.not_mem_nil, or_false] at hd
    rcases hd with rfl | rfl | rfl | rfl | rfl | rfl
    · rfl
    · rfl
    · rfl
    · rfl
    · exact digit _ first
    · exact digit _ second
  · simpa using (hc.resolve_left low).1

end PipelineCompiler.Yaml
