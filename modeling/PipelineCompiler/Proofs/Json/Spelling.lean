import Mathlib.Data.List.Chain
import Mathlib.Data.List.TakeWhile
import PipelineCompiler.Proofs.Json.Scanning

namespace PipelineCompiler.Json

namespace Token

/-- Characters inside the quotes of a string, and what they add to what has been written. -/
inductive Inside : Written → List Char → Written → Prop
  | nil (w : Written) : Inside w [] w
  | plain {w w' : Written} {c : Char} {cs : List Char} (control : ¬ c.toNat < 0x20)
      (quote : c ≠ '"') (backslash : c ≠ '\\') (rest : Inside (w.put c) cs w') :
          Inside w (c :: cs) w'
  | short {w w' : Written} {e c : Char} {cs : List Char} (letter : shortEscape? e = some c)
      (rest : Inside (w.put c) cs w') : Inside w ('\\' :: e :: cs) w'
  | unit {w w' : Written} {a b c d : Char} {n : Nat} {cs : List Char}
      (digits : unit? a b c d = some n) (rest : Inside (w.putUnit n) cs w') :
          Inside w ('\\' :: 'u' :: a :: b :: c :: d :: cs) w'

theorem scanText_inside {w w' : Written} {cs : List Char} (h : Inside w cs w') (rest : List Char) :
    scanText w (cs ++ '"' :: rest) = some (w'.finish, rest) := by
  induction h with
  | nil w => rw [List.nil_append, scanText]
  | @plain w w' c cs control quote backslash _ ih =>
    rw [List.cons_append, scanText, if_neg (by simp [control, backslash]), ih]
    · exact quote
    · intros; simp_all
    · intros; simp_all
  | short letter _ ih => exact (scanText_short letter _ _).trans ih
  | unit digits _ ih =>
    simp only [List.cons_append]
    rw [scanText, digits]
    exact ih

theorem inside_of_scanText {w : Written} {cs rest : List Char} {s : Text}
    (h : scanText w cs = some (s, rest)) :
    ∃ inner w', cs = inner ++ '"' :: rest ∧ Inside w inner w' ∧ s = w'.finish := by
  fun_induction scanText w cs with
  | case1 => cases h
  | case2 w after =>
    cases h
    exact ⟨[], w, rfl, .nil w, rfl⟩
  | case3 w a b c d after n digits ih =>
    obtain ⟨inner, w', rfl, inside, finish⟩ := ih h
    exact ⟨_, w', rfl, .unit digits inside, finish⟩
  | case4 => cases h
  | case5 w e after _ c letter ih =>
    obtain ⟨inner, w', rfl, inside, finish⟩ := ih h
    exact ⟨_, w', rfl, .short letter inside, finish⟩
  | case6 => cases h
  | case7 => cases h
  | case8 w c after quote _ _ allowed ih =>
    obtain ⟨inner, w', rfl, inside, finish⟩ := ih h
    simp only [not_or] at allowed
    exact ⟨c :: inner, w', rfl, .plain allowed.1 quote allowed.2 inside, finish⟩

/-- A run of digits. -/
structure DigitRun (ds : List Nat) (cs : List Char) : Prop where
  nonempty : cs ≠ []
  isDigit : ∀ c ∈ cs, c.isDigit = true
  value : ds = cs.map Text.digitValue

inductive FractionText : List Nat → List Char → Prop
  | absent : FractionText [] []
  | digits {ds : List Nat} {cs : List Char} (run : DigitRun ds cs) : FractionText ds ('.' :: cs)

inductive PowerText : Option (Bool × List Nat) → List Char → Prop
  | absent : PowerText none []
  | unsigned {e : Char} {ds : List Nat} {cs : List Char} (mark : e = 'e' ∨ e = 'E')
      (run : DigitRun ds cs) :
      PowerText (some (false, ds)) (e :: cs)
  | plus {e : Char} {ds : List Nat} {cs : List Char} (mark : e = 'e' ∨ e = 'E')
      (run : DigitRun ds cs) :
      PowerText (some (false, ds)) (e :: '+' :: cs)
  | minus {e : Char} {ds : List Nat} {cs : List Char} (mark : e = 'e' ∨ e = 'E')
      (run : DigitRun ds cs) :
      PowerText (some (true, ds)) (e :: '-' :: cs)

/-- A numeral after its sign. No digit follows a leading zero. -/
inductive UnsignedText : Numeral → List Char → Prop
  | mk {negative : Bool} {whole fraction : List Nat} {power : Option (Bool × List Nat)}
      {ws fs ps : List Char} (run : DigitRun whole ws)
        (leading : whole.head? = some 0 → whole.length = 1)
      (fractional : FractionText fraction fs) (exponent : PowerText power ps) :
      UnsignedText ⟨negative, whole, fraction, power⟩ (ws ++ (fs ++ ps))

def sign (negative : Bool) : List Char := if negative then ['-'] else []

/-- The text goes on with nothing that could belong to a numeral. -/
def EndsNumeral (rest : List Char) : Prop :=
  ∀ c r, rest = c :: r → c.isDigit = false ∧ c ≠ '.' ∧ c ≠ 'e' ∧ c ≠ 'E'

/-- A run of digits ends where no digit follows. -/
theorem digits_run {ds : List Nat} {cs rest : List Char} (h : DigitRun ds cs)
    (hr : ∀ c r, rest = c :: r → c.isDigit = false) :
    digits (cs ++ rest) = ds ∧ afterDigits (cs ++ rest) = rest := by
  have stop : rest.takeWhile Char.isDigit = [] ∧ rest.dropWhile Char.isDigit = rest := by
    cases rest with
    | nil => exact ⟨rfl, rfl⟩
    | cons c r =>
      have other := hr c r rfl
      simp [other]
  constructor
  · rw [digits, List.takeWhile_append_of_pos h.isDigit, stop.1, List.append_nil, h.value]
  · rw [afterDigits, List.dropWhile_append_of_pos h.isDigit, stop.2]

theorem DigitRun.isEmpty {ds : List Nat} {cs : List Char} (h : DigitRun ds cs) :
    ds.isEmpty = false := by
  rw [h.value]
  simpa using h.nonempty

theorem run_of_digits {cs : List Char} (h : (digits cs).isEmpty = false) :
    ∃ ws, cs = ws ++ afterDigits cs ∧ DigitRun (digits cs) ws := by
  refine ⟨cs.takeWhile Char.isDigit, List.takeWhile_append_dropWhile.symm, ?_, ?_, rfl⟩
  · intro empty
    simp [digits, empty] at h
  · intro c hc
    exact List.mem_takeWhile_imp hc

theorem DigitRun.head {ds : List Nat} {cs : List Char} (h : DigitRun ds cs) :
    ∃ c r, cs = c :: r ∧ c.isDigit = true := by
  obtain ⟨c, r, rfl⟩ := List.exists_cons_of_ne_nil h.nonempty
  exact ⟨c, r, rfl, h.isDigit c (by simp)⟩

/-- A digit is none of the other characters of a numeral. -/
theorem ne_of_isDigit {c d : Char} (hc : c.isDigit = true) (hd : d.isDigit = false) : c ≠ d := by
  rintro rfl
  rw [hc] at hd
  cases hd

theorem EndsNumeral.noDigit {rest : List Char} (h : EndsNumeral rest) (c : Char) (r : List Char)
    (eq : rest = c :: r) : c.isDigit = false :=
  (h c r eq).1

theorem scanSign_digits {ds : List Nat} {cs : List Char} (h : DigitRun ds cs) (rest : List Char) :
    scanSign (cs ++ rest) = (false, cs ++ rest) := by
  obtain ⟨c, r, rfl, digit⟩ := h.head
  rw [List.cons_append, scanSign]
  · rintro _ ⟨⟩
    cases digit
  · rintro _ ⟨⟩
    cases digit

theorem scanPower_text {p : Option (Bool × List Nat)} {cs rest : List Char} (h : PowerText p cs)
    (hr : EndsNumeral rest) : scanPower (cs ++ rest) = some (p, rest) := by
  cases h with
  | absent =>
    cases rest with
    | nil => rfl
    | cons c r =>
      obtain ⟨-, -, small, large⟩ := hr c r rfl
      rw [List.nil_append, scanPower, if_neg (by simp [small, large])]
  | unsigned mark run =>
    rw [List.cons_append, scanPower, if_pos mark, scanSign_digits run]
    simp [digits_run run hr.noDigit, run.isEmpty]
  | plus mark run =>
    rw [List.cons_append, List.cons_append, scanPower, if_pos mark, scanSign]
    simp [digits_run run hr.noDigit, run.isEmpty]
  | minus mark run =>
    rw [List.cons_append, List.cons_append, scanPower, if_pos mark, scanSign]
    simp [digits_run run hr.noDigit, run.isEmpty]

/-- What may follow a run of digits within a numeral begins with no digit. -/
theorem PowerText.noDigit {p : Option (Bool × List Nat)} {cs rest : List Char} (h : PowerText p cs)
    (hr : EndsNumeral rest) (c : Char) (r : List Char) (eq : cs ++ rest = c :: r) :
    c.isDigit = false ∧ c ≠ '.' := by
  have letter {e : Char} (mark : e = 'e' ∨ e = 'E') : e.isDigit = false ∧ e ≠ '.' := by
    rcases mark with rfl | rfl <;> decide
  cases h with
  | absent => exact ⟨(hr c r eq).1, (hr c r eq).2.1⟩
  | unsigned mark run => exact (List.cons.inj eq).1 ▸ letter mark
  | plus mark run => exact (List.cons.inj eq).1 ▸ letter mark
  | minus mark run => exact (List.cons.inj eq).1 ▸ letter mark

theorem scanFraction_text {f : List Nat} {cs rest : List Char} (h : FractionText f cs)
    (hr : ∀ c r, rest = c :: r → c.isDigit = false ∧ c ≠ '.') :
    scanFraction (cs ++ rest) = some (f, rest) := by
  cases h with
  | absent =>
    rw [List.nil_append, scanFraction]
    intro r eq
    exact (hr '.' r eq).2 rfl
  | digits run =>
    have read := digits_run run fun c r eq => (hr c r eq).1
    rw [List.cons_append, scanFraction, read.1, read.2, run.isEmpty]
    rfl

theorem scanNumeral_text {n : Numeral} {cs rest : List Char} (h : UnsignedText n cs)
    (hr : EndsNumeral rest) : scanNumeral n.negative (cs ++ rest) = some (n, rest) := by
  obtain ⟨run, leading, fractional, exponent⟩ := h
  rename_i negative whole fraction power ws fs ps
  have afterWhole : ∀ c r, fs ++ (ps ++ rest) = c :: r → c.isDigit = false := by
    intro c r eq
    cases fractional with
    | absent => exact (exponent.noDigit hr c r eq).1
    | digits _ => exact (List.cons.inj eq).1 ▸ rfl
  have read := digits_run run afterWhole
  have proper : ¬ (whole.isEmpty = true ∨ whole.head? = some 0 ∧ whole.length > 1) := by
    rw [run.isEmpty]
    rintro (empty | ⟨zero, long⟩)
    · cases empty
    · rw [leading zero] at long
      exact absurd long (by decide)
  rw [List.append_assoc, List.append_assoc, scanNumeral, read.1, read.2]
  simp only [proper, if_false, scanFraction_text fractional (exponent.noDigit hr),
    scanPower_text exponent hr]

theorem scanSign_cases (cs : List Char) : (∃ r, cs = '-' :: r ∧ scanSign cs = (true, r)) ∨
    (∃ r, cs = '+' :: r ∧ scanSign cs = (false, r)) ∨ scanSign cs = (false, cs) := by
  unfold scanSign
  split
  · exact .inl ⟨_, rfl, rfl⟩
  · exact .inr (.inl ⟨_, rfl, rfl⟩)
  · exact .inr (.inr rfl)

theorem powerText_of_scanPower {cs rest : List Char} {p : Option (Bool × List Nat)}
    (h : scanPower cs = some (p, rest)) : ∃ ps, cs = ps ++ rest ∧ PowerText p ps := by
  unfold scanPower at h
  split at h
  · cases h
    exact ⟨[], rfl, .absent⟩
  · next e after =>
    split at h
    · next mark =>
      dsimp only at h
      split at h
      · cases h
      · next filled =>
        obtain ⟨ws, eq, run⟩ := run_of_digits (by simpa using filled)
        cases h
        rcases scanSign_cases after with ⟨r, rfl, signed⟩ | ⟨r, rfl, signed⟩ | signed <;>
          rw [signed] at eq run ⊢
        · exact ⟨e :: '-' :: ws, congrArg (e :: '-' :: ·) eq, .minus mark run⟩
        · exact ⟨e :: '+' :: ws, congrArg (e :: '+' :: ·) eq, .plus mark run⟩
        · exact ⟨e :: ws, congrArg (e :: ·) eq, .unsigned mark run⟩
    · cases h
      exact ⟨[], rfl, .absent⟩

theorem fractionText_of_scanFraction {cs rest : List Char} {f : List Nat}
    (h : scanFraction cs = some (f, rest)) : ∃ fs, cs = fs ++ rest ∧ FractionText f fs := by
  unfold scanFraction at h
  split at h
  · split at h
    · cases h
    · next filled =>
      obtain ⟨ws, eq, run⟩ := run_of_digits (by simpa using filled)
      cases h
      exact ⟨'.' :: ws, congrArg _ eq, .digits run⟩
  · cases h
    exact ⟨[], rfl, .absent⟩

theorem unsignedText_of_scanNumeral {negative : Bool} {cs rest : List Char} {n : Numeral}
    (h : scanNumeral negative cs = some (n, rest)) :
    n.negative = negative ∧ ∃ ws, cs = ws ++ rest ∧ UnsignedText n ws := by
  unfold scanNumeral at h
  dsimp only at h
  split at h
  · cases h
  · next proper =>
    rw [not_or] at proper
    obtain ⟨ws, whole, run⟩ := run_of_digits (by simpa using proper.1)
    split at h
    · cases h
    · next fraction afterFraction hf =>
      obtain ⟨fs, fractional, ft⟩ := fractionText_of_scanFraction hf
      split at h
      · cases h
      · next power afterPower hp =>
        obtain ⟨ps, exponent, pt⟩ := powerText_of_scanPower hp
        cases h
        have leading : (digits cs).head? = some 0 → (digits cs).length = 1 := by
          intro zero
          have short : ¬ (digits cs).length > 1 := fun long => proper.2 ⟨zero, long⟩
          have filled : (digits cs).length ≠ 0 :=
            fun empty => proper.1 (by simp [List.eq_nil_of_length_eq_zero empty])
          omega
        refine ⟨rfl, ws ++ (fs ++ ps), ?_, .mk run leading ft pt⟩
        rw [List.append_assoc, List.append_assoc, ← exponent, ← fractional]
        exact whole

/-- The spellings of a token. -/
inductive Lexeme : Token → List Char → Prop
  | openArray : Lexeme .openArray ['[']
  | closeArray : Lexeme .closeArray [']']
  | openObject : Lexeme .openObject ['\x7b']
  | closeObject : Lexeme .closeObject ['\x7d']
  | colon : Lexeme .colon [':']
  | comma : Lexeme .comma [',']
  | null : Lexeme .null ['n', 'u', 'l', 'l']
  | yes : Lexeme (.bool true) ['t', 'r', 'u', 'e']
  | no : Lexeme (.bool false) ['f', 'a', 'l', 's', 'e']
  | numeral {n : Numeral} {cs : List Char} (h : UnsignedText n cs) :
      Lexeme (.numeral n) (sign n.negative ++ cs)
  | text {cs : List Char} {w : Written} (h : Inside {} cs w) :
      Lexeme (.text w.finish) ('"' :: (cs ++ ['"']))

def isNumeral : Token → Bool
  | .numeral _ => true
  | _ => false

theorem UnsignedText.head {n : Numeral} {cs : List Char} (h : UnsignedText n cs) :
    ∃ c r, cs = c :: r ∧ c.isDigit = true := by
  obtain ⟨run, -, -, -⟩ := h
  obtain ⟨c, r, rfl, digit⟩ := run.head
  exact ⟨c, _, rfl, digit⟩

theorem scanOne_lexeme {t : Token} {cs rest : List Char} (h : Lexeme t cs)
    (hr : t.isNumeral = true → EndsNumeral rest) : scanOne (cs ++ rest) = some (t, rest) := by
  cases h with
  | numeral h =>
    have read := scanNumeral_text h (hr rfl)
    rename_i n cs
    cases sg : n.negative with
    | true =>
      rw [sg] at read
      simp [sign, scanOne, read]
    | false =>
      rw [sg] at read
      obtain ⟨c, r, rfl, digit⟩ := h.head
      rw [sign, if_neg (by decide), List.nil_append, List.cons_append] at *
      rw [scanOne, read]
      · rfl
      all_goals
        intro _ eq
        obtain rfl := (List.cons.inj eq).1
        cases digit
  | @text cs w h =>
    have chars : ('"' :: (cs ++ ['"'])) ++ rest = '"' :: (cs ++ '"' :: rest) := by simp
    rw [chars, scanOne, scanText_inside h]
    rfl
  | _ => rfl

theorem lexeme_of_scanOne {t : Token} {cs rest : List Char} (h : scanOne cs = some (t, rest)) :
    ∃ piece, cs = piece ++ rest ∧ Lexeme t piece := by
  unfold scanOne at h
  split at h
  · cases h; exact ⟨_, rfl, .openArray⟩
  · cases h; exact ⟨_, rfl, .closeArray⟩
  · cases h; exact ⟨_, rfl, .openObject⟩
  · cases h; exact ⟨_, rfl, .closeObject⟩
  · cases h; exact ⟨_, rfl, .colon⟩
  · cases h; exact ⟨_, rfl, .comma⟩
  · obtain ⟨⟨s, after⟩, hs, eq⟩ := Option.map_eq_some_iff.mp h
    obtain ⟨inner, w, rfl, inside, rfl⟩ := inside_of_scanText hs
    cases eq
    exact ⟨_, by simp, .text inside⟩
  · cases h; exact ⟨_, rfl, .null⟩
  · cases h; exact ⟨_, rfl, .yes⟩
  · cases h; exact ⟨_, rfl, .no⟩
  · obtain ⟨⟨n, after⟩, hn, eq⟩ := Option.map_eq_some_iff.mp h
    obtain ⟨sg, ws, rfl, text⟩ := unsignedText_of_scanNumeral hn
    cases eq
    exact ⟨_, by simp [sign, sg], .numeral text⟩
  · obtain ⟨⟨n, after⟩, hn, eq⟩ := Option.map_eq_some_iff.mp h
    obtain ⟨sg, ws, rfl, text⟩ := unsignedText_of_scanNumeral hn
    cases eq
    exact ⟨_, by simp [sign, sg], .numeral text⟩

theorem Lexeme.head {t : Token} {cs : List Char} (h : Lexeme t cs) :
    ∃ c r, cs = c :: r ∧ isSpace c = false := by
  cases h with
  | @numeral n cs h =>
    obtain ⟨c, r, rfl, digit⟩ := h.head
    have apart : isSpace c = false := by
      simp only [isSpace, Bool.or_eq_false_iff, beq_eq_false_iff_ne]
      exact ⟨⟨⟨ne_of_isDigit digit rfl, ne_of_isDigit digit rfl⟩, ne_of_isDigit digit rfl⟩,
        ne_of_isDigit digit rfl⟩
    cases n.negative with
    | true => exact ⟨'-', _, rfl, rfl⟩
    | false => exact ⟨c, r, rfl, apart⟩
  | _ => exact ⟨_, _, rfl, rfl⟩

/-- A text that holds these tokens, each in one of its spellings, and white space
anywhere between them. -/
inductive Spells : List Token → List Char → Prop
  | nil {white : List Char} (hw : ∀ c ∈ white, isSpace c = true) : Spells [] white
  | cons {t : Token} {ts : List Token} {white piece rest : List Char}
      (hw : ∀ c ∈ white, isSpace c = true) (lexeme : Lexeme t piece) (after : Spells ts rest) :
          Spells (t :: ts) (white ++ (piece ++ rest))

/-- The tokens that may follow a numeral. -/
def isMark : Token → Bool
  | .comma | .closeArray | .closeObject => true
  | _ => false

/-- Every numeral is followed by a mark, or by nothing. -/
def Parted (ts : List Token) : Prop := ts.IsChain fun t u => t.isNumeral = true → u.isMark = true

theorem Spells.endsNumeral {t : Token} {ts : List Token} (hp : Parted (t :: ts))
    (ht : t.isNumeral = true) {rest : List Char} (h : Spells ts rest) : EndsNumeral rest := by
  have white {c : Char} (hc : isSpace c = true) :
      c.isDigit = false ∧ c ≠ '.' ∧ c ≠ 'e' ∧ c ≠ 'E' := by
    simp only [isSpace, Bool.or_eq_true, beq_iff_eq] at hc
    rcases hc with ((rfl | rfl) | rfl) | rfl <;> decide
  rintro c r eq
  cases h with
  | nil hw => exact white (hw c (by simp [eq]))
  | @cons u us blanks piece rest hw lexeme after =>
    cases blanks with
    | cons d blanks =>
      obtain rfl := (List.cons.inj eq).1
      exact white (hw d (by simp))
    | nil =>
      have mark : u.isMark = true := (List.isChain_cons_cons.mp hp).1 ht
      cases lexeme with
      | comma => exact (List.cons.inj eq).1 ▸ by decide
      | closeArray => exact (List.cons.inj eq).1 ▸ by decide
      | closeObject => exact (List.cons.inj eq).1 ▸ by decide
      | _ => cases mark

theorem scan_white {white : List Char} (hw : ∀ c ∈ white, isSpace c = true) (cs : List Char) :
    scan (white ++ cs) = scan cs := by
  have skipped := scans_spaces white hw cs
  rwa [String.toList_ofList, List.nil_append] at skipped

/-- The scanner finds the tokens that a text spells. -/
theorem scan_of_spells {ts : List Token} {cs : List Char} (h : Spells ts cs) (hp : Parted ts) :
    scan cs = ts := by
  induction h with
  | @nil white hw =>
    have blank := scan_white hw []
    rwa [List.append_nil, scan_nil] at blank
  | @cons t ts white piece rest hw lexeme after ih =>
    have one := scanOne_lexeme lexeme fun ht => after.endsNumeral hp ht
    obtain ⟨c, r, rfl, visible⟩ := lexeme.head
    rw [List.cons_append] at one
    rw [scan_white hw, List.cons_append, scan_cons visible one, ih (List.IsChain.tail hp)]

/-- A text in which every token is found spells these tokens. -/
theorem spells_scan {cs : List Char} (h : Token.fault ∉ scan cs) : Spells (scan cs) cs := by
  induction length : cs.length using Nat.strong_induction_on generalizing cs with
  | _ n ih =>
    have white : ∀ c ∈ cs.takeWhile isSpace, isSpace c = true :=
      fun c hc => List.mem_takeWhile_imp hc
    have parts : cs.takeWhile isSpace ++ cs.dropWhile isSpace = cs :=
      List.takeWhile_append_dropWhile
    rw [scan_eq] at h ⊢
    cases hc : cs.dropWhile isSpace with
    | nil =>
      rw [hc, List.append_nil] at parts
      exact parts ▸ .nil white
    | cons c rest =>
      simp only [hc] at h ⊢
      cases ho : scanOne (c :: rest) with
      | none => simp [ho] at h
      | some found =>
        obtain ⟨t, after⟩ := found
        simp only [ho, List.mem_cons, not_or] at h ⊢
        obtain ⟨piece, eq, lexeme⟩ := lexeme_of_scanOne ho
        have shorter : after.length < n := by
          have one := scanOne_length ho
          have blanks := length_dropWhile_le isSpace cs
          rw [hc] at blanks
          omega
        rw [← parts, hc, eq]
        exact .cons white lexeme (ih _ shorter h.2 rfl)

end Token

end PipelineCompiler.Json
