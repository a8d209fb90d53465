import PipelineCompiler.Json.Numeral
import PipelineCompiler.Text.Digits

namespace PipelineCompiler.Json

/-- A string of a document, none if it holds an escaped surrogate without its partner. -/
abbrev Text := Option String

inductive Token where
  | openArray
  | closeArray
  | openObject
  | closeObject
  | colon
  | comma
  | null
  | bool (b : Bool)
  | numeral (n : Numeral)
  | text (s : Text)
  | fault
  deriving DecidableEq, Repr, Inhabited

namespace Token

def isSpace (c : Char) : Bool := c == ' ' || c == '\t' || c == '\n' || c == '\r'

/-- The code unit of four hexadecimal digits. -/
def unit? (a b c d : Char) : Option Nat := Text.natural? 16 [a, b, c, d]

def isLead (n : Nat) : Bool := 0xd800 ≤ n && n ≤ 0xdbff

def isTrail (n : Nat) : Bool := 0xdc00 ≤ n && n ≤ 0xdfff

def joinPair (lead trail : Nat) : Char :=
  Char.ofNat (0x10000 + 1024 * (lead - 0xd800) + (trail - 0xdc00))

/-- The character of a short escape. -/
def shortEscape? : Char → Option Char
  | '"' => some '"'
  | '\\' => some '\\'
  | '/' => some '/'
  | 'b' => some '\x08'
  | 'f' => some '\x0c'
  | 'n' => some '\n'
  | 'r' => some '\r'
  | 't' => some '\t'
  | _ => none

/-- What a string holds so far, last character first. A leading surrogate waits for its partner; a
surrogate without one spoils the text. -/
structure Written where
  rest : List Char := []
  lead : Option Nat := none
  paired : Bool := true

namespace Written

def put (w : Written) (c : Char) : Written :=
  ⟨c :: w.rest, none, w.paired && w.lead.isNone⟩

def putUnit (w : Written) (n : Nat) : Written :=
  match w.lead with
  | some lead =>
      if isTrail n then ⟨joinPair lead n :: w.rest, none, w.paired⟩
      else ⟨w.rest, none, false⟩
  | none =>
      if isLead n then ⟨w.rest, some n, w.paired⟩
      else if isTrail n then ⟨w.rest, none, false⟩
      else ⟨Char.ofNat n :: w.rest, none, w.paired⟩

def finish (w : Written) : Text :=
  if w.paired && w.lead.isNone then some (String.ofList w.rest.reverse) else none

end Written

/-- The text up to the closing quote and what follows it; none if the string is not well formed. -/
def scanText (w : Written) : List Char → Option (Text × List Char)
  | [] => none
  | '"' :: rest => some (w.finish, rest)
  | '\\' :: 'u' :: a :: b :: c :: d :: rest =>
      match unit? a b c d with
      | some n => scanText (w.putUnit n) rest
      | none => none
  | '\\' :: e :: rest =>
      match shortEscape? e with
      | some c => scanText (w.put c) rest
      | none => none
  | c :: rest => if c.toNat < 0x20 ∨ c = '\\' then none else scanText (w.put c) rest

def digits (cs : List Char) : List Nat := (cs.takeWhile Char.isDigit).map Text.digitValue

def afterDigits (cs : List Char) : List Char := cs.dropWhile Char.isDigit

/-- An optional sign: whether it is a minus. -/
def scanSign : List Char → Bool × List Char
  | '-' :: rest => (true, rest)
  | '+' :: rest => (false, rest)
  | rest => (false, rest)

/-- The exponent of a numeral, none inside if there is none, none outside if
its digits are missing. -/
def scanPower (cs : List Char) : Option (Option (Bool × List Nat) × List Char) :=
  match cs with
  | [] => some (none, [])
  | c :: rest =>
      if c = 'e' ∨ c = 'E' then
        let (negative, rest) := scanSign rest
        if (digits rest).isEmpty then none
        else some (some (negative, digits rest), afterDigits rest)
      else some (none, cs)

def scanFraction (cs : List Char) : Option (List Nat × List Char) :=
  match cs with
  | '.' :: rest => if (digits rest).isEmpty then none else some (digits rest, afterDigits rest)
  | _ => some ([], cs)

/-- A numeral without its sign. No digit may follow a leading zero. -/
def scanNumeral (negative : Bool) (cs : List Char) : Option (Numeral × List Char) :=
  let whole := digits cs
  if whole.isEmpty ∨ (whole.head? = some 0 ∧ whole.length > 1) then none
  else
    match scanFraction (afterDigits cs) with
    | none => none
    | some (fraction, rest) =>
        match scanPower rest with
        | none => none
        | some (power, rest) => some (⟨negative, whole, fraction, power⟩, rest)

/-- The first token of a text that does not start with a space, and what follows it. -/
def scanOne (cs : List Char) : Option (Token × List Char) :=
  match cs with
  | '[' :: rest => some (openArray, rest)
  | ']' :: rest => some (closeArray, rest)
  | '{' :: rest => some (openObject, rest)
  | '}' :: rest => some (closeObject, rest)
  | ':' :: rest => some (colon, rest)
  | ',' :: rest => some (comma, rest)
  | '"' :: rest => (scanText {} rest).map fun (s, rest) => (text s, rest)
  | 'n' :: 'u' :: 'l' :: 'l' :: rest => some (null, rest)
  | 't' :: 'r' :: 'u' :: 'e' :: rest => some (bool true, rest)
  | 'f' :: 'a' :: 'l' :: 's' :: 'e' :: rest => some (bool false, rest)
  | '-' :: rest => (scanNumeral true rest).map fun (n, rest) => (numeral n, rest)
  | cs => (scanNumeral false cs).map fun (n, rest) => (numeral n, rest)

theorem length_dropWhile_le {α : Type} (p : α → Bool) (l : List α) :
    (l.dropWhile p).length ≤ l.length := (List.dropWhile_sublist p).length_le

theorem scanText_length (w : Written) (cs : List Char) {s rest}
    (h : scanText w cs = some (s, rest)) : rest.length < cs.length := by
  fun_induction scanText w cs <;> simp_all <;> omega

theorem scanSign_length (cs : List Char) : (scanSign cs).2.length ≤ cs.length := by
  unfold scanSign; split <;> simp

theorem scanPower_length {cs : List Char} {p rest} (h : scanPower cs = some (p, rest)) :
    rest.length ≤ cs.length := by
  unfold scanPower at h
  split at h
  · cases h; exact Nat.le_refl _
  · next c r =>
    split at h
    · simp only at h
      split at h
      · cases h
      · cases h
        exact Nat.le_succ_of_le (Nat.le_trans (length_dropWhile_le _ _) (scanSign_length r))
    · cases h; exact Nat.le_refl _

theorem scanFraction_length {cs : List Char} {f rest} (h : scanFraction cs = some (f, rest)) :
    rest.length ≤ cs.length := by
  unfold scanFraction at h
  split at h
  · split at h
    · cases h
    · cases h; exact Nat.le_succ_of_le (length_dropWhile_le _ _)
  · cases h; exact Nat.le_refl _

theorem scanNumeral_length {negative : Bool} {cs : List Char} {n rest}
    (h : scanNumeral negative cs = some (n, rest)) : rest.length < cs.length := by
  unfold scanNumeral at h
  simp only at h
  split at h
  · cases h
  · next hw =>
    have first : (afterDigits cs).length < cs.length := by
      cases cs with
      | nil => simp [digits] at hw
      | cons c cs =>
        cases hc : c.isDigit with
        | false => simp [digits, List.takeWhile, hc] at hw
        | true =>
          simpa [afterDigits, List.dropWhile, hc] using Nat.lt_succ_of_le (length_dropWhile_le _ cs)
    split at h
    · cases h
    · next f r hf =>
      split at h
      · cases h
      · next p r' hp =>
        cases h
        exact Nat.lt_of_le_of_lt
          (Nat.le_trans (scanPower_length hp) (scanFraction_length hf)) first

theorem scanOne_length {cs : List Char} {t rest} (h : scanOne cs = some (t, rest)) :
    rest.length < cs.length := by
  unfold scanOne at h
  split at h
  case h_7 r =>
    obtain ⟨⟨s, r'⟩, hs, he⟩ := Option.map_eq_some_iff.1 h
    cases he
    exact Nat.lt_succ_of_lt (scanText_length _ _ hs)
  case h_11 r =>
    obtain ⟨⟨s, r'⟩, hs, he⟩ := Option.map_eq_some_iff.1 h
    cases he
    exact Nat.lt_succ_of_lt (scanNumeral_length hs)
  case h_12 =>
    obtain ⟨⟨s, r'⟩, hs, he⟩ := Option.map_eq_some_iff.1 h
    cases he
    exact scanNumeral_length hs
  all_goals (cases h; simp only [List.length_cons]; omega)

/-- The tokens of a text. Scanning never fails: where no token can be read the
list ends with a fault. -/
def scan (cs : List Char) : List Token :=
  match _hc : cs.dropWhile isSpace with
  | [] => []
  | c :: rest =>
      match _h : scanOne (c :: rest) with
      | none => [fault]
      | some (t, after) => t :: scan after
termination_by cs.length
decreasing_by
  have h₁ := scanOne_length _h
  have h₂ := length_dropWhile_le isSpace cs
  rw [_hc] at h₂
  omega

end Token

end PipelineCompiler.Json
