import PipelineCompiler.Text.Digits

/-!
The quoted strings of a TOML text. Each reader takes the text behind the opening quotes and gives
the string and what follows its closing quotes.
-/
namespace PipelineCompiler.Toml

def isBlank (c : Char) : Bool := c == ' ' || c == '\t'

/-- What may stand in a comment and, unescaped, in a string: all but controls other than the tab. -/
def isPlain (c : Char) : Bool := c == '\t' || (0x20 ≤ c.toNat && c.toNat != 0x7f)

/-- What follows the line end at the head of a text. -/
def newline? : List Char → Option (List Char)
  | '\n' :: rest => some rest
  | '\r' :: '\n' :: rest => some rest
  | _ => none

/-- Drops blanks and line ends. -/
def skipLines : List Char → List Char
  | '\r' :: '\n' :: rest => skipLines rest
  | c :: rest => if isBlank c || c == '\n' then skipLines rest else c :: rest
  | [] => []

def numbered? (digits : Nat) (cs : List Char) : Option (Char × List Char) :=
  if cs.length < digits then none
  else (Text.codePoint? (cs.take digits)).map fun c => (c, cs.drop digits)

/-- The character of an escape, behind its backslash. -/
def escape? : List Char → Option (Char × List Char)
  | 'b' :: rest => some ('\x08', rest)
  | 't' :: rest => some ('\t', rest)
  | 'n' :: rest => some ('\n', rest)
  | 'f' :: rest => some ('\x0c', rest)
  | 'r' :: rest => some ('\r', rest)
  | 'e' :: rest => some ('\x1b', rest)
  | '"' :: rest => some ('"', rest)
  | '\\' :: rest => some ('\\', rest)
  | 'x' :: rest => numbered? 2 rest
  | 'u' :: rest => numbered? 4 rest
  | 'U' :: rest => numbered? 8 rest
  | _ => none

theorem length_of_numbered? {n : Nat} {cs rest : List Char} {c : Char}
    (h : numbered? n cs = some (c, rest)) : rest.length ≤ cs.length := by
  unfold numbered? at h
  split at h
  · simp at h
  · obtain ⟨_, _, h⟩ := Option.map_eq_some_iff.mp h
    simp only [Prod.mk.injEq] at h
    rw [← h.2, List.length_drop]
    omega

theorem length_of_escape? {cs rest : List Char} {c : Char} (h : escape? cs = some (c, rest)) :
    rest.length < cs.length := by
  unfold escape? at h
  split at h <;> first
    | (simp only [Option.some.injEq, Prod.mk.injEq] at h; simp [← h.2])
    | (have hn := length_of_numbered? h; simp only [List.length_cons]; omega)
    | simp at h

theorem length_skipLines (cs : List Char) : (skipLines cs).length ≤ cs.length := by
  fun_induction skipLines cs <;> simp_all <;> omega

def push (c : Char) (result : Option (List Char × List Char)) : Option (List Char × List Char) :=
  result.map fun (s, rest) => (c :: s, rest)

/-- A string between single quotes, on one line. -/
def literal? : List Char → Option (List Char × List Char)
  | [] => none
  | c :: rest =>
      if c = '\'' then some ([], rest) else if isPlain c then push c (literal? rest) else none

/-- A string between double quotes, on one line. -/
def basic? (cs : List Char) : Option (List Char × List Char) :=
  match cs with
  | [] => none
  | '\\' :: rest =>
      match _h : escape? rest with
      | some (c, more) => push c (basic? more)
      | none => none
  | c :: rest =>
      if c = '"' then some ([], rest) else if isPlain c then push c (basic? rest) else none
termination_by cs.length
decreasing_by
  · have := length_of_escape? _h
    simp only [List.length_cons]; omega
  · simp

/-- At the end of a string of several lines up to two further quotes belong to the string. -/
def closing? (quote : Char) (cs : List Char) : Option (List Char × List Char) :=
  let run := min 5 (cs.takeWhile (· == quote)).length
  if run < 3 then none else some (List.replicate (run - 3) quote, cs.drop run)

/-- Whether a break follows, with nothing but blanks before it. -/
def breaksLine (cs : List Char) : Bool := (newline? (cs.dropWhile isBlank)).isSome

def literalLines? (cs : List Char) : Option (List Char × List Char) :=
  match closing? '\'' cs with
  | some result => some result
  | none =>
      match cs with
      | '\r' :: '\n' :: rest => push '\r' (push '\n' (literalLines? rest))
      | c :: rest => if isPlain c || c == '\n' then push c (literalLines? rest) else none
      | [] => none
termination_by cs.length
decreasing_by all_goals simp only [List.length_cons]; omega

/-- A backslash at the end of a line takes the break and all white space behind it away. -/
def basicLines? (cs : List Char) : Option (List Char × List Char) :=
  match closing? '"' cs with
  | some result => some result
  | none =>
      match cs with
      | '\r' :: '\n' :: rest => push '\r' (push '\n' (basicLines? rest))
      | '\\' :: rest =>
          if breaksLine rest then basicLines? (skipLines rest)
          else
            match _h : escape? rest with
            | some (c, more) => push c (basicLines? more)
            | none => none
      | c :: rest => if isPlain c || c == '\n' then push c (basicLines? rest) else none
      | [] => none
termination_by cs.length
decreasing_by
  · simp only [List.length_cons]; omega
  · have := length_skipLines rest
    simp only [List.length_cons]; omega
  · have := length_of_escape? _h
    simp only [List.length_cons]; omega
  · simp

/-- A line end right behind the opening quotes does not count. -/
def afterBreak (cs : List Char) : List Char := (newline? cs).getD cs

/-- A string on one line, as a key or a value. -/
def lineString? : List Char → Option (List Char × List Char)
  | '"' :: rest => basic? rest
  | '\'' :: rest => literal? rest
  | _ => none

/-- Any string. -/
def string? : List Char → Option (List Char × List Char)
  | '"' :: '"' :: '"' :: rest => basicLines? (afterBreak rest)
  | '\'' :: '\'' :: '\'' :: rest => literalLines? (afterBreak rest)
  | cs => lineString? cs

end PipelineCompiler.Toml
