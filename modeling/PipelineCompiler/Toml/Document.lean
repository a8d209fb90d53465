import PipelineCompiler.Toml.Bare
import PipelineCompiler.Toml.Table
import PipelineCompiler.Toml.Text

namespace PipelineCompiler.Toml

def skipBlanks (cs : List Char) : List Char := cs.dropWhile isBlank

/-- Drops a comment up to the end of its line. -/
def skipComment : List Char → List Char
  | '#' :: rest => rest.dropWhile isPlain
  | cs => cs

/-- Drops blanks, comments and line ends. -/
def skipGap (cs : List Char) : List Char :=
  match cs with
  | '#' :: rest => skipGap (rest.dropWhile isPlain)
  | '\r' :: '\n' :: rest => skipGap rest
  | c :: rest => if isBlank c || c == '\n' then skipGap rest else c :: rest
  | [] => []
termination_by cs.length
decreasing_by
  · have := (List.dropWhile_suffix isPlain (l := rest)).length_le
    simp only [List.length_cons]; omega
  · simp only [List.length_cons]; omega
  · simp

def isKeyChar (c : Char) : Bool := c.isAlphanum || c == '_' || c == '-'

/-- A part of a key: quoted, or bare and not empty. -/
def keyPart? (cs : List Char) : Option (String × List Char) :=
  match cs.head? with
  | some '"' | some '\'' => (lineString? cs).map fun (s, rest) => (String.ofList s, rest)
  | _ =>
      if (cs.takeWhile isKeyChar).isEmpty then none
      else some (String.ofList (cs.takeWhile isKeyChar), cs.dropWhile isKeyChar)

/-- A key: its parts but the last, its last part, and what follows it and the blanks behind it. -/
def key? : Nat → List Char → Option (List String × String × List Char)
  | 0, _ => none
  | fuel + 1, cs => do
      let (part, rest) ← keyPart? cs
      match skipBlanks rest with
      | '.' :: rest => do
          let (path, last, rest) ← key? fuel (skipBlanks rest)
          return (part :: path, last, rest)
      | rest => return ([], part, rest)

/-- Arrays and inline tables nest at most this deep. -/
def depthLimit : Nat := 80

mutual

def value? (depth : Nat) : Nat → List Char → Option (Value × List Char)
  | 0, _ => none
  | fuel + 1, cs =>
      match cs with
      | '"' :: _ | '\'' :: _ => (string? cs).map fun (s, rest) => (.text (String.ofList s), rest)
      | '[' :: rest =>
          if depth = 0 then none
          else (items? (depth - 1) fuel rest).map fun (items, rest) => (.array false items, rest)
      | '\x7b' :: rest =>
          if depth = 0 then none
          else do
            let (entries, rest) ← entries? (depth - 1) fuel rest
            return (← inlineTable entries, rest)
      | _ => do
          let (word, rest) := Bare.take cs
          return (← Bare.value? word, rest)

/-- The items of an array up to its closing bracket; a comma may stand behind the last one. -/
def items? (depth : Nat) : Nat → List Char → Option (List Value × List Char)
  | 0, _ => none
  | fuel + 1, cs =>
      match skipGap cs with
      | ']' :: rest => some ([], rest)
      | cs => do
          let (v, rest) ← value? depth fuel cs
          match skipGap rest with
          | ',' :: rest => do
              let (vs, rest) ← items? depth fuel rest
              return (v :: vs, rest)
          | ']' :: rest => return ([v], rest)
          | _ => none

def entries? (depth : Nat) :
    Nat → List Char → Option (List (List String × String × Value) × List Char)
  | 0, _ => none
  | fuel + 1, cs =>
      match skipGap cs with
      | '\x7d' :: rest => some ([], rest)
      | cs => do
          let (e, rest) ← assignment? depth fuel cs
          match skipGap rest with
          | ',' :: rest => do
              let (es, rest) ← entries? depth fuel rest
              return (e :: es, rest)
          | '\x7d' :: rest => return ([e], rest)
          | _ => none

def assignment? (depth : Nat) :
    Nat → List Char → Option ((List String × String × Value) × List Char)
  | 0, _ => none
  | fuel + 1, cs => do
      let (path, key, rest) ← key? fuel cs
      match rest with
      | '=' :: rest => do
          let (v, rest) ← value? depth fuel (skipBlanks rest)
          return ((path, key, v), rest)
      | _ => none

end

def statement? (fuel : Nat) (cs : List Char) : Option (Statement × List Char) :=
  match cs with
  | '[' :: '[' :: rest => do
      let (path, key, rest) ← key? fuel (skipBlanks rest)
      match rest with
      | ']' :: ']' :: rest => return (.element path key, rest)
      | _ => none
  | '[' :: rest => do
      let (path, key, rest) ← key? fuel (skipBlanks rest)
      match rest with
      | ']' :: rest => return (.header path key, rest)
      | _ => none
  | _ => do
      let ((path, key, v), rest) ← assignment? depthLimit fuel cs
      return (.entry path key v, rest)

/-- Statements, each on lines of its own. -/
def statements? : Nat → List Char → Option (List Statement)
  | 0, _ => none
  | fuel + 1, cs =>
      match skipGap cs with
      | [] => some []
      | cs => do
          let (s, rest) ← statement? fuel cs
          match skipComment (skipBlanks rest) with
          | [] => return [s]
          | rest => do return s :: (← statements? fuel (← newline? rest))

/-- A mark of the byte order may stand at the very start. -/
def skipMark : List Char → List Char
  | '\ufeff' :: rest => rest
  | cs => cs

/-- The root table of a text. -/
def ofText? (text : String) : Option Entries := do
  let cs := skipMark text.toList
  Builder.ofStatements (← statements? (3 * cs.length + 3) cs)

end PipelineCompiler.Toml
