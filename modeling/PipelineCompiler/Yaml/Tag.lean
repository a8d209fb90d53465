import PipelineCompiler.Yaml.Scalar

namespace PipelineCompiler.Yaml

/-- Something that has been read, how many characters it took, and the rest of the text. It lies
within one line, so what it takes is counted and not placed. -/
structure Taken (α : Type) where
  item : α
  count : Nat
  rest : List Char

/-- The name of an anchor or an alias. -/
def scanName (cs : List Char) : Option (Taken String) :=
  let name := cs.takeWhile isWordChar
  let rest := cs.dropWhile isWordChar
  let ends :=
    match rest with
    | [] => true
    | c :: _ => blankOrEnd rest || "?:,]\x7d%@`".toList.contains c
  if name.isEmpty || !ends then none else some ⟨String.ofList name, name.length, rest⟩

def isUriChar (verbatim : Bool) (c : Char) : Bool :=
  isWordChar c || ";/?:@&=+$.%!~*'()".toList.contains c ||
  (verbatim && (c == ',' || c == '[' || c == ']'))

def hexByte? (a b : Char) : Option Nat := Text.natural? 16 [a, b]

/-- How many bytes a character takes whose first byte is given, and the bits of the first byte. -/
def leadByte? (n : Nat) : Option (Nat × Nat) :=
  if n < 0x80 then some (0, n)
  else if 0xc0 ≤ n ∧ n < 0xe0 then some (1, n - 0xc0)
  else if 0xe0 ≤ n ∧ n < 0xf0 then some (2, n - 0xe0)
  else if 0xf0 ≤ n ∧ n < 0xf8 then some (3, n - 0xf0)
  else none

/-- The text of a tag address. Bytes given by number are put together to characters; `pending`
counts the bytes that are missing, and `bits` holds those read. -/
def scanUri (verbatim : Bool) (acc : List Char) (count pending bits : Nat) :
    List Char → Option (Taken (List Char))
  | '%' :: a :: b :: rest =>
      match hexByte? a b with
      | none => none
      | some n =>
          if pending = 0 then
            match leadByte? n with
            | none => none
            | some (0, bits) => scanUri verbatim (Char.ofNat bits :: acc) (count + 3) 0 0 rest
            | some (more, bits) => scanUri verbatim acc (count + 3) more bits rest
          else if n < 0x80 ∨ 0xc0 ≤ n then none
          else if pending = 1 then
            scanUri verbatim (Char.ofNat (64 * bits + (n - 0x80)) :: acc) (count + 3) 0 0 rest
          else scanUri verbatim acc (count + 3) (pending - 1) (64 * bits + (n - 0x80)) rest
  | c :: rest =>
      if pending ≠ 0 ∨ c = '%' then none
      else if isUriChar verbatim c then scanUri verbatim (c :: acc) (count + 1) 0 0 rest
      else some ⟨acc.reverse, count, c :: rest⟩
  | [] => if pending ≠ 0 then none else some ⟨acc.reverse, count, []⟩

/-- A handle: an exclamation mark, perhaps with a word and a second mark. -/
def scanHandle : List Char → Option (Taken (List Char))
  | '!' :: rest =>
      let word := rest.takeWhile isWordChar
      match rest.dropWhile isWordChar with
      | '!' :: rest => some ⟨'!' :: word ++ ['!'], word.length + 2, rest⟩
      | rest => some ⟨'!' :: word, word.length + 1, rest⟩
  | _ => none

/-- A tag as a handle and the rest of its name. -/
def scanTag (inFlow : Bool) (cs : List Char) : Option (Taken (String × String)) := do
  let tag : Taken (String × String) ←
    match cs with
    | '!' :: '<' :: rest => do
        let uri ← scanUri true [] 0 0 0 rest
        match uri.rest with
        | '>' :: rest =>
            if uri.count = 0 then none else some ⟨("", String.ofList uri.item), uri.count + 3, rest⟩
        | _ => none
    | _ => do
        let handle ← scanHandle cs
        if handle.item.length > 1 && handle.item.getLast? == some '!' then
          let uri ← scanUri false [] 0 0 0 handle.rest
          if uri.count = 0 then none
          else some ⟨(String.ofList handle.item, String.ofList uri.item),
            handle.count + uri.count, uri.rest⟩
        else
          let uri ← scanUri false [] 0 0 0 handle.rest
          let suffix := handle.item.drop 1 ++ uri.item
          let count := handle.count + uri.count
          if suffix.isEmpty then some ⟨("", "!"), count, uri.rest⟩
          else some ⟨("!", String.ofList suffix), count, uri.rest⟩
  if blankOrEnd tag.rest || (inFlow && tag.rest.head? == some ',') then some tag else none

inductive Directive where
  | version (major minor : Nat)
  | tag (handle uri : String)
  deriving DecidableEq, Repr

/-- A number of at most nine digits. -/
def scanDirectiveNumber (cs : List Char) : Option (Taken Nat) :=
  let ds := cs.takeWhile Char.isDigit
  if ds.isEmpty || ds.length > 9 then none
  else some ⟨ds.foldl (fun n c => 10 * n + (c.toNat - '0'.toNat)) 0, ds.length,
    cs.dropWhile Char.isDigit⟩

def skipBlanks (cs : List Char) : Nat × List Char :=
  ((cs.takeWhile isBlank).length, cs.dropWhile isBlank)

/-- A directive after its percent sign. -/
def scanDirective (cs : List Char) : Option (Taken Directive) := do
  let name := cs.takeWhile isWordChar
  let after := cs.dropWhile isWordChar
  if name.isEmpty || !blankOrEnd after then none
  let (n, rest) := skipBlanks after
  let start := name.length + n
  if name = "YAML".toList then
    let major ← scanDirectiveNumber rest
    match major.rest with
    | '.' :: rest => do
        let minor ← scanDirectiveNumber rest
        some ⟨.version major.item minor.item, start + major.count + 1 + minor.count, minor.rest⟩
    | _ => none
  else if name = "TAG".toList then
    let handle ← scanHandle rest
    if handle.item.length > 1 && handle.item.getLast? != some '!' then none
    let (m, rest) := skipBlanks handle.rest
    if m = 0 then none
    let uri ← scanUri true [] 0 0 0 rest
    if uri.count = 0 || !blankOrEnd uri.rest then none
    some ⟨.tag (String.ofList handle.item) (String.ofList uri.item),
      start + handle.count + m + uri.count, uri.rest⟩
  else none

end PipelineCompiler.Yaml
