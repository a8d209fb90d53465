import PipelineCompiler.Toml.Value

namespace PipelineCompiler.Toml

/-- Puts a value in the place of an earlier one. -/
def replace (key : String) (v : Value) : Entries → Entries
  | [] => []
  | (k, w) :: rest => if k = key then (k, v) :: rest else (k, w) :: replace key v rest

/-- A change of the entries of a table, refused where the document may not make it. -/
abbrev Change := Origin → Entries → Option Entries

/-- Makes a change at the end of a path. Tables on the way are made where there are none; of an
array of tables the last one is meant. -/
def descend (dotted : Bool) (change : Change) : List String → Change
  | [] => change
  | key :: path => fun _ entries =>
      match entries.lookup key with
      | none =>
          let origin := if dotted then .dotted else .implicit
          (descend dotted change path origin []).map fun sub =>
            entries ++ [(key, .table origin sub)]
      | some (.table origin sub) =>
          if origin = .inline ∨ (dotted ∧ origin = .header) then none
          else
            (descend dotted change path origin sub).map fun sub =>
              replace key (.table origin sub) entries
      | some (.array true items) =>
          match items.getLast? with
          | some (.table origin sub) =>
              (descend dotted change path origin sub).map fun sub =>
                replace key (.array true (items.dropLast ++ [.table origin sub])) entries
          | _ => none
      | some _ => none

/-- Adds an entry under a key that is not taken. -/
def add (key : String) (v : Value) (entries : Entries) : Option Entries :=
  match entries.lookup key with
  | none => some (entries ++ [(key, v)])
  | some _ => none

/-- Gives a value to a key, which may be dotted. A dotted key adds only to tables
that dotted keys made. -/
def assign (path : List String) (key : String) (v : Value) : Change :=
  descend true
    (fun origin entries =>
      if (origin == .dotted) == path.isEmpty then none else add key v entries) path

/-- Defines a table by its header. -/
def define (path : List String) (key : String) : Change :=
  descend false
    (fun _ entries =>
      match entries.lookup key with
      | none => some (entries ++ [(key, .table .header [])])
      | some (.table .implicit sub) => some (replace key (.table .header sub) entries)
      | some _ => none) path

/-- Grows an array of tables by its header. -/
def grow (path : List String) (key : String) : Change :=
  descend false
    (fun _ entries =>
      match entries.lookup key with
      | none => some (entries ++ [(key, .array true [.table .header []])])
      | some (.array true items) =>
          some (replace key (.array true (items ++ [.table .header []])) entries)
      | some _ => none) path

inductive Statement where
  | header (path : List String) (key : String)
  | element (path : List String) (key : String)
  | entry (path : List String) (key : String) (v : Value)
  deriving Repr

/-- The table whose header came last, as a path from the root, and the root. -/
structure Builder where
  current : List String := []
  root : Entries := []

def Builder.step (b : Builder) : Statement → Option Builder
  | .header path key => (define path key .header b.root).map fun root => ⟨path ++ [key], root⟩
  | .element path key => (grow path key .header b.root).map fun root => ⟨path ++ [key], root⟩
  | .entry path key v =>
      (descend false (assign path key v) b.current .header b.root).map fun root => ⟨b.current, root⟩

/-- The root table of a document, none where a key is given twice, a table is defined twice, or
something between braces or brackets is added to. -/
def Builder.ofStatements (statements : List Statement) : Option Entries :=
  (statements.foldlM Builder.step {}).map Builder.root

/-- The table between two braces. -/
def inlineTable (entries : List (List String × String × Value)) : Option Value :=
  (entries.foldlM (fun es (path, key, v) => assign path key v .inline es) []).map (.table .inline)

end PipelineCompiler.Toml
