import PipelineCompiler.Text.Split

namespace PipelineCompiler.Path

def isName (p : List Char) : Bool := p != [] && p != ['.']

/-- The names on the way. -/
def names (path : String) : List String :=
  ((Text.split '/' path.toList).filter isName).map String.ofList

/-- The part of a name behind its last dot. A dot at the start of a name is no such dot. -/
def extension? (name : List Char) : Option (List Char) :=
  match name.reverse.dropWhile (· != '.') with
  | [] | ['.'] => none
  | _ => some (name.reverse.takeWhile (· != '.')).reverse

/-- The last name of a path; none if it goes up at the end. -/
def fileName? (path : String) : Option String :=
  (names path).getLast?.filter (· != "..")

/-- Drops what stands for nothing from the end of a path, which is given in reverse. -/
def trimEnd : List Char → List Char
  | '.' :: '/' :: rest => trimEnd ('/' :: rest)
  | '/' :: c :: rest => trimEnd (c :: rest)
  | rest => rest
termination_by cs => cs.length

/-- The path without its last name; none for the root and for the empty path. -/
def parent? (path : String) : Option String :=
  match trimEnd path.toList.reverse with
  | [] | ['/'] => none
  | cs => some (String.ofList (trimEnd (cs.dropWhile (· != '/'))).reverse)

end PipelineCompiler.Path
