import PipelineCompiler.Json.Value

namespace PipelineCompiler.Json

def indent (depth : Nat) : String := String.ofList (List.replicate (2 * depth) ' ')

/-- A container whose parts are already laid out one level deeper. -/
def block (openMark closeMark : String) (depth : Nat) : List String → String
  | [] => openMark ++ closeMark
  | parts =>
      openMark ++ "\n" ++ ",\n".intercalate (parts.map (indent (depth + 1) ++ ·)) ++ "\n" ++
        indent depth ++ closeMark

mutual

/-- Indented text: two spaces a level, one item or member a line, empty
containers closed at once. -/
def Value.pretty (depth : Nat) : Value → String
  | .array items => block "[" "]" depth (prettyItems (depth + 1) items)
  | .object members => block "\x7b" "\x7d" depth (prettyMembers (depth + 1) members)
  | .null => "null"
  | .bool true => "true"
  | .bool false => "false"
  | .number n => n.text
  | .text s => quote s

def prettyItems (depth : Nat) : List Value → List String
  | [] => []
  | v :: rest => v.pretty depth :: prettyItems depth rest

def prettyMembers (depth : Nat) : List (String × Value) → List String
  | [] => []
  | (k, v) :: rest => (quote k ++ ": " ++ v.pretty depth) :: prettyMembers depth rest

end

end PipelineCompiler.Json
