namespace PipelineCompiler.Text

/-- Lines put together, each ended by a line feed. -/
def unlines (lines : List String) : String := String.join (lines.map (· ++ "\n"))

@[simp] theorem unlines_nil : unlines [] = "" := rfl

/-- Puts a line feed at the end of a text that does not end with one. -/
def endLine (s : String) : String := if s.toList.getLast? = some '\n' then s else s ++ "\n"

theorem getLast?_endLine (s : String) : (endLine s).toList.getLast? = some '\n' := by
  unfold endLine
  split
  · assumption
  · simp

/-- The text before the first line end. -/
def firstLine (s : String) : String :=
  match s.toList.takeWhile (· != '\n') with
  | [] => ""
  | line =>
      String.ofList
        (if s.toList.contains '\n' ∧ line.getLast? = some '\r' then line.dropLast else line)

end PipelineCompiler.Text
