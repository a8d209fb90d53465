namespace PipelineCompiler.Text

/-- Membership in a set of characters given by ranges of code points, ends included. -/
def inRanges (ranges : List (Nat × Nat)) (c : Char) : Bool :=
  ranges.any fun (low, high) => low ≤ c.toNat && c.toNat ≤ high

end PipelineCompiler.Text
