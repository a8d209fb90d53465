import PipelineCompiler.Diagnostic

namespace PipelineCompiler

/-- What a warning is about. -/
inductive Warning.Kind where
  | triggers
  | blockType
  | jobKey
  | edge
  | cycle
  deriving DecidableEq

def Warning.kind : Warning → Warning.Kind
  | multipleTriggers .. => .triggers
  | unknownBlockType .. => .blockType
  | duplicateJobKey .. => .jobKey
  | danglingEdge .. => .edge
  | dependencyCycle .. => .cycle

namespace Diagnostic

/-- The warnings of the check that looks for a kind. -/
def ofKind (g : Graph) : Warning.Kind → List Warning
  | .triggers => ofTriggers g
  | .blockType => ofBlockTypes g
  | .jobKey => ofJobKeys g
  | .edge => ofEdges g
  | .cycle => ofCycles g

theorem kind_of_mem_ofKind {g : Graph} {k : Warning.Kind} {w : Warning} (h : w ∈ ofKind g k) :
    w.kind = k := by
  cases k with
  | triggers =>
    simp only [ofKind, ofTriggers] at h
    split at h
    · rw [List.mem_singleton.mp h]
      rfl
    · cases h
  | blockType =>
    obtain ⟨job, -, rfl⟩ := List.mem_map.mp h
    rfl
  | jobKey =>
    obtain ⟨group, -, rfl⟩ := List.mem_map.mp h
    rfl
  | edge =>
    obtain ⟨e, -, found⟩ := List.mem_filterMap.mp h
    obtain ⟨id, -, rfl⟩ := Option.map_eq_some_iff.mp found
    rfl
  | cycle =>
    obtain ⟨c, -, rfl⟩ := List.mem_map.mp h
    rfl

theorem filter_ofKind (g : Graph) (k l : Warning.Kind) :
    (ofKind g l).filter (·.kind = k) = if l = k then ofKind g l else [] := by
  split
  · next same =>
    apply List.filter_eq_self.mpr
    intro w hw
    simp [kind_of_mem_ofKind hw, same]
  · next other =>
    apply List.filter_eq_nil_iff.mpr
    intro w hw
    simp [kind_of_mem_ofKind hw, other]

/-- The warnings of one kind are all from one check. -/
theorem filter_kind_diagnose (g : Graph) (k : Warning.Kind) :
    (diagnose g).filter (·.kind = k) = ofKind g k := by
  have parts : diagnose g = ofKind g .triggers ++ ofKind g .blockType ++ ofKind g .jobKey ++
    ofKind g .edge ++
      ofKind g .cycle := rfl
  rw [parts]
  simp only [List.filter_append, filter_ofKind]
  cases k <;> simp

theorem mem_diagnose_iff {g : Graph} {w : Warning} : w ∈ diagnose g ↔ w ∈ ofKind g w.kind := by
  rw [← filter_kind_diagnose, List.mem_filter, decide_eq_true_eq, and_iff_left rfl]

end Diagnostic

end PipelineCompiler
