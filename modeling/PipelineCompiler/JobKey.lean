import PipelineCompiler.Text.Lowercase
import PipelineCompiler.Text.Utf16

namespace PipelineCompiler.JobKey

/-- Small letters and digits of ASCII. -/
def isPlain (c : Char) : Bool := ('a' ≤ c && c ≤ 'z') || ('0' ≤ c && c ≤ '9')

def ofChar (c : Char) : List Char :=
  if isPlain c then [c] else List.replicate (Text.unitCount c) '_'

/-- A label in lowercase, with an underscore for each UTF-16 unit other than a
small letter or a digit. -/
def normalize (label : String) : String :=
  String.ofList ((Text.Lowercase.lower label.toList).flatMap ofChar)

theorem length_ofChar (c : Char) : (ofChar c).length = Text.unitCount c := by
  unfold ofChar
  split
  · next h =>
    have : c.toNat < 0x10000 := by
      simp only [isPlain, Bool.or_eq_true, Bool.and_eq_true, decide_eq_true_eq] at h
      rcases h with ⟨_, h⟩ | ⟨_, h⟩ <;> (have hn := UInt32.le_iff_toNat_le.mp h; simp at hn; omega)
    simp [Text.unitCount, this]
  · simp

theorem length_flatMap_ofChar (cs : List Char) :
    (cs.flatMap ofChar).length = Text.unitLength cs := by
  induction cs with
  | nil => rfl
  | cons c cs ih => simp [length_ofChar, ih]

end PipelineCompiler.JobKey
