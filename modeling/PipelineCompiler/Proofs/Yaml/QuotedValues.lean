import PipelineCompiler.Proofs.Yaml.Pretty
import PipelineCompiler.Proofs.Yaml.Styles

namespace PipelineCompiler

namespace Json.Value

mutual

/-- The value with every number of the given text in quotes. -/
def quoted (v : String) : Value → Value
  | .null => .null
  | .bool b => .bool b
  | .number n => if n.text = v then .text v else .number n
  | .text s => .text s
  | .array items => .array (quotedItems v items)
  | .object members => .object (quotedMembers v members)

def quotedItems (v : String) : List Value → List Value
  | [] => []
  | w :: rest => quoted v w :: quotedItems v rest

def quotedMembers (v : String) : List (String × Value) → List (String × Value)
  | [] => []
  | (k, w) :: rest => (k, quoted v w) :: quotedMembers v rest

end

end Json.Value

namespace Yaml

open Json (Value)

def Placed.quoted (v : String) (m : Placed) : Placed := (m.1, m.2.quoted v)

theorem map_quoted_spelled (v : String) (ts : List Placed) :
    (Placed.spelled ts).map (Token.quoted v) = Placed.spelled (ts.map (Placed.quoted v)) := by
  induction ts with
  | nil => rfl
  | cons m rest ih =>
    obtain ⟨opens, t⟩ := m
    unfold Placed.spelled at ih ⊢
    rw [List.flatMap_cons, List.map_append, ih]
    cases opens <;> rfl

theorem map_quoted_intercalate (v : String) (parts : List (List Placed)) :
    ([(false, .flowEntry)].intercalate parts).map (Placed.quoted v) =
      [(false, .flowEntry)].intercalate (parts.map (List.map (Placed.quoted v))) := by
  induction parts with
  | nil => rfl
  | cons part rest ih =>
    cases rest with
    | nil => simp
    | cons next rest =>
      rw [List.intercalate_cons_cons, List.map_append, List.map_append, ih]
      exact (List.intercalate_cons_cons ..).symm

mutual

/-- Quotes around numbers change the tokens of a value in their style only. -/
theorem marks_quoted (v : String) : ∀ w : Value,
    (marks (w.quoted v)).map (Placed.quoted v) = (marks w).map (Placed.quoted v)
  | .null | .bool _ | .text _ => rfl
  | .number n => by
      unfold Value.quoted
      split
      · next same => simp [marks, Placed.quoted, Token.quoted, same]
      · rfl
  | .array items => by
      simp only [Value.quoted, marks, List.map_cons, List.map_append, map_quoted_intercalate,
        itemMarks_quoted v items]
  | .object members => by
      simp only [Value.quoted, marks, List.map_cons, List.map_append, map_quoted_intercalate,
        memberMarks_quoted v members]

theorem itemMarks_quoted (v : String) : ∀ items : List Value,
    (itemMarks (Value.quotedItems v items)).map (List.map (Placed.quoted v)) =
      (itemMarks items).map (List.map (Placed.quoted v))
  | [] => rfl
  | w :: rest => by
      simp only [Value.quotedItems, itemMarks, List.map_cons, marks_quoted v w,
        itemMarks_quoted v rest]

theorem memberMarks_quoted (v : String) : ∀ members : List (String × Value),
    (memberMarks (Value.quotedMembers v members)).map (List.map (Placed.quoted v)) =
      (memberMarks members).map (List.map (Placed.quoted v))
  | [] => rfl
  | (k, w) :: rest => by
      simp only [Value.quotedMembers, memberMarks, List.map_cons, marks_quoted v w,
        memberMarks_quoted v rest]

end

/-- The texts of two values that differ by no more than the quotes around a number are scanned to
tokens that differ by no more than quotes. -/
theorem map_quoted_scan_pretty {v : String} {w w' : Value} (h : Fits w) (h' : Fits w')
    (same : w.quoted v = w'.quoted v) :
    (scan (w.pretty 0)).map (Token.quoted v) = (scan (w'.pretty 0)).map (Token.quoted v) := by
  have marks : (marks w).map (Placed.quoted v) = (Yaml.marks w').map (Placed.quoted v) := by
    rw [← marks_quoted, same, marks_quoted]
  rw [scan_pretty h, scan_pretty h', List.map_append, List.map_append, map_quoted_spelled, marks,
    ← map_quoted_spelled]

end Yaml

end PipelineCompiler
