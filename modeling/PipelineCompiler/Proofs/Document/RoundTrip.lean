import PipelineCompiler.Proofs.Document.Provenance
import PipelineCompiler.Proofs.Json.Whole

namespace PipelineCompiler.Document

/-- A graph that was read from a document, in either format, is read back from its JSON text. The
origins are told in messages alone. -/
theorem parseFrom_toJson {origin : String} {format : DocumentFormat} {text : String} {g : Graph}
    (h : parseFrom origin format text = .ok g) (again : String) :
    parseFrom again .json (toJson g) = .ok g := by
  have canonical := canonical_of_parse (Outcome.mapError_eq_ok.mp h)
  rw [parseFrom, parse, graphOfText_toJson canonical]
  rfl

/-- Records written as arrays, with settings as a user may type them: a number, an empty text, null,
and a flag that is no boolean. The label is a quotation mark. -/
def typedText : String :=
  "[[[\"a\",\"job\",\"go_build\",\"\\\"\",\x7b\"goVersion\":2,\"runsOn\":\"\",\"command\":null,\"checkout\":\"no\"\x7d]]]"

def typedGraph : Graph := ⟨[⟨"a", "\"", .job ⟨.goBuild (some "2"), {}⟩⟩], []⟩

theorem ofText_typedText : Json.Outline.ofText typedText =
    (.array [.array [.array [.text (some "a"), .text (some "job"), .text (some "go_build"),
      .text (some "\""),
      .object [(some "goVersion", .numeral ⟨false, [2], [], none⟩),
        (some "runsOn", .text (some "")), (some "command", .null),
        (some "checkout", .text (some "no"))] true] true] true] true, false) := by
  unfold typedText
  exact Json.Outline.ofText_of_scan rfl (by decide +kernel)

theorem parseFrom_toJson_typed : parseFrom "a" .json typedText = .ok typedGraph ∧
    parseFrom "b" .json (toJson typedGraph) = .ok typedGraph := by
  have read : parseFrom "a" .json typedText = .ok typedGraph := by
    rw [parseFrom, parse, JsonReader.graphOfText, JsonReader.whole, ofText_typedText]
    decide +kernel
  exact ⟨read, parseFrom_toJson read "b"⟩

end PipelineCompiler.Document
