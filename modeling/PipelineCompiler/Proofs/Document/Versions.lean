import PipelineCompiler.Document.Source
import PipelineCompiler.Github.Compile
import PipelineCompiler.Gitlab.Compile
import PipelineCompiler.Proofs.Document.JsonQuoting
import PipelineCompiler.Proofs.Document.YamlQuoting
import PipelineCompiler.Proofs.Yaml.QuotedValues

namespace PipelineCompiler

open Decimal (Literal)
open Json (Outline)

section Setup

variable {j : Job} {key : SettingKey} {s : String}

theorem exists_toolchain (kind : j.kind.settingKey? = some key) (version : key ≠ .imageName)
    (set : j.kind.setting? = some s) :
    ∃ t ∈ [Toolchain.node s, .python s, .go s], Toolchain.ofKind? j.kind = some t := by
  have effective : j.kind.effectiveSetting? = some s := by
    rw [JobKind.effectiveSetting?, kind, set]
    rfl
  rw [Toolchain.ofKind?, kind, effective]
  cases key with
  | nodeVersion => exact ⟨.node s, by simp, rfl⟩
  | pythonVersion => exact ⟨.python s, by simp, rfl⟩
  | goVersion => exact ⟨.go s, by simp, rfl⟩
  | imageName => exact absurd rfl version

theorem setup_mem_steps {t : Toolchain} (h : Toolchain.ofKind? j.kind = some t) (label : String) :
    .setup t ∈ Plan.steps label j := by
  have known : j.kind.isKnown = true := by
    cases kind : j.kind with
    | unknown blockType =>
      rw [kind] at h
      cases h
    | _ => rfl
  have prepared : .setup t ∈ Plan.preparation j.kind := by simp [Plan.preparation, h]
  simp [Plan.steps, known, prepared]

end Setup

/-- In the pipelines of every graph with a node, its setup step and its image
are those of a version. -/
def Node.CarriesVersion (n : Node) (s : String) : Prop :=
  ∃ t ∈ [Toolchain.node s, .python s, .go s], ∀ g : Graph, n ∈ g.nodes →
    (∀ runner, ∃ job, (n.jobKey, job) ∈ (Github.compile runner g).jobs ∧
      ∀ step ∈ Github.planStep (.setup t), step ∈ job.steps) ∧
    ∀ image, ∃ job, (n.jobKey, job) ∈ (Gitlab.compile image g).jobs ∧
    job.image = some (Gitlab.imageOf t)

theorem Node.carriesVersion_of_setting {n : Node} {j : Job} (block : n.block = .job j)
    {key : SettingKey} (kind : j.kind.settingKey? = some key)
    (version : key ≠ .imageName) {s : String} (set : j.kind.setting? = some s) :
    n.CarriesVersion s := by
  obtain ⟨t, ht, toolchain⟩ := exists_toolchain kind version set
  refine ⟨t, ht, fun g hn => ?_⟩
  have job : (n, j) ∈ g.jobs := List.mem_filterMap.mpr ⟨n, hn, by rw [Node.job?, block]; rfl⟩
  constructor
  · intro runner
    refine ⟨Github.compileJob runner g n j, List.mem_map.mpr ⟨(n, j), job, rfl⟩, fun step hs => ?_⟩
    exact List.mem_flatMap.mpr ⟨.setup t, setup_mem_steps toolchain n.label, hs⟩
  · intro image
    refine ⟨Gitlab.compileJob g n j, List.mem_map.mpr ⟨(n, j), job, rfl⟩, ?_⟩
    rw [Gitlab.compileJob, toolchain]
    rfl

namespace Document

/-- Two texts of one graph, if of any. -/
def SameGraph (format : DocumentFormat) (text text' : String) : Prop :=
  ∀ origin g, parseFrom origin format text = .ok g ↔ parseFrom origin format text' = .ok g

theorem sameGraph_of_parse {format : DocumentFormat} {text text' : String}
    (h : ∀ g, parse format text = .ok g ↔ parse format text' = .ok g) :
    SameGraph format text text' := by
  intro origin g
  rw [parseFrom, parseFrom, Outcome.mapError_eq_ok, Outcome.mapError_eq_ok]
  exact h g

/-- A short version typed without quotes is read as the text of a number, in which zeros at the
end of the fraction are gone; if there are none it is the version that was typed, in every
document and in the pipelines. Quotes in a YAML document are those that change the style of the
literal and leave all its other tokens as they are, as quotes around numbers do in every value that
is laid out by `Json.Value.pretty`. -/
theorem version_without_quotes {v : Literal} (short : v.IsShort) :
    Json.Token.Lexeme (.numeral v.numeral) v.text.toList ∧
    (∃ n, (∀ depth, JsonReader.readValue depth (.numeral v.numeral) = .ok (.number n)) ∧
      n.text = v.trimmed.text) ∧
    (∃ n, YamlReader.readScalar ⟨v.text, .plain, none⟩ = pure (.number n) ∧
      n.text = v.trimmed.text) ∧
    (v.trimmed.text = v.text ↔ v.fraction.length ≤ 1 ∨ v.fraction.getLast? ≠ some 0) ∧
    (∀ (text text' : String) (o o' : Outline), Outline.IsTextOf text o → Outline.IsTextOf text' o' →
      SettingEdit (Quotes v v.trimmed.text) o o' → SameGraph .json text text') ∧
    (v.trimmed.text = v.text → ∀ text text' : String,
      YamlReader.SameTexts v (Yaml.scan text) (Yaml.scan text') → SameGraph .yaml text text') ∧
    (v.trimmed.text = v.text → ∀ w w' : Json.Value, Yaml.Fits w → Yaml.Fits w' →
      w.quoted v.text = w'.quoted v.text → SameGraph .yaml (w.pretty 0) (w'.pretty 0)) ∧
    ∀ (r : NodeRecord) (node : Node) (key : SettingKey) (n : Json.Number), r.toNode = .ok node →
    r.role = .job →
      (JobKind.ofBlockType r.blockType none).settingKey? = some key → key ≠ .imageName →
      Configuration.find? key.name r.configuration = some (.number n) → n.text = v.trimmed.text →
      node.CarriesVersion v.trimmed.text := by
  have sameYaml (kept : v.trimmed.text = v.text) {text text' : String}
      (same : (Yaml.scan text).map (Yaml.Token.quoted v.text) =
        (Yaml.scan text').map (Yaml.Token.quoted v.text)) : SameGraph .yaml text text' :=
    sameGraph_of_parse (YamlReader.graphOfText_quoted short (v.text_trimmed_eq_iff.mp kept) same)
  refine ⟨v.lexeme, ?_, YamlReader.exists_readScalar short, ?_, ?_, ?_, ?_, ?_⟩
  · obtain ⟨n, value, text⟩ := v.exists_value? short
    exact ⟨n, fun depth => by rw [JsonReader.readValue, value], text⟩
  · rw [v.text_trimmed_eq_iff, v.trimmed_eq_self_iff]
  · intro text text' o o' spelled spelled' quoted
    refine sameGraph_of_parse fun g => ?_
    rw [parse, parse, Outcome.mapError_eq_ok, Outcome.mapError_eq_ok]
    exact graphOfText_quoted short spelled spelled' quoted g
  · exact fun kept text text' same => sameYaml kept same.map_quoted
  · exact fun kept w w' fits fits' same =>
      sameYaml kept (Yaml.map_quoted_scan_pretty fits fits' same)
  · intro r node key n converted role kind version found text
    have counts : Configuration.gist (.number n) = .text v.trimmed.text :=
      congrArg Json.Value.text text
    obtain ⟨j, block, kind', set⟩ :=
      NodeRecord.setting_of_toNode converted role kind found counts v.trimmed.text_ne_empty
    exact Node.carriesVersion_of_setting block kind' version set

/-- The text of a document both in JSON and in YAML. -/
def bareText : String :=
  "\x7b\"nodes\":[\x7b\"id\":\"a\",\"role\":\"job\",\"blockType\":\"go_build\",\"label\":\"Build\",\"configuration\":\x7b\"goVersion\":1.22\x7d\x7d]\x7d"

def quotedText : String :=
  "\x7b\"nodes\":[\x7b\"id\":\"a\",\"role\":\"job\",\"blockType\":\"go_build\",\"label\":\"Build\",\"configuration\":\x7b\"goVersion\":\"1.22\"\x7d\x7d]\x7d"

def versionOutline (version : Outline) : Outline :=
  .object [(some "nodes", .array [.object
    [(some "id", .text (some "a")), (some "role", .text (some "job")),
      (some "blockType", .text (some "go_build")), (some "label", .text (some "Build")),
      (some "configuration", .object [(some "goVersion", version)] true)] true] true)] true

def versionTokens (version : Yaml.Token) : List Yaml.Token :=
  let text (s : String) := Yaml.Token.scalar s .doubleQuoted
  [.flowMappingStart, .key, text "nodes", .value, .flowSequenceStart, .flowMappingStart,
    .key, text "id", .value, text "a", .flowEntry,
    .key, text "role", .value, text "job", .flowEntry,
    .key, text "blockType", .value, text "go_build", .flowEntry,
    .key, text "label", .value, text "Build", .flowEntry,
    .key, text "configuration", .value, .flowMappingStart,
    .key, text "goVersion", .value, version, .flowMappingEnd,
    .flowMappingEnd, .flowSequenceEnd, .flowMappingEnd, .streamEnd]

/-- The literal 1.22. -/
def minorVersion : Literal := ⟨1, [2, 2], by decide, by decide⟩

theorem isTextOf_minorVersion :
    Outline.IsTextOf bareText (versionOutline (.numeral minorVersion.numeral)) ∧
    Outline.IsTextOf quotedText (versionOutline (.text (some "1.22"))) := by
  unfold bareText quotedText
  constructor
  · exact Outline.isTextOf_ofList rfl (by decide +kernel)
  · exact Outline.isTextOf_ofList rfl (by decide +kernel)

theorem settingEdit_minorVersion : SettingEdit (Quotes minorVersion minorVersion.trimmed.text)
    (versionOutline (.numeral minorVersion.numeral)) (versionOutline (.text (some "1.22"))) := by
  have text : minorVersion.trimmed.text = "1.22" := by decide +kernel
  have quotes : Quotes minorVersion minorVersion.trimmed.text (.numeral minorVersion.numeral)
      (.text (some "1.22")) :=
    text ▸ .mk
  have entry := @EntryEdit.mk _ [] [] (some "goVersion") _ _ quotes
  have field :=
    @FieldEdit.member JsonReader.nodeFields "configuration" _
      [(some "id", .text (some "a")), (some "role", .text (some "job")),
        (some "blockType", .text (some "go_build")), (some "label", .text (some "Build"))]
      [] _ _ (ObjectEdit.mk entry)
  exact @FieldEdit.member JsonReader.graphFields "nodes" _ [] [] _ _
    (@ItemEdit.mk _ [] [] _ _ field)

theorem sameTexts_minorVersion :
    YamlReader.SameTexts minorVersion (Yaml.scan bareText) (Yaml.scan quotedText) := by
  have bare : Yaml.scan bareText = versionTokens (.scalar minorVersion.text .plain) := by
    unfold bareText
    exact Yaml.scan_ofList (by decide +kernel)
  have quoted : Yaml.scan quotedText = versionTokens (.scalar minorVersion.text .doubleQuoted) := by
    unfold quotedText
    exact Yaml.scan_ofList (by decide +kernel)
  rw [bare, quoted]
  unfold versionTokens YamlReader.SameTexts
  simp

def versionValue (version : Json.Value) : Json.Value :=
  .object [("nodes", .array [.object
    [("id", .text "a"), ("role", .text "job"), ("blockType", .text "go_build"),
      ("label", .text "Build"), ("configuration", .object [("goVersion", version)])]])]

theorem fits_versionValue {version : Json.Value} (h : Yaml.Fits version) :
    Yaml.Fits (versionValue version) := by
  have texts : ∀ s ∈ ["nodes", "id", "a", "role", "job", "blockType", "go_build", "label", "Build",
      "configuration", "goVersion"], Yaml.IsPortable s ∧ Yaml.IsShort s := by
    decide
  simp only [List.forall_mem_cons] at texts
  simp [versionValue, Yaml.Fits, Yaml.MembersFit, Yaml.AllFit, texts, h]

/-- A version that is kept as it was typed. -/
theorem version_without_quotes_minor :
    minorVersion.IsShort ∧ SameGraph .json bareText quotedText ∧
    SameGraph .yaml bareText quotedText ∧
    (∃ n : Json.Number, n.text = "1.22" ∧
      SameGraph .yaml ((versionValue (.number n)).pretty 0)
        ((versionValue (.text "1.22")).pretty 0)) ∧
    Node.CarriesVersion ⟨"a", "Build", .job ⟨.goBuild (some "1.22"), {}⟩⟩ "1.22" := by
  have short : minorVersion.IsShort := .inr ⟨by decide +kernel, .inr (by decide +kernel)⟩
  have text : minorVersion.trimmed.text = "1.22" := by decide +kernel
  have kept : minorVersion.trimmed.text = minorVersion.text := by decide +kernel
  obtain ⟨-, ⟨n, -, number⟩, -, -, json, yaml, pretty, carried⟩ := version_without_quotes short
  refine ⟨short, ?_, yaml kept _ _ sameTexts_minorVersion, ⟨n, number.trans text, ?_⟩, ?_⟩
  · exact json _ _ _ _ isTextOf_minorVersion.1 isTextOf_minorVersion.2 settingEdit_minorVersion
  · have portable : Yaml.IsPortable "1.22" := by decide
    have quoted : (versionValue (.number n)).quoted minorVersion.text =
        (versionValue (.text "1.22")).quoted minorVersion.text := by
      simp [versionValue, Json.Value.quoted, Json.Value.quotedItems, Json.Value.quotedMembers,
        number, text, ← kept]
    exact pretty kept _ _ (fits_versionValue trivial) (fits_versionValue portable) quoted
  · have converted : NodeRecord.toNode ⟨"a", .job, "go_build", "Build",
      [("goVersion", .number n)]⟩ =
        .ok ⟨"a", "Build", .job ⟨.goBuild (some n.text), {}⟩⟩ := rfl
    rw [number, text] at converted
    exact text ▸ carried _ _ .goVersion n converted rfl rfl (by decide) rfl number

/-- A version that ends in a zero. -/
def zeroText : String :=
  "\x7b\"nodes\":[\x7b\"id\":\"a\",\"role\":\"job\",\"blockType\":\"go_build\",\"label\":\"Build\",\"configuration\":\x7b\"goVersion\":1.20\x7d\x7d]\x7d"

def quotedZeroText : String :=
  "\x7b\"nodes\":[\x7b\"id\":\"a\",\"role\":\"job\",\"blockType\":\"go_build\",\"label\":\"Build\",\"configuration\":\x7b\"goVersion\":\"1.20\"\x7d\x7d]\x7d"

def versionGraph (version : String) : Graph :=
  ⟨[⟨"a", "Build", .job ⟨.goBuild (some version), {}⟩⟩], []⟩

/-- The zero at the end is lost. -/
theorem zero_lost_without_quotes :
    (parseFrom "a" .json zeroText = .ok (versionGraph "1.2") ∧
      parseFrom "a" .json quotedZeroText = .ok (versionGraph "1.20")) ∧
    parseFrom "a" .yaml zeroText = .ok (versionGraph "1.2") ∧
      parseFrom "a" .yaml quotedZeroText = .ok (versionGraph "1.20") := by
  have outlines :
      Outline.ofText zeroText = (versionOutline (.numeral ⟨false, [1], [2, 0], none⟩), false) ∧
      Outline.ofText quotedZeroText = (versionOutline (.text (some "1.20")), false) := by
    unfold zeroText quotedZeroText
    exact ⟨Outline.ofText_of_scan rfl (by decide +kernel),
      Outline.ofText_of_scan rfl (by decide +kernel)⟩
  have tokens : Yaml.scan zeroText = versionTokens (.scalar "1.20" .plain) ∧
      Yaml.scan quotedZeroText = versionTokens (.scalar "1.20" .doubleQuoted) := by
    unfold zeroText quotedZeroText
    exact ⟨Yaml.scan_ofList (by decide +kernel), Yaml.scan_ofList (by decide +kernel)⟩
  simp only [parseFrom, parse, JsonReader.graphOfText, JsonReader.whole, outlines,
    YamlReader.graphOfText_eq, Yaml.Document.ofText, tokens]
  decide +kernel

end Document

end PipelineCompiler
