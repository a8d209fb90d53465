import Mathlib.Data.Finset.Card
import PipelineCompiler.Proofs.Dialect.JobGraph
import PipelineCompiler.Proofs.Gitlab.Decoding

namespace PipelineCompiler.Gitlab

open Text (OneLine)

/-- The key of the entry that a line begins at the top of the document. Blank and indented lines
and comments begin none. -/
def topKey? (line : String) : Option String :=
  if line.toList.head? ∈ [none, some ' ', some '#'] then none
  else some (String.ofList (line.toList.takeWhile (· ≠ ':')))

/-- The keys at the top of the document, over the lines that the layout is made of. -/
def Pipeline.topKeys (p : Pipeline) : List String := p.lines.filterMap topKey?

/-- The keys at the top of a document, over the lines of its text. -/
def topKeysOfText (text : String) : List String :=
  ((Text.split '\n' text.toList).map String.ofList).filterMap topKey?

/-- Where no text of a pipeline has a line feed, the lines of the layout are those of the text. -/
theorem Pipeline.topKeysOfText_render {p : Pipeline} (plain : p.Plain) :
    topKeysOfText p.render = p.topKeys := by
  have lines : ∀ l ∈ p.lines, OneLine l :=
    List.forall_mem_append.mpr ⟨plain.oneLine_header, plain.oneLine_jobs⟩
  have ended : OneLine "" := List.not_mem_nil
  have parts := Text.split_unlines lines ended
  rw [String.append_empty] at parts
  have last : topKey? "" = none := rfl
  have back : String.ofList ∘ String.toList = id := funext fun l => String.ofList_toList
  rw [topKeysOfText, render_eq_unlines, parts, List.map_append, List.map_map, back, List.map_id,
    List.filterMap_append, topKeys]
  simp [last]

/-- The keys of the entries that are there before the jobs. -/
def reservedKeys : List String := ["default", "stages"]

section Indented

variable {indent : String} (h : indent.toList.head? = some ' ')
include h

theorem topKey?_append (text : String) : topKey? (indent ++ text) = none := by
  simp [topKey?, String.toList_append, List.head?_append, h]

theorem topKey?_map (texts : List String) : ∀ l ∈ texts.map (indent ++ ·), topKey? l = none :=
  List.forall_mem_map.mpr fun text _ => topKey?_append h text

theorem topKey?_bracketed (parts : List String) :
    ∀ l ∈ Text.bracketed indent parts, topKey? l = none := by
  cases parts with
  | nil => exact List.forall_mem_nil _
  | cons part parts =>
    rw [Text.bracketed_cons]
    exact List.forall_mem_singleton.mpr (topKey?_append h _)

end Indented

theorem topKey?_listLines (title : String) (items : List String) :
    ∀ l ∈ listLines title items, topKey? l = none := by
  cases items with
  | nil => exact List.forall_mem_nil _
  | cons x items =>
    have first : topKey? ("  " ++ title ++ ":") = none := by
      rw [String.append_assoc]
      exact topKey?_append rfl _
    exact List.forall_mem_cons.mpr ⟨first, topKey?_map rfl (x :: items)⟩

theorem topKey?_cache (c : Cache) : ∀ l ∈ c.lines, topKey? l = none := by
  have key : topKey? ("    key: " ++ c.key) = none := topKey?_append rfl _
  simp only [Cache.lines, List.forall_mem_append, List.forall_mem_cons]
  exact ⟨⟨rfl, key, rfl, List.forall_mem_nil _⟩, topKey?_map rfl c.paths⟩

/-- Nothing in a job is at the top. -/
theorem topKey?_job (j : Job) : ∀ l ∈ j.lines, topKey? l = none := by
  have stage : topKey? ("  stage: " ++ j.stage.name) = none := topKey?_append rfl _
  have cache : ∀ l ∈ j.cache.toList.flatMap Cache.lines, topKey? l = none :=
    List.forall_mem_flatMap.mpr fun c _ => topKey?_cache c
  unfold Job.lines
  rw [needs_eq]
  simp only [List.forall_mem_append, List.forall_mem_singleton]
  exact ⟨⟨⟨⟨⟨⟨⟨⟨stage, topKey?_map rfl _⟩, topKey?_listLines _ _⟩, topKey?_bracketed rfl _⟩, cache⟩,
    rfl⟩, topKey?_map rfl _⟩, topKey?_listLines _ _⟩, rfl⟩

theorem topKey?_stageLines (stages : List Stage) :
    ∀ l ∈ Pipeline.stageLines stages, topKey? l = none := by
  cases stages with
  | nil => exact List.forall_mem_singleton.mpr rfl
  | cons s stages => exact List.forall_mem_map.mpr fun s _ => topKey?_append rfl s.name

/-- A job begins an entry under its key: no character of the key ends it early or hides it. -/
theorem topKey?_jobKey (n : Node) : topKey? (n.jobKey ++ ":") = some n.jobKey := by
  have plain (c : Char) (hc : JobKey.isPlain c = false) (underscore : c ≠ '_') :
      c ∉ n.jobKey.toList :=
    notMem_jobKey hc underscore n
  have text : (n.jobKey ++ ":").toList = n.jobKey.toList ++ [':'] := String.toList_append
  have begun : (n.jobKey ++ ":").toList.head? ∉ [none, some ' ', some '#'] := by
    have first (c : Char) (hc : JobKey.isPlain c = false) (underscore : c ≠ '_') (colon : c ≠ ':') :
        (n.jobKey ++ ":").toList.head? ≠ some c := by
      intro head
      have mem : c ∈ n.jobKey.toList ++ [':'] := text ▸ List.mem_of_head? head
      exact (List.mem_append.mp mem).elim (plain c hc underscore) (by simpa using colon)
    have blank := first ' ' (by decide) (by decide) (by decide)
    have hash := first '#' (by decide) (by decide) (by decide)
    simp only [List.mem_cons, List.not_mem_nil, or_false, not_or]
    exact ⟨by simp [text], blank, hash⟩
  have key : (n.jobKey.toList ++ [':']).takeWhile (· ≠ ':') = n.jobKey.toList := by
    rw [List.takeWhile_append_of_pos]
    · simp
    · intro c hc
      simp only [decide_eq_true_eq]
      rintro rfl
      exact plain ':' (by decide) (by decide) hc
  rw [topKey?, if_neg begun, text, key, String.ofList_toList]

theorem filterMap_topKey?_header (p : Pipeline) : p.header.filterMap topKey? = reservedKeys := by
  have image : topKey? ("  image: " ++ p.defaultImage) = none := topKey?_append rfl _
  have stages := List.filterMap_eq_nil_iff.mpr (topKey?_stageLines p.stages)
  rw [Pipeline.header, List.filterMap_append, List.filterMap_append, stages]
  simp only [List.filterMap_cons, image]
  decide

theorem filterMap_topKey?_jobSection (n : Node) (j : Job) :
    (Pipeline.jobSection n.jobKey j).filterMap topKey? = [n.jobKey] := by
  rw [Pipeline.jobSection, List.filterMap_cons_some (topKey?_jobKey n),
    List.filterMap_eq_nil_iff.mpr (topKey?_job j)]

theorem topKeys_compile (image : String) (g : Graph) :
    (compile image g).topKeys = reservedKeys ++ g.jobNodes.map Node.jobKey := by
  rw [Pipeline.topKeys, Pipeline.lines, List.filterMap_append, filterMap_topKey?_header,
    List.filterMap_flatMap, compile, List.flatMap_map, ← Graph.map_jobs]
  simp only [filterMap_topKey?_jobSection]
  rw [List.map_eq_flatMap]

/-- Among keys that differ, as many as there are reserved ones are not new. -/
theorem card_reservedKeys_append {keys : List String} (distinct : keys.Nodup) :
    (reservedKeys ++ keys).toFinset.card + keys.countP (· ∈ reservedKeys) = keys.length + 2 := by
  have both : (reservedKeys.toFinset ∩ keys.toFinset).card = keys.countP (· ∈ reservedKeys) := by
    rw [List.countP_eq_length_filter, ← List.toFinset_card_of_nodup (distinct.filter _)]
    congr 1
    ext key
    simp [and_comm]
  have union := Finset.card_union_add_card_inter reservedKeys.toFinset keys.toFinset
  rw [both, ← List.toFinset_append, List.toFinset_card_of_nodup distinct] at union
  have reserved : reservedKeys.toFinset.card = 2 := rfl
  omega

/-- Where no two jobs share a key, the keys at the top differ exactly when no job has a reserved
one. Each job that has makes for one entry less. -/
theorem nodup_topKeys_iff {g : Graph}
    (distinct : ∀ key nodes, Warning.duplicateJobKey key nodes ∉ Diagnostic.diagnose g)
    (image : String) :
    (compile image g).topKeys = reservedKeys ++ (compile image g).keys ∧
    ((∀ t ∈ g.texts, OneLine t) → OneLine image →
      topKeysOfText (compile image g).render = (compile image g).topKeys) ∧
    ((compile image g).topKeys.Nodup ↔ ∀ n ∈ g.jobNodes, n.jobKey ∉ reservedKeys) ∧
    (compile image g).topKeys.toFinset.card + g.jobNodes.countP (·.jobKey ∈ reservedKeys) =
      g.jobNodes.length + 2 := by
  have keys : (g.jobNodes.map Node.jobKey).Nodup := by
    rw [← Graph.map_jobs]
    exact (Diagnostic.nodup_jobKeys_iff g).mpr distinct
  have reserved : reservedKeys.Nodup := by decide
  have text (texts : ∀ t ∈ g.texts, OneLine t) (line : OneLine image) :=
    Pipeline.topKeysOfText_render (plain_compile texts line)
  rw [topKeys_compile] at text
  rw [topKeys_compile, keys_compile]
  refine ⟨rfl, text, ?_, ?_⟩
  · rw [List.nodup_append', List.disjoint_comm, List.Disjoint, List.forall_mem_map]
    simp [reserved, keys]
  · simpa [List.countP_map, Function.comp_def] using card_reservedKeys_append keys

/-- A job under a key that every pipeline uses itself, and one under a key of its own. -/
def reservedGraph : Graph :=
  ⟨[⟨"a", "Default", .job ⟨.lint, {}⟩⟩, ⟨"b", "Scan", .job ⟨.securityScan, {}⟩⟩], []⟩

theorem nodup_topKeys_iff_reserved :
    (∀ key nodes, Warning.duplicateJobKey key nodes ∉ Diagnostic.diagnose reservedGraph) ∧
    (compile "alpine" reservedGraph).topKeys.toFinset.card = 3 := by
  have distinct := (Diagnostic.nodup_jobKeys_iff reservedGraph).mp (by decide +kernel)
  have law := (nodup_topKeys_iff distinct "alpine").2.2.2
  have reserved : reservedGraph.jobNodes.countP (·.jobKey ∈ reservedKeys) = 1 := by decide +kernel
  have jobs : reservedGraph.jobNodes.length = 2 := rfl
  exact ⟨distinct, by omega⟩

/-- Nothing is reported, and yet two entries at the top have one key. -/
theorem topKeys_reservedGraph : Diagnostic.diagnose reservedGraph = [] ∧
    (compile "ubuntu:latest" reservedGraph).topKeys = ["default", "stages", "default", "scan"] ∧
    ¬ (compile "ubuntu:latest" reservedGraph).topKeys.Nodup := by
  have keys : (compile "ubuntu:latest" reservedGraph).topKeys =
      ["default", "stages", "default", "scan"] := by
    decide +kernel
  refine ⟨by decide +kernel, keys, ?_⟩
  rw [keys]
  decide

end PipelineCompiler.Gitlab
