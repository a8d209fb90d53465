import PipelineCompiler.Gitlab.Pipeline
import PipelineCompiler.Proofs.Text.Layout

namespace PipelineCompiler.Gitlab

open Text

def Cache.Plain (c : Cache) : Prop := OneLine c.key ∧ ∀ p ∈ c.paths, OneLine p

/-- No text of the job spans lines, and no need holds the comma that ends it. -/
structure Job.Plain (j : Job) : Prop where
  image : ∀ i ∈ j.image, OneLine i
  services : ∀ s ∈ j.services, OneLine s
  needs : ∀ key ∈ j.needs, OneLine key ∧ ',' ∉ key.toList
  cache : ∀ c ∈ j.cache, c.Plain
  script : ∀ s ∈ j.script, OneLine s
  rules : ∀ r ∈ j.rules, OneLine r.condition

structure Pipeline.Plain (p : Pipeline) : Prop where
  defaultImage : OneLine p.defaultImage
  keys : ∀ e ∈ p.jobs, OneLine e.1
  jobs : ∀ e ∈ p.jobs, e.2.Plain

theorem listLines_eq (title : String) (items : List String) :
    listLines title items = titled ("  " ++ title ++ ":") "    - " items := by
  cases items with
  | nil => rfl
  | cons x items => rfl

theorem oneLine_listLines (title : String) (ht : OneLine ("  " ++ title ++ ":"))
    {items : List String} (h : ∀ x ∈ items, OneLine x) :
    ∀ l ∈ listLines title items, OneLine l := by
  rw [listLines_eq]
  exact oneLine_titled ht (by decide) h

/-- A need as it stands in its list. -/
def quoted (key : String) : String := "\"" ++ key ++ "\""

theorem quoted_injective : Function.Injective quoted := by
  intro k l h
  exact (String.append_right_inj "\"").mp ((String.append_left_inj "\"").mp h)

theorem plain_quoted {keys : List String} (h : ∀ k ∈ keys, OneLine k ∧ ',' ∉ k.toList) :
    ∀ q ∈ keys.map quoted, OneLine q ∧ ',' ∉ q.toList := by
  refine List.forall_mem_map.mpr fun k hk => ?_
  obtain ⟨line, comma⟩ := h k hk
  have quote : OneLine "\"" := by decide
  constructor
  · simp [quoted, quote, line]
  · simpa [quoted] using comma

theorem needs_eq (keys : List String) :
    (if keys.isEmpty then []
      else ["  needs: [" ++ ", ".intercalate (keys.map fun n => "\"" ++ n ++ "\"") ++ "]"]) =
      bracketed "  needs: [" (keys.map quoted) := by
  simp only [bracketed, List.isEmpty_map]
  rfl

/-- A rule as an item of its list. -/
def ruleItem (r : Rule) : String := "if: " ++ r.condition

theorem ruleItem_injective : Function.Injective ruleItem := by
  intro r s h
  cases r
  cases s
  simpa [ruleItem] using h

theorem stageName_injective : Function.Injective Stage.name := by
  intro s t h
  cases s <;> cases t <;> simp_all [Stage.name]

theorem oneLine_stageName (s : Stage) : OneLine s.name := by
  cases s <;> decide

namespace Cache

theorem lines_append (c : Cache) (rest : List String) :
    c.lines ++ rest =
      "  cache:" :: ("    key: " ++ c.key) :: "    paths:" ::
        (c.paths.map ("      - " ++ ·) ++ rest) := by
  simp [lines]

theorem readable : Readable (fun _ => True) lines (Avoids "      - ") := by
  intro c d xs ys _ _ hx hy h
  rw [lines_append, lines_append] at h
  obtain ⟨-, h⟩ := List.cons.inj h
  obtain ⟨key, h⟩ := List.cons.inj h
  obtain ⟨paths, h⟩ := map_append_inj hx hy (List.cons.inj h).2
  have same : c = d := by
    cases c
    cases d
    simp_all [String.append_right_inj]
  exact ⟨same, h⟩

theorem Plain.oneLine_lines {c : Cache} (h : c.Plain) : ∀ l ∈ c.lines, OneLine l := by
  have title : OneLine "  cache:" := by decide
  have key : OneLine ("    key: " ++ c.key) := oneLine_append.mpr ⟨by decide, h.1⟩
  have paths : OneLine "    paths:" := by decide
  have items := oneLine_map "      - " (by decide) h.2
  simp only [lines, List.forall_mem_append, List.forall_mem_cons]
  exact ⟨⟨title, key, paths, List.forall_mem_nil _⟩, items⟩

theorem optional_append_inj {a b : Option Cache} {xs ys : List String}
    (hx : Avoids "  cache:" xs ∧ Avoids "      - " xs)
    (hy : Avoids "  cache:" ys ∧ Avoids "      - " ys)
    (h : a.toList.flatMap lines ++ xs = b.toList.flatMap lines ++ ys) : a = b ∧ xs = ys := by
  have caches : Readable (fun cs : List Cache => ∀ c ∈ cs, True) (List.flatMap lines)
      fun zs => Avoids "  cache:" zs ∧ Avoids "      - " zs := by
    apply readable.flatMap
    · intro c zs
      exact avoids_line (by decide) _
    · intro zs hz
      exact hz.2
    · intro c zs none
      rw [lines_append] at none
      exact none.1 "" _ rfl
  obtain ⟨same, h⟩ := caches (fun _ _ => trivial) (fun _ _ => trivial) hx hy h
  exact ⟨Text.optional_inj same, h⟩

theorem avoids_optional {mark : String} (h : ¬ mark.toList <+: "  cache:".toList) {xs : List String}
    (hx : Avoids mark xs) (c : Option Cache) : Avoids mark (c.toList.flatMap lines ++ xs) := by
  cases c with
  | none => exact hx
  | some c => exact avoids_line h _

end Cache

namespace Job

/-- The script and the rules of a job, with what follows the job. -/
def scriptLines (j : Job) (rest : List String) : List String :=
  "  script:" ::
    (j.script.map ("    - " ++ ·) ++
      (titled "  rules:" "    - " (j.rules.map ruleItem) ++ "" :: rest))

/-- The lines from the needs on. -/
def needLines (j : Job) (rest : List String) : List String :=
  bracketed "  needs: [" (j.needs.map quoted) ++
  (j.cache.toList.flatMap Cache.lines ++ j.scriptLines rest)

theorem lines_append (j : Job) (rest : List String) :
    j.lines ++ rest = ("  stage: " ++ j.stage.name) ::
      (j.image.toList.map ("  image: " ++ ·) ++
        (titled "  services:" "    - " j.services ++ j.needLines rest)) := by
  have rules : (j.rules.map fun r => "if: " ++ r.condition) = j.rules.map ruleItem := rfl
  unfold lines
  rw [needs_eq, rules]
  simp [needLines, scriptLines, listLines_eq]

theorem scriptLines_inj {j k : Job} {xs ys : List String}
    (h : j.scriptLines xs = k.scriptLines ys) :
    j.script = k.script ∧ j.rules = k.rules ∧ xs = ys := by
  have noItem (i : Job) (zs : List String) :
      Avoids "    - " (titled "  rules:" "    - " (i.rules.map ruleItem) ++ "" :: zs) :=
    avoids_titled (by decide) (avoids_blank (by decide) zs) _
  have noRule (zs : List String) : Avoids "  rules:" ("" :: zs) ∧ Avoids "    - " ("" :: zs) :=
    ⟨avoids_blank (by decide) zs, avoids_blank (by decide) zs⟩
  obtain ⟨script, h⟩ := map_append_inj (noItem j xs) (noItem k ys) (List.cons.inj h).2
  obtain ⟨rules, h⟩ := titled_append_inj (noRule xs) (noRule ys) h
  exact ⟨script, List.map_injective_iff.mpr ruleItem_injective rules, (List.cons.inj h).2⟩

theorem needLines_inj {j k : Job} (hj : j.Plain) (hk : k.Plain) {xs ys : List String}
    (h : j.needLines xs = k.needLines ys) :
    j.needs = k.needs ∧ j.cache = k.cache ∧ j.script = k.script ∧ j.rules = k.rules ∧ xs = ys := by
  have noNeeds (i : Job) (zs : List String) :
      Avoids "  needs: [" (i.cache.toList.flatMap Cache.lines ++ i.scriptLines zs) :=
    Cache.avoids_optional (by decide) (avoids_line (by decide) _) _
  have noCache (i : Job) (zs : List String) :
      Avoids "  cache:" (i.scriptLines zs) ∧ Avoids "      - " (i.scriptLines zs) :=
    ⟨avoids_line (by decide) _, avoids_line (by decide) _⟩
  obtain ⟨needs, h⟩ := bracketed_append_inj (fun q hq => (plain_quoted hj.needs q hq).2)
    (fun q hq => (plain_quoted hk.needs q hq).2) (noNeeds j xs) (noNeeds k ys) h
  obtain ⟨cache, h⟩ := Cache.optional_append_inj (noCache j xs) (noCache k ys) h
  exact ⟨List.map_injective_iff.mpr quoted_injective needs, cache, scriptLines_inj h⟩

theorem avoids_needLines {mark : String} (hn : Apart mark "  needs: [")
    (hc : ¬ mark.toList <+: "  cache:".toList) (hs : ¬ mark.toList <+: "  script:".toList) (j : Job)
    (rest : List String) : Avoids mark (j.needLines rest) :=
  avoids_bracketed hn (Cache.avoids_optional hc (avoids_line hs _) _) _

/-- The blank line at its end tells a job from whatever follows. -/
theorem readable : Readable Plain lines fun _ => True := by
  intro j k xs ys hj hk _ _ h
  rw [lines_append, lines_append] at h
  obtain ⟨stage, h⟩ := List.cons.inj h
  have noService (i : Job) (zs : List String) :
      Avoids "  services:" (i.needLines zs) ∧ Avoids "    - " (i.needLines zs) :=
    ⟨avoids_needLines (by decide) (by decide) (by decide) i zs,
      avoids_needLines (by decide) (by decide) (by decide) i zs⟩
  have noImage (i : Job) (zs : List String) :
      Avoids "  image: " (titled "  services:" "    - " i.services ++ i.needLines zs) :=
    avoids_titled (by decide) (avoids_needLines (by decide) (by decide) (by decide) i zs) _
  obtain ⟨image, h⟩ := Text.optional_append_inj (noImage j xs) (noImage k ys) h
  obtain ⟨services, h⟩ := titled_append_inj (noService j xs) (noService k ys) h
  obtain ⟨needs, cache, script, rules, h⟩ := needLines_inj hj hk h
  have same : j = k := by
    have stage := stageName_injective ((String.append_right_inj "  stage: ").mp stage)
    cases j
    cases k
    simp_all
  exact ⟨same, h⟩

theorem Plain.oneLine_lines {j : Job} (h : j.Plain) : ∀ l ∈ j.lines, OneLine l := by
  have stage : OneLine ("  stage: " ++ j.stage.name) :=
    oneLine_append.mpr ⟨by decide, oneLine_stageName _⟩
  have image := oneLine_map "  image: " (by decide) fun i hi => h.image i (Option.mem_toList.mp hi)
  have services := oneLine_listLines "services" (by decide) h.services
  have needs := oneLine_bracketed "  needs: [" (by decide) fun q hq => (plain_quoted h.needs q hq).1
  have cache : ∀ l ∈ j.cache.toList.flatMap Cache.lines, OneLine l :=
    List.forall_mem_flatMap.mpr fun c hc => (h.cache c (Option.mem_toList.mp hc)).oneLine_lines
  have script := oneLine_map "    - " (by decide) h.script
  have rules : ∀ l ∈ listLines "rules" (j.rules.map ruleItem), OneLine l := by
    apply oneLine_listLines "rules" (by decide)
    refine List.forall_mem_map.mpr fun r hr => ?_
    exact oneLine_append.mpr ⟨by decide, h.rules r hr⟩
  have title : OneLine "  script:" := by decide
  have blank : OneLine "" := by decide
  unfold lines
  rw [needs_eq]
  simp only [List.forall_mem_append, List.forall_mem_singleton]
  exact ⟨⟨⟨⟨⟨⟨⟨⟨stage, image⟩, services⟩, needs⟩, cache⟩, title⟩, script⟩, rules⟩, blank⟩

end Job

namespace Pipeline

def lines (p : Pipeline) : List String := p.header ++ p.jobs.flatMap fun e => jobSection e.1 e.2

theorem render_eq_unlines (p : Pipeline) : p.render = Text.unlines p.lines := rfl

theorem readable_jobs :
    Readable (fun jobs : List (String × Job) => ∀ e ∈ jobs, e.2.Plain)
      (List.flatMap fun e => jobSection e.1 e.2) (· = []) := by
  have each : Readable (fun e : String × Job => e.2.Plain) (fun e => jobSection e.1 e.2) fun _ =>
    True := by
    intro d e xs ys hd he _ _ h
    simp only [jobSection, List.cons_append] at h
    obtain ⟨title, h⟩ := List.cons.inj h
    obtain ⟨job, h⟩ := Job.readable hd he trivial trivial h
    exact ⟨Prod.ext ((String.append_left_inj ":").mp title) job, h⟩
  apply each.flatMap
  · intro e xs
    trivial
  · intro xs _
    trivial
  · intro e xs none
    simp [jobSection] at none

/-- The list of stages ends at the blank line behind it, also when it is a blank line itself. -/
theorem stageLines_append_inj {ss ts : List Stage} {xs ys : List String}
    (h : stageLines ss ++ "" :: xs = stageLines ts ++ "" :: ys) : ss = ts ∧ xs = ys := by
  have items (ss : List Stage) :
      (ss.map fun s => "  - " ++ s.name) = (ss.map Stage.name).map ("  - " ++ ·) := by
    simp
  have blank (zs : List String) : Avoids "  - " ("" :: zs) := avoids_blank (by decide) zs
  cases ss with
  | nil =>
    cases ts with
    | nil => simpa [stageLines] using h
    | cons t ts => exact absurd h (blank _ _ _)
  | cons s ss =>
    cases ts with
    | nil => exact absurd h.symm (blank _ _ _)
    | cons t ts =>
      rw [stageLines, stageLines, items, items] at h
      · obtain ⟨names, h⟩ := map_append_inj (blank xs) (blank ys) h
        exact ⟨List.map_injective_iff.mpr stageName_injective names, (List.cons.inj h).2⟩
      all_goals simp

theorem oneLine_stageLines (stages : List Stage) : ∀ l ∈ stageLines stages, OneLine l := by
  cases stages with
  | nil => exact List.forall_mem_singleton.mpr (by decide)
  | cons s stages =>
    refine List.forall_mem_map.mpr fun t _ => ?_
    exact oneLine_append.mpr ⟨by decide, oneLine_stageName t⟩

theorem Plain.oneLine_header {p : Pipeline} (h : p.Plain) : ∀ l ∈ p.header, OneLine l := by
  have image : OneLine ("  image: " ++ p.defaultImage) :=
    oneLine_append.mpr ⟨by decide, h.defaultImage⟩
  have stages := oneLine_stageLines p.stages
  have blank : OneLine "" := by decide
  simp only [header, List.forall_mem_append, List.forall_mem_cons]
  exact ⟨⟨⟨by decide, by decide, blank, by decide, image, blank, by decide, List.forall_mem_nil _⟩,
    stages⟩, blank, List.forall_mem_nil _⟩

theorem Plain.oneLine_jobs {p : Pipeline} (h : p.Plain) :
    ∀ l ∈ p.jobs.flatMap fun e => jobSection e.1 e.2, OneLine l := by
  refine List.forall_mem_flatMap.mpr fun e he => ?_
  have title : OneLine (e.1 ++ ":") := oneLine_append.mpr ⟨h.keys e he, by decide⟩
  exact List.forall_mem_cons.mpr ⟨title, (h.jobs e he).oneLine_lines⟩

/-- The text of a pipeline is the text of no other. -/
theorem render_injective {p q : Pipeline} (hp : p.Plain) (hq : q.Plain) (h : p.render = q.render) :
    p = q := by
  have lines (r : Pipeline) : r.render =
      unlines (r.header ++ r.jobs.flatMap fun e => jobSection e.1 e.2) ++ "" := by
    rw [String.append_empty]
    rfl
  have ended : OneLine "" := by decide
  rw [lines p, lines q] at h
  obtain ⟨same, -⟩ :=
    unlines_append_inj (List.forall_mem_append.mpr ⟨hp.oneLine_header, hp.oneLine_jobs⟩) ended
    (List.forall_mem_append.mpr ⟨hq.oneLine_header, hq.oneLine_jobs⟩) ended h
  simp only [header, List.cons_append, List.nil_append, List.append_assoc, List.cons.injEq,
    true_and] at same
  obtain ⟨image, same⟩ := same
  obtain ⟨stages, same⟩ := stageLines_append_inj same
  have closed := congrArg (· ++ ([] : List String)) same
  have jobs := (readable_jobs hp.jobs hq.jobs rfl rfl closed).1
  cases p
  cases q
  simp_all [String.append_right_inj]

end Pipeline

end PipelineCompiler.Gitlab
