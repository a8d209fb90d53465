import Mathlib.Data.List.Basic
import PipelineCompiler.Proofs.Yaml.Quoted
import PipelineCompiler.Yaml.Scan

/-!
A scanner on its way through a text in flow style. No possible key is required there, so none of
them can stop the scanner; what remains to be said of a stretch of text is which tokens it puts
behind those that are there already, and which of them open a key.
-/
namespace PipelineCompiler.Yaml

/-- A token, and whether a key opens before it. -/
abbrev Placed := Bool × Token

namespace Placed

/-- The openings of keys among tokens that are counted from `i` on. -/
def openings : Nat → List Placed → List Opening
  | _, [] => []
  | i, (true, _) :: rest => ⟨i, false⟩ :: openings (i + 1) rest
  | i, (false, _) :: rest => openings (i + 1) rest

/-- The tokens with the openings put in. -/
def spelled (ts : List Placed) : List Token :=
  ts.flatMap fun (opens, t) => if opens then [.key, t] else [t]

theorem openings_append (i : Nat) (a b : List Placed) :
    openings i (a ++ b) = openings i a ++ openings (i + a.length) b := by
  induction a generalizing i with
  | nil => rfl
  | cons t rest ih =>
    obtain ⟨opens, t⟩ := t
    have count : i + 1 + rest.length = i + (rest.length + 1) := by omega
    cases opens <;> simp [openings, ih, count]

theorem le_of_mem_openings {i : Nat} {ts : List Placed} {o : Opening} (h : o ∈ openings i ts) :
    i ≤ o.token := by
  induction ts generalizing i with
  | nil => cases h
  | cons t rest ih =>
    obtain ⟨opens, t⟩ := t
    cases opens with
    | false => exact Nat.le_of_succ_le (ih h)
    | true =>
      rcases List.mem_cons.mp h with rfl | h
      · exact Nat.le_refl _
      · exact Nat.le_of_succ_le (ih h)

theorem pairwise_openings (i : Nat) (ts : List Placed) :
    (openings i ts).Pairwise fun a b => decide (a.token ≤ b.token) = true := by
  induction ts generalizing i with
  | nil => exact .nil
  | cons t rest ih =>
    obtain ⟨opens, t⟩ := t
    cases opens with
    | false => exact ih (i + 1)
    | true =>
      apply List.pairwise_cons.mpr ⟨fun o ho => ?_, ih (i + 1)⟩
      exact decide_eq_true (Nat.le_of_succ_le (le_of_mem_openings ho))

theorem splice_openings (i : Nat) (ts : List Placed) :
    Scanner.splice (openings i ts) i (ts.map (·.2)) = spelled ts := by
  induction ts generalizing i with
  | nil => rfl
  | cons t rest ih =>
    obtain ⟨opens, t⟩ := t
    have next := ih (i + 1)
    cases opens with
    | true => simpa [openings, Scanner.splice, spelled] using next
    | false =>
      rw [openings, List.map_cons]
      cases h : openings (i + 1) rest with
      | nil =>
        rw [h] at next
        rw [Scanner.splice, next]
        rfl
      | cons o later =>
        have after : i + 1 ≤ o.token := le_of_mem_openings (h ▸ List.mem_cons_self)
        rw [h] at next
        rw [Scanner.splice, if_neg (by omega), next]
        rfl

end Placed

/-- Between the tokens of a text laid out in lines stand spaces and line feeds. -/
def isLayout (c : Char) : Bool := c == ' ' || c == '\n'

/-- The scanner has these tokens behind it and this text, up to layout, before it; it stands inside
so many brackets, and if `fresh` a key may begin. -/
structure At (s : Scanner) (done : List Placed) (rest : List Char) (depth : Nat) (fresh : Bool) :
    Prop where
  rest : s.rest.dropWhile isLayout = rest.dropWhile isLayout
  tokens : s.tokens = (done.map (·.2)).reverse
  count : s.count = done.length
  openings : s.openings = (Placed.openings 0 done).reverse
  keyAllowed : fresh = true → s.keyAllowed = true
  indent : s.indent = -1
  indents : s.indents = []
  depth : s.keys.length = depth + 1
  optional : ∀ p, some p ∈ s.keys → p.required = false

namespace At

variable {s : Scanner} {done : List Placed} {rest : List Char} {depth : Nat} {fresh : Bool}

theorem inFlow (h : At s done rest depth fresh) : s.inFlow = decide (0 < depth) := by
  simp [Scanner.inFlow, h.depth]

theorem weaken (h : At s done rest depth fresh) : At s done rest depth false :=
  { h with keyAllowed := fun f => nomatch f }

theorem start (cs : List Char) : At { rest := cs } [] cs 0 true where
  rest := rfl
  tokens := rfl
  count := rfl
  openings := rfl
  keyAllowed := fun _ => rfl
  indent := rfl
  indents := rfl
  depth := rfl
  optional := by simp

/-- What is moved over and what may begin a key are told apart from the tokens. -/
theorem moved (h : At s done rest depth fresh) (cs : List Char) (p : Place) (allowed : Bool) :
    At { s with rest := cs, place := p, keyAllowed := allowed } done cs depth allowed :=
  { h with rest := rfl, keyAllowed := id }

theorem push (h : At s done rest depth fresh) (t : Token) :
    At (s.push t) (done ++ [(false, t)]) rest depth fresh where
  rest := h.rest
  tokens := by simp [Scanner.push, h.tokens]
  count := by simp [Scanner.push, h.count]
  openings := by simp [Scanner.push, h.openings, Placed.openings_append, Placed.openings]
  keyAllowed := h.keyAllowed
  indent := h.indent
  indents := h.indents
  depth := h.depth
  optional := h.optional

theorem dropKey (h : At s done rest depth fresh) :
    ∃ keys, s.dropKey = some { s with keys } ∧ At { s with keys } done rest depth fresh := by
  unfold Scanner.dropKey
  split
  · next k keys hk =>
    have free : k.required = false := h.optional k (by simp [hk])
    refine ⟨none :: keys, by simp [free], { h with depth := ?_, optional := ?_ }⟩
    · simpa [hk] using h.depth
    · intro p hp
      exact h.optional p (by simp_all)
  · exact ⟨s.keys, rfl, h⟩

/-- Where a key may begin, the next token is noted as one that may begin it. -/
theorem noteKey (h : At s done rest depth fresh) :
    ∃ keys, s.noteKey = some { s with keys } ∧ At { s with keys } done rest depth fresh ∧
      (fresh = true → ∃ others, keys = some ⟨s.count, s.place, false⟩ :: others) := by
  unfold Scanner.noteKey
  split
  · obtain ⟨keys, dropped, hk⟩ := h.dropKey
    have free : (!({ s with keys } : Scanner).inFlow && s.indent == s.place.column) = false := by
      have apart : (s.indent == (s.place.column : Int)) = false := by
        rw [h.indent]
        exact beq_eq_false_iff_ne.mpr (by omega)
      rw [apart, Bool.and_false]
    refine ⟨some ⟨s.count, s.place, false⟩ :: keys.drop 1, ?_,
      { hk with depth := ?_, optional := ?_ }, ?_⟩
    · simp [dropped, free]
    · have length : keys.length = depth + 1 := hk.depth
      simp [length]
    · intro p hp
      rcases List.mem_cons.mp hp with eq | hp
      · cases eq
        rfl
      · exact hk.optional p (List.mem_of_mem_drop hp)
    · exact fun _ => ⟨_, rfl⟩
  · next closed =>
    refine ⟨s.keys, rfl, h, fun f => ?_⟩
    exact absurd (h.keyAllowed f) closed

/-- A key at the innermost level stays noted while it is not stale. -/
theorem dropStale (h : At s done rest depth fresh) :
    ∃ keys, s.dropStale = some { s with keys } ∧ At { s with keys } done rest depth fresh ∧
      ∀ k others, s.keys = some k :: others → Scanner.isStale s.place k = false →
        ∃ others', keys = some k :: others' := by
  have free : (s.keys.any fun k => (k.map (Scanner.isStale s.place)).getD false &&
      (k.map (·.required)).getD false) = false := by
    apply List.any_eq_false.mpr
    intro k hk
    cases k with
    | none => simp
    | some p => simp [h.optional p hk]
  refine ⟨s.keys.map fun k => if (k.map (Scanner.isStale s.place)).getD false then none else k, ?_,
    { h with depth := ?_, optional := ?_ }, ?_⟩
  · unfold Scanner.dropStale
    simp only [free]
    rfl
  · simpa using h.depth
  · intro p hp
    obtain ⟨k, hk, eq⟩ := List.mem_map.mp hp
    split at eq
    · cases eq
    · exact h.optional p (eq ▸ hk)
  · intro k others hk current
    rw [hk, List.map_cons, Option.map_some, current]
    exact ⟨_, rfl⟩

theorem unroll (h : At s done rest depth fresh) (column : Int) : s.unroll column = s := by
  unfold Scanner.unroll
  rw [h.indents]
  split <;> rfl

end At

/-- A character at which white space is over, and no comment begins. -/
def isStart (c : Char) : Bool := !(isBlank c || isBreak c || c == '#')

theorem isStart_iff (c : Char) :
    isStart c = true ↔ isBlank c = false ∧ isBreak c = false ∧ c ≠ '#' := by
  simp [isStart, and_assoc]

theorem isLayout_of_isStart {c : Char} (h : isStart c = true) : isLayout c = false := by
  obtain ⟨blank, newline, -⟩ := (isStart_iff c).mp h
  simp only [isBlank, isBreak, Bool.or_eq_false_iff] at blank newline
  rw [isLayout, blank.1, newline.1.1.1.1]
  rfl

/-- Layout is passed over up to the next token, or up to the end. -/
theorem skipSpace_layout (flow : Bool) (cs rest : List Char) (h : cs.dropWhile isLayout = rest)
    (hr : ∀ c r, rest = c :: r → isStart c = true) (allowed : Bool) (p : Place) :
    ∃ p' allowed', Scanner.skipSpace flow allowed false p cs = (rest, p', allowed') ∧
      (allowed = true → allowed' = true) ∧ (cs = rest → p' = p) := by
  induction cs generalizing allowed p with
  | nil =>
    subst h
    exact ⟨p, allowed, rfl, id, fun _ => rfl⟩
  | cons c cs ih =>
    cases hc : isLayout c with
    | true =>
      rw [List.dropWhile_cons_of_pos hc] at h
      have white : c = ' ' ∨ c = '\n' := by simpa [isLayout] using hc
      have shorter : c :: cs ≠ rest := by
        have length := (List.dropWhile_sublist isLayout (l := cs)).length_le
        rw [h] at length
        rintro rfl
        rw [List.length_cons] at length
        omega
      rcases white with rfl | rfl
      · obtain ⟨p', allowed', skipped, keeps, -⟩ := ih h allowed p.step
        refine ⟨p', allowed', ?_, keeps, fun eq => absurd eq shorter⟩
        rw [← skipped, Scanner.skipSpace]
        · simp [isBreak]
        · intros; simp_all
      · obtain ⟨p', allowed', skipped, keeps, -⟩ := ih h (allowed || !flow) (p.nextLine 1)
        refine ⟨p', allowed', ?_, fun ha => keeps (by simp [ha]), fun eq => absurd eq shorter⟩
        rw [← skipped, Scanner.skipSpace]
        · simp [isBreak]
        · intros; simp_all
    | false =>
      rw [List.dropWhile_cons_of_neg (by simp [hc])] at h
      have start := hr c cs h.symm
      refine ⟨p, allowed, ?_, id, fun _ => rfl⟩
      obtain ⟨blank, newline, comment⟩ := (isStart_iff c).mp start
      have white : c ≠ ' ' ∧ c ≠ '\t' := by simpa [isBlank] using blank
      rw [← h, Scanner.skipSpace]
      · simp [newline, white, comment]
      · rintro _ rfl
        cases start

/-- What the scanner does at the next token, once it has passed over the layout before it. -/
def Scanner.proceed (t : Scanner) : List Char → Option (Scanner × Bool)
  | [] => t.finish.map (·, true)
  | c :: r => (t.fetchAt c r).map (·, false)

theorem At.next {s : Scanner} {done : List Placed} {rest cs : List Char} {depth : Nat}
    {fresh : Bool} (h : At s done rest depth fresh) (hs : rest.dropWhile isLayout = cs)
    (hr : ∀ c r, cs = c :: r → isStart c = true) :
    ∃ t, t.rest = cs ∧ At t done cs depth fresh ∧
      (∀ k others, s.rest = cs → s.keys = some k :: others → Scanner.isStale s.place k = false →
        ∃ others', t.keys = some k :: others') ∧
      ∀ u ended, t.proceed cs = some (u, ended) → ∀ fuel, Scanner.run (fuel + 1) s =
        if ended then u.tokensUpTo u.count else Scanner.run fuel u := by
  obtain ⟨keys, dropped, kept, held⟩ := h.dropStale
  obtain ⟨p, allowed, skipped, keeps, stays⟩ :=
    skipSpace_layout ({ s with keys } : Scanner).inFlow s.rest cs
    (h.rest.trans hs) hr s.keyAllowed s.place
  have there :
      At { s with keys, rest := cs, place := p, keyAllowed := allowed } done cs depth fresh :=
    { kept.moved cs p allowed with keyAllowed := fun f => keeps (h.keyAllowed f) }
  obtain ⟨keys', dropped', kept', held'⟩ := there.dropStale
  have fetched : ({ s with keys } : Scanner).fetch = Scanner.proceed
      { s with keys := keys', rest := cs, place := p, keyAllowed := allowed } cs := by
    unfold Scanner.fetch
    rw [Scanner.toNextToken, skipped]
    simp only [dropped', Option.bind_eq_bind, Option.bind_some, kept'.unroll]
    cases cs <;> rfl
  refine ⟨_, rfl, kept', ?_, fun u ended proceeds fuel => ?_⟩
  · intro k others same hk current
    obtain ⟨others', hk'⟩ := held k others hk current
    exact held' k others' hk' (stays same ▸ current)
  · rw [Scanner.run, dropped]
    simp only [fetched, proceeds]
    cases ended <;> rfl

end PipelineCompiler.Yaml
