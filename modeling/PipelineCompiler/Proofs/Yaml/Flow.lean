import Mathlib.Data.List.DropRight
import PipelineCompiler.Json.Layout
import PipelineCompiler.Proofs.Yaml.Fetching

namespace PipelineCompiler.Yaml

namespace At

variable {s : Scanner} {done : List Placed} {rest : List Char} {depth : Nat} {fresh : Bool}

/-- The levels of brackets may be changed while no key is required. -/
theorem withKeys (h : At s done rest depth fresh) {keys : List (Option PossibleKey)} {depth' : Nat}
    (length : keys.length = depth' + 1) (optional : ∀ p, some p ∈ keys → p.required = false) :
    At { s with keys } done rest depth' fresh :=
  { h with depth := length, optional }

theorem openFlow (h : At s done rest depth fresh) (cs : List Char) (t : Token) :
    ∃ u, s.openFlow cs t = some u ∧ At u (done ++ [(false, t)]) cs (depth + 1) true := by
  obtain ⟨keys, noted, hk, -⟩ := h.noteKey
  have length : (none :: keys).length = depth + 1 + 1 := congrArg (· + 1) hk.depth
  have inner := hk.withKeys length fun p hp => hk.optional p (by simpa using hp)
  exact ⟨_, by rw [Scanner.openFlow, noted]; rfl, (inner.moved cs (s.place.move 1) true).push t⟩

theorem closeFlow (h : At s done rest (depth + 1) fresh) (cs : List Char) (t : Token) :
    ∃ u, s.closeFlow cs t = some u ∧ At u (done ++ [(false, t)]) cs depth false := by
  obtain ⟨keys, dropped, hk⟩ := h.dropKey
  have flow : ({ s with keys } : Scanner).inFlow = true := by simp [hk.inFlow]
  have length : (keys.drop 1).length = depth + 1 := by
    have levels : keys.length = depth + 1 + 1 := hk.depth
    simp [levels]
  have outer := hk.withKeys length fun p hp => hk.optional p (List.mem_of_mem_drop hp)
  refine ⟨_, ?_, (outer.moved cs (s.place.move 1) false).push t⟩
  rw [Scanner.closeFlow, dropped]
  simp only [Option.bind_eq_bind, Option.bind_some, flow, if_true]
  rfl

theorem flowEntry (h : At s done rest depth fresh) (cs : List Char) :
    ∃ u, s.fetchFlowEntry cs = some u ∧ At u (done ++ [(false, .flowEntry)]) cs depth true := by
  obtain ⟨keys, dropped, hk⟩ := h.dropKey
  have moved := (hk.moved cs (s.place.move 1) true).push .flowEntry
  exact ⟨_, by rw [Scanner.fetchFlowEntry, dropped]; rfl, moved⟩

/-- A string is taken as it is meant, and stays noted where a key may begin. -/
theorem quoted (h : At s done rest depth fresh) {text : String} (ht : ∀ c ∈ text.toList, Portable c)
    (cs : List Char) :
    ∃ u, s.fetchQuoted (text.toList.flatMap Json.escapeChar ++ '"' :: cs) .doubleQuoted = some u ∧
      At u (done ++ [(false, .scalar text .doubleQuoted)]) cs depth false ∧ u.rest = cs ∧
      u.place = s.place.move ((text.toList.flatMap Json.escapeChar).length + 2) ∧
      (fresh = true → ∃ others, u.keys = some ⟨done.length, s.place, false⟩ :: others) := by
  obtain ⟨keys, noted, hk, key⟩ := h.noteKey
  have read := scanDouble_escaped ht [] unbroken_none (p := s.place.step) (Nat.succ_pos _) cs
  have moved :=
    (hk.moved cs (s.place.step.move ((text.toList.flatMap Json.escapeChar).length + 1)) false).push
    (.scalar text .doubleQuoted)
  refine ⟨_, ?_, moved, rfl, ?_, fun f => ?_⟩
  · simp only [Scanner.fetchQuoted, noted, Option.bind_eq_bind, Option.bind_some, Scanner.allowKey]
    rw [if_neg (by decide), read]
    simp [Scanner.scanned, joined]
  · simp only [Scanner.push, Place.move, Place.step, Place.mk.injEq, true_and]
    omega
  · obtain ⟨others, hk'⟩ := key f
    exact ⟨others, h.count ▸ hk'⟩

/-- A colon behind a noted token opens a key before it. -/
theorem value {t : Token} (h : At s (done ++ [(false, t)]) rest (depth + 1) fresh) {p : Place}
    {others : List (Option PossibleKey)} (hk : s.keys = some ⟨done.length, p, false⟩ :: others)
    (cs : List Char) :
    ∃ u, s.fetchValue cs = some u ∧
    At u (done ++ [(true, t), (false, .value)]) cs (depth + 1) false := by
  have flow : s.inFlow = true := by simp [h.inFlow]
  have count : s.count = done.length + 1 := by simpa using h.count
  have openings : s.openings = (Placed.openings 0 done).reverse := by
    simpa [Placed.openings_append, Placed.openings] using h.openings
  refine ⟨_, by simp only [Scanner.fetchValue, hk, flow]; rfl, ?_⟩
  constructor
  · rfl
  · simpa [Scanner.push, Scanner.move] using h.tokens
  · simp [Scanner.push, Scanner.move, count]
  · simp [Scanner.push, Scanner.move, openings, Placed.openings_append, Placed.openings]
  · intro fresh
    cases fresh
  · exact h.indent
  · exact h.indents
  · simpa [Scanner.push, Scanner.move, hk] using h.depth
  · intro q hq
    apply h.optional q
    rw [hk]
    have other : some q ∈ others := by simpa [Scanner.push, Scanner.move] using hq
    exact List.mem_cons_of_mem _ other

end At

/-- Behind layout comes the end of the text, or, within brackets, a comma or a bracket. -/
def Ends (depth : Nat) (rest : List Char) : Prop :=
  ∀ c r, rest.dropWhile isLayout = c :: r → 0 < depth ∧ (c = ',' ∨ c = ']' ∨ c = '\x7d')

/-- A plain scalar ends there, and takes the layout before with it. -/
theorem scanPlain_ends {depth : Nat} {rest : List Char} (h : Ends depth rest) (acc : List Char)
    (gap : Option Gap) (p : Place) :
    ∃ gap' p', scanPlain ⟨decide (0 < depth), 0⟩ acc gap p rest =
      some (plainResult acc gap' p' (rest.dropWhile isLayout)) := by
  induction rest generalizing gap p with
  | nil => exact ⟨gap, p, by rw [scanPlain]; rfl⟩
  | cons c rest ih =>
    cases hc : isLayout c with
    | true =>
      have after : (c :: rest).dropWhile isLayout = rest.dropWhile isLayout :=
        List.dropWhile_cons_of_pos hc
      have further := ih fun d r hd => h d r (after.trans hd)
      have white : c = ' ' ∨ c = '\n' := by simpa [isLayout] using hc
      rcases white with rfl | rfl
      · obtain ⟨gap', p', scanned⟩ := further (withBlank gap ' ') p.step
        refine ⟨gap', p', ?_⟩
        rw [after, ← scanned, scanPlain]
        · simp [isBlank]
        · intros; simp_all
      · obtain ⟨gap', p', scanned⟩ := further (withBreak gap (breakText '\n')) (p.nextLine 1)
        refine ⟨gap', p', ?_⟩
        rw [after, ← scanned, scanPlain]
        · simp [isBlank, isBreak]
        · intros; simp_all
    | false =>
      have here : (c :: rest).dropWhile isLayout = c :: rest :=
        List.dropWhile_cons_of_neg (by simp [hc])
      obtain ⟨inner, mark⟩ := h c rest here
      refine ⟨gap, p, ?_⟩
      rw [here, scanPlain]
      · rcases mark with rfl | rfl | rfl <;>
          simp [isBlank, isBreak, refusedColon, endsPlain, isFlowMark, inner]
      · rintro _ rfl
        simp at mark

/-- A character of a word or of a number. -/
def isBare (c : Char) : Bool := c.isAlphanum || c == '.' || c == '+' || c == '-'

theorem isBare_of_isAlphanum {c : Char} (h : c.isAlphanum = true) : isBare c = true := by
  simp [isBare, h]

theorem ne_of_isBare {c d : Char} (h : isBare c = true) (hd : isBare d = false) : c ≠ d := by
  rintro rfl
  rw [h] at hd
  cases hd

theorem isBlank_of_isBare {c : Char} (h : isBare c = true) : isBlank c = false := by
  simp [isBlank, ne_of_isBare h (d := ' ') rfl, ne_of_isBare h (d := '\t') rfl]

theorem isBreak_of_isBare {c : Char} (h : isBare c = true) : isBreak c = false := by
  simp [isBreak, ne_of_isBare h (d := '\n') rfl, ne_of_isBare h (d := '\r') rfl,
    ne_of_isBare h (d := '\u0085') rfl, ne_of_isBare h (d := '\u2028') rfl,
    ne_of_isBare h (d := '\u2029') rfl]

theorem isStart_of_isBare {c : Char} (h : isBare c = true) : isStart c = true :=
  (isStart_iff c).mpr ⟨isBlank_of_isBare h, isBreak_of_isBare h, ne_of_isBare h rfl⟩

/-- The characters of a word or of a number go into a plain scalar one by one. -/
theorem scanPlain_bare {cs : List Char} (hc : ∀ c ∈ cs, isBare c = true) (ctx : PlainContext)
    (acc : List Char) (p : Place) (rest : List Char) :
    scanPlain ctx acc none p (cs ++ rest) =
      scanPlain ctx (cs.reverse ++ acc) none (p.move cs.length) rest := by
  induction cs generalizing acc p with
  | nil => rfl
  | cons c cs ih =>
    have bare : isBare c = true := hc c (by simp)
    have mark : isFlowMark c = false := by
      simp [isFlowMark, ne_of_isBare bare (d := ',') rfl, ne_of_isBare bare (d := '[') rfl,
        ne_of_isBare bare (d := ']') rfl, ne_of_isBare bare (d := '\x7b') rfl,
        ne_of_isBare bare (d := '\x7d') rfl]
    have colon : refusedColon (c :: (cs ++ rest)) = false := by
      rw [refusedColon]
      intro d r eq
      exact ne_of_isBare bare (d := ':') rfl (List.cons.inj eq).1
    have goesOn : endsPlain ctx.inFlow (c :: (cs ++ rest)) = false := by
      rw [endsPlain]
      · rw [mark, Bool.and_false]
      · rintro rfl
        cases bare
    rw [List.cons_append, scanPlain]
    · simp only [isBlank_of_isBare bare, isBreak_of_isBare bare, colon, goesOn, joined,
        Option.isSome_none, Bool.false_and, Bool.and_false, Bool.false_eq_true, if_false]
      rw [ih (fun d hd => hc d (by simp [hd]))]
      simp [Place.step, Place.move, Nat.add_assoc, Nat.add_comm 1]
    · rintro _ rfl
      cases bare

/-- Nothing but characters of words and numbers. -/
def IsBare (text : String) : Prop := ∀ c ∈ text.toList, isBare c = true

instance (text : String) : Decidable (IsBare text) :=
  List.decidableBAll (isBare · = true) text.toList

theorem IsBare.append {s t : String} (hs : IsBare s) (ht : IsBare t) : IsBare (s ++ t) := by
  intro c hc
  rw [String.toList_append] at hc
  exact (List.mem_append.mp hc).elim (hs c) (ht c)

/-- A letter or a digit stands first, or behind a minus. -/
inductive StartsBare : List Char → Prop
  | unsigned {c : Char} {cs : List Char} (h : c.isAlphanum = true) : StartsBare (c :: cs)
  | signed {c : Char} {cs : List Char} (h : c.isAlphanum = true) : StartsBare ('-' :: c :: cs)

theorem StartsBare.append {cs : List Char} (h : StartsBare cs) (rest : List Char) :
    StartsBare (cs ++ rest) := by
  cases h with
  | unsigned letter => exact .unsigned letter
  | signed letter => exact .signed letter

theorem StartsBare.exists_cons {cs : List Char} (h : StartsBare cs) : ∃ c rest, cs = c :: rest := by
  cases h with
  | unsigned _ | signed _ => exact ⟨_, _, rfl⟩

/-- A word or a number. -/
structure IsBareText (text : String) : Prop where
  bare : IsBare text
  starts : StartsBare text.toList

/-- A word or a number becomes a plain scalar. -/
theorem At.word {s : Scanner} {done : List Placed} {rest before : List Char} {depth : Nat}
    {fresh : Bool} (h : At s done before depth fresh) {word : String}
    (hw : IsBare word) (he : Ends depth rest)
    (hs : s.rest = word.toList ++ rest) :
    ∃ u, s.fetchPlain = some u ∧
    At u (done ++ [(false, .scalar word .plain)]) rest depth false := by
  obtain ⟨keys, noted, hk, -⟩ := h.noteKey
  obtain ⟨gap, p, ended⟩ :=
    scanPlain_ends he (word.toList.reverse ++ []) none (s.place.move word.toList.length)
  have flow : ({ s with keys } : Scanner).inFlow = decide (0 < depth) := hk.inFlow
  have column : (s.indent + 1).toNat = 0 := by rw [h.indent]; rfl
  have scanned : scanPlain ⟨decide (0 < depth), 0⟩ [] none s.place s.rest =
      some (plainResult (word.toList.reverse ++ []) gap p (rest.dropWhile isLayout)) := by
    rw [hs, scanPlain_bare hw, ended]
  have moved :=
    (hk.moved (rest.dropWhile isLayout) p ((gap.map (·.broken)).getD false)).push
      (.scalar word .plain)
  refine ⟨_, ?_, { moved.weaken with rest := List.dropWhile_idempotent _ _ }⟩
  rw [Scanner.fetchPlain, noted]
  simp only [Option.bind_eq_bind, Option.bind_some, Scanner.allowKey]
  rw [show ({ s with keys, keyAllowed := false } : Scanner).inFlow = decide (0 < depth) from flow,
    column, scanned]
  simp [Scanner.scanned, plainResult]

/-- The scanner comes from one state to the other in so many steps. -/
def Scanner.Reaches (s : Scanner) (n : Nat) (u : Scanner) : Prop :=
  ∀ fuel, Scanner.run (n + fuel) s = Scanner.run fuel u

theorem Scanner.Reaches.trans {s t u : Scanner} {n m : Nat} (h : s.Reaches n t)
    (h' : t.Reaches m u) : s.Reaches (n + m) u := by
  intro fuel
  rw [Nat.add_assoc, h, h']

/-- Where this text and the rest stand before the scanner, it goes over the text in at most one step
a character and puts these tokens behind those that it has. -/
def Emits (depth : Nat) (fresh : Bool) (text : List Char) (new : List Placed) (depth' : Nat)
    (fresh' : Bool) (rest : List Char) : Prop :=
  ∀ s done, At s done (text ++ rest) depth fresh →
    ∃ n u, n ≤ text.length ∧ At u (done ++ new) rest depth' fresh' ∧ s.Reaches n u

namespace Emits

variable {depth depth' depth'' : Nat} {fresh fresh' fresh'' : Bool} {rest : List Char}

theorem append {a b : List Char} {new new' : List Placed}
    (ha : Emits depth fresh a new depth' fresh' (b ++ rest))
    (hb : Emits depth' fresh' b new' depth'' fresh'' rest) :
    Emits depth fresh (a ++ b) (new ++ new') depth'' fresh'' rest := by
  intro s done h
  obtain ⟨n, t, hn, ht, first⟩ := ha s done (by rwa [← List.append_assoc])
  obtain ⟨m, u, hm, hu, second⟩ := hb t _ ht
  refine ⟨n + m, u, ?_, by rwa [← List.append_assoc], first.trans second⟩
  rw [List.length_append]
  omega

theorem weaken {text : List Char} {new : List Placed}
    (h : Emits depth false text new depth' fresh' rest) :
    Emits depth fresh text new depth' fresh' rest :=
  fun s done hs => h s done hs.weaken

theorem layout {text : List Char} (h : ∀ c ∈ text, isLayout c = true) :
    Emits depth fresh text [] depth fresh rest := by
  intro s done hs
  refine ⟨0, s, Nat.zero_le _, ?_, fun fuel => by rw [Nat.zero_add]⟩
  rw [List.append_nil]
  exact { hs with rest := hs.rest.trans (List.dropWhile_append_of_pos h) }

/-- One token, when one fetch takes all of the text. -/
theorem token {c : Char} {cs : List Char} {new : List Placed} (hc : isStart c = true)
    (h : ∀ t done, t.rest = c :: (cs ++ rest) → At t done (c :: (cs ++ rest)) depth fresh →
      ∃ u, t.fetchAt c (cs ++ rest) = some u ∧ At u (done ++ new) rest depth' fresh') :
    Emits depth fresh (c :: cs) new depth' fresh' rest := by
  intro s done hs
  have white : (c :: cs ++ rest).dropWhile isLayout = c :: (cs ++ rest) :=
    List.dropWhile_cons_of_neg (by simp [isLayout_of_isStart hc])
  obtain ⟨t, ht, at_t, -, goes⟩ := hs.next white fun d r eq => (List.cons.inj eq).1 ▸ hc
  obtain ⟨u, fetched, hu⟩ := h t done ht at_t
  refine ⟨1, u, by simp, hu, fun fuel => ?_⟩
  rw [Nat.add_comm, goes u false (by rw [Scanner.proceed, fetched]; rfl)]
  rfl

theorem openSequence :
    Emits depth fresh ['['] [(false, .flowSequenceStart)] (depth + 1) true rest := by
  apply token rfl
  intro t done ht at_t
  have fetched : t.fetchAt '[' rest = t.openFlow rest .flowSequenceStart := by
    simp [Scanner.fetchAt, ht, startsWithMark]
  exact fetched ▸ at_t.openFlow rest _

theorem openMapping :
    Emits depth fresh ['\x7b'] [(false, .flowMappingStart)] (depth + 1) true rest := by
  apply token rfl
  intro t done ht at_t
  have fetched : t.fetchAt '\x7b' rest = t.openFlow rest .flowMappingStart := by
    simp [Scanner.fetchAt, ht, startsWithMark]
  exact fetched ▸ at_t.openFlow rest _

theorem closeSequence :
    Emits (depth + 1) fresh [']'] [(false, .flowSequenceEnd)] depth false rest := by
  apply token rfl
  intro t done ht at_t
  have fetched : t.fetchAt ']' rest = t.closeFlow rest .flowSequenceEnd := by
    simp [Scanner.fetchAt, ht, startsWithMark]
  exact fetched ▸ at_t.closeFlow rest _

theorem closeMapping :
    Emits (depth + 1) fresh ['\x7d'] [(false, .flowMappingEnd)] depth false rest := by
  apply token rfl
  intro t done ht at_t
  have fetched : t.fetchAt '\x7d' rest = t.closeFlow rest .flowMappingEnd := by
    simp [Scanner.fetchAt, ht, startsWithMark]
  exact fetched ▸ at_t.closeFlow rest _

theorem comma : Emits depth fresh [','] [(false, .flowEntry)] depth true rest := by
  apply token rfl
  intro t done ht at_t
  have fetched : t.fetchAt ',' rest = t.fetchFlowEntry rest := by
    simp [Scanner.fetchAt, ht, startsWithMark]
  exact fetched ▸ at_t.flowEntry rest

theorem startsWithMark_of_startsBare {cs : List Char} (h : StartsBare cs) :
    startsWithMark cs = false := by
  cases h with
  | @unsigned c cs letter | @signed c cs letter =>
    have minus : c ≠ '-' := by
      rintro rfl
      cases letter
    have point : c ≠ '.' := by
      rintro rfl
      cases letter
    unfold startsWithMark
    split <;> simp_all

theorem fetchAt_of_startsBare {t : Scanner} {c : Char} {cs : List Char}
    (h : StartsBare (c :: cs)) (ht : t.rest = c :: cs) : t.fetchAt c cs = t.fetchPlain := by
  have mark : startsWithMark t.rest = false := ht ▸ startsWithMark_of_startsBare h
  cases h with
  | unsigned letter =>
    have bare := isBare_of_isAlphanum letter
    have other {e : Char} (he : e.isAlphanum = false) : c ≠ e := by
      rintro rfl
      rw [letter] at he
      cases he
    simp [Scanner.fetchAt, mark, Scanner.startsPlain, isBlank_of_isBare bare,
      isBreak_of_isBare bare, other (e := '%') rfl, other (e := '[') rfl, other (e := '\x7b') rfl,
      other (e := ']') rfl, other (e := '\x7d') rfl, other (e := ',') rfl, other (e := '-') rfl,
      other (e := '?') rfl, other (e := ':') rfl, other (e := '*') rfl, other (e := '&') rfl,
      other (e := '!') rfl, other (e := '|') rfl, other (e := '>') rfl, other (e := '\'') rfl,
      other (e := '"') rfl, other (e := '#') rfl, other (e := '@') rfl, other (e := '\x60') rfl]
  | signed letter =>
    have bare := isBare_of_isAlphanum letter
    simp [Scanner.fetchAt, mark, blankOrEnd, Scanner.startsPlain, isBlank_of_isBare bare,
      isBreak_of_isBare bare]

theorem word {word : String} (hw : IsBareText word) (he : Ends depth rest) :
    Emits depth fresh word.toList [(false, .scalar word .plain)] depth false rest := by
  obtain ⟨c, cs, chars⟩ := hw.starts.exists_cons
  have bare : isBare c = true := hw.bare c (by simp [chars])
  have starts : StartsBare (c :: (cs ++ rest)) := by
    have further := hw.starts.append rest
    rwa [chars] at further
  rw [chars]
  apply token (isStart_of_isBare bare)
  intro t done ht at_t
  rw [fetchAt_of_startsBare starts ht]
  exact at_t.word hw.bare he (by rw [ht, chars]; rfl)

theorem fetchAt_quote {t : Scanner} {cs : List Char} (ht : t.rest = '"' :: cs) :
    t.fetchAt '"' cs = t.fetchQuoted cs .doubleQuoted := by
  simp [Scanner.fetchAt, ht, startsWithMark]

theorem quote {text : String} (h : ∀ c ∈ text.toList, Portable c) :
    Emits depth fresh (Json.quote text).toList [(false, .scalar text .doubleQuoted)] depth
      false rest := by
  have chars :
      (Json.quote text).toList = '"' :: (text.toList.flatMap Json.escapeChar ++ ['"']) := by
    simp [Json.quote]
  rw [chars]
  apply token rfl
  intro t done ht at_t
  obtain ⟨u, fetched, hu, -⟩ := at_t.quoted h rest
  rw [fetchAt_quote ht]
  exact ⟨u, by simpa using fetched, hu⟩

/-- A key that is not too long, up to the space behind its colon. -/
theorem key {text : String} (h : ∀ c ∈ text.toList, Portable c)
    (short : (text.toList.flatMap Json.escapeChar).length ≤ 1022) :
    Emits (depth + 1) true (Json.quote text ++ ": ").toList [(true, .scalar text .doubleQuoted),
      (false, .value)]
      (depth + 1) false rest := by
  intro s done hs
  have chars : (Json.quote text ++ ": ").toList ++ rest =
      '"' :: (text.toList.flatMap Json.escapeChar ++ '"' :: ':' :: ' ' :: rest) := by
        simp [Json.quote]
  rw [chars] at hs
  obtain ⟨t, ht, at_t, -, goes⟩ := hs.next (List.dropWhile_cons_of_neg (by simp [isLayout]))
    fun c r eq => (List.cons.inj eq).1 ▸ rfl
  obtain ⟨u, fetched, at_u, hu, place, noted⟩ := at_t.quoted h (':' :: ' ' :: rest)
  obtain ⟨others, keys⟩ := noted rfl
  obtain ⟨v, hv, at_v, kept, goes'⟩ := at_u.next (List.dropWhile_cons_of_neg (by simp [isLayout]))
    fun c r eq => (List.cons.inj eq).1 ▸ rfl
  have current : Scanner.isStale u.place ⟨done.length, t.place, false⟩ = false := by
    simp only [Scanner.isStale, place, Place.move, Nat.lt_irrefl, decide_false, Bool.false_or,
      decide_eq_false_iff_not]
    omega
  obtain ⟨others', keys'⟩ := kept _ _ hu keys current
  obtain ⟨w, valued, at_w⟩ := at_v.value keys' (' ' :: rest)
  have colon : v.fetchAt ':' (' ' :: rest) = v.fetchValue (' ' :: rest) := by
    simp [Scanner.fetchAt, hv, startsWithMark, blankOrEnd, isBlank]
  refine ⟨2, w, by simp [Json.quote], { at_w with rest := at_w.rest }, fun fuel => ?_⟩
  have first := goes u false (by rw [Scanner.proceed, fetchAt_quote ht, fetched]; rfl) (fuel + 1)
  have second := goes' w false (by rw [Scanner.proceed, colon, valued]; rfl) fuel
  rw [Nat.add_comm]
  exact first.trans second

end Emits

end PipelineCompiler.Yaml
