import Mathlib.Data.List.Forall2
import PipelineCompiler.Json.Layout
import PipelineCompiler.Proofs.Yaml.Numbers

namespace PipelineCompiler.Yaml

open Json (Value block indent prettyItems prettyMembers)

/-- Every character of the text is portable. -/
def IsPortable (text : String) : Prop := ∀ c ∈ text.toList, Portable c

instance (text : String) : Decidable (IsPortable text) := List.decidableBAll Portable text.toList

/-- A key lies within the length that YAML allows for it. -/
def IsShort (key : String) : Prop := (key.toList.flatMap Json.escapeChar).length ≤ 1022

instance (key : String) : Decidable (IsShort key) := Nat.decLe _ _

mutual

/-- The value holds only portable texts, and its keys are short. -/
def Fits : Value → Prop
  | .null | .bool _ | .number _ => True
  | .text s => IsPortable s
  | .array items => AllFit items
  | .object members => MembersFit members

def AllFit : List Value → Prop
  | [] => True
  | v :: rest => Fits v ∧ AllFit rest

def MembersFit : List (String × Value) → Prop
  | [] => True
  | (k, v) :: rest => (IsPortable k ∧ IsShort k ∧ Fits v) ∧ MembersFit rest

end

theorem allFit_iff (items : List Value) : AllFit items ↔ ∀ v ∈ items, Fits v := by
  induction items with
  | nil => simp [AllFit]
  | cons v rest ih => simp [AllFit, ih]

theorem membersFit_iff (members : List (String × Value)) :
    MembersFit members ↔ ∀ m ∈ members, IsPortable m.1 ∧ IsShort m.1 ∧ Fits m.2 := by
  induction members with
  | nil => simp [MembersFit]
  | cons m rest ih => simp [MembersFit, ih]

mutual

/-- The tokens of the text of a value, each with whether a key opens before it. -/
def marks : Value → List Placed
  | .null => [(false, .scalar "null" .plain)]
  | .bool b => [(false, .scalar (if b then "true" else "false") .plain)]
  | .number n => [(false, .scalar n.text .plain)]
  | .text s => [(false, .scalar s .doubleQuoted)]
  | .array items =>
      (false, .flowSequenceStart) ::
        ([(false, .flowEntry)].intercalate (itemMarks items) ++ [(false, .flowSequenceEnd)])
  | .object members =>
      (false, .flowMappingStart) ::
        ([(false, .flowEntry)].intercalate (memberMarks members) ++ [(false, .flowMappingEnd)])

def itemMarks : List Value → List (List Placed)
  | [] => []
  | v :: rest => marks v :: itemMarks rest

def memberMarks : List (String × Value) → List (List Placed)
  | [] => []
  | (k, v) :: rest =>
      ((true, .scalar k .doubleQuoted) :: (false, .value) :: marks v) :: memberMarks rest

end

/-- A part of a container is taken wherever a part may begin. -/
def EmitsPart (depth : Nat) (text : String) (new : List Placed) : Prop :=
  ∀ rest, Ends depth rest → Emits depth true text.toList new depth false rest

theorem isLayout_indent (k : Nat) : ∀ c ∈ (indent k).toList, isLayout c = true := by
  intro c hc
  have space : c = ' ' := List.eq_of_mem_replicate (by simpa [indent] using hc)
  rw [space]
  rfl

theorem ends_mark {depth : Nat} {c : Char} (hc : c = ',' ∨ c = ']' ∨ c = '\x7d') (white : List Char)
    (hw : ∀ d ∈ white, isLayout d = true) (rest : List Char) :
    Ends (depth + 1) (white ++ c :: rest) := by
  intro d r h
  have mark : isLayout c = false := by rcases hc with rfl | rfl | rfl <;> rfl
  rw [List.dropWhile_append_of_pos hw, List.dropWhile_cons_of_neg (by simp [mark])] at h
  obtain ⟨rfl, -⟩ := List.cons.inj h
  exact ⟨Nat.succ_pos _, hc⟩

/-- Parts on lines of their own, with commas between them. -/
theorem emits_lines {depth : Nat} (k : Nat) {parts : List String} {new : List (List Placed)}
    (h : List.Forall₂ (EmitsPart (depth + 1)) parts new) (hp : parts ≠ []) {rest : List Char}
    (he : Ends (depth + 1) rest) :
    Emits (depth + 1) true (",\n".intercalate (parts.map (indent k ++ ·))).toList
      ([(false, .flowEntry)].intercalate new) (depth + 1) false rest := by
  rw [String.toList_intercalate]
  induction h with
  | nil => exact absurd rfl hp
  | @cons p ts parts new hd hr ih =>
    have line {rest : List Char} (he : Ends (depth + 1) rest) :
        Emits (depth + 1) true (indent k ++ p).toList ts (depth + 1) false rest := by
      rw [String.toList_append]
      exact (Emits.layout (isLayout_indent k)).append (hd rest he)
    cases hr with
    | nil => simpa using line he
    | @cons q us parts new hq hr =>
      have comma : Ends (depth + 1) (',' :: ('\n' :: (List.intercalate [',', '\n']
          (List.map String.toList (List.map (indent k ++ ·) (q :: parts))) ++ rest))) :=
        ends_mark (.inl rfl) [] (by simp) _
      have feed : ∀ c ∈ ['\n'], isLayout c = true := by simp [isLayout]
      have further :=
        (@Emits.comma (depth + 1) false _).append ((Emits.layout feed).append (ih (by simp)))
      rw [List.map_cons, List.map_cons, List.map_cons, List.map_cons, List.intercalate_cons_cons,
        List.intercalate_cons_cons, List.append_assoc, List.append_assoc]
      exact (line comma).append further

/-- A container between its marks. -/
theorem emits_block {depth : Nat} {openMark closeMark : String} {mark : Char} (k : Nat)
    {first last : Token} (hm : closeMark.toList = [mark]) (hmark : mark = ']' ∨ mark = '\x7d')
    (ho : ∀ rest, Emits depth false openMark.toList [(false, first)] (depth + 1) true rest)
    (hc : ∀ fresh rest, Emits (depth + 1) fresh closeMark.toList [(false, last)] depth false rest)
    {parts : List String} {new : List (List Placed)}
    (h : List.Forall₂ (EmitsPart (depth + 1)) parts new) (rest : List Char) :
    Emits depth false (block openMark closeMark k parts).toList
      ((false, first) :: ([(false, .flowEntry)].intercalate new ++ [(false, last)])) depth
        false rest := by
  cases h with
  | nil =>
    rw [block, String.toList_append]
    exact (ho _).append (hc true rest)
  | @cons p ts parts new hp hr =>
    have feed : ∀ c ∈ "\n".toList, isLayout c = true := by simp [isLayout]
    have margin : ∀ c ∈ "\n".toList ++ (indent k).toList, isLayout c = true := by
      intro c hc
      rcases List.mem_append.mp hc with hc | hc
      · exact feed c hc
      · exact isLayout_indent k c hc
    have closing := (Emits.layout margin).append (hc false rest)
    have closes :
        Ends (depth + 1) ("\n".toList ++ (indent k).toList ++ closeMark.toList ++ rest) := by
      rw [hm, List.append_assoc _ [mark] rest]
      exact ends_mark (.inr hmark) _ margin rest
    have lines := emits_lines (k + 1) (.cons hp hr) (by simp) closes
    have whole := (ho _).append ((Emits.layout feed).append (lines.append closing))
    simpa [block] using whole

theorem isBareText_null : IsBareText "null" := ⟨by decide, .unsigned rfl⟩

theorem isBareText_bool : (b : Bool) → IsBareText (if b then "true" else "false")
  | true => ⟨by decide, .unsigned rfl⟩
  | false => ⟨by decide, .unsigned rfl⟩

mutual

theorem emits_pretty :
    (v : Value) → (k depth : Nat) → Fits v → (rest : List Char) → Ends depth rest →
    Emits depth false (v.pretty k).toList (marks v) depth false rest
  | .null, _, _, _, _, he => Emits.word isBareText_null he
  | .bool true, _, _, _, _, he => Emits.word (isBareText_bool true) he
  | .bool false, _, _, _, _, he => Emits.word (isBareText_bool false) he
  | .number n, _, _, _, _, he => Emits.word (isBareText_number n) he
  | .text s, _, _, h, rest, _ => by
      rw [Value.pretty, marks]
      rw [Fits] at h
      exact Emits.quote h
  | .array items, k, depth, h, rest, _ => by
      rw [Value.pretty, marks]
      have inner := emits_prettyItems items (k + 1) (depth + 1) (by simpa [Fits] using h)
      exact emits_block k rfl (.inl rfl) (fun _ => Emits.openSequence) (fun _ _ =>
        Emits.closeSequence) inner rest
  | .object members, k, depth, h, rest, _ => by
      rw [Value.pretty, marks]
      have inner := emits_prettyMembers members (k + 1) depth (by simpa [Fits] using h)
      exact emits_block k rfl (.inr rfl) (fun _ => Emits.openMapping) (fun _ _ =>
        Emits.closeMapping) inner rest

theorem emits_prettyItems : (items : List Value) → (k depth : Nat) → AllFit items →
    List.Forall₂ (EmitsPart depth) (prettyItems k items) (itemMarks items)
  | [], _, _, _ => .nil
  | v :: rest, k, depth, h => by
      rw [prettyItems, itemMarks]
      rw [AllFit] at h
      exact .cons (fun after he => (emits_pretty v k depth h.1 after he).weaken)
        (emits_prettyItems rest k depth h.2)

theorem emits_prettyMembers :
    (members : List (String × Value)) → (k depth : Nat) → MembersFit members →
    List.Forall₂ (EmitsPart (depth + 1)) (prettyMembers k members) (memberMarks members)
  | [], _, _, _ => .nil
  | (key, v) :: rest, k, depth, h => by
      rw [prettyMembers, memberMarks]
      rw [MembersFit] at h
      obtain ⟨⟨portable, short, fits⟩, others⟩ := h
      refine .cons (fun after he => ?_) (emits_prettyMembers rest k depth others)
      rw [String.toList_append]
      exact (Emits.key portable short).append (emits_pretty v k (depth + 1) fits after he)

end

/-- Every character of the text may stand in a YAML text. -/
def IsAllowedText (text : String) : Prop := ∀ c ∈ text.toList, isAllowed c = true

theorem IsAllowedText.append {s t : String} (hs : IsAllowedText s) (ht : IsAllowedText t) :
    IsAllowedText (s ++ t) := by
  intro c hc
  rw [String.toList_append] at hc
  rcases List.mem_append.mp hc with hc | hc
  · exact hs c hc
  · exact ht c hc

theorem isAllowedText_indent (k : Nat) : IsAllowedText (indent k) := by
  intro c hc
  have space : c = ' ' := List.eq_of_mem_replicate (by simpa [indent] using hc)
  rw [space]
  rfl

theorem isAllowedText_quote {s : String} (h : IsPortable s) : IsAllowedText (Json.quote s) := by
  intro c hc
  simp only [Json.quote, String.toList_append, List.mem_append, String.toList_ofList,
    List.mem_flatMap] at hc
  rcases hc with (mark | ⟨d, hd, hc⟩) | mark
  · obtain rfl : c = '"' := by simpa using mark
    rfl
  · exact isAllowed_escapeChar (h d hd) c hc
  · obtain rfl : c = '"' := by simpa using mark
    rfl

theorem isAllowedText_intercalate {separator : String} (hs : IsAllowedText separator)
    {parts : List String} (h : ∀ p ∈ parts, IsAllowedText p) :
    IsAllowedText (separator.intercalate parts) := by
  intro c hc
  rw [String.toList_intercalate] at hc
  induction parts with
  | nil => cases hc
  | cons p parts ih =>
    cases parts with
    | nil => exact h p (by simp) c (by simpa using hc)
    | cons q parts =>
      rw [List.map_cons, List.map_cons, List.intercalate_cons_cons, List.append_assoc] at hc
      rcases List.mem_append.mp hc with hc | hc
      · exact h p (by simp) c hc
      · rcases List.mem_append.mp hc with hc | hc
        · exact hs c hc
        · exact ih (fun r hr => h r (List.mem_cons_of_mem _ hr)) hc

theorem isAllowedText_block {openMark closeMark : String} (ho : IsAllowedText openMark)
    (hc : IsAllowedText closeMark) (k : Nat) {parts : List String}
    (h : ∀ p ∈ parts, IsAllowedText p) : IsAllowedText (block openMark closeMark k parts) := by
  have feed : IsAllowedText "\n" := by simp [IsAllowedText, isAllowed]
  have comma : IsAllowedText ",\n" := by simp [IsAllowedText, isAllowed]
  have lines : ∀ p ∈ parts.map (indent (k + 1) ++ ·), IsAllowedText p := by
    intro p hp
    obtain ⟨q, hq, rfl⟩ := List.mem_map.mp hp
    exact (isAllowedText_indent _).append (h q hq)
  cases parts with
  | nil => exact ho.append hc
  | cons p parts =>
    rw [block]
    · exact ((((ho.append feed).append (isAllowedText_intercalate comma lines)).append feed).append
        (isAllowedText_indent k)).append hc
    · simp

theorem isAllowed_of_isBare {c : Char} (h : isBare c = true) : isAllowed c = true := by
  have kinds : c.isAlphanum = true ∨ c = '.' ∨ c = '+' ∨ c = '-' := by
    simpa [isBare, or_assoc] using h
  have between (first last : Char) (low : 0x20 ≤ first.toNat) (high : last.toNat ≤ 0x7e)
      (hc : first ≤ c ∧ c ≤ last) : isAllowed c = true := by
    have lower : first.toNat ≤ c.toNat := UInt32.le_iff_toNat_le.mp hc.1
    have upper : c.toNat ≤ last.toNat := UInt32.le_iff_toNat_le.mp hc.2
    simp [isAllowed, Nat.le_trans low lower, Nat.le_trans upper high]
  have both {p q : Prop} [Decidable p] [Decidable q] (h : (decide p && decide q) = true) : p ∧ q :=
    (Bool.and_eq_true_iff.mp h).imp of_decide_eq_true of_decide_eq_true
  rcases kinds with alphanum | rfl | rfl | rfl
  · rcases Bool.or_eq_true_iff.mp alphanum with letter | digit
    · rcases Bool.or_eq_true_iff.mp letter with upper | lower
      · exact between 'A' 'Z' (by decide) (by decide) (of_decide_eq_true upper)
      · exact between 'a' 'z' (by decide) (by decide) (both lower)
    · exact between '0' '9' (by decide) (by decide) (both digit)
  · rfl
  · rfl
  · rfl

mutual

theorem isAllowedText_pretty : (v : Value) → (k : Nat) → Fits v → IsAllowedText (v.pretty k)
  | .null, _, _ => by simp [Value.pretty, IsAllowedText, isAllowed]
  | .bool true, _, _ => by simp [Value.pretty, IsAllowedText, isAllowed]
  | .bool false, _, _ => by simp [Value.pretty, IsAllowedText, isAllowed]
  | .number n, _, _ => fun c hc => isAllowed_of_isBare ((isBareText_number n).bare c hc)
  | .text s, _, h => by
      rw [Fits] at h
      exact isAllowedText_quote h
  | .array items, k, h => by
      rw [Value.pretty]
      have inner := isAllowedText_prettyItems items (k + 1) (by simpa [Fits] using h)
      exact isAllowedText_block (by simp [IsAllowedText, isAllowed]) (by simp [IsAllowedText,
        isAllowed]) k inner
  | .object members, k, h => by
      rw [Value.pretty]
      have inner := isAllowedText_prettyMembers members (k + 1) (by simpa [Fits] using h)
      exact isAllowedText_block (by simp [IsAllowedText, isAllowed]) (by simp [IsAllowedText,
        isAllowed]) k inner

theorem isAllowedText_prettyItems : (items : List Value) → (k : Nat) → AllFit items →
    ∀ p ∈ prettyItems k items, IsAllowedText p
  | [], _, _ => by simp [prettyItems]
  | v :: rest, k, h => by
      rw [AllFit] at h
      rw [prettyItems]
      exact List.forall_mem_cons.mpr
        ⟨isAllowedText_pretty v k h.1, isAllowedText_prettyItems rest k h.2⟩

theorem isAllowedText_prettyMembers :
    (members : List (String × Value)) → (k : Nat) → MembersFit members →
    ∀ p ∈ prettyMembers k members, IsAllowedText p
  | [], _, _ => by simp [prettyMembers]
  | (key, v) :: rest, k, h => by
      rw [MembersFit] at h
      obtain ⟨⟨portable, -, fits⟩, others⟩ := h
      have colon : IsAllowedText ": " := by simp [IsAllowedText, isAllowed]
      rw [prettyMembers]
      exact List.forall_mem_cons.mpr
        ⟨((isAllowedText_quote portable).append colon).append (isAllowedText_pretty v k fits),
          isAllowedText_prettyMembers rest k others⟩

end

theorem At.tokensUpTo {s : Scanner} {done : List Placed} {rest : List Char} {depth : Nat}
    {fresh : Bool} (h : At s done rest depth fresh) :
    s.tokensUpTo s.count = Placed.spelled done := by
  have sorted : s.sortedOpenings = Placed.openings 0 done := by
    rw [Scanner.sortedOpenings, h.openings, List.reverse_reverse]
    exact List.mergeSort_of_pairwise (Placed.pairwise_openings 0 done)
  have all : s.tokens.reverse.take s.count = done.map (·.2) := by
    rw [h.tokens, h.count, List.reverse_reverse]
    exact List.take_of_length_le (by simp)
  rw [Scanner.tokensUpTo, sorted, all, Placed.splice_openings]

/-- The text of a value that fits is scanned to the tokens of the value. -/
theorem scan_pretty {v : Value} (h : Fits v) :
    scan (v.pretty 0) = Placed.spelled (marks v) ++ [.streamEnd] := by
  have allowed := isAllowedText_pretty v 0 h
  have unmarked : ¬ (v.pretty 0).toList.head? = some '\ufeff' := by
    intro first
    have mark := allowed _ (List.mem_of_mem_head? first)
    cases mark
  have ends : Ends 0 [] := by
    intro c r eq
    cases eq
  obtain ⟨n, u, hn, at_u, reaches⟩ :=
    emits_pretty v 0 0 h [] ends { rest := (v.pretty 0).toList } []
    ((List.append_nil _).symm ▸ (At.start _).weaken)
  obtain ⟨t, -, at_t, -, goes⟩ := at_u.next rfl fun c r eq => nomatch eq
  obtain ⟨keys, dropped, kept⟩ := at_t.dropKey
  have finished : t.proceed [] = some (({ t with keys } : Scanner).push .streamEnd, true) := by
    rw [Scanner.proceed, Scanner.finish, at_t.unroll, dropped]
    rfl
  have enough :
      (v.pretty 0).toList.length + 2 = n + ((v.pretty 0).toList.length - n + 1 + 1) := by omega
  rw [scan, if_neg unmarked, if_pos (List.all_eq_true.mpr allowed), enough, reaches,
    goes _ true finished]
  simpa [Placed.spelled] using (kept.push .streamEnd).tokensUpTo

end PipelineCompiler.Yaml
