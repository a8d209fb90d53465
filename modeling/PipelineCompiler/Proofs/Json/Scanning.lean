import Mathlib.Data.List.Forall2
import Mathlib.Tactic.SplitIfs
import PipelineCompiler.Json.Layout
import PipelineCompiler.Json.Token

namespace PipelineCompiler.Json

namespace Token

theorem scan_eq (cs : List Char) : scan cs =
    match cs.dropWhile isSpace with
    | [] => []
    | c :: rest =>
        match scanOne (c :: rest) with
        | none => [fault]
        | some (t, after) => t :: scan after := by
  rw [scan]
  split
  · next h => rw [h]
  · next h =>
    simp only [h]
    split
    · next h => rw [h]
    · next h => rw [h]

theorem scan_nil : scan [] = [] := by
  rw [scan_eq]
  rfl

theorem scan_space {c : Char} (h : isSpace c = true) (cs : List Char) :
    scan (c :: cs) = scan cs := by
  have drop : (c :: cs).dropWhile isSpace = cs.dropWhile isSpace := by simp [h]
  rw [scan_eq, scan_eq cs, drop]

theorem scan_cons {c : Char} {cs rest : List Char} {t : Token} (hc : isSpace c = false)
    (h : scanOne (c :: cs) = some (t, rest)) : scan (c :: cs) = t :: scan rest := by
  have drop : (c :: cs).dropWhile isSpace = c :: cs := by simp [hc]
  rw [scan_eq]
  simp only [drop, h]

/-- Scanning gives these tokens and goes on behind the text. -/
def Scans (text : String) (tokens : List Token) : Prop :=
  ∀ rest, scan (text.toList ++ rest) = tokens ++ scan rest

theorem Scans.append {s t : String} {ss ts : List Token} (hs : Scans s ss) (ht : Scans t ts) :
    Scans (s ++ t) (ss ++ ts) := by
  intro rest
  rw [String.toList_append, List.append_assoc, hs, ht, List.append_assoc]

theorem scans_spaces (cs : List Char) (h : ∀ c ∈ cs, isSpace c = true) :
    Scans (String.ofList cs) [] := by
  intro rest
  rw [String.toList_ofList, List.nil_append]
  induction cs with
  | nil => rfl
  | cons c cs ih =>
    rw [List.cons_append, scan_space (h c (by simp))]
    exact ih fun d hd => h d (by simp [hd])

theorem scans_lineFeed : Scans "\n" [] := scans_spaces ['\n'] (by simp [isSpace])

theorem scans_indent (depth : Nat) : Scans (indent depth) [] := by
  apply scans_spaces
  intro c hc
  rw [List.eq_of_mem_replicate hc]
  rfl

/-- A token that ends with its last character, whatever follows. -/
theorem scans_token (c : Char) (cs : List Char) (t : Token) (hc : isSpace c = false)
    (h : ∀ rest, scanOne (c :: (cs ++ rest)) = some (t, rest)) :
    Scans (String.ofList (c :: cs)) [t] := by
  intro rest
  rw [String.toList_ofList]
  exact scan_cons hc (h rest)

theorem Scans.intercalate {separator : String} {marks : List Token} (hs : Scans separator marks)
    {parts : List String} {tokens : List (List Token)} (h : List.Forall₂ Scans parts tokens) :
    Scans (separator.intercalate parts) (marks.intercalate tokens) := by
  intro rest
  rw [String.toList_intercalate]
  induction h generalizing rest with
  | nil => rfl
  | @cons p ts parts tokens hp hr ih =>
    cases hr with
    | nil => simpa using hp rest
    | @cons q us parts tokens hq hr =>
      rw [List.map_cons, List.map_cons, List.intercalate_cons_cons, List.intercalate_cons_cons]
      rw [List.append_assoc, List.append_assoc, hp, hs, ← List.map_cons, ih]
      simp only [List.append_assoc]

theorem scanText_short {e c : Char} (he : shortEscape? e = some c) (w : Written)
    (rest : List Char) : scanText w ('\\' :: e :: rest) = scanText (w.put c) rest := by
  have hu : e ≠ 'u' := by
    rintro rfl
    cases he
  rw [scanText]
  · simp only [he]
  · intro _ _ _ _ _ he _
    exact hu he

theorem unit?_digits : ∀ n < 32,
    unit? '0' '0' (Nat.digitChar (n / 16)) (Nat.digitChar (n % 16)) = some n := by decide

theorem putUnit_eq_put {w : Written} (hw : w.lead = none) {c : Char} (hc : c.toNat < 0x20) :
    w.putUnit c.toNat = w.put c := by
  have low : isLead c.toNat = false ∧ isTrail c.toNat = false := by
    simp [isLead, isTrail]
    omega
  simp [Written.putUnit, Written.put, hw, low, Char.ofNat_toNat]

/-- However a character is written, the scanner takes it as that character. -/
theorem scanText_escapeChar {w : Written} (hw : w.lead = none) (c : Char) (rest : List Char) :
    scanText w (escapeChar c ++ rest) = scanText (w.put c) rest := by
  unfold escapeChar
  split_ifs with quote backslash backspace feed line ret tab low
  · subst quote; exact scanText_short rfl w rest
  · subst backslash; exact scanText_short rfl w rest
  · subst backspace; exact scanText_short rfl w rest
  · subst feed; exact scanText_short rfl w rest
  · subst line; exact scanText_short rfl w rest
  · subst ret; exact scanText_short rfl w rest
  · subst tab; exact scanText_short rfl w rest
  · rw [unicodeEscape]
    simp only [List.cons_append, List.nil_append]
    rw [scanText]
    simp only [unit?_digits c.toNat low, putUnit_eq_put hw low]
  · rw [List.singleton_append, scanText]
    · simp only [low, backslash, or_self, if_false]
    · exact quote
    · intros; simp_all
    · intros; simp_all

theorem scanText_escaped (cs : List Char) (w : Written) (hw : w.lead = none) (hp : w.paired = true)
    (rest : List Char) : scanText w (cs.flatMap escapeChar ++ '"' :: rest) =
      some (some (String.ofList (w.rest.reverse ++ cs)), rest) := by
  induction cs generalizing w with
  | nil => simp [scanText, Written.finish, hw, hp]
  | cons c cs ih =>
    rw [List.flatMap_cons, List.append_assoc, scanText_escapeChar hw]
    rw [ih (w.put c) rfl (by simp [Written.put, hw, hp])]
    simp [Written.put]

theorem scans_quote (s : String) : Scans (quote s) [text (some s)] := by
  intro rest
  have chars : (quote s).toList ++ rest = '"' :: (s.toList.flatMap escapeChar ++ '"' :: rest) := by
    simp [quote]
  rw [chars]
  apply scan_cons rfl
  rw [scanOne, scanText_escaped s.toList {} rfl rfl]
  simp

end Token

mutual

/-- The tokens of a text of a value. -/
def Value.tokens : Value → List Token
  | .null => [.null]
  | .bool b => [.bool b]
  | .number n => Token.scan n.text.toList
  | .text s => [.text (some s)]
  | .array items => .openArray :: ([.comma].intercalate (itemTokens items) ++ [.closeArray])
  | .object members =>
      .openObject :: ([.comma].intercalate (memberTokens members) ++ [.closeObject])

def itemTokens : List Value → List (List Token)
  | [] => []
  | v :: rest => v.tokens :: itemTokens rest

def memberTokens : List (String × Value) → List (List Token)
  | [] => []
  | (k, v) :: rest => (.text (some k) :: .colon :: v.tokens) :: memberTokens rest

end

mutual

def Value.isNumberFree : Value → Bool
  | .number _ => false
  | .array items => areNumberFree items
  | .object members => areMembersNumberFree members
  | _ => true

def areNumberFree : List Value → Bool
  | [] => true
  | v :: rest => v.isNumberFree && areNumberFree rest

def areMembersNumberFree : List (String × Value) → Bool
  | [] => true
  | (_, v) :: rest => v.isNumberFree && areMembersNumberFree rest

end

theorem areNumberFree_iff (items : List Value) :
    areNumberFree items = true ↔ ∀ v ∈ items, v.isNumberFree = true := by
  induction items with
  | nil => simp [areNumberFree]
  | cons v rest ih => simp [areNumberFree, ih]

theorem areMembersNumberFree_iff (members : List (String × Value)) :
    areMembersNumberFree members = true ↔ ∀ m ∈ members, m.2.isNumberFree = true := by
  induction members with
  | nil => simp [areMembersNumberFree]
  | cons m rest ih => simp [areMembersNumberFree, ih]

namespace Token

theorem scans_comma : Scans ",\n" [comma] :=
  (scans_token ',' [] comma rfl fun _ => rfl).append scans_lineFeed

theorem scans_colon : Scans ": " [colon] :=
  (scans_token ':' [] colon rfl fun _ => rfl).append (scans_spaces [' '] (by simp [isSpace]))

/-- A container laid out in lines is scanned to its marks around the tokens of its parts. -/
theorem scans_block {openMark closeMark : String} {openToken closeToken : Token}
    (ho : Scans openMark [openToken]) (hc : Scans closeMark [closeToken]) (depth : Nat)
    {parts : List String} {tokens : List (List Token)} (h : List.Forall₂ Scans parts tokens) :
    Scans (block openMark closeMark depth parts)
      (openToken :: ([comma].intercalate tokens ++ [closeToken])) := by
  have indented : List.Forall₂ Scans (parts.map (indent (depth + 1) ++ ·)) tokens := by
    apply List.forall₂_map_left_iff.mpr
    exact h.imp fun p ts hp => (scans_indent _).append hp
  cases h with
  | nil => exact ho.append hc
  | cons hp hr =>
    have inner := scans_comma.intercalate indented
    simpa [block] using
      ((((ho.append scans_lineFeed).append inner).append scans_lineFeed).append
        (scans_indent depth)).append hc

mutual

theorem scans_pretty : (v : Value) → (depth : Nat) → v.isNumberFree = true →
    Scans (v.pretty depth) v.tokens
  | .null, _, _ => scans_token 'n' ['u', 'l', 'l'] null rfl fun _ => rfl
  | .bool true, _, _ => scans_token 't' ['r', 'u', 'e'] (bool true) rfl fun _ => rfl
  | .bool false, _, _ => scans_token 'f' ['a', 'l', 's', 'e'] (bool false) rfl fun _ => rfl
  | .number _, _, h => by simp [Value.isNumberFree] at h
  | .text s, _, _ => by simpa [Value.pretty, Value.tokens] using scans_quote s
  | .array items, depth, h => by
      rw [Value.pretty, Value.tokens]
      apply scans_block (scans_token '[' [] openArray rfl fun _ => rfl)
        (scans_token ']' [] closeArray rfl fun _ => rfl)
      exact scans_prettyItems items (depth + 1) (by simpa [Value.isNumberFree] using h)
  | .object members, depth, h => by
      rw [Value.pretty, Value.tokens]
      apply scans_block (scans_token '{' [] openObject rfl fun _ => rfl)
        (scans_token '}' [] closeObject rfl fun _ => rfl)
      exact scans_prettyMembers members (depth + 1) (by simpa [Value.isNumberFree] using h)

theorem scans_prettyItems : (items : List Value) → (depth : Nat) → areNumberFree items = true →
    List.Forall₂ Scans (prettyItems depth items) (itemTokens items)
  | [], _, _ => .nil
  | v :: rest, depth, h => by
      simp only [areNumberFree, Bool.and_eq_true] at h
      rw [prettyItems, itemTokens]
      exact .cons (scans_pretty v depth h.1) (scans_prettyItems rest depth h.2)

theorem scans_prettyMembers : (members : List (String × Value)) → (depth : Nat) →
    areMembersNumberFree members = true →
    List.Forall₂ Scans (prettyMembers depth members) (memberTokens members)
  | [], _, _ => .nil
  | (k, v) :: rest, depth, h => by
      simp only [areMembersNumberFree, Bool.and_eq_true] at h
      rw [prettyMembers, memberTokens]
      exact .cons (((scans_quote k).append scans_colon).append (scans_pretty v depth h.1))
        (scans_prettyMembers rest depth h.2)

end

end Token

end PipelineCompiler.Json
