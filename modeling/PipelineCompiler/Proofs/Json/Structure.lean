import PipelineCompiler.Json.Outline
import PipelineCompiler.Proofs.Json.Scanning

namespace PipelineCompiler.Json

namespace Outline

mutual

/-- The outline of the text of a value. -/
def ofValue : Value → Outline
  | .null => .null
  | .bool b => .bool b
  | .number n => (ofText n.text).1
  | .text s => .text (some s)
  | .array items => .array (ofItems items) true
  | .object members => .object (ofMembers members) true

def ofItems : List Value → List Outline
  | [] => []
  | v :: rest => ofValue v :: ofItems rest

def ofMembers : List (String × Value) → List (Text × Outline)
  | [] => []
  | (k, v) :: rest => (some k, ofValue v) :: ofMembers rest

end

/-- Tokens that make one value wherever a value may stand. -/
def Builds (tokens : List Token) (o : Outline) : Prop :=
  ∀ e frames rest, e = .value ∨ e = .valueOrClose →
    build e frames (tokens ++ rest) = build.place o frames rest

/-- Tokens that make one member of an object. -/
def BuildsMember (tokens : List Token) (m : Text × Outline) : Prop :=
  ∃ ts, tokens = .text m.1 :: .colon :: ts ∧ Builds ts m.2

theorem build_items {tokens : List (List Token)} {items : List Outline}
    (h : List.Forall₂ Builds tokens items) (hi : items ≠ []) {e : Expect}
    (he : e = .value ∨ e = .valueOrClose) (before : List Outline) (frames : List Frame)
    (rest : List Token) :
    build e (.array before :: frames) ([.comma].intercalate tokens ++ .closeArray :: rest) =
      build.place (.array (before.reverse ++ items) true) frames rest := by
  induction h generalizing e before with
  | nil => exact absurd rfl hi
  | @cons ts o tss items hb hr ih =>
    cases hr with
    | nil =>
      rw [List.intercalate_singleton, hb e _ _ he, build.place, Frame.put, build]
      simp
    | @cons us p uss items hp hr =>
      rw [List.intercalate_cons_cons, List.append_assoc, List.append_assoc, hb e _ _ he,
        build.place, Frame.put, List.singleton_append, build, ih (by simp) (.inl rfl)]
      simp

theorem build_members {tokens : List (List Token)} {members : List (Text × Outline)}
    (h : List.Forall₂ BuildsMember tokens members) (hm : members ≠ []) {e : Expect}
    (he : e = .key ∨ e = .keyOrClose) (before : List (Text × Outline)) (last : Text)
    (frames : List Frame) (rest : List Token) :
    build e (.object before last :: frames) ([.comma].intercalate tokens ++ .closeObject :: rest) =
      build.place (.object (before.reverse ++ members) true) frames rest := by
  induction h generalizing e before last with
  | nil => exact absurd rfl hm
  | @cons ts m tss members hb hr ih =>
    obtain ⟨vs, rfl, hv⟩ := hb
    have key (rest : List Token) :
        build e (.object before last :: frames) (.text m.1 :: .colon :: vs ++ rest) =
          build .separator (.object (m :: before) m.1 :: frames) rest := by
      rcases he with rfl | rfl <;>
        rw [List.cons_append, List.cons_append, build, build, hv _ _ _ (.inl rfl),
          build.place, Frame.put]
    cases hr with
    | nil =>
      rw [List.intercalate_singleton, key, build]
      simp
    | @cons us p uss members hp hr =>
      rw [List.intercalate_cons_cons, List.append_assoc, List.append_assoc, key,
        List.singleton_append, build, ih (by simp) (.inl rfl)]
      simp

/-- A container is opened, and after that its parts are built. -/
theorem builds_array {items : List Outline} {parts : List (List Token)}
    (h : List.Forall₂ Builds parts items) :
    Builds (.openArray :: ([.comma].intercalate parts ++ [.closeArray])) (.array items true) := by
  intro e frames rest he
  have enter (ts : List Token) :
      build e frames (.openArray :: ts) = build .valueOrClose (.array [] :: frames) ts := by
    rcases he with rfl | rfl <;> rw [build]
  rw [List.cons_append, enter, List.append_assoc, List.singleton_append]
  cases h with
  | nil => simp [build]
  | cons hp hr => exact build_items (.cons hp hr) (by simp) (.inr rfl) [] frames rest

theorem builds_object {members : List (Text × Outline)} {parts : List (List Token)}
    (h : List.Forall₂ BuildsMember parts members) :
    Builds (.openObject :: ([.comma].intercalate parts ++ [.closeObject]))
      (.object members true) := by
  intro e frames rest he
  have enter (ts : List Token) :
      build e frames (.openObject :: ts) =
      build .keyOrClose (.object [] (some "") :: frames) ts := by
    rcases he with rfl | rfl <;> rw [build]
  rw [List.cons_append, enter, List.append_assoc, List.singleton_append]
  cases h with
  | nil => simp [build]
  | cons hp hr => exact build_members (.cons hp hr) (by simp) (.inr rfl) [] (some "") frames rest

mutual

theorem builds_tokens : (v : Value) → v.isNumberFree = true → Builds v.tokens (ofValue v)
  | .null, _ => by rintro e frames rest (rfl | rfl) <;> simp [Value.tokens, ofValue, build]
  | .bool b, _ => by rintro e frames rest (rfl | rfl) <;> simp [Value.tokens, ofValue, build]
  | .number _, h => by simp [Value.isNumberFree] at h
  | .text s, _ => by rintro e frames rest (rfl | rfl) <;> simp [Value.tokens, ofValue, build]
  | .array items, h => by
      rw [Value.tokens, ofValue]
      exact builds_array (builds_itemTokens items (by simpa [Value.isNumberFree] using h))
  | .object members, h => by
      rw [Value.tokens, ofValue]
      exact builds_object (builds_memberTokens members (by simpa [Value.isNumberFree] using h))

theorem builds_itemTokens : (items : List Value) → areNumberFree items = true →
    List.Forall₂ Builds (itemTokens items) (ofItems items)
  | [], _ => .nil
  | v :: rest, h => by
      simp only [areNumberFree, Bool.and_eq_true] at h
      exact .cons (builds_tokens v h.1) (builds_itemTokens rest h.2)

theorem builds_memberTokens :
    (members : List (String × Value)) → areMembersNumberFree members = true →
    List.Forall₂ BuildsMember (memberTokens members) (ofMembers members)
  | [], _ => .nil
  | (k, v) :: rest, h => by
      simp only [areMembersNumberFree, Bool.and_eq_true] at h
      exact .cons ⟨v.tokens, rfl, builds_tokens v h.1⟩ (builds_memberTokens rest h.2)

end

/-- The text of a value without numbers is whole, and nothing follows the value. -/
theorem ofText_pretty (v : Value) (depth : Nat) (h : v.isNumberFree = true) :
    ofText (v.pretty depth) = (ofValue v, false) := by
  have scanned := Token.scans_pretty v depth h []
  rw [List.append_nil, Token.scan_nil] at scanned
  rw [ofText, scanned, builds_tokens v h .value [] [] (.inl rfl), build.place]
  rfl

end Outline

end PipelineCompiler.Json
