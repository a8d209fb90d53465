import PipelineCompiler.Proofs.Json.Spelling
import PipelineCompiler.Proofs.Json.Structure

namespace PipelineCompiler.Json

namespace Outline

mutual

/-- Nothing of the text is missing or malformed. -/
def isWhole : Outline → Bool
  | .array items closed => closed && areWhole items
  | .object members closed => closed && areMembersWhole members
  | .keyless _ | .broken => false
  | _ => true

def areWhole : List Outline → Bool
  | [] => true
  | o :: rest => o.isWhole && areWhole rest

def areMembersWhole : List (Text × Outline) → Bool
  | [] => true
  | (_, o) :: rest => o.isWhole && areMembersWhole rest

end

mutual

/-- The tokens of a text with this outline. -/
def tokens : Outline → List Token
  | .null => [.null]
  | .bool b => [.bool b]
  | .numeral n => [.numeral n]
  | .text s => [.text s]
  | .array items _ => .openArray :: ([.comma].intercalate (itemTokens items) ++ [.closeArray])
  | .object members _ =>
      .openObject :: ([.comma].intercalate (memberTokens members) ++ [.closeObject])
  | .keyless _ | .broken => [.fault]

def itemTokens : List Outline → List (List Token)
  | [] => []
  | o :: rest => o.tokens :: itemTokens rest

def memberTokens : List (Text × Outline) → List (List Token)
  | [] => []
  | (k, o) :: rest => (.text k :: .colon :: o.tokens) :: memberTokens rest

end

theorem areWhole_iff (items : List Outline) :
    areWhole items = true ↔ ∀ o ∈ items, o.isWhole = true := by
  induction items with
  | nil => simp [areWhole]
  | cons o rest ih => simp [areWhole, ih]

theorem areMembersWhole_iff (members : List (Text × Outline)) :
    areMembersWhole members = true ↔ ∀ m ∈ members, m.2.isWhole = true := by
  induction members with
  | nil => simp [areMembersWhole]
  | cons m rest ih => simp [areMembersWhole, ih]

theorem itemTokens_eq (items : List Outline) : itemTokens items = items.map tokens := by
  induction items with
  | nil => rfl
  | cons o rest ih => rw [itemTokens, ih, List.map_cons]

/-- The tokens of a member. -/
def ofMember (m : Text × Outline) : List Token := .text m.1 :: .colon :: m.2.tokens

theorem memberTokens_eq (members : List (Text × Outline)) :
    memberTokens members = members.map ofMember := by
  induction members with
  | nil => rfl
  | cons m rest ih => rw [memberTokens, ih, List.map_cons, ofMember]

mutual

theorem builds_whole : (o : Outline) → o.isWhole = true → Builds o.tokens o
  | .null, _ => by rintro e frames rest (rfl | rfl) <;> simp [tokens, build]
  | .bool b, _ => by rintro e frames rest (rfl | rfl) <;> simp [tokens, build]
  | .numeral n, _ => by rintro e frames rest (rfl | rfl) <;> simp [tokens, build]
  | .text s, _ => by rintro e frames rest (rfl | rfl) <;> simp [tokens, build]
  | .array items closed, h => by
      simp only [isWhole, Bool.and_eq_true] at h
      obtain ⟨rfl, whole⟩ := h
      rw [tokens]
      exact builds_array (builds_items items whole)
  | .object members closed, h => by
      simp only [isWhole, Bool.and_eq_true] at h
      obtain ⟨rfl, whole⟩ := h
      rw [tokens]
      exact builds_object (builds_members members whole)
  | .keyless _, h => by simp [isWhole] at h
  | .broken, h => by simp [isWhole] at h

theorem builds_items : (items : List Outline) → areWhole items = true →
    List.Forall₂ Builds (itemTokens items) items
  | [], _ => .nil
  | o :: rest, h => by
      simp only [areWhole, Bool.and_eq_true] at h
      exact .cons (builds_whole o h.1) (builds_items rest h.2)

theorem builds_members : (members : List (Text × Outline)) → areMembersWhole members = true →
    List.Forall₂ BuildsMember (memberTokens members) members
  | [], _ => .nil
  | (k, o) :: rest, h => by
      simp only [areMembersWhole, Bool.and_eq_true] at h
      exact .cons ⟨o.tokens, rfl, builds_whole o h.1⟩ (builds_members rest h.2)

end

/-- Whether a container is left open, or a value is missing. -/
def isOpen : Outline → Bool
  | .array _ closed | .object _ closed => !closed
  | .keyless _ | .broken => true
  | _ => false

theorem isOpen_abandon {v : Outline} (h : v.isOpen = true) (frames : List Frame) :
    (abandon v frames).isOpen = true := by
  induction frames generalizing v with
  | nil => exact h
  | cons f rest ih =>
    rw [abandon]
    apply ih
    cases f <;> rfl

theorem isOpen_close (f : Frame) : (f.close false).isOpen = true := by cases f <;> rfl

theorem isOpen_notKey (t : Token) : (notKey t).isOpen = true := by cases t <;> rfl

/-- A text that stops being well formed leaves its outermost container open. -/
theorem isOpen_stop (e : Expect) (frames : List Frame) : (stop e frames).isOpen = true := by
  unfold stop
  split
  · rfl
  · exact isOpen_abandon (isOpen_close _) _
  · exact isOpen_abandon (isOpen_close _) _
  · exact isOpen_abandon (isOpen_close _) _

namespace Frame

/-- The parts of a container so far, latest first. -/
def parts : Frame → List (List Token)
  | .array items => items.map tokens
  | .object members _ => members.map ofMember

/-- The tokens of a container so far. -/
def opening (f : Frame) : List Token :=
  (match f with
    | .array _ => .openArray
    | .object _ _ => .openObject) :: [.comma].intercalate f.parts.reverse

/-- The comma before a further part. -/
def separator (f : Frame) : List Token := if f.parts.isEmpty then [] else [.comma]

/-- The key of the value that comes next. -/
def label : Frame → List Token
  | .array _ => []
  | .object _ key => [.text key, .colon]

def isWhole : Frame → Bool
  | .array items => areWhole items
  | .object members _ => areMembersWhole members

theorem isWhole_put {f : Frame} (hf : f.isWhole = true) {v : Outline} (hv : v.isWhole = true) :
    (f.put v).isWhole = true := by
  cases f <;> simp_all [Frame.put, isWhole, areWhole, areMembersWhole]

end Frame

theorem intercalate_concat (parts : List (List Token)) (last : List Token) :
    [Token.comma].intercalate (parts ++ [last]) =
      [Token.comma].intercalate parts ++ ((if parts.isEmpty then [] else [.comma]) ++ last) := by
  induction parts with
  | nil => simp
  | cons p rest ih =>
    cases rest with
    | nil =>
      rw [List.cons_append, List.nil_append, List.intercalate_cons_cons]
      simp
    | cons q rest =>
      rw [List.cons_append, List.cons_append, List.intercalate_cons_cons, ← List.cons_append, ih,
        List.intercalate_cons_cons]
      simp

theorem Frame.opening_put (f : Frame) (v : Outline) :
    (f.put v).opening = f.opening ++ (f.separator ++ (f.label ++ v.tokens)) := by
  cases f with
  | array items =>
    have last := intercalate_concat (items.map tokens).reverse v.tokens
    simp only [List.isEmpty_reverse] at last
    simpa [Frame.put, Frame.opening, Frame.parts, Frame.separator, Frame.label] using last
  | object members key =>
    have last := intercalate_concat (members.map ofMember).reverse (ofMember (key, v))
    simp only [List.isEmpty_reverse] at last
    simpa [Frame.put, Frame.opening, Frame.parts, Frame.separator, Frame.label, ofMember] using last

/-- The mark at the end of a container. -/
def Frame.closing : Frame → Token
  | .array _ => .closeArray
  | .object _ _ => .closeObject

theorem Frame.tokens_close (f : Frame) : (f.close true).tokens = f.opening ++ [f.closing] := by
  cases f with
  | array items =>
    simp [Frame.close, tokens, itemTokens_eq, Frame.opening, Frame.parts, Frame.closing]
  | object members key =>
    simp [Frame.close, tokens, memberTokens_eq, Frame.opening, Frame.parts, Frame.closing]

theorem Frame.isWhole_close {f : Frame} (hf : f.isWhole = true) :
    (f.close true).isWhole = true := by
  cases f with
  | array items =>
    have whole := (areWhole_iff items).mp hf
    exact (areWhole_iff items.reverse).mpr fun o ho => whole o (List.mem_reverse.mp ho)
  | object members key =>
    have whole := (areMembersWhole_iff members).mp hf
    exact (areMembersWhole_iff members.reverse).mpr fun m hm => whole m (List.mem_reverse.mp hm)

/-- The tokens behind which a value stands, outermost container first. -/
def before : List Frame → List Token
  | [] => []
  | f :: rest => before rest ++ (f.opening ++ (f.separator ++ f.label))

/-- The tokens that have been read. -/
def consumed : Expect → List Frame → List Token
  | _, [] => []
  | .value, frames | .valueOrClose, frames => before frames
  | .separator, f :: rest => before rest ++ f.opening
  | .key, f :: rest | .keyOrClose, f :: rest => before rest ++ (f.opening ++ f.separator)
  | .colon, f :: rest => before rest ++ (f.opening ++ (f.separator ++ f.label.take 1))

/-- A container is closed only before its first part or behind a part, and only a
key waits for its colon. -/
def IsReady : Expect → List Frame → Prop
  | .valueOrClose, f :: _ | .keyOrClose, f :: _ => f.parts = []
  | .separator, f :: _ => f.parts ≠ []
  | .colon, frames => ∃ members key rest, frames = .object members key :: rest
  | _, _ => True

theorem consumed_value (frames : List Frame) :
    consumed .value frames = before frames := by cases frames <;> rfl

theorem consumed_valueOrClose (frames : List Frame) :
    consumed .valueOrClose frames = before frames := by
  cases frames <;> rfl

theorem consumed_openArray (e : Expect) (he : e = .value ∨ e = .valueOrClose)
    (frames : List Frame) :
    consumed .valueOrClose (.array [] :: frames) = consumed e frames ++ [.openArray] := by
  have outer : consumed e frames = before frames := by
    rcases he with rfl | rfl
    · exact consumed_value frames
    · exact consumed_valueOrClose frames
  rw [outer]
  rfl

theorem consumed_openObject (e : Expect) (he : e = .value ∨ e = .valueOrClose)
    (frames : List Frame) :
    consumed .keyOrClose (.object [] (some "") :: frames) = consumed e frames ++ [.openObject] := by
  have outer : consumed e frames = before frames := by
    rcases he with rfl | rfl
    · exact consumed_value frames
    · exact consumed_valueOrClose frames
  rw [outer]
  rfl

theorem consumed_key (members : List (Text × Outline)) (last key : Text) (frames : List Frame) :
    consumed .colon (.object members key :: frames) =
      consumed .key (.object members last :: frames) ++ [.text key] ∧
      consumed .colon (.object members key :: frames) =
        consumed .keyOrClose (.object members last :: frames) ++ [.text key] := by
  simp [consumed, Frame.opening, Frame.parts, Frame.separator, Frame.label]

/-- Nothing but the mark of a container has been read where it may be closed at once. -/
theorem consumed_first {e : Expect} {f : Frame} {fs : List Frame} (hr : IsReady e (f :: fs))
    (he : (e = .valueOrClose ∧ f.label = []) ∨ e = .keyOrClose) :
    consumed e (f :: fs) = before fs ++ f.opening := by
  have first (h : f.parts = []) : f.separator = [] := by rw [Frame.separator, h]; rfl
  rcases he with ⟨rfl, label⟩ | rfl
  · simp [consumed, before, first hr, label]
  · simp [consumed, first hr]

theorem separator_of_parts {f : Frame} (h : f.parts ≠ []) : f.separator = [.comma] := by
  rw [Frame.separator, if_neg]
  simpa using h

/-- Wherever these tokens are all that is left, they and what has been read before are the tokens of
the outline that is built, unless it stays open. -/
def Accounted (ts : List Token) : Prop :=
  ∀ {e : Expect} {frames : List Frame} {o : Outline}, build e frames ts = (o, false) →
  o.isOpen = false →
    IsReady e frames → (∀ f ∈ frames, f.isWhole = true) → consumed e frames ++ ts = o.tokens ∧
    o.isWhole = true

namespace Accounted

variable {rest : List Token} (left : Accounted rest) {o : Outline} (ho : o.isOpen = false)
include left ho

/-- A value is complete, and takes its place. -/
theorem place {v : Outline} {frames : List Frame} (h : build.place v frames rest = (o, false))
    (hv : v.isWhole = true) (hf : ∀ f ∈ frames, f.isWhole = true) :
    before frames ++ (v.tokens ++ rest) = o.tokens ∧ o.isWhole = true := by
  unfold build.place at h
  split at h
  · obtain ⟨rfl, last⟩ := Prod.mk.inj h
    have empty : rest = [] := by simpa using last
    simp [before, empty, hv]
  · next f fs =>
    have whole : ∀ g ∈ f.put v :: fs, g.isWhole = true := by
      intro g hg
      rcases List.mem_cons.mp hg with rfl | hg
      · exact Frame.isWhole_put (hf f (by simp)) hv
      · exact hf g (by simp [hg])
    have ready : IsReady .separator (f.put v :: fs) := by cases f <;> simp [IsReady,
      Frame.put, Frame.parts]
    have further := left h ho ready whole
    rw [consumed, Frame.opening_put] at further
    simpa [before] using further

/-- A token is a value by itself, wherever one may begin. -/
theorem scalar {e : Expect} {frames : List Frame} {t : Token} {v : Outline}
    (he : e = .value ∨ e = .valueOrClose) (hv : v.tokens = [t]) (whole : v.isWhole = true)
    (hf : ∀ f ∈ frames, f.isWhole = true) (h : build.place v frames rest = (o, false)) :
    consumed e frames ++ t :: rest = o.tokens ∧ o.isWhole = true := by
  have result := left.place ho h whole hf
  rw [hv] at result
  rcases he with rfl | rfl
  · rwa [consumed_value]
  · rwa [consumed_valueOrClose]

/-- A token is read, and no value is complete. -/
theorem step {e e' : Expect} {frames frames' : List Frame} {t : Token}
    (hc : consumed e' frames' = consumed e frames ++ [t]) (h : build e' frames' rest = (o, false))
    (hr : IsReady e' frames') (hf : ∀ f ∈ frames', f.isWhole = true) :
    consumed e frames ++ t :: rest = o.tokens ∧ o.isWhole = true := by
  have result := left h ho hr hf
  rwa [hc, List.append_assoc] at result

/-- A container ends, and its tokens are complete. -/
theorem close {e : Expect} {f : Frame} {fs : List Frame} {t : Token} (hc : t = f.closing)
    (outer : consumed e (f :: fs) = before fs ++ f.opening) (hf : ∀ g ∈ f :: fs, g.isWhole = true)
    (h : build.place (f.close true) fs rest = (o, false)) :
    consumed e (f :: fs) ++ t :: rest = o.tokens ∧ o.isWhole = true := by
  have result := left.place ho h (Frame.isWhole_close (hf f (by simp))) fun g hg =>
    hf g (by simp [hg])
  rw [Frame.tokens_close, ← hc] at result
  rw [outer]
  simpa using result

end Accounted

theorem accounted (ts : List Token) : Accounted ts := by
  have stopped {o : Outline} (ho : o.isOpen = false) (e : Expect) (frames : List Frame) :
      (stop e frames, false) ≠ (o, false) := by
    intro eq
    have found := isOpen_stop e frames
    rw [(Prod.mk.inj eq).1, ho] at found
    cases found
  induction ts with
  | nil =>
    intro e frames o h ho hr hf
    rw [build] at h
    exact absurd h (stopped ho e frames)
  | cons t rest left =>
    intro e frames o h ho hr hf
    unfold build at h
    split at h
    · exact left.step ho (consumed_openArray .value (.inl rfl) frames) h rfl
        (List.forall_mem_cons.mpr ⟨rfl, hf⟩)
    · exact left.step ho (consumed_openArray .valueOrClose (.inr rfl) frames) h rfl
        (List.forall_mem_cons.mpr ⟨rfl, hf⟩)
    · exact left.step ho (consumed_openObject .value (.inl rfl) frames) h rfl
        (List.forall_mem_cons.mpr ⟨rfl, hf⟩)
    · exact left.step ho (consumed_openObject .valueOrClose (.inr rfl) frames) h rfl
        (List.forall_mem_cons.mpr ⟨rfl, hf⟩)
    · exact left.scalar ho (.inl rfl) rfl rfl hf h
    · exact left.scalar ho (.inr rfl) rfl rfl hf h
    · exact left.scalar ho (.inl rfl) rfl rfl hf h
    · exact left.scalar ho (.inr rfl) rfl rfl hf h
    · exact left.scalar ho (.inl rfl) rfl rfl hf h
    · exact left.scalar ho (.inr rfl) rfl rfl hf h
    · exact left.scalar ho (.inl rfl) rfl rfl hf h
    · exact left.scalar ho (.inr rfl) rfl rfl hf h
    · exact left.close ho rfl (consumed_first hr (.inl ⟨rfl, rfl⟩)) hf h
    · exact left.close ho rfl (consumed_first hr (.inr rfl)) hf h
    · next key members last fs =>
      exact left.step ho (consumed_key members last key fs).1 h ⟨_, _, _, rfl⟩
        (List.forall_mem_cons.mpr (List.forall_mem_cons.mp hf))
    · next key members last fs =>
      exact left.step ho (consumed_key members last key fs).2 h ⟨_, _, _, rfl⟩
        (List.forall_mem_cons.mpr (List.forall_mem_cons.mp hf))
    · obtain ⟨members, key, fs, rfl⟩ := hr
      exact left.step ho (by simp [consumed, before, Frame.label]) h trivial hf
    · have found := isOpen_abandon (isOpen_notKey t) ‹_›
      rw [(Prod.mk.inj h).1, ho] at found
      cases found
    · exact left.step ho (by simp [consumed, before, separator_of_parts hr,
        Frame.label]) h trivial hf
    · exact left.step ho (by simp [consumed, separator_of_parts hr]) h trivial hf
    · exact left.close ho rfl rfl hf h
    · exact left.close ho rfl rfl hf h
    · exact absurd h (stopped ho e frames)

/-- Tokens of well formed text. -/
def Proper (ts : List Token) : Prop := Token.Parted ts ∧ Token.fault ∉ ts

theorem proper_singleton {t : Token} (h : t ≠ .fault) : Proper [t] :=
  ⟨List.isChain_singleton t, by simpa using h.symm⟩

theorem Proper.cons {t : Token} {ts : List Token} (h : Proper ts) (ht : t ≠ .fault)
    (hn : t.isNumeral = false) : Proper (t :: ts) := by
  refine ⟨List.IsChain.cons h.1 fun u _ numeral => ?_, by simp [h.2, ht.symm]⟩
  rw [hn] at numeral
  cases numeral

/-- A mark may follow anything. -/
theorem Proper.mark {ts us : List Token} {m : Token} (h : Proper ts) (hm : m.isMark = true)
    (hu : Proper (m :: us)) : Proper (ts ++ m :: us) := by
  refine ⟨List.IsChain.append h.1 hu.1 fun t _ u hu _ => ?_, ?_⟩
  · obtain rfl : m = u := by simpa using hu
    exact hm
  · simp only [List.mem_append, not_or]
    exact ⟨h.2, hu.2⟩

theorem proper_intercalate {parts : List (List Token)} (h : ∀ p ∈ parts, Proper p) :
    Proper ([.comma].intercalate parts) := by
  induction parts with
  | nil => exact ⟨.nil, by simp⟩
  | cons p rest ih =>
    have others := ih fun q hq => h q (by simp [hq])
    cases rest with
    | nil => simpa using h p (by simp)
    | cons q rest =>
      rw [List.intercalate_cons_cons, List.append_assoc]
      exact (h p (by simp)).mark rfl (others.cons (by simp) rfl)

/-- Parts between the marks of a container. -/
theorem proper_container {parts : List (List Token)} (h : ∀ p ∈ parts, Proper p)
    {first last : Token} (hf : first ≠ .fault) (hn : first.isNumeral = false)
    (hm : last.isMark = true) : Proper (first :: ([.comma].intercalate parts ++ [last])) := by
  have proper : last ≠ .fault := by
    rintro rfl
    cases hm
  exact ((proper_intercalate h).mark hm (proper_singleton proper)).cons hf hn

mutual

theorem proper_tokens : (o : Outline) → o.isWhole = true → Proper o.tokens
  | .null, _ => proper_singleton (by simp)
  | .bool _, _ => proper_singleton (by simp)
  | .numeral _, _ => proper_singleton (by simp)
  | .text _, _ => proper_singleton (by simp)
  | .array items closed, h => by
      simp only [isWhole, Bool.and_eq_true] at h
      rw [tokens]
      exact proper_container (proper_itemTokens items h.2) (by simp) rfl rfl
  | .object members closed, h => by
      simp only [isWhole, Bool.and_eq_true] at h
      rw [tokens]
      exact proper_container (proper_memberTokens members h.2) (by simp) rfl rfl
  | .keyless _, h => by simp [isWhole] at h
  | .broken, h => by simp [isWhole] at h

theorem proper_itemTokens :
    (items : List Outline) → areWhole items = true → ∀ p ∈ itemTokens items, Proper p
  | [], _ => by simp [itemTokens]
  | o :: rest, h => by
      simp only [areWhole, Bool.and_eq_true] at h
      rw [itemTokens]
      exact List.forall_mem_cons.mpr ⟨proper_tokens o h.1, proper_itemTokens rest h.2⟩

theorem proper_memberTokens : (members : List (Text × Outline)) → areMembersWhole members = true →
    ∀ p ∈ memberTokens members, Proper p
  | [], _ => by simp [memberTokens]
  | (k, o) :: rest, h => by
      simp only [areMembersWhole, Bool.and_eq_true] at h
      rw [memberTokens]
      have first :=
        ((proper_tokens o h.1).cons (t := .colon) (by simp) rfl).cons (t := .text k) (by simp) rfl
      exact List.forall_mem_cons.mpr ⟨first, proper_memberTokens rest h.2⟩

end

/-- A well formed text with this outline: its tokens in some spelling, with
white space between them. -/
def IsTextOf (text : String) (o : Outline) : Prop :=
  o.isWhole = true ∧ Token.Spells o.tokens text.toList

theorem isOpen_of_isWhole {o : Outline} (h : o.isWhole = true) : o.isOpen = false := by
  cases o <;> simp_all [isWhole, isOpen]

/-- The outline that is found for a text is the one that the text is spelled from, if
it does not stay open. -/
theorem isTextOf_iff {text : String} {o : Outline} :
    IsTextOf text o ↔ ofText text = (o, false) ∧ o.isOpen = false := by
  constructor
  · rintro ⟨whole, spelled⟩
    have scanned := Token.scan_of_spells spelled (proper_tokens o whole).1
    have built := builds_whole o whole .value [] [] (.inl rfl)
    rw [List.append_nil] at built
    exact ⟨by rw [ofText, scanned, built, build.place]; rfl, isOpen_of_isWhole whole⟩
  · rintro ⟨found, closed⟩
    obtain ⟨same, whole⟩ := accounted (Token.scan text.toList) found closed trivial (by simp)
    have all : Token.scan text.toList = o.tokens := same
    refine ⟨whole, ?_⟩
    rw [← all]
    exact Token.spells_scan (all ▸ (proper_tokens o whole).2)

section Scanned

variable {cs : List Char} {o : Outline} (whole : o.isWhole = true)
  (scanned : Token.scan cs = o.tokens)
include whole scanned

theorem isTextOf_ofList : IsTextOf (String.ofList cs) o := by
  refine ⟨whole, ?_⟩
  rw [String.toList_ofList, ← scanned]
  exact Token.spells_scan (scanned ▸ (proper_tokens o whole).2)

theorem ofText_of_scan : ofText (String.ofList cs) = (o, false) :=
  (isTextOf_iff.mp (isTextOf_ofList whole scanned)).1

end Scanned

end Outline

end PipelineCompiler.Json
