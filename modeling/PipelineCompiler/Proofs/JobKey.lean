import Mathlib.Data.List.Forall2
import PipelineCompiler.JobKey

namespace PipelineCompiler.JobKey

open Text

/-- What a key is made of: small letters and digits of ASCII, and the underscore. -/
def isKeyChar (c : Char) : Bool := isPlain c || c == '_'

/-- What a character of a label becomes, wherever it stands. -/
def ofLabelChar (c : Char) : List Char := (Lowercase.ofChar c).flatMap ofChar

def isLetter (c : Char) : Bool := c.toNat < 0x80 && c.isAlpha

/-- The same letter of ASCII, capital for small and small for capital. -/
def otherCase (c : Char) : Char := if c.isUpper then c.toLower else c.toUpper

/-- A character of ASCII that is neither a letter nor a digit. -/
def isSymbol (c : Char) : Bool := c.toNat < 0x80 && !c.isAlphanum

/-- One character is in the place of another: they are the same, or one ASCII letter in both
cases, or both symbols. -/
def Replaces (c d : Char) : Prop :=
  c = d ∨ (isLetter c ∧ otherCase c = d) ∨ (isSymbol c ∧ isSymbol d)

instance (c d : Char) : Decidable (Replaces c d) :=
  inferInstanceAs (Decidable (c = d ∨ (isLetter c ∧ otherCase c = d) ∨ (isSymbol c ∧ isSymbol d)))

theorem flatMap_lowerAfter (before cs : List Char) :
    (Lowercase.lowerAfter before cs).flatMap ofChar = cs.flatMap ofLabelChar := by
  induction cs generalizing before with
  | nil => rfl
  | cons c rest ih =>
    rw [Lowercase.lowerAfter, List.flatMap_append, ih, List.flatMap_cons]
    congr 1
    split
    · next final =>
      have sigma : ['ς'].flatMap ofChar = ofLabelChar 'Σ' := by decide
      rw [sigma, final.1]
    · rfl

theorem toList_normalize (label : String) :
    (normalize label).toList = label.toList.flatMap ofLabelChar := by
  rw [normalize, String.toList_ofList, Lowercase.lower, flatMap_lowerAfter]

theorem normalize_append (a b : String) : normalize (a ++ b) = normalize a ++ normalize b := by
  apply String.toList_inj.mp
  simp only [toList_normalize, String.toList_append, List.flatMap_append]

theorem length_normalize (label : String) :
    (normalize label).length = unitLength (Lowercase.lower label.toList) := by
  rw [normalize, String.length_ofList, length_flatMap_ofChar]

theorem mem_normalize {c : Char} {label : String} (h : c ∈ (normalize label).toList) :
    isPlain c = true ∨ c = '_' := by
  rw [normalize, String.toList_ofList] at h
  obtain ⟨d, -, hd⟩ := List.mem_flatMap.mp h
  unfold ofChar at hd
  split at hd
  · next plain => exact .inl (List.mem_singleton.mp hd ▸ plain)
  · exact .inr (List.eq_of_mem_replicate hd)

theorem isKeyChar_of_mem_normalize {c : Char} {label : String} (h : c ∈ (normalize label).toList) :
    isKeyChar c = true := by
  simpa [isKeyChar] using mem_normalize h

/-- What holds of the characters of ASCII one by one holds of each of them. -/
theorem forall_ascii (P : Char → Prop) (each : ∀ n < 0x80, P (Char.ofNat n)) {c : Char}
    (ascii : c.toNat < 0x80) : P c := by
  have := each c.toNat ascii
  rwa [Char.ofNat_toNat] at this

theorem ascii_of_le {c : Char} (last : Char) (within : c ≤ last) (ascii : last.toNat < 0x80) :
    c.toNat < 0x80 :=
  Nat.lt_of_le_of_lt (UInt32.le_iff_toNat_le.mp within) ascii

theorem ascii_of_isKeyChar {c : Char} (key : isKeyChar c = true) : c.toNat < 0x80 := by
  simp only [isKeyChar, isPlain, Bool.or_eq_true, Bool.and_eq_true, decide_eq_true_eq,
    beq_iff_eq] at key
  rcases key with (⟨-, small⟩ | ⟨-, digit⟩) | rfl
  · exact ascii_of_le 'z' small (by decide)
  · exact ascii_of_le '9' digit (by decide)
  · decide

theorem ofLabelChar_of_isKeyChar {c : Char} (key : isKeyChar c = true) : ofLabelChar c = [c] :=
  forall_ascii (fun c => isKeyChar c = true → ofLabelChar c = [c]) (by decide)
    (ascii_of_isKeyChar key) key

theorem normalize_of_isKeyChar {label : String} (keys : ∀ c ∈ label.toList, isKeyChar c = true) :
    normalize label = label := by
  apply String.toList_inj.mp
  rw [toList_normalize]
  calc label.toList.flatMap ofLabelChar
      = label.toList.flatMap fun c => [c] := List.flatMap_congr fun c hc =>
        ofLabelChar_of_isKeyChar (keys c hc)
    _ = label.toList := List.flatMap_singleton' _

theorem ofLabelChar_otherCase {c : Char} (letter : isLetter c = true) :
    ofLabelChar (otherCase c) = ofLabelChar c := by
  have ascii : c.toNat < 0x80 := of_decide_eq_true (Bool.and_eq_true_iff.mp letter).1
  exact forall_ascii (fun c => ofLabelChar (otherCase c) = ofLabelChar c) (by decide) ascii

theorem ofLabelChar_of_isSymbol {c : Char} (symbol : isSymbol c = true) :
    ofLabelChar c = ['_'] := by
  have ascii : c.toNat < 0x80 := of_decide_eq_true (Bool.and_eq_true_iff.mp symbol).1
  exact forall_ascii (fun c => isSymbol c = true → ofLabelChar c = ['_']) (by decide) ascii symbol

theorem Replaces.ofLabelChar_eq {c d : Char} (h : Replaces c d) :
    ofLabelChar c = ofLabelChar d := by
  rcases h with rfl | ⟨letter, rfl⟩ | ⟨hc, hd⟩
  · rfl
  · rw [ofLabelChar_otherCase letter]
  · rw [ofLabelChar_of_isSymbol hc, ofLabelChar_of_isSymbol hd]

theorem normalize_of_replaces {a b : String} (h : List.Forall₂ Replaces a.toList b.toList) :
    normalize a = normalize b := by
  have same {cs ds : List Char} (h : List.Forall₂ Replaces cs ds) :
      cs.flatMap ofLabelChar = ds.flatMap ofLabelChar := by
    induction h with
    | nil => rfl
    | cons first _ ih => rw [List.flatMap_cons, List.flatMap_cons, first.ofLabelChar_eq, ih]
  apply String.toList_inj.mp
  rw [toList_normalize, toList_normalize, same h]

/-- Keys are made part by part, of small letters, digits and underscores. The texts of those are the
keys, and each is its own. A key has a character for each UTF-16 unit of the label in lowercase, and
neither the case of ASCII letters nor the choice of ASCII symbols makes a difference. -/
theorem normalize_charwise :
    (∀ a b, normalize (a ++ b) = normalize a ++ normalize b) ∧
    (∀ label, ∀ c ∈ (normalize label).toList, isKeyChar c = true) ∧
    (∀ label, normalize label = label ↔ ∀ c ∈ label.toList, isKeyChar c = true) ∧
    (∀ label, normalize (normalize label) = normalize label) ∧
    (∀ key, (∃ label, normalize label = key) ↔ ∀ c ∈ key.toList, isKeyChar c = true) ∧
    (∀ label, (normalize label).length = unitLength (Lowercase.lower label.toList)) ∧
    (∀ a b : String, List.Forall₂ Replaces a.toList b.toList → normalize a = normalize b) := by
  have safe (label : String) : ∀ c ∈ (normalize label).toList, isKeyChar c = true :=
    fun _ hc => isKeyChar_of_mem_normalize hc
  refine ⟨normalize_append, safe, fun label => ⟨fun same => ?_, normalize_of_isKeyChar⟩,
    fun label => ?_,
    fun key => ⟨?_, fun keys => ⟨key, normalize_of_isKeyChar keys⟩⟩, length_normalize, fun _ _ =>
      normalize_of_replaces⟩
  · rw [← same]
    exact safe label
  · exact normalize_of_isKeyChar (safe label)
  · rintro ⟨label, rfl⟩
    exact safe label

/-- Letters change their case, and symbols are exchanged. -/
theorem normalize_charwise_respelled :
    List.Forall₂ Replaces "Node.js Tests".toList "nODE-JS_tESTS".toList ∧
    normalize "Node.js Tests" = normalize "nODE-JS_tESTS" := by
  have replaced : List.Forall₂ Replaces "Node.js Tests".toList "nODE-JS_tESTS".toList := by
    decide +kernel
  obtain ⟨-, -, -, -, -, -, respelled⟩ := normalize_charwise
  exact ⟨replaced, respelled _ _ replaced⟩

end PipelineCompiler.JobKey
