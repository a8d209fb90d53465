import PipelineCompiler.Proofs.Decimal.Literal
import PipelineCompiler.Yaml.Resolve

namespace PipelineCompiler.Decimal

open Yaml (Resolved)
open Json.Numeral (natOf)

theorem digit?_digitChar {d : Nat} (h : d < 10) : Text.digit? 10 (Nat.digitChar d) = some d := by
  have digit : (Nat.digitChar d).isDigit = true := by simpa [Nat.isDigit_digitChar] using h
  have value : Text.digitValue (Nat.digitChar d) = d := Nat.toNat_digitChar_sub_48_of_lt_ten h
  simp [Text.digit?, Text.hexValue?, digit, value, Option.filter, h]

theorem foldlM_digits {ds : List Nat} (digits : ∀ d ∈ ds, d < 10) (n : Nat) :
    (ds.map Nat.digitChar).foldlM (fun n c => (Text.digit? 10 c).map (10 * n + ·)) n =
      some (ds.foldl (fun n d => 10 * n + d) n) := by
  induction ds generalizing n with
  | nil => rfl
  | cons d ds ih =>
    rw [List.map_cons, List.foldlM_cons, digit?_digitChar (digits d (by simp)), List.foldl_cons]
    exact ih (fun e he => digits e (by simp [he])) (10 * n + d)

theorem natural?_digits {ds : List Nat} (some : ds ≠ []) (digits : ∀ d ∈ ds, d < 10) :
    Text.natural? 10 (ds.map Nat.digitChar) = .some (natOf ds) := by
  rw [Text.natural?, if_neg (by simpa using some), foldlM_digits digits]
  rfl

/-- A point is no digit. -/
theorem natural?_point {cs : List Char} (h : '.' ∈ cs) : Text.natural? 10 cs = none := by
  have point : Text.digit? 10 '.' = none := by decide
  have stuck (n : Nat) : cs.foldlM (fun n c => (Text.digit? 10 c).map (10 * n + ·)) n = none := by
    induction cs generalizing n with
    | nil => cases h
    | cons c cs ih =>
      rw [List.foldlM_cons]
      rcases List.mem_cons.mp h with rfl | h
      · rw [point]
        rfl
      · cases Text.digit? 10 c with
        | none => rfl
        | some d => exact ih h (10 * n + d)
  rw [Text.natural?, stuck]
  split <;> rfl

namespace Literal

variable (v : Literal)

theorem digits_of_mem_front {c : Char} (h : c ∈ v.front.map Nat.digitChar) : c.isDigit = true := by
  obtain ⟨d, hd, rfl⟩ := List.mem_map.mp h
  simpa [Nat.isDigit_digitChar] using lt_ten_of_mem_digitsOf hd

theorem digits_of_mem_fraction {c : Char} (h : c ∈ v.fraction.map Nat.digitChar) :
    c.isDigit = true := by
  obtain ⟨d, hd, rfl⟩ := List.mem_map.mp h
  simpa [Nat.isDigit_digitChar] using v.digits d hd

theorem mem_unsigned {c : Char} (h : c ∈ v.unsigned) : c.isDigit = true ∨ c = '.' := by
  rcases List.mem_append.mp h with front | fraction
  · exact .inl (v.digits_of_mem_front front)
  · split at fraction
    · cases fraction
    · rcases List.mem_cons.mp fraction with rfl | fraction
      · exact .inr rfl
      · exact .inl (v.digits_of_mem_fraction fraction)

theorem exists_unsigned : ∃ c rest, v.unsigned = c :: rest ∧ c.isDigit = true := by
  obtain ⟨d, ds, front⟩ := List.exists_cons_of_ne_nil (digitsOf_ne_nil v.whole.natAbs)
  have digit : d < 10 := lt_ten_of_mem_digitsOf (front ▸ List.mem_cons_self)
  refine ⟨Nat.digitChar d, _, by rw [unsigned, Literal.front, front, List.map_cons,
    List.cons_append], ?_⟩
  simpa [Nat.isDigit_digitChar] using digit

theorem text_ne_empty : v.text ≠ "" := by
  obtain ⟨c, rest, unsigned, -⟩ := v.exists_unsigned
  intro none
  have text := v.toList_text
  rw [none, unsigned] at text
  simp at text

end Literal

end PipelineCompiler.Decimal

namespace PipelineCompiler.Yaml.Resolve

open Decimal (Binary64 Literal)

theorem magnitude?_of_digits {cs : List Char} (h : ∀ c ∈ cs, c.isDigit = true ∨ c = '.') :
    magnitude? cs = if hasLeadingZero cs then none else Text.natural? 10 cs := by
  unfold magnitude?
  split
  · exact absurd (h 'x' (by simp)) (by decide)
  · exact absurd (h 'o' (by simp)) (by decide)
  · exact absurd (h 'b' (by simp)) (by decide)
  · rfl

theorem int?_of_digit {c : Char} {cs : List Char} (h : c.isDigit = true) : int? (c :: cs) =
    (magnitude? (c :: cs)).bind fun n => if Decimal.InWord 128 n then some (n : Int) else none := by
  unfold int?
  split
  · next eq =>
    cases eq
    cases h
  · next eq =>
    cases eq
    cases h
  · rfl

theorem hasLeadingZero_of_point {cs : List Char} (h : '.' ∈ cs) : hasLeadingZero cs = false := by
  have broken {r : List Char} (h : '.' ∈ r) : r.all Char.isDigit = false := by
    rw [List.all_eq_false]
    exact ⟨'.', h, by decide⟩
  unfold hasLeadingZero
  split
  · next r => simp [broken (List.mem_of_ne_of_mem (by decide) h)]
  · next r => simp [broken (List.mem_of_ne_of_mem (by decide) h)]
  · simp [broken h]

theorem hasLeadingZero_of_digit {c : Char} {cs : List Char} (h : c.isDigit = true)
    (leading : c = '0' → cs = []) : hasLeadingZero (c :: cs) = false := by
  unfold hasLeadingZero
  split
  · next eq =>
    cases eq
    cases h
  · next eq =>
    cases eq
    cases h
  · by_cases zero : c = '0'
    · simp [leading zero]
    · simp [zero]

theorem inWord_mono {n : Int} (h : Decimal.InWord 64 n) : Decimal.InWord 128 n := by
  unfold Decimal.InWord at h ⊢
  norm_num at h ⊢
  omega

variable (v : Literal)

theorem hasLeadingZero_front : hasLeadingZero (v.front.map Nat.digitChar) = false := by
  obtain ⟨d, ds, front⟩ := List.exists_cons_of_ne_nil (Decimal.digitsOf_ne_nil v.whole.natAbs)
  have digit : d < 10 := Decimal.lt_ten_of_mem_digitsOf (front ▸ List.mem_cons_self)
  rw [Literal.front, front, List.map_cons]
  refine hasLeadingZero_of_digit (by simpa [Nat.isDigit_digitChar] using digit) fun zero => ?_
  obtain rfl := Nat.digitChar_eq_zero.mp zero
  have none : v.whole.natAbs = 0 := by
    by_contra some
    exact Decimal.head_digitsOf (Nat.pos_of_ne_zero some) (by rw [front]; rfl)
  rw [none] at front
  cases front
  rfl

theorem magnitude?_unsigned :
    magnitude? v.unsigned = if v.fraction = [] then some v.whole.natAbs else none := by
  rw [magnitude?_of_digits fun c hc => v.mem_unsigned hc]
  split_ifs with leading none none
  · rw [Literal.unsigned, if_pos none, List.append_nil, hasLeadingZero_front] at leading
    cases leading
  · rfl
  · have number := Decimal.natural?_digits (Decimal.digitsOf_ne_nil v.whole.natAbs) fun _ =>
      Decimal.lt_ten_of_mem_digitsOf
    rw [Decimal.natOf_digitsOf] at number
    rw [Literal.unsigned, if_pos none, List.append_nil]
    exact number
  · exact Decimal.natural?_point (by simp [Literal.unsigned, none])

theorem int?_text : int? v.text.toList = if v.fraction = [] then some v.whole else none := by
  have fits := inWord_mono v.fits
  obtain ⟨c, rest, unsigned, digit⟩ := v.exists_unsigned
  rw [v.toList_text]
  by_cases below : v.whole < 0
  · have magnitude : -(v.whole.natAbs : Int) = v.whole := by omega
    rw [if_pos below, List.singleton_append, int?, magnitude?_unsigned]
    split
    · rw [Option.bind_some, magnitude, if_pos fits]
    · rfl
  · have magnitude : (v.whole.natAbs : Int) = v.whole := by omega
    rw [if_neg below, List.nil_append, unsigned, int?_of_digit digit, ← unsigned,
      magnitude?_unsigned]
    split
    · rw [Option.bind_some, magnitude, if_pos fits]
    · rfl

theorem scientific?_unsigned (some : v.fraction ≠ []) :
    scientific? v.unsigned = .some (v.unscaled, -(v.fraction.length : Int)) := by
  have front : ∀ c ∈ v.front.map Nat.digitChar, c.isDigit = true := fun _ => v.digits_of_mem_front
  have fraction : ∀ c ∈ v.fraction.map Nat.digitChar, c.isDigit = true :=
    fun _ => v.digits_of_mem_fraction
  have stop : v.unsigned.takeWhile Char.isDigit = v.front.map Nat.digitChar ∧
      v.unsigned.dropWhile Char.isDigit = '.' :: v.fraction.map Nat.digitChar := by
    rw [Literal.unsigned, if_neg some, List.takeWhile_append_of_pos front,
      List.dropWhile_append_of_pos front]
    exact ⟨List.append_nil _, rfl⟩
  have rest : (v.fraction.map Nat.digitChar).takeWhile Char.isDigit = v.fraction.map Nat.digitChar ∧
      (v.fraction.map Nat.digitChar).dropWhile Char.isDigit = [] :=
    ⟨List.takeWhile_eq_self_iff.mpr fraction, List.dropWhile_eq_nil_iff.mpr fraction⟩
  have number : Text.natural? 10 ((v.front ++ v.fraction).map Nat.digitChar) =
      .some v.unscaled := by
    refine Decimal.natural?_digits (by simp [some]) fun d hd => ?_
    rcases List.mem_append.mp hd with hd | hd
    · exact Decimal.lt_ten_of_mem_digitsOf hd
    · exact v.digits d hd
  rw [List.map_append] at number
  rw [scientific?, stop.1, stop.2]
  simp [rest.1, rest.2, number, power?]

/-- A power of ten below the doubles that is not so low as to be passed over. -/
theorem exists_ofDecimal (some : v.fraction ≠ []) (positive : 0 < v.unscaled)
    (short : v.unscaled < 10 ^ 15) (large : 10 ^ v.fraction.length ≤ v.unscaled * 10 ^ 5) :
    ∃ x, Binary64.ofDecimal v.unscaled (-(v.fraction.length : Int)) = .some x ∧
    x.Nearest v.magnitude := by
  have count : 0 < v.fraction.length := List.length_pos_of_ne_nil some
  have few := v.length_le short large
  have quotient : Decimal.ratio (v.unscaled, Nat.pow 10 v.fraction.length) = v.magnitude := by
    rw [Decimal.ratio, Literal.magnitude, Nat.pow_eq, Nat.cast_pow, Nat.cast_ofNat]
  obtain ⟨low, high⟩ := v.magnitude_moderate short large
  rw [← quotient] at low high
  obtain ⟨x, found, nearest, -⟩ :=
    Binary64.ofRatio_of_moderate positive (Nat.pow_pos (by decide)) low high
  refine ⟨x, ?_, quotient ▸ nearest⟩
  have places : (-(v.fraction.length : Int)).natAbs = v.fraction.length := by omega
  rw [Binary64.ofDecimal, if_neg positive.ne', if_pos (by omega), if_neg (by omega), places]
  exact found

/-- Nothing that starts like a literal is one of the names. -/
theorem ne_of_first {s t : String} {c d : Char} {cs ds : List Char} (hs : s.toList = c :: cs)
    (ht : t.toList = d :: ds) (h : c ≠ d) : s ≠ t := by
  rintro rfl
  rw [hs] at ht
  exact h (List.cons.inj ht).1

/-- A number without its sign. -/
def splitSign (cs : List Char) : Bool × List Char :=
  match cs with
  | '-' :: r => (true, r)
  | '+' :: r => (false, r)
  | r => (false, r)

theorem double?_eq (cs : List Char) : double? cs =
    if isInfinity (String.ofList (splitSign cs).2) then some (.infinity (splitSign cs).1)
    else if cs = ".nan".toList ∨ cs = ".NaN".toList ∨ cs = ".NAN".toList then some .nan
    else (scientific? (splitSign cs).2).bind fun (n, e) =>
      (Binary64.ofDecimal n e).map fun x => .double (splitSign cs).1 x := rfl

theorem double?_of_digit {c : Char} (digit : c.isDigit = true) (cs : List Char) (negative : Bool) :
    double? ((if negative then ['-'] else []) ++ c :: cs) =
      (scientific? (c :: cs)).bind fun (n, e) => (Binary64.ofDecimal n e).map fun x =>
        .double negative x := by
  have sign : splitSign ((if negative then ['-'] else []) ++ c :: cs) = (negative, c :: cs) := by
    cases negative with
    | true => rfl
    | false =>
      unfold splitSign
      split
      · next eq => cases eq; cases digit
      · next eq => cases eq; cases digit
      · rfl
  have point : c ≠ '.' := by
    rintro rfl
    cases digit
  have finite : isInfinity (String.ofList (c :: cs)) = false := by
    have other (t : String) {ds : List Char} (ht : t.toList = '.' :: ds) :
        String.ofList (c :: cs) ≠ t :=
      ne_of_first String.toList_ofList ht point
    simp only [isInfinity, Bool.or_eq_false_iff, beq_eq_false_iff_ne]
    exact ⟨⟨other ".inf" rfl, other ".Inf" rfl⟩, other ".INF" rfl⟩
  rw [double?_eq, sign, finite, if_neg (by decide), if_neg (by cases negative <;> simp [point])]

theorem double?_text (some : v.fraction ≠ []) : double? v.text.toList =
    (Binary64.ofDecimal v.unscaled (-(v.fraction.length : Int))).map
      (.double (decide (v.whole < 0))) := by
  obtain ⟨c, rest, unsigned, digit⟩ := v.exists_unsigned
  have split := double?_of_digit digit rest (decide (v.whole < 0))
  rw [← unsigned, scientific?_unsigned v some] at split
  rw [v.toList_text]
  simpa using split

/-- Numbers as a resolved scalar. -/
def ofNumber : Json.Number → Resolved
  | .int n => .int n
  | .double negative x => .double negative x

theorem plain_eq_number? {s : String} {c : Char} {cs : List Char} (text : s.toList = c :: cs)
    (first : c.isDigit = true ∨ c = '-') : plain s = (number? s).getD (.text s) := by
  have other (t : String) {d : Char} {ds : List Char} (ht : t.toList = d :: ds)
    (letter : d.isDigit = false)
      (sign : d ≠ '-') : s ≠ t := by
    refine ne_of_first text ht ?_
    rintro rfl
    rcases first with digit | minus
    · rw [letter] at digit
      cases digit
    · exact sign minus
  have some : s ≠ "" := by
    rintro rfl
    cases text
  have null : isNull s = false := by
    simp [isNull, other "~" rfl rfl (by decide), other "null" rfl rfl (by decide),
      other "Null" rfl rfl (by decide), other "NULL" rfl rfl (by decide)]
  have bool : bool? s = none := by
    unfold bool?
    split
    case h_7 => rfl
    all_goals exact absurd rfl (other _ rfl rfl (by decide))
  rw [plain, if_neg (by simp [some, null]), bool]

/-- A short literal is resolved to a number that is printed trimmed. -/
theorem exists_plain (short : v.IsShort) :
    ∃ n : Json.Number, plain v.text = ofNumber n ∧ n.text = v.trimmed.text ∧
    ∀ i, n = .int i → Decimal.InWord 64 i := by
  obtain ⟨c, rest, unsigned, digit⟩ := v.exists_unsigned
  have resolved : plain v.text = (number? v.text).getD (.text v.text) := by
    have text := v.toList_text
    rw [unsigned] at text
    by_cases below : v.whole < 0
    · rw [if_pos below] at text
      exact plain_eq_number? text (.inr rfl)
    · rw [if_neg below] at text
      exact plain_eq_number? text (.inl digit)
  by_cases none : v.fraction = []
  · have trimmed : v.trimmed = v := v.trimmed_eq_self_iff.mpr (.inl (by simp [none]))
    refine ⟨.int v.whole, ?_, by simp [trimmed, Literal.text, none, Json.Number.text], ?_⟩
    · rw [resolved, number?, int?_text, if_pos none]
      rfl
    · intro i same
      exact Json.Number.int.inj same ▸ v.fits
  · obtain ⟨fits, size⟩ := short.resolve_left none
    have notInt (negative : Bool) (x : Decimal.Binary64) (i : Int)
      (same : Json.Number.double negative x = .int i) :
        Decimal.InWord 64 i := by
      cases same
    have point : '.' ∈ v.text.toList := by
      rw [v.toList_text, Literal.unsigned, if_neg none]
      simp
    have number : number? v.text = double? v.text.toList := by
      rw [number?, int?_text, if_neg none, hasLeadingZero_of_point point]
      rfl
    rw [double?_text v none] at number
    rcases Nat.eq_zero_or_pos v.unscaled with zero | positive
    · rw [zero] at number
      refine ⟨.double (decide (v.whole < 0)) .zero, ?_, v.text_of_zero none zero, notInt _ _⟩
      rw [resolved, number]
      rfl
    · have large := size.resolve_left positive.ne'
      obtain ⟨x, found, nearest⟩ := exists_ofDecimal v none positive fits large
      refine ⟨.double (decide (v.whole < 0)) x, ?_,
        v.text_of_nearest none positive fits large nearest, notInt _ _⟩
      rw [resolved, number, found]
      rfl

theorem not_isNull (short : v.IsShort) : isNull v.text = false := by
  obtain ⟨n, resolved, -⟩ := exists_plain v short
  by_contra null
  rw [plain, if_pos (.inr (by simpa using null))] at resolved
  cases n <;> cases resolved

end PipelineCompiler.Yaml.Resolve
