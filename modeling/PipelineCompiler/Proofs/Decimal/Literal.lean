import Mathlib.Data.List.TakeWhile
import Mathlib.Data.Nat.Factorization.Basic
import PipelineCompiler.Decimal.Word
import PipelineCompiler.Proofs.Decimal.Shortest

namespace PipelineCompiler.Decimal

open Json.Numeral (natOf)

theorem positionalText_fraction {front back : List Nat} (some : front ≠ []) (rest : back ≠ []) :
    positionalText ⟨front ++ back, front.length - 1⟩ =
      digitText front ++ "." ++ digitText back := by
  have count := List.length_pos_of_ne_nil some
  have whole : ((front.length : Int) - 1).natAbs + 1 = front.length := by omega
  rw [positionalText, if_neg (by dsimp only; omega)]
  simp [whole, rest]

theorem positionalText_whole {ds : List Nat} (some : ds ≠ []) (k : Nat) :
    positionalText ⟨ds, k + ds.length - 1⟩ =
      digitText (ds ++ List.replicate k 0) ++ "." ++ digitText [0] := by
  have count := List.length_pos_of_ne_nil some
  have whole : ((k : Int) + ds.length - 1).natAbs + 1 = ds.length + k := by omega
  rw [positionalText, if_neg (by dsimp only; omega)]
  dsimp only
  rw [whole, List.take_of_length_le (by omega), List.drop_eq_nil_of_le (by omega),
    Nat.add_sub_cancel_left]
  rfl

theorem positionalText_small (ds : List Nat) (k : Nat) :
    positionalText ⟨ds, -(k : Int) - 1⟩ =
      digitText [0] ++ "." ++ digitText (List.replicate k 0 ++ ds) := by
  have places : (-(k : Int) - 1).natAbs - 1 = k := by omega
  rw [positionalText, if_pos (by dsimp only; omega), places]
  rfl

/-- A whole number of at most 64 bits, with the digits behind the point if there is one. -/
@[ext]
structure Literal where
  whole : Int
  fraction : List Nat
  fits : InWord 64 whole
  digits : ∀ d ∈ fraction, d < 10

namespace Literal

def text (v : Literal) : String :=
  toString v.whole ++ if v.fraction = [] then "" else "." ++ digitText v.fraction

/-- The digits of the whole part. -/
def front (v : Literal) : List Nat := digitsOf v.whole.natAbs

/-- All digits as one number. -/
def unscaled (v : Literal) : Nat := natOf (v.front ++ v.fraction)

def magnitude (v : Literal) : ℚ := v.unscaled / 10 ^ v.fraction.length

/-- The fraction without the zeros at its end; one digit stays. -/
def trimmedFraction (v : Literal) : List Nat :=
  if v.fraction = [] then []
  else if v.fraction.rdropWhile (· == 0) = [] then [0] else v.fraction.rdropWhile (· == 0)

def trimmed (v : Literal) : Literal where
  whole := v.whole
  fraction := v.trimmedFraction
  fits := v.fits
  digits := by
    intro d hd
    unfold trimmedFraction at hd
    split_ifs at hd with none zeros
    · cases hd
    · rw [List.mem_singleton.mp hd]
      decide
    · exact v.digits d ((List.rdropWhile_prefix _ _).subset hd)

/-- An integer, or a number of at most fifteen digits that is zero or at least `10 ^ -5`. Such a
literal is printed with its own digits; a smaller one is printed with a power of ten, and a longer
one may get other digits. -/
def IsShort (v : Literal) : Prop :=
  v.fraction = [] ∨
    v.unscaled < 10 ^ 15 ∧ (v.unscaled = 0 ∨ 10 ^ v.fraction.length ≤ v.unscaled * 10 ^ 5)

/-- The zeros at the end of a fraction. -/
theorem exists_zeros (l : List Nat) :
    ∃ k, l = l.rdropWhile (· == 0) ++ List.replicate k 0 ∧
      (l.rdropWhile (· == 0) = [] ∨ ∃ init d, l.rdropWhile (· == 0) = init ++ [d] ∧ d ≠ 0) := by
  refine ⟨(l.rtakeWhile (· == 0)).length, ?_, ?_⟩
  · have zeros : l.rtakeWhile (· == 0) = List.replicate (l.rtakeWhile (· == 0)).length 0 :=
      List.eq_replicate_of_mem fun d hd => by simpa using List.mem_rtakeWhile_imp hd
    rw [← zeros, List.rdropWhile_append_rtakeWhile]
  · by_cases none : l.rdropWhile (· == 0) = []
    · exact .inl none
    · have last := List.rdropWhile_last_not _ l none
      exact .inr ⟨_, _, (List.dropLast_append_getLast none).symm, by simpa using last⟩

/-- The zeros at the start of digits that are not all zero. -/
theorem exists_leading {l : List Nat} {d : Nat} (hd : d ∈ l) (some : d ≠ 0) :
    ∃ k ds, l = List.replicate k 0 ++ ds ∧ ds ≠ [] ∧ ds.head? ≠ .some 0 := by
  have rest : l.dropWhile (· == 0) ≠ [] := by
    intro none
    exact some (by simpa using List.dropWhile_eq_nil_iff.mp none d hd)
  have zeros : l.takeWhile (· == 0) = List.replicate (l.takeWhile (· == 0)).length 0 :=
    List.eq_replicate_of_mem fun d hd => by simpa using List.mem_takeWhile_imp hd
  refine ⟨(l.takeWhile (· == 0)).length, l.dropWhile (· == 0), ?_, rest, ?_⟩
  · rw [← zeros, List.takeWhile_append_dropWhile]
  · intro first
    have := List.head?_dropWhile_not (· == 0) l
    rw [first] at this
    simp at this

/-- A number whose fraction is trimmed, as a decimal number without a zero at
its end, and its text. -/
theorem exists_decimal {w : Nat} {t : List Nat} (digits : ∀ d ∈ t, d < 10)
    (trimmed : t = [0] ∨ ∃ init d, t = init ++ [d] ∧ d ≠ 0)
    (positive : 0 < natOf (digitsOf w ++ t)) :
    ∃ (n : Nat) (e : Int), n % 10 ≠ 0 ∧ n ≤ natOf (digitsOf w ++ t) ∧
      (natOf (digitsOf w ++ t) : ℚ) / 10 ^ t.length = n * 10 ^ e ∧
      positionalText ⟨digitsOf n, e + (digitsOf n).length - 1⟩ =
        digitText (digitsOf w) ++ "." ++ digitText t := by
  rcases trimmed with rfl | ⟨init, d, last, nonzero⟩
  · rw [natOf_concat, natOf_digitsOf] at positive ⊢
    obtain ⟨k, n, odd, rfl⟩ :=
      Nat.exists_eq_pow_mul_and_not_dvd (show w ≠ 0 by omega) 10 (by decide)
    have hn : 0 < n := Nat.pos_of_ne_zero fun zero => odd (zero ▸ Nat.dvd_zero 10)
    have above : n ≤ 10 ^ k * n := Nat.le_mul_of_pos_left n (Nat.pow_pos (by decide))
    refine ⟨n, k, fun zero => odd (Nat.dvd_of_mod_eq_zero zero), by omega, ?_, ?_⟩
    · rw [zpow_natCast]
      push_cast
      simp
      ring
    · rw [positionalText_whole (digitsOf_ne_nil n), Nat.mul_comm, digitsOf_mul_pow hn]
  · have odd : natOf (digitsOf w ++ t) % 10 ≠ 0 := by
      have low : d < 10 := digits d (by simp [last])
      rw [last, ← List.append_assoc, natOf_concat]
      omega
    refine ⟨natOf (digitsOf w ++ t), -(t.length : Int), odd, le_rfl, ?_, ?_⟩
    · rw [zpow_neg, zpow_natCast, div_eq_mul_inv]
    · by_cases zero : w = 0
      · -- The digits start behind the point, after some zeros.
        obtain ⟨k, ds, rfl, some, first⟩ :=
          exists_leading (l := t) (d := d) (by simp [last]) nonzero
        have number : natOf (digitsOf w ++ (List.replicate k 0 ++ ds)) = natOf ds := by
          rw [zero, digitsOf_of_lt (by decide), natOf_append, natOf_append, natOf_replicate_zero]
          simp [natOf]
        have own := digitsOf_natOf (fun d hd => digits d (by simp [hd])) first some
        have place :
            -((List.replicate k 0 ++ ds).length : Int) + ds.length - 1 = -(k : Int) - 1 := by
          rw [List.length_append, List.length_replicate]
          push_cast
          ring
        rw [number, own, place, positionalText_small, zero, digitsOf_of_lt (by decide)]
      · have some : digitsOf w ≠ [] := digitsOf_ne_nil w
        have first : (digitsOf w ++ t).head? ≠ .some 0 := by
          rw [List.head?_append_of_ne_nil _ some]
          exact head_digitsOf (Nat.pos_of_ne_zero zero)
        have own : digitsOf (natOf (digitsOf w ++ t)) = digitsOf w ++ t := by
          refine digitsOf_natOf (fun c hc => ?_) first (by simp [some])
          rcases List.mem_append.mp hc with hc | hc
          · exact lt_ten_of_mem_digitsOf hc
          · exact digits c hc
        have place :
            -(t.length : Int) + (digitsOf w ++ t).length - 1 = (digitsOf w).length - 1 := by
          rw [List.length_append]
          push_cast
          ring
        rw [own, place, positionalText_fraction some (by simp [last])]

variable (v : Literal)

theorem trimmedFraction_cases (some : v.fraction ≠ []) :
    v.trimmedFraction = [0] ∨ ∃ init d, v.trimmedFraction = init ++ [d] ∧ d ≠ 0 := by
  obtain ⟨k, -, trimmed⟩ := exists_zeros v.fraction
  unfold trimmedFraction
  rw [if_neg some]
  split
  · exact .inl rfl
  · next nonzero => exact .inr (trimmed.resolve_left nonzero)

theorem trimmedFraction_ne_nil (some : v.fraction ≠ []) : v.trimmedFraction ≠ [] := by
  rcases v.trimmedFraction_cases some with zero | ⟨init, d, last, -⟩
  · simp [zero]
  · simp [last]

theorem exists_trimmed : ∃ k, v.fraction = v.trimmedFraction ++ List.replicate k 0 := by
  obtain ⟨k, split, -⟩ := exists_zeros v.fraction
  unfold trimmedFraction
  split_ifs with none zeros
  · exact ⟨0, by simp [none]⟩
  · rw [zeros, List.nil_append] at split
    obtain ⟨j, rfl⟩ : ∃ j, k = j + 1 := by
      refine ⟨k - 1, ?_⟩
      have some : k ≠ 0 := by
        rintro rfl
        exact none split
      omega
    exact ⟨j, split⟩
  · exact ⟨k, split⟩

theorem exists_unscaled : ∃ k, v.unscaled = v.trimmed.unscaled * 10 ^ k ∧
    v.fraction.length = v.trimmed.fraction.length + k := by
  obtain ⟨k, split⟩ := v.exists_trimmed
  refine ⟨k, ?_, ?_⟩
  · have front : v.trimmed.front = v.front := rfl
    rw [unscaled, unscaled, split, ← List.append_assoc, natOf_append, natOf_replicate_zero,
      List.length_replicate, Nat.add_zero, front]
    rfl
  · rw [split, List.length_append, List.length_replicate]
    rfl

theorem unscaled_trimmed_le : v.trimmed.unscaled ≤ v.unscaled := by
  obtain ⟨k, number, -⟩ := v.exists_unscaled
  rw [number]
  exact Nat.le_mul_of_pos_right _ (Nat.pow_pos (by decide))

/-- The zeros at the end add nothing to a number. -/
theorem magnitude_trimmed : v.trimmed.magnitude = v.magnitude := by
  obtain ⟨k, number, length⟩ := v.exists_unscaled
  rw [magnitude, magnitude, number, length, pow_add, Nat.cast_mul, Nat.cast_pow, Nat.cast_ofNat]
  exact (mul_div_mul_right _ _ (by positivity)).symm

theorem toString_whole :
    toString v.whole = (if v.whole < 0 then "-" else "") ++ digitText v.front := by
  rw [front, digitText_digitsOf]
  cases v.whole with
  | ofNat n =>
    rw [if_neg (by simp), String.empty_append]
    rfl
  | negSucc n =>
    rw [if_pos (Int.negSucc_lt_zero n)]
    rfl

/-- The text of a literal behind its sign. -/
def unsigned : List Char :=
  v.front.map Nat.digitChar ++ if v.fraction = [] then [] else '.' :: v.fraction.map Nat.digitChar

theorem toList_text : v.text.toList = (if v.whole < 0 then ['-'] else []) ++ v.unsigned := by
  have sign : (if v.whole < 0 then "-" else "").toList = if v.whole < 0 then ['-'] else [] := by
    split <;> rfl
  have fraction : (if v.fraction = [] then "" else "." ++ digitText v.fraction).toList =
      if v.fraction = [] then [] else '.' :: v.fraction.map Nat.digitChar := by
    split <;> simp [digitText]
  rw [text, toString_whole, String.toList_append, String.toList_append, sign, fraction, digitText,
    String.toList_ofList, List.append_assoc, unsigned]

/-- A literal that is printed as it was typed is trimmed. -/
theorem text_trimmed_eq_iff : v.trimmed.text = v.text ↔ v.trimmed = v := by
  refine ⟨fun same => Literal.ext rfl ?_, congrArg Literal.text⟩
  have length (w : Literal) :
      w.text.toList.length = (if w.whole < 0 then ['-'] else []).length + w.front.length +
      if w.fraction = [] then 0 else w.fraction.length + 1 := by
    rw [toList_text, unsigned]
    split_ifs <;> simp <;> omega
  have count := (length v.trimmed).symm.trans ((congrArg (·.toList.length) same).trans (length v))
  have front : v.trimmed.whole = v.whole ∧ v.trimmed.front = v.front := ⟨rfl, rfl⟩
  rw [front.1, front.2] at count
  change v.trimmedFraction = v.fraction
  by_cases none : v.fraction = []
  · rw [trimmedFraction, if_pos none, none]
  · have kept : v.trimmed.fraction ≠ [] := v.trimmedFraction_ne_nil none
    rw [if_neg none, if_neg kept] at count
    obtain ⟨k, fraction⟩ := v.exists_trimmed
    have zeros : v.fraction.length = v.trimmed.fraction.length + k := by
      have length := congrArg List.length fraction
      rwa [List.length_append, List.length_replicate] at length
    obtain rfl : k = 0 := by omega
    simpa using fraction.symm

/-- Where the first digit of a decimal number stands, between two powers of ten. -/
theorem exponent_bounds {n : Nat} {e low high : Int} (hn : 0 < n)
    (above : (10 : ℚ) ^ low ≤ n * 10 ^ e) (below : (n * 10 ^ e : ℚ) < 10 ^ high) :
    low ≤ e + (digitsOf n).length - 1 ∧ e + (digitsOf n).length - 1 < high := by
  have ten : (1 : ℚ) < 10 := by norm_num
  have unit : (0 : ℚ) < 10 ^ e := by positivity
  have count := List.length_pos_of_ne_nil (digitsOf_ne_nil n)
  have first : (10 : ℚ) ^ (e + (digitsOf n).length - 1) ≤ n * 10 ^ e := by
    have size : (10 : ℚ) ^ ((digitsOf n).length - 1) ≤ n := by exact_mod_cast pow_length_le hn
    calc (10 : ℚ) ^ (e + (digitsOf n).length - 1) = 10 ^ ((digitsOf n).length - 1) * 10 ^ e := by
          rw [← zpow_natCast, ← zpow_add₀ (by norm_num)]
          congr 1
          omega
      _ ≤ n * 10 ^ e := by gcongr
  have next : (n * 10 ^ e : ℚ) < 10 ^ (e + (digitsOf n).length) := by
    have size : (n : ℚ) < 10 ^ (digitsOf n).length := by exact_mod_cast lt_pow_length n
    calc (n * 10 ^ e : ℚ) < 10 ^ (digitsOf n).length * 10 ^ e := by gcongr
      _ = 10 ^ (e + (digitsOf n).length) := by rw [zpow_add₀ (by norm_num), zpow_natCast, mul_comm]
  have lower := (zpow_lt_zpow_iff_right₀ ten).mp (above.trans_lt next)
  have upper := (zpow_lt_zpow_iff_right₀ ten).mp (first.trans_lt below)
  omega

theorem magnitude_bounds (short : v.unscaled < 10 ^ 15)
    (large : 10 ^ v.fraction.length ≤ v.unscaled * 10 ^ 5) :
    (10 : ℚ) ^ (-5 : Int) ≤ v.magnitude ∧ v.magnitude < 10 ^ (15 : Int) := by
  have places : (1 : ℚ) ≤ 10 ^ v.fraction.length := one_le_pow₀ (by norm_num)
  have short' : (v.unscaled : ℚ) < 10 ^ 15 := by exact_mod_cast short
  have large' : (10 : ℚ) ^ v.fraction.length ≤ v.unscaled * 10 ^ 5 := by exact_mod_cast large
  unfold magnitude
  constructor
  · rw [le_div_iff₀ (by positivity), zpow_neg, inv_mul_le_iff₀ (by positivity), mul_comm]
    exact_mod_cast large'
  · rw [div_lt_iff₀ (by positivity)]
    calc (v.unscaled : ℚ) < 10 ^ 15 := short'
      _ ≤ 10 ^ (15 : Int) * 10 ^ v.fraction.length := by
        rw [show (10 : ℚ) ^ (15 : Int) = 10 ^ 15 by norm_num]
        exact le_mul_of_one_le_right (by positivity) places

theorem magnitude_moderate (short : v.unscaled < 10 ^ 15)
    (large : 10 ^ v.fraction.length ≤ v.unscaled * 10 ^ 5) :
    (10 : ℚ) ^ (-23 : Int) ≤ v.magnitude ∧ v.magnitude < 10 ^ (23 : Int) := by
  obtain ⟨low, high⟩ := v.magnitude_bounds short large
  have ten : (1 : ℚ) ≤ 10 := by norm_num
  exact ⟨(zpow_le_zpow_right₀ ten (by decide)).trans low,
    high.trans_le (zpow_le_zpow_right₀ ten (by decide))⟩

theorem length_le (short : v.unscaled < 10 ^ 15)
    (large : 10 ^ v.fraction.length ≤ v.unscaled * 10 ^ 5) : v.fraction.length ≤ 22 := by
  have below : 10 ^ v.fraction.length < 10 ^ 20 := by omega
  have := (Nat.pow_lt_pow_iff_right (by decide)).mp below
  omega

/-- A literal with a fraction that has been read as the nearest double is printed trimmed. -/
theorem text_of_nearest {x : Binary64} (some : v.fraction ≠ []) (positive : 0 < v.unscaled)
    (short : v.unscaled < 10 ^ 15) (large : 10 ^ v.fraction.length ≤ v.unscaled * 10 ^ 5)
    (nearest : x.Nearest v.magnitude) :
    Json.layout.text (decide (v.whole < 0)) x = v.trimmed.text := by
  have kept : v.trimmed.fraction ≠ [] := v.trimmedFraction_ne_nil some
  have positive' : 0 < v.trimmed.unscaled := by
    obtain ⟨k, number, -⟩ := v.exists_unscaled
    exact Nat.pos_of_ne_zero fun zero => positive.ne' (by rw [number, zero, Nat.zero_mul])
  obtain ⟨n, e, odd, less, number, text⟩ :=
    exists_decimal v.trimmed.digits (v.trimmedFraction_cases some) positive'
  have magnitude : v.magnitude = n * 10 ^ e := v.magnitude_trimmed.symm.trans number
  have short' : n < 10 ^ 15 := (less.trans v.unscaled_trimmed_le).trans_lt short
  have digits := Binary64.shortest_eq (magnitude ▸ nearest) odd short'
  obtain ⟨above, below⟩ := v.magnitude_bounds short large
  rw [magnitude] at above below
  have hn : 0 < n := Nat.pos_of_ne_zero fun zero => odd (by rw [zero])
  obtain ⟨low, high⟩ := exponent_bounds hn above below
  have positional : Json.layout.positional (e + (digitsOf n).length - 1) = true := by
    simp only [Json.layout, Bool.and_eq_true, decide_eq_true_eq]
    omega
  rw [Layout.text, digits]
  dsimp only
  have whole := v.trimmed.toString_whole
  rw [if_pos positional, text, Literal.text, whole, if_neg kept]
  simp only [decide_eq_true_eq, String.append_assoc]
  rfl

theorem whole_of_unscaled_eq_zero (zero : v.unscaled = 0) : v.whole = 0 := by
  have number : v.unscaled = v.whole.natAbs * 10 ^ v.fraction.length + natOf v.fraction := by
    rw [unscaled, natOf_append, front, natOf_digitsOf]
  have power : 0 < 10 ^ v.fraction.length := Nat.pow_pos (by decide)
  have product : v.whole.natAbs * 10 ^ v.fraction.length = 0 := by omega
  exact Int.natAbs_eq_zero.mp ((Nat.mul_eq_zero.mp product).resolve_right power.ne')

theorem text_of_zero (some : v.fraction ≠ []) (zero : v.unscaled = 0) :
    Json.layout.text (decide (v.whole < 0)) .zero = v.trimmed.text := by
  have whole := v.whole_of_unscaled_eq_zero zero
  have fraction : v.trimmed.fraction = [0] := by
    refine (v.trimmedFraction_cases some).resolve_right ?_
    rintro ⟨init, d, last, nonzero⟩
    obtain ⟨k, number, -⟩ := v.exists_unscaled
    have power : 0 < 10 ^ k := Nat.pow_pos (by decide)
    have trimmed : v.trimmed.unscaled = 0 := by
      refine (Nat.mul_eq_zero.mp ?_).resolve_right power.ne'
      omega
    have digits : v.trimmed.fraction = init ++ [d] := last
    rw [unscaled, digits, ← List.append_assoc, natOf_concat] at trimmed
    omega
  have whole' : v.trimmed.whole = 0 := whole
  rw [Literal.text, fraction, whole', whole]
  rfl

/-- A literal is trimmed unless its fraction has a zero at its end that is not its only digit. -/
theorem trimmed_eq_self_iff :
    v.trimmed = v ↔ v.fraction.length ≤ 1 ∨ v.fraction.getLast? ≠ some 0 := by
  have fractions : v.trimmed = v ↔ v.trimmedFraction = v.fraction :=
    ⟨congrArg Literal.fraction,
      fun same => Literal.ext (show v.trimmed.whole = v.whole from rfl) same⟩
  rw [fractions]
  constructor
  · intro same
    by_cases none : v.fraction = []
    · exact .inl (by simp [none])
    · rw [← same]
      rcases v.trimmedFraction_cases none with zero | ⟨init, d, last, nonzero⟩
      · exact .inl (by simp [zero])
      · exact .inr (by simpa [last] using nonzero)
  · unfold trimmedFraction
    rintro (short | last)
    · cases digits : v.fraction with
      | nil => rfl
      | cons d rest =>
        obtain rfl : rest = [] := by
          rw [digits, List.length_cons] at short
          exact List.eq_nil_of_length_eq_zero (by omega)
        rw [if_neg (by simp), List.rdropWhile_singleton]
        by_cases zero : d = 0
        · simp [zero]
        · simp [zero]
    · have self : v.fraction.rdropWhile (· == 0) = v.fraction := by
        refine List.rdropWhile_eq_self_iff.mpr fun some zero => last ?_
        rw [List.getLast?_eq_some_getLast some]
        exact congrArg _ (by simpa using zero)
      rw [self]
      split_ifs with none
      · exact none.symm
      · rfl

end Literal

end PipelineCompiler.Decimal
