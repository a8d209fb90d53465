import PipelineCompiler.Proofs.Decimal.Literal
import PipelineCompiler.Proofs.Json.Spelling

namespace PipelineCompiler.Json.Numeral

open Decimal (Binary64 ratio)

theorem le_foldl (n : Nat) (ds : List Nat) : n ≤ ds.foldl (fun n d => 10 * n + d) n := by
  induction ds generalizing n with
  | nil => exact le_rfl
  | cons d ds ih =>
    have := ih (10 * n + d)
    rw [List.foldl_cons]
    omega

/-- Digits that make a number of 64 bits are all taken. -/
theorem fill_of_fits {n : Nat} {ds : List Nat}
    (fits : ds.foldl (fun n d => 10 * n + d) n < 2 ^ 64) :
    fill n ds = (ds.foldl (fun n d => 10 * n + d) n, []) := by
  induction ds generalizing n with
  | nil => rfl
  | cons d ds ih =>
    rw [List.foldl_cons] at fits ⊢
    have word : Decimal.InWord 64 (10 * n + d : Nat) := by
      have := le_foldl (10 * n + d) ds
      unfold Decimal.InWord
      norm_num
      omega
    rw [fill, if_pos word, ih fits]

/-- Numbers of at most 53 binary digits are read exactly. -/
theorem exists_ofNat {n c k : Nat} (hn : 0 < n) (short : c < 2 ^ 53) (number : n = c * 2 ^ k)
    (small : n < 10 ^ 23) : ∃ x, Binary64.ofNat n = some x ∧ x.value = n := by
  have whole : ratio (n, 1) = n := by simp [ratio]
  have one : (1 : ℚ) ≤ n := by exact_mod_cast hn
  have low : (10 : ℚ) ^ (-23 : Int) ≤ ratio (n, 1) := by
    rw [whole]
    exact (zpow_le_one_of_nonpos₀ (by norm_num) (by decide)).trans one
  have high : ratio (n, 1) < 10 ^ (23 : Int) := by
    rw [whole]
    exact_mod_cast small
  obtain ⟨x, found, -, exact⟩ := Binary64.ofRatio_of_moderate hn Nat.one_pos low high
  refine ⟨x, found, ?_⟩
  rw [← whole]
  refine exact c k short ?_
  rw [whole, number, zpow_natCast]
  push_cast
  rfl

theorem value_powerOfTen {k : Nat} (hk : k ≤ 22) : (powerOfTen k).value = 10 ^ k := by
  have five : 5 ^ k < 2 ^ 53 := (Nat.pow_le_pow_right (by decide) hk).trans_lt (by decide)
  have small : 10 ^ k < 10 ^ 23 := Nat.pow_lt_pow_right (by decide) (by omega)
  have split : 10 ^ k = 5 ^ k * 2 ^ k := by rw [← Nat.mul_pow]
  obtain ⟨x, found, value⟩ := exists_ofNat (Nat.pow_pos (by decide)) five split small
  have power : Binary64.ofDecimal 1 k = some x := by
    rw [Binary64.ofDecimal, if_neg (by decide), if_neg (by omega), if_neg (by omega),
      Int.natAbs_natCast, Nat.one_mul]
    exact found
  rw [powerOfTen, power, Option.getD_some, value]
  norm_cast

/-- A quotient of exact doubles is the double nearest to the quotient. -/
theorem scale_neg {m k : Nat} (hm : 0 < m) (short : m < 10 ^ 15) (some : 0 < k) (hk : k ≤ 22)
    (low : (10 : ℚ) ^ (-23 : Int) ≤ m / 10 ^ k) (high : (m / 10 ^ k : ℚ) < 10 ^ (23 : Int)) :
    ∃ x, scale m (-(k : Int)) = .some x ∧ x.Nearest (m / 10 ^ k) := by
  obtain ⟨y, found, value⟩ :=
    exists_ofNat hm (short.trans (by decide)) (by simp : m = m * 2 ^ 0) (short.trans (by decide))
  have quotient :
      ratio (y.toRatio.1 * (powerOfTen k).toRatio.2, y.toRatio.2 * (powerOfTen k).toRatio.1) =
      m / 10 ^ k := by
    rw [← value, ← value_powerOfTen hk, ← Binary64.ratio_toRatio, ← Binary64.ratio_toRatio]
    simp only [ratio]
    push_cast
    rw [div_div_div_eq]
  have numerator : 0 < y.toRatio.1 * (powerOfTen k).toRatio.2 := by
    have positive : 0 < y.value := by rw [value]; exact_mod_cast hm
    exact Nat.mul_pos (Binary64.toRatio_fst_pos positive) (powerOfTen k).toRatio_snd_pos
  have denominator : 0 < y.toRatio.2 * (powerOfTen k).toRatio.1 := by
    have positive : 0 < (powerOfTen k).value := by rw [value_powerOfTen hk]; positivity
    exact Nat.mul_pos y.toRatio_snd_pos (Binary64.toRatio_fst_pos positive)
  rw [← quotient] at low high
  obtain ⟨x, divided, nearest, -⟩ := Binary64.ofRatio_of_moderate numerator denominator low high
  refine ⟨x, ?_, quotient ▸ nearest⟩
  have places : (-(k : Int)).natAbs = k := by omega
  rw [scale, found, Option.bind_some, if_pos (by omega), places, divPower, if_pos (by omega)]
  exact divided

theorem scale_zero {k : Nat} (some : 0 < k) : scale 0 (-(k : Int)) = .some .zero := by
  have quotient (y : Binary64) : Binary64.zero.div y = .some .zero := by
    have numerator : Binary64.zero.toRatio.1 = 0 := rfl
    rw [Binary64.div, numerator, Nat.zero_mul]
    rfl
  have places : (-(k : Int)).natAbs = k := by omega
  have zero : Binary64.ofNat 0 = .some .zero := rfl
  rw [scale, zero, Option.bind_some, if_pos (by omega), places, divPower]
  split
  · exact quotient _
  · rfl

end PipelineCompiler.Json.Numeral

namespace PipelineCompiler.Decimal.Literal

open Json (Number Numeral)
open Json.Numeral (natOf)
open Json.Token (DigitRun FractionText Lexeme)

variable (v : Literal)

def numeral : Numeral := ⟨decide (v.whole < 0), v.front, v.fraction, none⟩

theorem scaled_numeral (fits : v.unscaled < 2 ^ 64) :
    v.numeral.scaled = (v.unscaled, -(v.fraction.length : Int)) := by
  have split : v.unscaled = v.fraction.foldl (fun n d => 10 * n + d) (natOf v.front) :=
    List.foldl_append ..
  have front : natOf v.front < 2 ^ 64 :=
    (split ▸ Numeral.le_foldl (natOf v.front) v.fraction).trans_lt fits
  have first : Numeral.fill 0 v.front = (natOf v.front, []) := Numeral.fill_of_fits front
  have second : Numeral.fill (natOf v.front) v.fraction = (v.unscaled, []) := by
    rw [Numeral.fill_of_fits (split ▸ fits), split]
  rw [Numeral.scaled, numeral, first]
  dsimp only
  rw [second]
  simp

theorem value?_of_whole (none : v.fraction = []) : v.numeral.value? = some (.int v.whole) := by
  have number : natOf v.numeral.whole = v.whole.natAbs := natOf_digitsOf _
  have integer : v.numeral.isInteger = true := by simp [Numeral.isInteger, numeral, none]
  have fits := v.fits
  rw [Numeral.value?, number]
  dsimp only
  rcases lt_or_ge v.whole 0 with below | above
  · have magnitude : -(v.whole.natAbs : Int) = v.whole := by omega
    have negative : v.numeral.negative = true := decide_eq_true below
    rw [if_neg (by simp [negative]), if_pos ⟨integer, negative, by omega, by rwa [magnitude]⟩,
      magnitude]
  · have magnitude : (v.whole.natAbs : Int) = v.whole := by omega
    have positive : v.numeral.negative = false := decide_eq_false (not_lt.mpr above)
    rw [if_pos ⟨integer, positive, by rwa [magnitude]⟩, magnitude]

theorem value?_of_fraction (some : v.fraction ≠ []) (fits : v.unscaled < 2 ^ 64) :
    v.numeral.value? =
    (Numeral.scale v.unscaled (-(v.fraction.length : Int))).map
      (.double (decide (v.whole < 0))) := by
  have real : v.numeral.isInteger = false := by simp [Numeral.isInteger, numeral, some]
  have exponent : v.numeral.exponent = 0 := rfl
  rw [Numeral.value?, v.scaled_numeral fits]
  dsimp only
  rw [if_neg (by simp [real]), if_neg (by simp [real]), exponent, add_zero]
  rfl

/-- A short literal is read as a number that is printed trimmed. -/
theorem exists_value? (short : v.IsShort) :
    ∃ n, v.numeral.value? = some n ∧ n.text = v.trimmed.text := by
  by_cases none : v.fraction = []
  · have trimmed : v.trimmed = v := v.trimmed_eq_self_iff.mpr (.inl (by simp [none]))
    refine ⟨_, v.value?_of_whole none, ?_⟩
    simp [trimmed, text, none, Number.text]
  · obtain ⟨fits, size⟩ := short.resolve_left none
    have count : 0 < v.fraction.length := List.length_pos_of_ne_nil none
    have value := v.value?_of_fraction none (fits.trans (by decide))
    rcases Nat.eq_zero_or_pos v.unscaled with zero | positive
    · rw [zero, Numeral.scale_zero count] at value
      exact ⟨_, value, v.text_of_zero none zero⟩
    · have large := size.resolve_left positive.ne'
      obtain ⟨low, high⟩ := v.magnitude_moderate fits large
      obtain ⟨x, found, nearest⟩ :=
        Numeral.scale_neg positive fits count (v.length_le fits large) low high
      rw [found] at value
      exact ⟨_, value, v.text_of_nearest none positive fits large nearest⟩

theorem digitRun {ds : List Nat} (some : ds ≠ []) (digits : ∀ d ∈ ds, d < 10) :
    DigitRun ds (ds.map Nat.digitChar) := by
  refine ⟨by simpa using some, ?_, ?_⟩
  · intro c hc
    obtain ⟨d, hd, rfl⟩ := List.mem_map.mp hc
    simpa [Nat.isDigit_digitChar] using digits d hd
  · rw [List.map_map]
    refine (List.map_id ds).symm.trans (List.map_congr_left fun d hd => ?_)
    exact (Nat.toNat_digitChar_sub_48_of_lt_ten (digits d hd)).symm

/-- A literal is a spelling of its numeral. -/
theorem lexeme : Lexeme (.numeral v.numeral) v.text.toList := by
  have front : DigitRun v.front (v.front.map Nat.digitChar) :=
    digitRun (digitsOf_ne_nil _) fun _ => lt_ten_of_mem_digitsOf
  have leading : v.front.head? = some 0 → v.front.length = 1 := by
    intro first
    have zero : v.whole.natAbs = 0 := by
      by_contra some
      exact head_digitsOf (Nat.pos_of_ne_zero some) first
    rw [Literal.front, zero]
    rfl
  have fraction : FractionText v.fraction
      (if v.fraction = [] then [] else '.' :: v.fraction.map Nat.digitChar) := by
    split
    · next none => rw [none]; exact .absent
    · next some => exact .digits (digitRun some v.digits)
  have spelled : Lexeme (.numeral v.numeral) _ := .numeral (.mk front leading fraction .absent)
  have sign : Json.Token.sign v.numeral.negative = if v.whole < 0 then ['-'] else [] := by
    unfold Json.Token.sign
    simp [numeral]
  rw [List.append_nil, sign] at spelled
  rw [toList_text]
  exact spelled

end PipelineCompiler.Decimal.Literal
