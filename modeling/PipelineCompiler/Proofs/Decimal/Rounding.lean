import Mathlib.Algebra.Order.Field.Power
import Mathlib.Data.Rat.Cast.Order
import Mathlib.Tactic.FieldSimp
import Mathlib.Tactic.Linarith
import Mathlib.Tactic.NormNum
import Mathlib.Tactic.Positivity
import Mathlib.Tactic.Ring
import PipelineCompiler.Decimal.Shortest

namespace PipelineCompiler.Decimal

/-- The exact value of a fraction. -/
def ratio (p : Nat × Nat) : ℚ := p.1 / p.2

theorem zpow_of_neg {e : Int} (h : e < 0) (base : Nat) :
    (base : ℚ) ^ e = ((Nat.pow base e.natAbs : Nat) : ℚ)⁻¹ := by
  have exponent : e = -(e.natAbs : Int) := by omega
  generalize e.natAbs = n at exponent
  subst exponent
  rw [zpow_neg, zpow_natCast, Nat.pow_eq, Nat.cast_pow]

theorem zpow_of_not_neg {e : Int} (h : ¬ e < 0) (base : Nat) :
    (base : ℚ) ^ e = (Nat.pow base e.natAbs : Nat) := by
  have exponent : e = (e.natAbs : Int) := by omega
  generalize e.natAbs = n at exponent
  subst exponent
  rw [zpow_natCast, Nat.pow_eq, Nat.cast_pow]

/-- A fraction in the unit `base ^ e`: `Binary64.inUnit` for the base 2,
`inTens` for the base 10. -/
def inPower (base num den : Nat) (e : Int) : Nat × Nat :=
  if e < 0 then (num * Nat.pow base e.natAbs, den) else (num, den * Nat.pow base e.natAbs)

section InPower

variable (base num : Nat) {den : Nat} (e : Int)

theorem inPower_snd_pos (hb : 0 < base) (hd : 0 < den) : 0 < (inPower base num den e).2 := by
  unfold inPower
  split
  · exact hd
  · exact Nat.mul_pos hd (Nat.pow_pos hb)

theorem ratio_inPower : ratio (inPower base num den e) = ratio (num, den) / base ^ e := by
  unfold inPower ratio
  split
  · next negative =>
    rw [zpow_of_neg negative, Nat.cast_mul, div_inv_eq_mul]
    ring
  · next positive =>
    rw [zpow_of_not_neg positive, Nat.cast_mul, div_div]

end InPower

theorem le_iff_one_le_ratio {p : Nat × Nat} (hp : 0 < p.2) : p.2 ≤ p.1 ↔ 1 ≤ ratio p := by
  have positive : (0 : ℚ) < p.2 := by exact_mod_cast hp
  rw [ratio, le_div_iff₀ positive, one_mul]
  exact_mod_cast Iff.rfl

/-- The logarithm of a ratio is the difference of those of its parts, or one less.
A comparison decides. -/
theorem floor_log_spec {base num den : Nat} (hb : 0 < base) (hd : 0 < den) {k l m : Int}
    (numLow : (base : ℚ) ^ k ≤ num) (numHigh : (num : ℚ) < base ^ (k + 1))
    (denLow : (base : ℚ) ^ l ≤ den) (denHigh : (den : ℚ) < base ^ (l + 1))
    (difference : m = k - l) {log : Int} (found : log = if (inPower base num den m).2 ≤
      (inPower base num den m).1 then m else m - 1) :
    (base : ℚ) ^ log ≤ ratio (num, den) ∧ ratio (num, den) < base ^ (log + 1) := by
  have positive : (0 : ℚ) < base := by exact_mod_cast hb
  have denPos : (0 : ℚ) < den := by exact_mod_cast hd
  have low : (base : ℚ) ^ (m - 1) ≤ ratio (num, den) := by
    rw [ratio, le_div_iff₀ denPos, difference]
    calc (base : ℚ) ^ (k - l - 1) * den ≤ base ^ (k - l - 1) * base ^ (l + 1) := by gcongr
      _ = base ^ k := by rw [← zpow_add₀ positive.ne']; congr 1; ring
      _ ≤ num := numLow
  have high : ratio (num, den) < base ^ (m + 1) := by
    rw [ratio, div_lt_iff₀ denPos, difference]
    calc (num : ℚ) < base ^ (k + 1) := numHigh
      _ = base ^ (k - l + 1) * base ^ l := by rw [← zpow_add₀ positive.ne']; congr 1; ring
      _ ≤ base ^ (k - l + 1) * den := by gcongr
  have test : (inPower base num den m).2 ≤ (inPower base num den m).1 ↔
      (base : ℚ) ^ m ≤ ratio (num, den) := by
    have unit : (0 : ℚ) < base ^ m := by positivity
    rw [le_iff_one_le_ratio (inPower_snd_pos _ _ _ hb hd), ratio_inPower, le_div_iff₀ unit, one_mul]
  rw [found]
  split
  · next above => exact ⟨test.mp above, high⟩
  · next below =>
    have under : ratio (num, den) < base ^ m := not_le.mp fun above => below (test.mpr above)
    exact ⟨low, by rwa [sub_add_cancel]⟩

namespace Binary64

theorem floorLog_spec {num den : Nat} (hn : 0 < num) (hd : 0 < den) :
    (2 : ℚ) ^ floorLog num den ≤ ratio (num, den) ∧
    ratio (num, den) < 2 ^ (floorLog num den + 1) := by
  have low {n : Nat} (hn : 0 < n) : ((2 : Nat) : ℚ) ^ (n.log2 : Int) ≤ n := by
    exact_mod_cast Nat.log2_self_le (Nat.ne_of_gt hn)
  have high (n : Nat) : (n : ℚ) < ((2 : Nat) : ℚ) ^ ((n.log2 : Int) + 1) := by
    exact_mod_cast Nat.lt_log2_self (n := n)
  exact_mod_cast floor_log_spec two_pos hd (low hn) (high num) (low hd) (high den) rfl
    (rfl : floorLog num den = _)

def value (x : Binary64) : ℚ := x.mantissa * 2 ^ x.exponent

theorem toRatio_snd_pos (x : Binary64) : 0 < x.toRatio.2 := by
  unfold toRatio
  split
  · exact Nat.two_pow_pos _
  · exact Nat.one_pos

theorem ratio_toRatio (x : Binary64) : ratio x.toRatio = x.value := by
  have power (e : Int) : (2 : ℚ) ^ e = ((2 : Nat) : ℚ) ^ e := by norm_num
  unfold toRatio ratio value
  rw [power]
  split
  · next negative => rw [zpow_of_neg negative, div_eq_mul_inv]
  · next positive => rw [zpow_of_not_neg positive, Nat.cast_mul, Nat.cast_one, div_one]

theorem toRatio_fst_pos {x : Binary64} (h : 0 < x.value) : 0 < x.toRatio.1 := by
  refine Nat.pos_of_ne_zero fun zero => ?_
  rw [← ratio_toRatio, ratio, zero] at h
  simp at h

/-- The nearest integer is at most a half away, and even if it is a half away. -/
theorem roundDiv_spec {a b : Nat} (hb : 0 < b) :
    2 * (roundDiv a b * b) ≤ 2 * a + b ∧ 2 * a ≤ 2 * (roundDiv a b * b) + b ∧
      (roundDiv a b % 2 = 1 → 2 * (roundDiv a b * b) < 2 * a + b ∧
        2 * a < 2 * (roundDiv a b * b) + b) := by
  have split : a / b * b + a % b = a := Nat.div_add_mod' a b
  have rest : a % b < b := Nat.mod_lt a hb
  have next : (a / b + 1) * b = a / b * b + b := Nat.succ_mul _ _
  unfold roundDiv
  simp only
  split_ifs with up
  · rw [next]
    omega
  · omega

theorem roundDiv_near {a b : Nat} (hb : 0 < b) :
    |ratio (a, b) - roundDiv a b| ≤ 1 / 2 ∧
    (roundDiv a b % 2 = 1 → |ratio (a, b) - roundDiv a b| < 1 / 2) := by
  have positive : (0 : ℚ) < b := by exact_mod_cast hb
  have scaled : (ratio (a, b) - roundDiv a b) * b = a - roundDiv a b * b := by
    rw [ratio, sub_mul, div_mul_cancel₀ _ positive.ne']
  obtain ⟨low, high, odd⟩ := roundDiv_spec (a := a) hb
  have low' : 2 * ((roundDiv a b : ℚ) * b) ≤ 2 * a + b := by exact_mod_cast low
  have high' : 2 * (a : ℚ) ≤ 2 * ((roundDiv a b : ℚ) * b) + b := by exact_mod_cast high
  constructor
  · rw [abs_le]
    constructor <;> refine le_of_mul_le_mul_right ?_ positive <;> linarith
  · intro isOdd
    have low'' : 2 * ((roundDiv a b : ℚ) * b) < 2 * a + b := by exact_mod_cast (odd isOdd).1
    have high'' : 2 * (a : ℚ) < 2 * ((roundDiv a b : ℚ) * b) + b := by exact_mod_cast (odd isOdd).2
    rw [abs_lt]
    constructor <;> refine lt_of_mul_lt_mul_right ?_ positive.le <;> linarith

/-- The numbers that round to a double. The ends of the interval are among them if
the mantissa is even. -/
def Covers (x : Binary64) (q : ℚ) : Prop :=
  if x.mantissa % 2 = 0 then
    x.interval.1 ≤ q / 2 ^ (x.exponent - 2) ∧ q / 2 ^ (x.exponent - 2) ≤ x.interval.2
  else x.interval.1 < q / 2 ^ (x.exponent - 2) ∧ q / 2 ^ (x.exponent - 2) < x.interval.2

theorem covers_iff (x : Binary64) (num : Nat) {den : Nat} (hd : 0 < den) :
    x.covers num den = true ↔ x.Covers (ratio (num, den)) := by
  have positive : (0 : ℚ) < (inUnit num den (x.exponent - 2)).2 := by
    exact_mod_cast inPower_snd_pos 2 num (x.exponent - 2) two_pos hd
  have unit : ratio (inUnit num den (x.exponent - 2)) = ratio (num, den) / 2 ^ (x.exponent - 2) :=
    mod_cast ratio_inPower 2 num (x.exponent - 2)
  unfold covers Covers
  rw [← unit, ratio]
  simp only [le_div_iff₀ positive, div_le_iff₀ positive, lt_div_iff₀ positive, div_lt_iff₀ positive]
  norm_cast
  split <;> simp

/-- What rounds to a double is at most half of its last place away. -/
theorem Covers.near {x : Binary64} {q : ℚ} (h : x.Covers q) (positive : 0 < x.mantissa) :
    |q - x.value| ≤ 2 ^ x.exponent / 2 := by
  have unit : (0 : ℚ) < 2 ^ (x.exponent - 2) := by positivity
  have quarter : (2 : ℚ) ^ x.exponent = 2 ^ (x.exponent - 2) * 4 := by
    rw [show (4 : ℚ) = 2 ^ (2 : Int) by norm_num, ← zpow_add₀ two_ne_zero, sub_add_cancel]
  have ends : (x.interval.1 : ℚ) ≤ q / 2 ^ (x.exponent - 2) ∧
      q / 2 ^ (x.exponent - 2) ≤ x.interval.2 := by
    unfold Covers at h
    split at h
    · exact h
    · exact ⟨h.1.le, h.2.le⟩
  have low : 4 * x.mantissa ≤ x.interval.1 + 2 := by
    unfold interval
    dsimp only
    split <;> omega
  have low' : 4 * (x.mantissa : ℚ) ≤ x.interval.1 + 2 := by exact_mod_cast low
  have high : (x.interval.2 : ℚ) = 4 * x.mantissa + 2 := by
    unfold interval
    push_cast
    rfl
  have place : q = q / 2 ^ (x.exponent - 2) * 2 ^ (x.exponent - 2) := by field_simp
  generalize q / 2 ^ (x.exponent - 2) = s at ends place
  rw [place, value, quarter, abs_le]
  constructor <;> nlinarith

/-- A double of full precision, and a number that rounds to it. -/
structure Nearest (x : Binary64) (q : ℚ) : Prop where
  normal : Nat.pow 2 52 ≤ x.mantissa
  covers : x.Covers q

/-- A mantissa after rounding, in its unit. -/
def ofMantissa (m : Nat) (e : Int) : Binary64 :=
  if m = Nat.pow 2 53 then ⟨Nat.pow 2 52, e + 1⟩ else ⟨m, e⟩

theorem value_ofMantissa (m : Nat) (e : Int) : (ofMantissa m e).value = m * 2 ^ e := by
  unfold ofMantissa
  split
  · next carry =>
    rw [carry, value, zpow_add_one₀ two_ne_zero]
    norm_num
    ring
  · rfl

theorem exponent_ofMantissa_le (m : Nat) (e : Int) : (ofMantissa m e).exponent ≤ e + 1 := by
  unfold ofMantissa
  split
  · exact le_rfl
  · exact (lt_add_one e).le

theorem nearest_ofMantissa {m : Nat} {e : Int} (normal : -1074 ≤ e) {s : ℚ} (low : 2 ^ 52 ≤ s)
    (high : s < 2 ^ 53) (near : |s - m| ≤ 1 / 2) (odd : m % 2 = 1 → |s - m| < 1 / 2) :
    (ofMantissa m e).Nearest (s * 2 ^ e) := by
  obtain ⟨below, above⟩ := abs_le.mp near
  have least : 2 ^ 52 ≤ m := by
    have : (2 ^ 52 : ℚ) < m + 1 := by linarith
    exact Nat.lt_succ_iff.mp (by exact_mod_cast this)
  have scaled (x : Binary64) (k : Int) (hk : x.exponent = e + k) :
      s * 2 ^ e / 2 ^ (x.exponent - 2) = s * 2 ^ (2 - k) := by
    rw [hk, mul_div_assoc, ← zpow_sub₀ two_ne_zero]
    congr 2
    ring
  unfold ofMantissa
  split
  · next carry =>
    -- The mantissa is even, and the interval reaches half as far down as it reaches up.
    refine ⟨le_rfl, ?_⟩
    rw [Covers, if_pos (by norm_num), scaled _ 1 rfl, interval, if_pos ⟨rfl, by dsimp only; omega⟩]
    have carry' : (m : ℚ) = 2 ^ 53 := by exact_mod_cast carry
    norm_num
    constructor <;> linarith
  · refine ⟨least, ?_⟩
    rw [Covers, scaled ⟨m, e⟩ 0 (by simp), interval]
    have four : s * 2 ^ (2 - 0 : Int) = 4 * s := by norm_num; ring
    rw [four]
    dsimp only
    split
    · split_ifs with lowest
      · have lowest' : (m : ℚ) = 2 ^ 52 := by exact_mod_cast lowest.1
        push_cast [show 1 ≤ 4 * m by omega]
        constructor <;> linarith
      · push_cast [show 2 ≤ 4 * m by omega]
        constructor <;> linarith
    · next isOdd =>
      obtain ⟨below, above⟩ := abs_lt.mp (odd (by omega))
      have higher : ¬ (m = Nat.pow 2 52 ∧ e > -1074) := by
        rintro ⟨rfl, -⟩
        exact isOdd (by norm_num)
      rw [if_neg higher]
      push_cast [show 2 ≤ 4 * m by omega]
      constructor <;> linarith

/-- A number of at most 53 binary digits is whole in every unit that gives it 53
digits before the point. -/
theorem exists_nat_of_binary {c : Nat} {j e : Int} (short : c < 2 ^ 53)
    (low : (2 : ℚ) ^ 52 ≤ c * 2 ^ j / 2 ^ e) : ∃ i : Nat, (c * 2 ^ j / 2 ^ e : ℚ) = i := by
  have unit : (0 : ℚ) < 2 ^ e := by positivity
  have short' : (c : ℚ) < 2 ^ 53 := by exact_mod_cast short
  have below : (2 : ℚ) ^ (52 + e) < 2 ^ (53 + j) := by
    calc (2 : ℚ) ^ (52 + e) = 2 ^ 52 * 2 ^ e := by rw [zpow_add₀ two_ne_zero]; norm_num
      _ ≤ c * 2 ^ j := (le_div_iff₀ unit).mp low
      _ < 2 ^ 53 * 2 ^ j := by gcongr
      _ = 2 ^ (53 + j) := by rw [zpow_add₀ two_ne_zero]; norm_num
  have order : 52 + e < 53 + j := (zpow_lt_zpow_iff_right₀ one_lt_two).mp below
  obtain ⟨k, hk⟩ := Int.eq_ofNat_of_zero_le (show 0 ≤ j - e by omega)
  refine ⟨c * 2 ^ k, ?_⟩
  rw [mul_div_assoc, ← zpow_sub₀ two_ne_zero, hk, zpow_natCast]
  norm_cast

theorem eq_of_abs_sub_le_half {i m : Nat} (h : |(i : ℚ) - m| ≤ 1 / 2) : i = m := by
  obtain ⟨below, above⟩ := abs_le.mp h
  have low : (m : ℚ) < i + 1 := by linarith
  have high : (i : ℚ) < m + 1 := by linarith
  have low' : m < i + 1 := by exact_mod_cast low
  have high' : i < m + 1 := by exact_mod_cast high
  omega

/-- Far from the smallest and the largest double a ratio is rounded to a double of full precision,
and is that double if it is one. -/
theorem ofRatio_spec {num den : Nat} (hn : 0 < num) (hd : 0 < den)
    (low : (2 : ℚ) ^ (-1022 : Int) ≤ ratio (num, den))
    (high : ratio (num, den) < 2 ^ (1023 : Int)) :
    ∃ x, ofRatio num den = some x ∧ x.Nearest (ratio (num, den)) ∧
      ∀ (c : Nat) (j : Int), c < 2 ^ 53 → ratio (num, den) = c * 2 ^ j →
      x.value = ratio (num, den) := by
  obtain ⟨logLow, logHigh⟩ := floorLog_spec hn hd
  have least : -1022 < floorLog num den + 1 :=
    (zpow_lt_zpow_iff_right₀ one_lt_two).mp (low.trans_lt logHigh)
  have most : floorLog num den < 1023 :=
    (zpow_lt_zpow_iff_right₀ one_lt_two).mp (logLow.trans_lt high)
  have exponent : max (floorLog num den - 52) (-1074) = floorLog num den - 52 :=
    max_eq_left (by omega)
  obtain ⟨e, log⟩ : ∃ e, floorLog num den = 52 + e := ⟨floorLog num den - 52, by ring⟩
  have unit : (0 : ℚ) < 2 ^ e := by positivity
  have positive : 0 < (inUnit num den e).2 := inPower_snd_pos 2 num e two_pos hd
  have scaled : ratio (inUnit num den e) = ratio (num, den) / 2 ^ e :=
    mod_cast ratio_inPower 2 num e
  obtain ⟨near, odd⟩ := roundDiv_near (a := (inUnit num den e).1) positive
  rw [Prod.mk.eta, scaled] at near odd
  have wide : (2 : ℚ) ^ 52 ≤ ratio (num, den) / 2 ^ e ∧ ratio (num, den) / 2 ^ e < 2 ^ 53 := by
    rw [log, zpow_add₀ two_ne_zero] at logLow
    rw [log, add_right_comm, zpow_add₀ two_ne_zero] at logHigh
    rw [le_div_iff₀ unit, div_lt_iff₀ unit]
    exact ⟨by exact_mod_cast logLow, by exact_mod_cast logHigh⟩
  have rounded : ofRatio num den =
      some (ofMantissa (roundDiv (inUnit num den e).1 (inUnit num den e).2) e) := by
    have small := exponent_ofMantissa_le (roundDiv (inUnit num den e).1 (inUnit num den e).2) e
    rw [ofRatio, if_neg (Nat.ne_of_gt hn), exponent, log, add_sub_cancel_left]
    exact if_neg (not_lt.mpr (small.trans (by omega)))
  have nearest := nearest_ofMantissa (e := e) (by omega) wide.1 wide.2 near odd
  rw [div_mul_cancel₀ _ unit.ne'] at nearest
  refine ⟨_, rounded, nearest, fun c j short exact => ?_⟩
  rw [exact] at wide near ⊢
  obtain ⟨i, whole⟩ := exists_nat_of_binary short wide.1
  rw [whole] at near
  have same := eq_of_abs_sub_le_half near
  rw [value_ofMantissa, ← same, ← whole, div_mul_cancel₀ _ unit.ne']

/-- Numbers of a moderate size are far from the smallest and the largest double. -/
theorem ofRatio_of_moderate {num den : Nat} (hn : 0 < num) (hd : 0 < den)
    (low : (10 : ℚ) ^ (-23 : Int) ≤ ratio (num, den)) (high : ratio (num, den) < 10 ^ (23 : Int)) :
    ∃ x, ofRatio num den = some x ∧ x.Nearest (ratio (num, den)) ∧
      ∀ (c : Nat) (j : Int), c < 2 ^ 53 → ratio (num, den) = c * 2 ^ j →
      x.value = ratio (num, den) := by
  refine ofRatio_spec hn hd (le_trans ?_ low) (high.trans_le ?_)
  · calc (2 : ℚ) ^ (-1022 : Int) ≤ 2 ^ (-77 : Int) := zpow_le_zpow_right₀ one_le_two (by decide)
      _ ≤ 10 ^ (-23 : Int) := by norm_num
  · calc (10 : ℚ) ^ (23 : Int) ≤ 2 ^ (77 : Int) := by norm_num
      _ ≤ 2 ^ (1023 : Int) := zpow_le_zpow_right₀ one_le_two (by decide)

end Binary64

end PipelineCompiler.Decimal
