import Mathlib.Data.List.DropRight
import PipelineCompiler.Proofs.Decimal.Digits
import PipelineCompiler.Proofs.Decimal.Rounding

/-!
The shortest digits of a double. Where the points of a decimal grid lie further apart than the
doubles, at most one of them rounds to a given double, and the search finds it; so a decimal number
of at most fifteen digits gets its own digits back.
-/
namespace PipelineCompiler.Decimal

theorem floorLogTen_spec {num den : Nat} (hn : 0 < num) (hd : 0 < den) :
    (10 : ℚ) ^ floorLogTen num den ≤ ratio (num, den) ∧
    ratio (num, den) < 10 ^ (floorLogTen num den + 1) := by
  have low {n : Nat} (hn : 0 < n) : ((10 : Nat) : ℚ) ^ (((digitsOf n).length : Int) - 1) ≤ n := by
    have length : ((digitsOf n).length : Int) - 1 = ((digitsOf n).length - 1 : Nat) := by
      have := List.length_pos_of_ne_nil (digitsOf_ne_nil n)
      omega
    rw [length, zpow_natCast]
    exact_mod_cast pow_length_le hn
  have high (n : Nat) : (n : ℚ) < ((10 : Nat) : ℚ) ^ (((digitsOf n).length : Int) - 1 + 1) := by
    rw [sub_add_cancel, zpow_natCast]
    exact_mod_cast lt_pow_length n
  have difference := sub_sub_sub_cancel_right ((digitsOf num).length : Int) (digitsOf den).length 1
  exact_mod_cast floor_log_spec (by decide) hd (low hn) (high num) (low hd) (high den)
    difference.symm
    (rfl : floorLogTen num den = _)

namespace Binary64

/-- Whether a point of the grid `10 ^ e` rounds to a double. -/
def coversPoint (x : Binary64) (e : Int) (n : Nat) : Bool :=
  if e < 0 then x.covers n (Nat.pow 10 e.natAbs) else x.covers (n * Nat.pow 10 e.natAbs) 1

theorem coversPoint_iff (x : Binary64) (e : Int) (n : Nat) :
    x.coversPoint e n = true ↔ x.Covers (n * 10 ^ e) := by
  have power : (10 : ℚ) ^ e = ((10 : Nat) : ℚ) ^ e := by norm_num
  unfold coversPoint
  split
  · next negative =>
    have below : 0 < Nat.pow 10 e.natAbs := Nat.pow_pos (by decide)
    rw [covers_iff _ _ below, power, zpow_of_neg negative, ratio, div_eq_mul_inv]
  · next positive =>
    rw [covers_iff _ _ Nat.one_pos, power, zpow_of_not_neg positive, ratio, Nat.cast_mul,
      Nat.cast_one, div_one]

theorem gridPoint_eq (x : Binary64) (e : Int) : x.gridPoint e =
    let fraction := inTens x.toRatio.1 x.toRatio.2 e
    let q := fraction.1 / fraction.2
    let r := fraction.1 % fraction.2
    let nearer := 2 * r < fraction.2 ∨ (2 * r = fraction.2 ∧ q % 2 = 0)
    if x.coversPoint e q && (!x.coversPoint e (q + 1) || nearer) then some q
    else if x.coversPoint e (q + 1) then some (q + 1) else none := rfl

theorem covers_of_gridPoint {x : Binary64} {e : Int} {p : Nat} (h : x.gridPoint e = some p) :
    x.Covers (p * 10 ^ e) := by
  rw [gridPoint_eq] at h
  simp only [Bool.and_eq_true] at h
  split_ifs at h with first second
  · cases h
    exact (coversPoint_iff x e _).mp first.1
  · cases h
    exact (coversPoint_iff x e _).mp second

theorem floor_le_ratio {fraction : Nat × Nat} (below : 0 < fraction.2) :
    ((fraction.1 / fraction.2 : Nat) : ℚ) ≤ ratio fraction ∧
      ratio fraction < ((fraction.1 / fraction.2 : Nat) : ℚ) + 1 := by
  have positive : (0 : ℚ) < fraction.2 := by exact_mod_cast below
  have next : fraction.1 < (fraction.1 / fraction.2 + 1) * fraction.2 := by
    rw [Nat.mul_comm]
    exact Nat.lt_mul_div_succ _ below
  rw [ratio, le_div_iff₀ positive, div_lt_iff₀ positive]
  exact ⟨by exact_mod_cast Nat.div_mul_le_self _ _, by exact_mod_cast next⟩

/-- On a grid that is coarser than the doubles the only point that rounds to a double is
the one that is chosen. -/
theorem gridPoint_eq_some {x : Binary64} {e : Int} {p : Nat} (positive : 0 < x.mantissa)
    (coarse : (2 : ℚ) ^ x.exponent < 10 ^ e) (h : x.Covers (p * 10 ^ e)) :
    x.gridPoint e = some p := by
  have unit : (0 : ℚ) < 10 ^ e := by positivity
  rw [gridPoint_eq]
  dsimp only
  generalize fraction_eq : inTens x.toRatio.1 x.toRatio.2 e = fraction
  have scaled : ratio fraction = x.value / 10 ^ e := by
    rw [← fraction_eq, ← ratio_toRatio]
    exact_mod_cast ratio_inPower 10 x.toRatio.1 e
  have below : 0 < fraction.2 :=
    fraction_eq ▸ inPower_snd_pos 10 x.toRatio.1 e (by decide) x.toRatio_snd_pos
  obtain ⟨low, high⟩ := floor_le_ratio below
  have near (n : Nat) (h : x.Covers (n * 10 ^ e)) : |(n : ℚ) - ratio fraction| < 1 / 2 := by
    have distance : |(n : ℚ) - ratio fraction| * 10 ^ e = |n * 10 ^ e - x.value| := by
      rw [scaled, ← abs_of_pos unit, ← abs_mul, sub_mul, abs_of_pos unit,
        div_mul_cancel₀ _ unit.ne']
    refine lt_of_mul_lt_mul_right ?_ unit.le
    rw [distance]
    linarith [h.near positive]
  have itself : x.coversPoint e p = true := (coversPoint_iff x e p).mpr h
  have only (n : Nat) (hn : x.coversPoint e n = true) : n = p := by
    obtain ⟨nLow, nHigh⟩ := abs_lt.mp (near n ((coversPoint_iff x e n).mp hn))
    obtain ⟨pLow, pHigh⟩ := abs_lt.mp (near p h)
    have less : (n : ℚ) < p + 1 := by linarith
    have more : (p : ℚ) < n + 1 := by linarith
    have less' : n < p + 1 := by exact_mod_cast less
    have more' : p < n + 1 := by exact_mod_cast more
    omega
  generalize fraction.1 / fraction.2 = q at low high
  have candidate : p = q ∨ p = q + 1 := by
    obtain ⟨pLow, pHigh⟩ := abs_lt.mp (near p h)
    have less : (p : ℚ) < q + 2 := by linarith
    have more : (q : ℚ) < p + 1 := by linarith
    have less' : p < q + 2 := by exact_mod_cast less
    have more' : q < p + 1 := by exact_mod_cast more
    omega
  rcases candidate with rfl | rfl
  · have other : x.coversPoint e (p + 1) = false := by
      rw [Bool.eq_false_iff]
      intro covered
      exact absurd (only _ covered) (Nat.succ_ne_self p)
    simp [itself, other]
  · have other : x.coversPoint e q = false := by
      rw [Bool.eq_false_iff]
      intro covered
      exact absurd (only _ covered) (Nat.ne_of_lt (Nat.lt_succ_self q))
    simp [itself, other]

theorem search_eq {x : Binary64} {top e : Int} {p : Nat} (found : x.gridPoint e = some p)
    (n : Nat) {start : Int} (order : e ≤ start) (enough : start - e ≤ n)
    (coarser : ∀ d, e < d → d ≤ start → x.gridPoint d = none) :
    x.search top (n + 1) start =
      ⟨(digitsOf p).rdropWhile (· == 0), e + (digitsOf p).length - 1⟩ := by
  induction n generalizing start with
  | zero =>
    obtain rfl : start = e := by omega
    rw [search, found]
    rfl
  | succ n ih =>
    by_cases here : start = e
    · rw [search, here, found]
      rfl
    · rw [search, coarser start (by omega) le_rfl]
      exact ih (by omega) (by omega) fun d low high => coarser d low (by omega)

theorem rdropWhile_digitsOf {n : Nat} (hn : n % 10 ≠ 0) (k : Nat) :
    (digitsOf n ++ List.replicate k 0).rdropWhile (· == 0) = digitsOf n := by
  induction k with
  | zero =>
    rw [List.replicate_zero, List.append_nil, List.rdropWhile_eq_self_iff]
    intro some
    have last : (digitsOf n).getLast some = n % 10 := by
      have := getLast?_digitsOf n
      rwa [List.getLast?_eq_some_getLast some, Option.some.injEq] at this
    simpa [last] using hn
  | succ k ih =>
    rw [List.replicate_succ', ← List.append_assoc, List.rdropWhile_concat_pos _ _ _ rfl, ih]

section Decimal

variable {x : Binary64} {n : Nat} {e : Int} (h : x.Nearest (n * 10 ^ e))
include h

theorem Nearest.value_pos : 0 < x.value := by
  have normal : (2 : ℚ) ^ 52 ≤ x.mantissa := by exact_mod_cast h.normal
  have positive : (0 : ℚ) < x.mantissa := by linarith
  unfold value
  positivity

/-- The doubles around a number lie closer together than the numbers of fifteen digits. -/
theorem Nearest.exponent_lt : (2 : ℚ) ^ x.exponent < 10 ^ (e + (digitsOf n).length - 15) := by
  have normal : (2 : ℚ) ^ 52 ≤ x.mantissa := by exact_mod_cast h.normal
  have size : (n : ℚ) < 10 ^ ((digitsOf n).length : Int) := by exact_mod_cast lt_pow_length n
  have near := (abs_le.mp (h.covers.near (lt_of_lt_of_le (Nat.two_pow_pos 52) h.normal))).1
  have ulp : (0 : ℚ) < 2 ^ x.exponent := by positivity
  have shifted : (10 : ℚ) ^ (e + (digitsOf n).length - 15) * 10 ^ 15 =
      10 ^ ((digitsOf n).length : Int) * 10 ^ e := by
    rw [← zpow_natCast (10 : ℚ) 15, ← zpow_add₀ (by norm_num), ← zpow_add₀ (by norm_num)]
    congr 1
    push_cast
    ring
  refine lt_of_mul_lt_mul_right ?_ (show (0 : ℚ) ≤ 10 ^ 15 by norm_num)
  rw [shifted]
  calc (2 : ℚ) ^ x.exponent * 10 ^ 15 ≤ 2 ^ x.exponent * (x.mantissa - 1 / 2) := by
        gcongr
        linarith
    _ = x.value - 2 ^ x.exponent / 2 := by rw [value]; ring
    _ ≤ n * 10 ^ e := by linarith
    _ < 10 ^ ((digitsOf n).length : Int) * 10 ^ e := by gcongr

/-- The search starts at the first digit of the number, or at most one place behind it. -/
theorem Nearest.top_bounds (hn : 0 < n) (short : n < 10 ^ 15) :
    e + (digitsOf n).length - 2 ≤ floorLogTen x.toRatio.1 x.toRatio.2 ∧
      floorLogTen x.toRatio.1 x.toRatio.2 ≤ e + (digitsOf n).length - 1 := by
  have positive : 0 < x.mantissa := lt_of_lt_of_le (Nat.two_pow_pos 52) h.normal
  obtain ⟨topLow, topHigh⟩ := floorLogTen_spec (toRatio_fst_pos h.value_pos) x.toRatio_snd_pos
  rw [Prod.mk.eta, ratio_toRatio] at topLow topHigh
  obtain ⟨nearLow, nearHigh⟩ := abs_le.mp (h.covers.near positive)
  have few : (digitsOf n).length ≤ 15 := length_le_of_lt_pow (by decide) short
  have unit : (0 : ℚ) < 10 ^ e := by positivity
  have ulp : (2 : ℚ) ^ x.exponent < 10 ^ e :=
    h.exponent_lt.trans_le (zpow_le_zpow_right₀ (by norm_num) (by omega))
  have above : x.value < 10 ^ (e + (digitsOf n).length) := by
    have size : (n : ℚ) + 1 ≤ 10 ^ (digitsOf n).length := by exact_mod_cast lt_pow_length n
    calc x.value < (n + 1) * 10 ^ e := by linarith
      _ ≤ 10 ^ (digitsOf n).length * 10 ^ e := by gcongr
      _ = 10 ^ (e + (digitsOf n).length) := by rw [zpow_add₀ (by norm_num), zpow_natCast, mul_comm]
  have below : (10 : ℚ) ^ (e + (digitsOf n).length - 2) < x.value := by
    have place : (2 : ℚ) ^ x.exponent ≤ x.value := by
      have one : (1 : ℚ) ≤ x.mantissa := by exact_mod_cast positive
      rw [value]
      exact le_mul_of_one_le_left (by positivity) one
    have size : (10 : ℚ) ^ ((digitsOf n).length - 1) ≤ n := by exact_mod_cast pow_length_le hn
    have count : 0 < (digitsOf n).length := List.length_pos_of_ne_nil (digitsOf_ne_nil n)
    have step : (10 : ℚ) ^ (e + (digitsOf n).length - 2) * 10 =
        10 ^ ((digitsOf n).length - 1) * 10 ^ e := by
      rw [← zpow_natCast, ← zpow_add₀ (by norm_num), ← zpow_add_one₀ (by norm_num)]
      congr 1
      omega
    have first : (10 : ℚ) ^ ((digitsOf n).length - 1) * 10 ^ e ≤ n * 10 ^ e := by gcongr
    have tiny : (0 : ℚ) < 10 ^ (e + (digitsOf n).length - 2) := by positivity
    linarith
  have ten : (1 : ℚ) < 10 := by norm_num
  have topHigh' := (zpow_lt_zpow_iff_right₀ ten).mp (topLow.trans_lt above)
  have topLow' := (zpow_lt_zpow_iff_right₀ ten).mp (below.trans topHigh)
  omega

end Decimal

/-- A double to which a decimal number of at most fifteen digits rounds has the
digits of that number. -/
theorem shortest_eq {x : Binary64} {n : Nat} {e : Int} (h : x.Nearest (n * 10 ^ e))
    (last : n % 10 ≠ 0) (short : n < 10 ^ 15) :
    x.shortest = ⟨digitsOf n, e + (digitsOf n).length - 1⟩ := by
  have hn : 0 < n := Nat.pos_of_ne_zero fun zero => last (by rw [zero])
  have positive : 0 < x.mantissa := lt_of_lt_of_le (Nat.two_pow_pos 52) h.normal
  have few : (digitsOf n).length ≤ 15 := length_le_of_lt_pow (by decide) short
  have count : 0 < (digitsOf n).length := List.length_pos_of_ne_nil (digitsOf_ne_nil n)
  have trimmed := rdropWhile_digitsOf last
  have coarse {d : Int} (hd : e + (digitsOf n).length - 15 ≤ d) : (2 : ℚ) ^ x.exponent < 10 ^ d :=
    h.exponent_lt.trans_le (zpow_le_zpow_right₀ (by norm_num) hd)
  obtain ⟨low, high⟩ := h.top_bounds hn short
  have start : x.shortest = x.search (floorLogTen x.toRatio.1 x.toRatio.2) (17 + 1)
      (floorLogTen x.toRatio.1 x.toRatio.2) := by
    rw [shortest, if_neg (by simpa [isZero] using positive.ne')]
  rw [start]
  generalize floorLogTen x.toRatio.1 x.toRatio.2 = top at low high
  by_cases reached : e ≤ top
  · have found : x.gridPoint e = some n := gridPoint_eq_some positive (coarse (by omega)) h.covers
    have coarser (d : Int) (above : e < d) (_ : d ≤ top) : x.gridPoint d = none := by
      refine Option.eq_none_iff_forall_ne_some.mpr fun p hp => ?_
      obtain ⟨k, hk⟩ : ∃ k : Nat, d = e + (k + 1 : Nat) := ⟨(d - e - 1).toNat, by omega⟩
      have onGrid : (p : ℚ) * 10 ^ d = (p * 10 ^ (k + 1) : Nat) * 10 ^ e := by
        rw [hk, zpow_add₀ (by norm_num), zpow_natCast]
        push_cast
        ring
      have again :=
        gridPoint_eq_some positive (coarse (d := e) (by omega)) (onGrid ▸ covers_of_gridPoint hp)
      obtain rfl : n = p * 10 ^ (k + 1) := Option.some.inj (found.symm.trans again)
      exact last (by rw [Nat.pow_succ, ← Nat.mul_assoc, Nat.mul_mod_left])
    rw [search_eq found 17 reached (by omega) coarser]
    simpa using trimmed 0
  · -- The number is a power of ten, and the double lies below it.
    have here : top = e - 1 := by omega
    have onGrid : (n : ℚ) * 10 ^ e = (n * 10 ^ 1 : Nat) * 10 ^ (e - 1) := by
      rw [zpow_sub_one₀ (by norm_num)]
      push_cast
      ring
    have found : x.gridPoint top = some (n * 10 ^ 1) := by
      rw [here]
      exact gridPoint_eq_some positive (coarse (by omega)) (onGrid ▸ h.covers)
    rw [search_eq found 17 le_rfl (by omega) fun d above below => absurd above (not_lt.mpr below),
      digitsOf_mul_pow hn, trimmed]
    rw [here, List.length_append, List.length_replicate]
    congr 1
    push_cast
    ring

end Binary64

end PipelineCompiler.Decimal
