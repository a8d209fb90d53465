import Mathlib.Algebra.Order.Ring.Nat
import Mathlib.Data.List.Basic
import Mathlib.Data.List.Induction
import Mathlib.Tactic.Ring
import PipelineCompiler.Decimal.Layout
import PipelineCompiler.Json.Numeral

namespace PipelineCompiler.Decimal

open Json.Numeral (natOf)

theorem digitsOf_of_lt {n : Nat} (h : n < 10) : digitsOf n = [n] := by
  rw [digitsOf, Nat.toDigits_of_lt_base h]
  simpa using Nat.toNat_digitChar_sub_48_of_lt_ten h

theorem digitsOf_ten_mul_add {n d : Nat} (hn : 0 < n) (hd : d < 10) :
    digitsOf (10 * n + d) = digitsOf n ++ [d] := by
  have last : digitsOf d = [d] := digitsOf_of_lt hd
  rw [digitsOf, ← Nat.toDigits_append_toDigits (by decide) hn hd, List.map_append]
  exact congrArg (digitsOf n ++ ·) last

theorem digitsOf_ne_nil (n : Nat) : digitsOf n ≠ [] := by
  simp [digitsOf]

theorem lt_ten_of_mem_digitsOf {n d : Nat} (h : d ∈ digitsOf n) : d < 10 := by
  obtain ⟨c, hc, rfl⟩ := List.mem_map.mp h
  have digit := Nat.isDigit_of_mem_toDigits (by decide) (Nat.le_refl 10) hc
  have high : c ≤ '9' := by
    simp only [Char.isDigit, Bool.and_eq_true, decide_eq_true_eq] at digit
    exact digit.2
  have code : c.toNat ≤ 57 := high
  have zero : '0'.toNat = 48 := rfl
  omega

theorem lt_pow_length (n : Nat) : n < 10 ^ (digitsOf n).length := by
  have enough :=
    (Nat.length_toDigits_le_iff (b := 10) (n := n) (by decide) Nat.length_toDigits_pos).mp
      (Nat.le_refl _)
  simpa [digitsOf] using enough

theorem pow_length_le {n : Nat} (hn : 0 < n) : 10 ^ ((digitsOf n).length - 1) ≤ n := by
  by_contra short
  have count : (digitsOf n).length - 1 ≠ 0 := by
    intro one
    rw [one] at short
    omega
  have fewer :=
    (Nat.length_toDigits_le_iff (b := 10) (by decide) (Nat.pos_of_ne_zero count)).mpr
      (Nat.not_le.mp short)
  have length : (Nat.toDigits 10 n).length = (digitsOf n).length := by simp [digitsOf]
  omega

theorem length_le_of_lt_pow {n k : Nat} (hk : 0 < k) (h : n < 10 ^ k) :
    (digitsOf n).length ≤ k := by
  have enough := (Nat.length_toDigits_le_iff (by decide) hk).mpr h
  simpa [digitsOf] using enough

theorem natOf_concat (l : List Nat) (d : Nat) : natOf (l ++ [d]) = 10 * natOf l + d := by
  simp [natOf]

theorem natOf_append (l m : List Nat) : natOf (l ++ m) = natOf l * 10 ^ m.length + natOf m := by
  induction m using List.reverseRecOn with
  | nil => simp [natOf]
  | append_singleton m d ih =>
    rw [← List.append_assoc, natOf_concat, ih, natOf_concat, List.length_append,
      List.length_singleton]
    ring

theorem natOf_replicate_zero (k : Nat) : natOf (List.replicate k 0) = 0 := by
  induction k with
  | zero => rfl
  | succ k ih => rw [List.replicate_succ', natOf_concat, ih]

theorem natOf_digitsOf (n : Nat) : natOf (digitsOf n) = n := by
  induction n using Nat.strong_induction_on with
  | _ n ih =>
    by_cases small : n < 10
    · simp [digitsOf_of_lt small, natOf]
    · have split : 10 * (n / 10) + n % 10 = n := Nat.div_add_mod n 10
      have digits := digitsOf_ten_mul_add (n := n / 10) (d := n % 10) (by omega) (by omega)
      rw [split] at digits
      rw [digits, natOf_concat, ih (n / 10) (by omega), split]

/-- Digits that do not start with a zero are the digits of their number. -/
theorem digitsOf_natOf {l : List Nat} (digits : ∀ d ∈ l, d < 10) (first : l.head? ≠ some 0)
    (some : l ≠ []) : digitsOf (natOf l) = l := by
  induction l using List.reverseRecOn with
  | nil => exact absurd rfl some
  | append_singleton l d ih =>
    have last : d < 10 := digits d (by simp)
    rw [natOf_concat]
    by_cases alone : l = []
    · subst alone
      simpa [natOf] using digitsOf_of_lt last
    · have front : l.head? ≠ .some 0 := by rwa [List.head?_append_of_ne_nil _ alone] at first
      have kept := ih (fun e he => digits e (by simp [he])) front alone
      have positive : 0 < natOf l := by
        refine Nat.pos_of_ne_zero fun zero => front ?_
        rw [← kept, zero]
        rfl
      rw [digitsOf_ten_mul_add positive last, kept]

theorem digitsOf_mul_pow {n : Nat} (hn : 0 < n) (k : Nat) :
    digitsOf (n * 10 ^ k) = digitsOf n ++ List.replicate k 0 := by
  induction k with
  | zero => simp
  | succ k ih =>
    have shifted : n * 10 ^ (k + 1) = 10 * (n * 10 ^ k) + 0 := by ring
    have positive : 0 < n * 10 ^ k := Nat.mul_pos hn (Nat.pow_pos (by decide))
    rw [shifted, digitsOf_ten_mul_add positive (by decide), ih, List.replicate_succ',
      List.append_assoc]

theorem head_digitsOf {n : Nat} (hn : 0 < n) : (digitsOf n).head? ≠ some 0 := by
  induction n using Nat.strong_induction_on with
  | _ n ih =>
    by_cases small : n < 10
    · simpa [digitsOf_of_lt small] using Nat.ne_of_gt hn
    · have split : 10 * (n / 10) + n % 10 = n := Nat.div_add_mod n 10
      have digits := digitsOf_ten_mul_add (n := n / 10) (d := n % 10) (by omega) (by omega)
      rw [split] at digits
      rw [digits, List.head?_append_of_ne_nil _ (digitsOf_ne_nil _)]
      exact ih (n / 10) (by omega) (by omega)

/-- The last digit is the remainder. -/
theorem getLast?_digitsOf (n : Nat) : (digitsOf n).getLast? = some (n % 10) := by
  by_cases small : n < 10
  · rw [digitsOf_of_lt small, Nat.mod_eq_of_lt small]
    rfl
  · have split : 10 * (n / 10) + n % 10 = n := Nat.div_add_mod n 10
    have digits := digitsOf_ten_mul_add (n := n / 10) (d := n % 10) (by omega) (by omega)
    rw [split] at digits
    rw [digits, List.getLast?_concat]

theorem digitChar_digitValue {c : Char} (h : c.isDigit = true) :
    Nat.digitChar (c.toNat - '0'.toNat) = c := by
  have bounds : 48 ≤ c.toNat ∧ c.toNat ≤ 57 := by
    simp only [Char.isDigit, Bool.and_eq_true, decide_eq_true_eq] at h
    exact ⟨h.1, h.2⟩
  have zero : '0'.toNat = 48 := rfl
  have small : c.toNat - 48 < 10 := by omega
  apply Char.toNat_inj.mp
  rw [zero, Nat.toNat_digitChar_of_lt_ten small]
  omega

theorem map_digitChar_digitsOf (n : Nat) : (digitsOf n).map Nat.digitChar = Nat.toDigits 10 n := by
  rw [digitsOf, List.map_map]
  have same : ∀ c ∈ Nat.toDigits 10 n, (Nat.digitChar ∘ fun c => c.toNat - '0'.toNat) c = c :=
    fun c hc => digitChar_digitValue (Nat.isDigit_of_mem_toDigits (by decide) (Nat.le_refl 10) hc)
  exact (List.map_congr_left same).trans (List.map_id _)

theorem digitText_digitsOf (n : Nat) : digitText (digitsOf n) = toString n := by
  rw [digitText, map_digitChar_digitsOf, Nat.toString_eq_ofList_toDigits]

end PipelineCompiler.Decimal
