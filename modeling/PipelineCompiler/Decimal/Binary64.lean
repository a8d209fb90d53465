namespace PipelineCompiler.Decimal

/-- A finite double without a sign, as the exact number `mantissa * 2 ^ exponent`. -/
structure Binary64 where
  mantissa : Nat
  exponent : Int
  deriving DecidableEq, Repr, Inhabited

namespace Binary64

def zero : Binary64 := ⟨0, -1074⟩

def isZero (x : Binary64) : Bool := x.mantissa == 0

/-- The quotient rounded to the nearest integer, ties to even. -/
def roundDiv (num den : Nat) : Nat :=
  let q := num / den
  let r := num % den
  if 2 * r > den ∨ (2 * r = den ∧ q % 2 = 1) then q + 1 else q

/-- A positive ratio as a fraction in the unit `2 ^ e`. -/
def inUnit (num den : Nat) (e : Int) : Nat × Nat :=
  if e < 0 then (num * Nat.pow 2 e.natAbs, den) else (num, den * Nat.pow 2 e.natAbs)

/-- The integer `k` with `2 ^ k ≤ num / den < 2 ^ (k + 1)`. -/
def floorLog (num den : Nat) : Int :=
  let k := (num.log2 : Int) - (den.log2 : Int)
  let (a, b) := inUnit num den k
  if b ≤ a then k else k - 1

/-- The double nearest to a ratio, the even mantissa winning a tie; none
beyond the largest double. -/
def ofRatio (num den : Nat) : Option Binary64 :=
  if num = 0 then some zero
  else
    let e := max (floorLog num den - 52) (-1074)
    let (a, b) := inUnit num den e
    let m := roundDiv a b
    let x : Binary64 := if m = Nat.pow 2 53 then ⟨Nat.pow 2 52, e + 1⟩ else ⟨m, e⟩
    if x.exponent > 971 then none else some x

def ofNat (n : Nat) : Option Binary64 := ofRatio n 1

/-- The exact value as a ratio. -/
def toRatio (x : Binary64) : Nat × Nat :=
  if x.exponent < 0 then (x.mantissa, Nat.pow 2 x.exponent.natAbs)
  else (x.mantissa * Nat.pow 2 x.exponent.natAbs, 1)

def mul (x y : Binary64) : Option Binary64 :=
  ofRatio (x.toRatio.1 * y.toRatio.1) (x.toRatio.2 * y.toRatio.2)

def div (x y : Binary64) : Option Binary64 :=
  ofRatio (x.toRatio.1 * y.toRatio.2) (x.toRatio.2 * y.toRatio.1)

/-- The double nearest to `n * 10 ^ e`. Far below the smallest double the power is not computed. -/
def ofDecimal (n : Nat) (e : Int) : Option Binary64 :=
  if n = 0 then some zero
  else if e < 0 then
    if (n.log2 : Int) + 1 + 3 * e < -1080 then some zero else ofRatio n (Nat.pow 10 e.natAbs)
  else if e > 310 then none
  else ofRatio (n * Nat.pow 10 e.natAbs) 1

end Binary64

end PipelineCompiler.Decimal
