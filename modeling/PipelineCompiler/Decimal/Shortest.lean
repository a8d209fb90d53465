import PipelineCompiler.Decimal.Binary64

namespace PipelineCompiler.Decimal

/-- `d₀.d₁d₂… * 10 ^ exponent`, without trailing zeros. -/
structure Digits where
  digits : List Nat
  exponent : Int
  deriving DecidableEq, Repr, Inhabited

/-- The digits of a number, most significant first. -/
def digitsOf (n : Nat) : List Nat := (Nat.toDigits 10 n).map fun c => c.toNat - '0'.toNat

/-- A positive ratio as a fraction in the unit `10 ^ e`. -/
def inTens (num den : Nat) (e : Int) : Nat × Nat :=
  if e < 0 then (num * Nat.pow 10 e.natAbs, den) else (num, den * Nat.pow 10 e.natAbs)

/-- The integer `k` with `10 ^ k ≤ num / den < 10 ^ (k + 1)`. -/
def floorLogTen (num den : Nat) : Int :=
  let k := ((digitsOf num).length : Int) - ((digitsOf den).length : Int)
  let (a, b) := inTens num den k
  if b ≤ a then k else k - 1

namespace Binary64

/-- The reals that round to a double, in the unit of a quarter of its last place:
lower end, upper end. -/
def interval (x : Binary64) : Nat × Nat :=
  (4 * x.mantissa - (if x.mantissa = Nat.pow 2 52 ∧ x.exponent > -1074 then 1 else 2),
    4 * x.mantissa + 2)

/-- Whether the ratio `num / den` rounds to a double. -/
def covers (x : Binary64) (num den : Nat) : Bool :=
  let (low, high) := x.interval
  let (a, b) := inUnit num den (x.exponent - 2)
  if x.mantissa % 2 = 0 then low * b ≤ a && a ≤ high * b else low * b < a && a < high * b

/-- The point of the grid `10 ^ e` to choose for a double, if one rounds to it: the nearer of its
two neighbours, the even one of two equally near. -/
def gridPoint (x : Binary64) (e : Int) : Option Nat :=
  let (num, den) := x.toRatio
  let (a, b) := inTens num den e
  let q := a / b
  let r := a % b
  let inside (n : Nat) : Bool :=
    if e < 0 then x.covers n (Nat.pow 10 e.natAbs) else x.covers (n * Nat.pow 10 e.natAbs) 1
  let nearer := 2 * r < b ∨ (2 * r = b ∧ q % 2 = 0)
  if inside q && (!inside (q + 1) || nearer) then some q
  else if inside (q + 1) then some (q + 1) else none

/-- Tries one digit, then two, and so on. -/
def search (x : Binary64) (top : Int) : Nat → Int → Digits
  | 0, e => ⟨digitsOf ((x.gridPoint e).getD 0), top⟩
  | n + 1, e =>
      match x.gridPoint e with
      | some p =>
          let ds := digitsOf p
          ⟨(ds.reverse.dropWhile (· == 0)).reverse, e + ds.length - 1⟩
      | none => search x top n (e - 1)

/-- The fewest decimal digits that read back as a double, and of those the nearest to it. -/
def shortest (x : Binary64) : Digits :=
  if x.isZero then ⟨[0], 0⟩
  else
    let (num, den) := x.toRatio
    let top := floorLogTen num den
    search x top 18 top

end Binary64

end PipelineCompiler.Decimal
