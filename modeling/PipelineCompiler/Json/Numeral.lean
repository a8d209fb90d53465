import PipelineCompiler.Decimal.Word
import PipelineCompiler.Json.Value

namespace PipelineCompiler.Json

structure Numeral where
  negative : Bool
  whole : List Nat
  fraction : List Nat
  /-- Sign and digits of the exponent. -/
  power : Option (Bool × List Nat)
  deriving DecidableEq, Repr, Inhabited

namespace Numeral

def natOf (ds : List Nat) : Nat := ds.foldl (fun n d => 10 * n + d) 0

/-- Takes digits while the number they make fits 64 bits; what is left starts with
the digit that does not. -/
def fill (n : Nat) : List Nat → Nat × List Nat
  | [] => (n, [])
  | d :: ds => if Decimal.InWord 64 (10 * n + d : Nat) then fill (10 * n + d) ds else (n, d :: ds)

/-- The leading digits and the power of ten that they are to be scaled by. Digits of the whole part
that do not fit count as places, those of the fraction are dropped. -/
def scaled (x : Numeral) : Nat × Int :=
  let (n, skipped) := fill 0 x.whole
  let (m, left) := fill n x.fraction
  (m, (skipped.length : Int) - ((x.fraction.length : Int) - (left.length : Int)))

def powerOfTen (k : Nat) : Decimal.Binary64 := (Decimal.Binary64.ofDecimal 1 k).getD .zero

/-- Division by `10 ^ k`, at most 308 places at a time. -/
def divPower (x : Decimal.Binary64) (k : Nat) : Option Decimal.Binary64 :=
  if k ≤ 308 then x.div (powerOfTen k)
  else if x.isZero then some x
  else (x.div (powerOfTen 308)).bind fun y => divPower y (k - 308)
termination_by k

/-- The double for `n * 10 ^ e`, none if it is too large. -/
def scale (n : Nat) (e : Int) : Option Decimal.Binary64 :=
  (Decimal.Binary64.ofNat n).bind fun x =>
    if e < 0 then divPower x e.natAbs
    else if x.isZero then some x
    else if e > 308 then none
    else x.mul (powerOfTen e.natAbs)

def exponent (x : Numeral) : Int :=
  match x.power with
  | none => 0
  | some (negative, ds) => if negative then -(natOf ds : Int) else natOf ds

def isInteger (x : Numeral) : Bool := x.fraction.isEmpty && x.power.isNone

/-- The number, none if it is beyond the largest double. A numeral without fraction and exponent is
an integer if it fits 64 bits. Any other is a double, read in two roundings: its leading digits as
far as they fit 64 bits, then one product or quotient with a power of ten. -/
def value? (x : Numeral) : Option Number :=
  let n := natOf x.whole
  if x.isInteger ∧ x.negative = false ∧ Decimal.InWord 64 n then some (.int n)
  else if x.isInteger ∧ x.negative ∧ 0 < n ∧ Decimal.InWord 64 (-n) then some (.int (-n))
  else
    let (m, e) := x.scaled
    (scale m (e + x.exponent)).map (.double x.negative)

end Numeral

end PipelineCompiler.Json
