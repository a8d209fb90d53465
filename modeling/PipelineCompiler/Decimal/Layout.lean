import PipelineCompiler.Decimal.Shortest

namespace PipelineCompiler.Decimal

/-- How a decimal number is laid out: which exponents are written positionally.
Positional text always has a point; scientific text shows the sign of its exponent and
neither pads it nor adds a fraction. -/
structure Layout where
  positional : Int → Bool

def digitText (ds : List Nat) : String := String.ofList (ds.map Nat.digitChar)

def positionalText (d : Digits) : String :=
  if d.exponent < 0 then
    "0." ++ digitText (List.replicate (d.exponent.natAbs - 1) 0 ++ d.digits)
  else
    let whole := d.exponent.natAbs + 1
    let front := d.digits.take whole
    let back := d.digits.drop whole
    digitText (front ++ List.replicate (whole - front.length) 0) ++ "." ++
      (if back.isEmpty then "0" else digitText back)

def scientificText (d : Digits) : String :=
  let fraction := d.digits.drop 1
  digitText (d.digits.take 1) ++ (if fraction.isEmpty then "" else "." ++ digitText fraction) ++
    "e" ++ (if d.exponent < 0 then "-" else "+") ++ toString d.exponent.natAbs

def Layout.text (layout : Layout) (negative : Bool) (x : Binary64) : String :=
  let d := x.shortest
  (if negative then "-" else "") ++
    (if layout.positional d.exponent then positionalText d else scientificText d)

/-- Positional at every size. -/
def Layout.plain : Layout := ⟨fun _ => true⟩

end PipelineCompiler.Decimal
