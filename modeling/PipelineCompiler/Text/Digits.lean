namespace PipelineCompiler.Text

def digitValue (c : Char) : Nat := c.toNat - '0'.toNat

def hexValue? (c : Char) : Option Nat :=
  if c.isDigit then some (digitValue c)
  else if 'a' ≤ c ∧ c ≤ 'f' then some (c.toNat - 'a'.toNat + 10)
  else if 'A' ≤ c ∧ c ≤ 'F' then some (c.toNat - 'A'.toNat + 10)
  else none

def digit? (radix : Nat) (c : Char) : Option Nat := (hexValue? c).filter (· < radix)

/-- One digit or more, and nothing else. -/
def natural? (radix : Nat) (cs : List Char) : Option Nat :=
  if cs.isEmpty then none else cs.foldlM (fun n c => (digit? radix c).map (radix * n + ·)) 0

/-- The character whose code point the hexadecimal digits spell. -/
def codePoint? (cs : List Char) : Option Char := do
  let n ← natural? 16 cs
  if (0xd800 ≤ n ∧ n ≤ 0xdfff) ∨ n > 0x10ffff then none else some (Char.ofNat n)

end PipelineCompiler.Text
