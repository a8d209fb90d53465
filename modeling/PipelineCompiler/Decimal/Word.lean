namespace PipelineCompiler.Decimal

/-- Fits a signed or an unsigned word of so many bits. -/
def InWord (bits : Nat) (n : Int) : Prop :=
  -(Nat.pow 2 (bits - 1) : Int) ≤ n ∧ n < (Nat.pow 2 bits : Int)

instance (bits : Nat) (n : Int) : Decidable (InWord bits n) :=
  inferInstanceAs (Decidable (_ ∧ _))

theorem inWord_zero (bits : Nat) : InWord bits 0 := by
  have : ∀ k, 0 < Nat.pow 2 k := fun k => Nat.two_pow_pos k
  unfold InWord
  have := this bits
  omega

end PipelineCompiler.Decimal
