import PipelineCompiler.Proofs.Decimal.Digits
import PipelineCompiler.Proofs.Yaml.Flow

namespace PipelineCompiler.Decimal

theorem lt_ten_of_mem_search {x : Binary64} {top e : Int} {n d : Nat}
    (h : d ∈ (x.search top n e).digits) : d < 10 := by
  induction n generalizing e with
  | zero => exact lt_ten_of_mem_digitsOf h
  | succ n ih =>
    rw [Binary64.search] at h
    split at h
    · next p _ =>
      have inside : d ∈ (digitsOf p).reverse :=
        (List.dropWhile_sublist _).subset (List.mem_reverse.mp h)
      exact lt_ten_of_mem_digitsOf (List.mem_reverse.mp inside)
    · exact ih h

theorem lt_ten_of_mem_shortest {x : Binary64} {d : Nat} (h : d ∈ x.shortest.digits) : d < 10 := by
  unfold Binary64.shortest at h
  split at h
  · rw [List.mem_singleton.mp h]
    decide
  · exact lt_ten_of_mem_search h

end PipelineCompiler.Decimal

namespace PipelineCompiler.Yaml

open Decimal (Digits digitText positionalText scientificText)

/-- A word or a number without a sign. -/
structure IsUnsigned (text : String) : Prop where
  bare : IsBare text
  first : ∃ c cs, text.toList = c :: cs ∧ c.isAlphanum = true

theorem IsUnsigned.append {s t : String} (hs : IsUnsigned s) (ht : IsBare t) :
    IsUnsigned (s ++ t) := by
  refine ⟨hs.bare.append ht, ?_⟩
  obtain ⟨c, cs, chars, letter⟩ := hs.first
  exact ⟨c, cs ++ t.toList, by rw [String.toList_append, chars]; rfl, letter⟩

theorem IsUnsigned.isBareText {text : String} (h : IsUnsigned text) : IsBareText text := by
  obtain ⟨c, cs, chars, letter⟩ := h.first
  exact ⟨h.bare, chars ▸ .unsigned letter⟩

theorem IsUnsigned.isBareText_minus {text : String} (h : IsUnsigned text) :
    IsBareText ("-" ++ text) := by
  obtain ⟨c, cs, chars, letter⟩ := h.first
  have minus : IsBare "-" := by decide
  refine ⟨minus.append h.bare, ?_⟩
  rw [String.toList_append, chars]
  exact .signed letter

theorem isAlphanum_digitChar {d : Nat} (h : d < 10) : (Nat.digitChar d).isAlphanum = true := by
  have digit : (Nat.digitChar d).isDigit = true := by simpa [Nat.isDigit_digitChar] using h
  simp [Char.isAlphanum, digit]

theorem isBare_digitText {ds : List Nat} (digits : ∀ d ∈ ds, d < 10) : IsBare (digitText ds) := by
  intro c hc
  obtain ⟨d, hd, rfl⟩ : ∃ d ∈ ds, Nat.digitChar d = c := by simpa [digitText] using hc
  exact isBare_of_isAlphanum (isAlphanum_digitChar (digits d hd))

theorem isUnsigned_digitText {ds : List Nat} (some : ds ≠ []) (digits : ∀ d ∈ ds, d < 10) :
    IsUnsigned (digitText ds) := by
  refine ⟨isBare_digitText digits, ?_⟩
  obtain ⟨d, rest, rfl⟩ := List.exists_cons_of_ne_nil some
  exact ⟨Nat.digitChar d, rest.map Nat.digitChar, by simp [digitText],
    isAlphanum_digitChar (digits d (by simp))⟩

theorem isUnsigned_toString (n : Nat) : IsUnsigned (toString n) := by
  rw [← Decimal.digitText_digitsOf]
  exact isUnsigned_digitText (Decimal.digitsOf_ne_nil n) fun _ => Decimal.lt_ten_of_mem_digitsOf

section Digits

variable {d : Digits} (digits : ∀ n ∈ d.digits, n < 10)

include digits

theorem isUnsigned_positionalText : IsUnsigned (positionalText d) := by
  have zeros {k n : Nat} (hn : n ∈ List.replicate k 0) : n < 10 := by
    rw [List.eq_of_mem_replicate hn]
    decide
  rw [positionalText]
  split
  · have start : IsUnsigned "0." := ⟨by decide, '0', ['.'], rfl, rfl⟩
    refine start.append (isBare_digitText fun n hn => ?_)
    exact (List.mem_append.mp hn).elim zeros (digits n)
  · dsimp only
    have point : IsBare "." := by decide
    refine ((isUnsigned_digitText ?_ fun n hn => ?_).append point).append ?_
    · apply List.ne_nil_of_length_pos
      rw [List.length_append, List.length_replicate]
      omega
    · exact (List.mem_append.mp hn).elim (fun hn => digits n (List.mem_of_mem_take hn)) zeros
    · split
      · decide
      · exact isBare_digitText fun n hn => digits n (List.mem_of_mem_drop hn)

theorem isUnsigned_scientificText : IsUnsigned (scientificText d) := by
  have fraction : IsBare (if (d.digits.drop 1).isEmpty then ""
      else "." ++ digitText (d.digits.drop 1)) := by
    have point : IsBare "." := by decide
    split
    · decide
    · exact point.append (isBare_digitText fun n hn => digits n (List.mem_of_mem_drop hn))
  have sign : IsBare (if d.exponent < 0 then "-" else "+") := by split <;> decide
  have power : IsBare "e" := by decide
  have exponent := (isUnsigned_toString d.exponent.natAbs).bare
  rw [scientificText]
  refine IsUnsigned.append (IsUnsigned.append ?_ sign) exponent
  cases none : d.digits with
  | nil => exact ⟨by simpa [digitText] using power, 'e', [], by simp [digitText], rfl⟩
  | cons n ns =>
    rw [none] at fraction
    have front : ∀ m ∈ [n], m < 10 := by simpa using digits n (by simp [none])
    exact ((isUnsigned_digitText (by simp) front).append fraction).append power

end Digits

/-- Every number is written as a plain scalar. -/
theorem isBareText_number (n : Json.Number) : IsBareText n.text := by
  cases n with
  | int n =>
    cases n with
    | ofNat n => exact (isUnsigned_toString n).isBareText
    | negSucc n => exact (isUnsigned_toString (n + 1)).isBareText_minus
  | double negative x =>
    have digits : ∀ n ∈ x.shortest.digits, n < 10 := fun _ => Decimal.lt_ten_of_mem_shortest
    have magnitude : IsUnsigned (if Json.layout.positional x.shortest.exponent
        then positionalText x.shortest else scientificText x.shortest) := by
      split
      · exact isUnsigned_positionalText digits
      · exact isUnsigned_scientificText digits
    rw [Json.Number.text, Decimal.Layout.text]
    cases negative with
    | true => exact magnitude.isBareText_minus
    | false => exact String.empty_append.symm ▸ magnitude.isBareText

end PipelineCompiler.Yaml
