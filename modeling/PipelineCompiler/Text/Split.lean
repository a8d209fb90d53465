namespace PipelineCompiler.Text

/-- The parts of a text around a separator. -/
def split (separator : Char) : List Char → List (List Char)
  | [] => [[]]
  | c :: cs =>
      if c = separator then [] :: split separator cs
      else
        match split separator cs with
        | [] => [[c]]
        | p :: ps => (c :: p) :: ps

theorem length_split (separator : Char) (cs : List Char) :
    (split separator cs).length = cs.count separator + 1 := by
  induction cs with
  | nil => rfl
  | cons c cs ih =>
    unfold split
    split
    · next h => simp [ih, h]
    · next h =>
      rw [List.count_cons_of_ne h]
      split
      · next hs => simp [hs] at ih
      · next hs => simpa [hs] using ih

theorem intercalate_split (separator : Char) (cs : List Char) :
    [separator].intercalate (split separator cs) = cs := by
  induction cs with
  | nil => rfl
  | cons c cs ih =>
    have pos := length_split separator cs
    unfold split
    split
    · next h =>
      cases hs : split separator cs with
      | nil => simp [hs] at pos
      | cons p ps => rw [List.intercalate_cons_cons, ← hs, ih, h]; rfl
    · split
      · next hs => simp [hs] at pos
      · next p ps hs =>
        rw [hs] at ih
        cases ps with
        | nil => simpa using ih
        | cons q ps => simpa [List.intercalate_cons_cons] using ih

theorem separator_not_mem_of_mem_split {separator : Char} {cs p : List Char}
    (h : p ∈ split separator cs) : separator ∉ p := by
  induction cs generalizing p with
  | nil => simp_all [split]
  | cons c cs ih =>
    unfold split at h
    split at h
    · rcases List.mem_cons.mp h with rfl | h
      · simp
      · exact ih h
    · next hc =>
      split at h
      · rw [List.mem_singleton.mp h]
        simpa using Ne.symm hc
      · next q qs hs =>
        rcases List.mem_cons.mp h with rfl | h
        · have := ih (p := q) (by simp [hs])
          simp [this, Ne.symm hc]
        · exact ih (by simp [hs, h])

end PipelineCompiler.Text
