/-!
# Splitting

A text cut at every occurrence of a separating character.

## Contents
- `splitOn`: the parts between the separators
- `splitOn_ne_nil`: there is always a part
- `splitOn_of_not_mem`: there is only one where the separator does not occur
- `mem_splitOn`, `head_of_splitOn`, `not_mem_of_mem_splitOn`: the characters of the parts
- `splitOn_eq`: the parts are those of the library's cut
-/

namespace Phrasebook.Text

/-- The parts between the separators, one more than there are separators. -/
def splitOn (sep : Char) : List Char → List (List Char)
  | [] => [[]]
  | c :: cs =>
    match splitOn sep cs with
    | [] => [[c]]
    | part :: parts => if c = sep then [] :: part :: parts else (c :: part) :: parts

theorem splitOn_ne_nil (sep : Char) (cs : List Char) : splitOn sep cs ≠ [] := by
  cases cs with
  | nil => simp [splitOn]
  | cons c cs =>
    simp only [splitOn]
    split
    · simp
    · split <;> simp

/-- What one more character in front makes of the parts. -/
theorem splitOn_cons {sep c : Char} {cs part : List Char} {parts : List (List Char)}
    (h : splitOn sep cs = part :: parts) :
    splitOn sep (c :: cs) =
      if c = sep then [] :: part :: parts else (c :: part) :: parts := by
  rw [splitOn, h]

/-- Where the separator does not occur there is one part. -/
theorem splitOn_of_not_mem {sep : Char} {cs : List Char} (h : sep ∉ cs) : splitOn sep cs = [cs] := by
  induction cs with
  | nil => rfl
  | cons c cs ih =>
    rw [List.mem_cons, not_or] at h
    obtain ⟨hc, hcs⟩ := h
    rw [splitOn_cons (ih hcs)]
    exact if_neg (Ne.symm hc)

/-- Every character stands in a part, unless it separates parts. -/
theorem mem_splitOn {sep c : Char} {cs : List Char} (h : c ∈ cs) :
    c = sep ∨ ∃ part ∈ splitOn sep cs, c ∈ part := by
  induction cs with
  | nil => cases h
  | cons d cs ih =>
    cases hparts : splitOn sep cs with
    | nil => exact absurd hparts (splitOn_ne_nil sep cs)
    | cons first parts =>
      rw [hparts] at ih
      rw [splitOn_cons hparts]
      by_cases hd : d = sep
      · rw [if_pos hd]
        rcases List.mem_cons.mp h with rfl | hcs
        · exact Or.inl hd
        · rcases ih hcs with heq | ⟨part, hpart, hc⟩
          · exact Or.inl heq
          · exact Or.inr ⟨part, List.mem_cons_of_mem [] hpart, hc⟩
      · rw [if_neg hd]
        rcases List.mem_cons.mp h with rfl | hcs
        · exact Or.inr ⟨c :: first, List.mem_cons_self, List.mem_cons_self⟩
        · rcases ih hcs with heq | ⟨part, hpart, hc⟩
          · exact Or.inl heq
          · rcases List.mem_cons.mp hpart with rfl | hlater
            · exact Or.inr ⟨d :: part, List.mem_cons_self, List.mem_cons_of_mem d hc⟩
            · exact Or.inr ⟨part, List.mem_cons_of_mem (d :: first) hlater, hc⟩

/-- A first part that is not empty starts where the text does. -/
theorem head_of_splitOn {sep c d : Char} {cs ds : List Char} {parts : List (List Char)}
    (h : splitOn sep (c :: cs) = (d :: ds) :: parts) : c = d := by
  cases hparts : splitOn sep cs with
  | nil => exact absurd hparts (splitOn_ne_nil sep cs)
  | cons first later =>
    rw [splitOn_cons hparts] at h
    split at h
    · cases h
    · cases h
      rfl

/-- No part holds the separator. -/
theorem not_mem_of_mem_splitOn {sep : Char} {cs part : List Char} (h : part ∈ splitOn sep cs) :
    sep ∉ part := by
  induction cs generalizing part with
  | nil =>
    rw [List.mem_singleton.mp h]
    exact List.not_mem_nil
  | cons c cs ih =>
    obtain ⟨first, parts, hparts⟩ := List.exists_cons_of_ne_nil (splitOn_ne_nil sep cs)
    rw [hparts] at ih
    rw [splitOn_cons hparts] at h
    split at h
    · rcases List.mem_cons.mp h with rfl | hold
      · exact List.not_mem_nil
      · exact ih hold
    · rename_i hc
      rcases List.mem_cons.mp h with rfl | hold
      · rw [List.mem_cons, not_or]
        exact ⟨Ne.symm hc, ih List.mem_cons_self⟩
      · exact ih (List.mem_cons_of_mem first hold)

/-- **The parts are those of the library's cut**, so what is known of that holds of them. -/
theorem splitOn_eq (sep : Char) (cs : List Char) : splitOn sep cs = cs.splitOn sep := by
  induction cs with
  | nil => rfl
  | cons c cs ih =>
    obtain ⟨part, parts, hparts⟩ := List.exists_cons_of_ne_nil (splitOn_ne_nil sep cs)
    rw [splitOn_cons hparts, List.splitOn_cons_eq_if_modifyHead, ← ih, hparts]
    simp only [beq_iff_eq, List.modifyHead_cons]

end Phrasebook.Text
