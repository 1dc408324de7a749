/-!
# Blank characters

The white space that is cut from both ends of a locale tag.

## Contents
- `isBlank`: the blank characters
- `strip`: a text without blanks at its ends
- `strip_eq_self`: a text without blanks is left as it is
-/

namespace Phrasebook.Text

/-- The blank characters: the ASCII blanks and separators, the next-line character, and the space,
line and paragraph separators of Unicode. -/
def isBlank (c : Char) : Bool :=
  let n := c.toNat
  (0x09 ≤ n && n ≤ 0x0d) || (0x1c ≤ n && n ≤ 0x20) || n = 0x85 || n = 0xa0 || n = 0x1680 ||
    (0x2000 ≤ n && n ≤ 0x200a) || n = 0x2028 || n = 0x2029 || n = 0x202f || n = 0x205f || n = 0x3000

/-- The characters without the blanks at the end. -/
def dropBlankEnd (cs : List Char) : List Char := (cs.reverse.dropWhile isBlank).reverse

/-- A text without the blanks at its two ends. -/
def strip (s : String) : String := String.ofList (dropBlankEnd (s.toList.dropWhile isBlank))

/-- Whether a text holds blanks only. -/
def isBlankText (s : String) : Bool := s.toList.all isBlank

theorem dropWhile_isBlank_eq_self {cs : List Char} (h : ∀ c ∈ cs, isBlank c = false) :
    cs.dropWhile isBlank = cs := by
  cases cs with
  | nil => rfl
  | cons c cs =>
    have hc : ¬ isBlank c = true := by simp [h c List.mem_cons_self]
    rw [List.dropWhile_cons_of_neg hc]

/-- A text without blanks is left as it is. -/
theorem strip_eq_self {s : String} (h : ∀ c ∈ s.toList, isBlank c = false) : strip s = s := by
  have hreverse : ∀ c ∈ s.toList.reverse, isBlank c = false := fun c hc =>
    h c (List.mem_reverse.mp hc)
  unfold strip dropBlankEnd
  rw [dropWhile_isBlank_eq_self h, dropWhile_isBlank_eq_self hreverse, List.reverse_reverse,
    String.ofList_toList]

end Phrasebook.Text
