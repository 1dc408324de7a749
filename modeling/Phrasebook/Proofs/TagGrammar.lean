import Phrasebook.Proofs.Letters
import Phrasebook.Settings.LocaleTag
import Phrasebook.Text.Blank

/-!
# The grammar of locale tags

A locale tag as a regular expression has it: two or three letters, then any number of groups of a hyphen
or an underscore with two to eight letters and digits. The check that cuts a text at its separators
accepts exactly these texts. A search for the expression also accepts a line feed behind a tag, but no
text ends in one after its blanks are dropped.

## Contents
- `Repeats`, `IsSubtags`, `IsTag`: the grammar
- `isLocaleTag_iff`: the check decides it
- `MatchesTag`, `matchesTag_strip`: what the end of the expression allows, and that it never matters
-/

namespace Phrasebook

/-! ## The grammar -/

/-- Characters **repeat** a class when all are of the class, and there are as many as the bounds allow. -/
structure Repeats (p : Char → Bool) (least most : Nat) (cs : List Char) : Prop where
  least_le : least ≤ cs.length
  le_most : cs.length ≤ most
  all : ∀ c ∈ cs, p c = true

/-- The characters behind the first word of a tag: words of two to eight letters and digits, each with a
separator in front. -/
inductive IsSubtags : List Char → Prop where
  | nil : IsSubtags []
  | cons {sep : Char} {word rest : List Char} (hsep : sep = '-' ∨ sep = '_')
    (hword : Repeats Char.isAlphanum 2 8 word) (hrest : IsSubtags rest) :
    IsSubtags (sep :: (word ++ rest))

/-- Characters are a **locale tag**: two or three letters, and subtags. -/
def IsTag (cs : List Char) : Prop :=
  ∃ language subtags, cs = language ++ subtags ∧ Repeats Char.isAlpha 2 3 language ∧
    IsSubtags subtags

theorem repeats_iff {p : Char → Bool} {least most : Nat} {cs : List Char} :
    (decide (least ≤ cs.length) && decide (cs.length ≤ most) && cs.all p) = true ↔
      Repeats p least most cs := by
  rw [Bool.and_eq_true, Bool.and_eq_true, decide_eq_true_iff, decide_eq_true_iff, List.all_eq_true]
  constructor
  · rintro ⟨⟨hleast, hmost⟩, hall⟩
    exact ⟨hleast, hmost, hall⟩
  · intro h
    exact ⟨⟨h.least_le, h.le_most⟩, h.all⟩

theorem isLanguageWord_iff {word : List Char} :
    isLanguageWord word = true ↔ Repeats Char.isAlpha 2 3 word := repeats_iff

theorem isSubtagWord_iff {word : List Char} :
    isSubtagWord word = true ↔ Repeats Char.isAlphanum 2 8 word := repeats_iff

/-! ## Words and separators

The check turns underscores into hyphens and cuts there. A word of letters and digits is untouched by
that, and it holds no place to cut. -/

/-- A character with the underscore turned into the hyphen. -/
def unifySeparator (c : Char) : Char := if c = '_' then '-' else c

theorem unifySeparator_eq_hyphen {c : Char} : unifySeparator c = '-' ↔ c = '-' ∨ c = '_' := by
  unfold unifySeparator
  by_cases hline : c = '_'
  · simp [hline]
  · simp [hline]

/-- Letters and digits stay as they are. -/
theorem map_unifySeparator {word : List Char} (h : ∀ c ∈ word, c.isAlphanum = true) :
    word.map unifySeparator = word := by
  refine (List.map_congr_left fun c hc => ?_).trans (List.map_id word)
  have hline : c ≠ '_' := Text.ne_of_class (h c hc) rfl
  exact if_neg hline

/-- What has become letters and digits was the same before. -/
theorem eq_of_map_unifySeparator {cs word : List Char} (h : ∀ c ∈ word, c.isAlphanum = true)
    (hmap : cs.map unifySeparator = word) : cs = word := by
  have hsame : cs.map unifySeparator = cs.map id := by
    refine List.map_congr_left fun c hc => ?_
    have hmem : unifySeparator c ∈ word := by
      rw [← hmap]
      exact List.mem_map_of_mem hc
    have hhyphen : unifySeparator c ≠ '-' := Text.ne_of_class (h _ hmem) rfl
    have hline : c ≠ '_' := fun hline => hhyphen (unifySeparator_eq_hyphen.mpr (Or.inr hline))
    exact if_neg hline
  rw [List.map_id] at hsame
  rw [← hsame, hmap]

theorem hyphen_not_mem {word : List Char} (h : ∀ c ∈ word, c.isAlphanum = true) : '-' ∉ word := by
  intro hmem
  exact absurd (h '-' hmem) (by decide)

theorem tagWords_eq (cs : List Char) : tagWords cs = (cs.map unifySeparator).splitOn '-' :=
  Text.splitOn_eq '-' (cs.map unifySeparator)

/-- A word alone is the only one. -/
theorem tagWords_word {word : List Char} (h : ∀ c ∈ word, c.isAlphanum = true) :
    tagWords word = [word] := by
  rw [tagWords_eq, map_unifySeparator h, List.splitOn_eq_singleton (hyphen_not_mem h)]

/-- A word before a separator is the first one. -/
theorem tagWords_append {word rest : List Char} {sep : Char} (h : ∀ c ∈ word, c.isAlphanum = true)
    (hsep : sep = '-' ∨ sep = '_') : tagWords (word ++ sep :: rest) = word :: tagWords rest := by
  rw [tagWords_eq, tagWords_eq, List.map_append, map_unifySeparator h, List.map_cons,
    unifySeparator_eq_hyphen.mpr hsep, List.splitOn_append_cons_self_of_not_mem (hyphen_not_mem h)]

/-- The words of a tag behind its first one are those of its subtags. -/
theorem tagWords_of_isSubtags {first subtags : List Char} (hfirst : ∀ c ∈ first, c.isAlphanum = true)
    (h : IsSubtags subtags) :
    ∃ words, tagWords (first ++ subtags) = first :: words ∧
      ∀ word ∈ words, Repeats Char.isAlphanum 2 8 word := by
  induction h generalizing first with
  | nil =>
    refine ⟨[], ?_, fun word hword => absurd hword List.not_mem_nil⟩
    rw [List.append_nil]
    exact tagWords_word hfirst
  | @cons sep word rest hsep hword hrest ih =>
    obtain ⟨words, hwords, hall⟩ := ih hword.all
    refine ⟨word :: words, ?_, ?_⟩
    · rw [tagWords_append hfirst hsep, hwords]
    · intro other hother
      rcases List.mem_cons.mp hother with rfl | hlater
      · exact hword
      · exact hall other hlater

/-- Words that are fit for subtags and are joined by hyphens come from subtags. -/
theorem isSubtags_of_words {cs first : List Char} {words : List (List Char)}
    (hfirst : ∀ c ∈ first, c.isAlphanum = true)
    (hall : ∀ word ∈ words, Repeats Char.isAlphanum 2 8 word)
    (hjoin : cs.map unifySeparator = ['-'].intercalate (first :: words)) :
    ∃ subtags, cs = first ++ subtags ∧ IsSubtags subtags := by
  induction words generalizing cs first with
  | nil =>
    rw [List.intercalate_singleton] at hjoin
    refine ⟨[], ?_, IsSubtags.nil⟩
    rw [List.append_nil]
    exact eq_of_map_unifySeparator hfirst hjoin
  | cons word words ih =>
    rw [List.intercalate_cons_cons, List.append_assoc, List.singleton_append] at hjoin
    obtain ⟨front, back, rfl, hfront, hback⟩ := List.map_eq_append_iff.mp hjoin
    obtain ⟨sep, rest, rfl, hsep, hrest⟩ := List.map_eq_cons_iff.mp hback
    -- what stands behind the separator is the same for one word less
    have hword := hall word List.mem_cons_self
    obtain ⟨subtags, rfl, hsubtags⟩ :=
      ih hword.all (fun other hother => hall other (List.mem_cons_of_mem word hother)) hrest
    refine ⟨sep :: (word ++ subtags), ?_, ?_⟩
    · rw [eq_of_map_unifySeparator hfirst hfront]
    · exact IsSubtags.cons (unifySeparator_eq_hyphen.mp hsep) hword hsubtags

/-- The letters of a first word are letters and digits. -/
theorem Repeats.isAlphanum {least most : Nat} {word : List Char}
    (h : Repeats Char.isAlpha least most word) : ∀ c ∈ word, c.isAlphanum = true :=
  fun c hc => Text.isAlphanum_of_isAlpha (h.all c hc)

/-- **The check decides the grammar.** -/
theorem isLocaleTag_iff {s : String} : isLocaleTag s = true ↔ IsTag s.toList := by
  constructor
  · intro h
    unfold isLocaleTag at h
    split at h
    · cases h
    · rename_i language words hwords
      rw [Bool.and_eq_true, List.all_eq_true] at h
      obtain ⟨hlanguage, hsubtags⟩ := h
      have hfirst := isLanguageWord_iff.mp hlanguage
      have hall : ∀ word ∈ words, Repeats Char.isAlphanum 2 8 word :=
        fun word hword => isSubtagWord_iff.mp (hsubtags word hword)
      have hjoin : s.toList.map unifySeparator = ['-'].intercalate (language :: words) := by
        rw [← hwords, tagWords_eq, List.intercalate_splitOn]
      obtain ⟨subtags, hcs, hrest⟩ := isSubtags_of_words hfirst.isAlphanum hall hjoin
      exact ⟨language, subtags, hcs, hfirst, hrest⟩
  · rintro ⟨language, subtags, hcs, hlanguage, hsubtags⟩
    obtain ⟨words, hwords, hall⟩ := tagWords_of_isSubtags hlanguage.isAlphanum hsubtags
    unfold isLocaleTag
    rw [hcs, hwords]
    dsimp only
    rw [Bool.and_eq_true, List.all_eq_true]
    exact ⟨isLanguageWord_iff.mpr hlanguage, fun word hword => isSubtagWord_iff.mpr (hall word hword)⟩

/-! ## The end of the expression -/

/-- Characters **match** the expression of a tag up to its end mark: they are a tag, or one with a line
feed behind it. -/
def MatchesTag (cs : List Char) : Prop := IsTag cs ∨ ∃ tag, IsTag tag ∧ cs = tag ++ ['\n']

/-- Without the blanks at its ends a text does not end in a blank. -/
theorem not_isBlank_of_strip {s : String} {c : Char} (h : (Text.strip s).toList.getLast? = some c) :
    Text.isBlank c = false := by
  unfold Text.strip Text.dropBlankEnd at h
  rw [String.toList_ofList, List.getLast?_reverse] at h
  have hhead := List.head?_dropWhile_not Text.isBlank (s.toList.dropWhile Text.isBlank).reverse
  rw [h] at hhead
  exact hhead

/-- **The end mark never matters**: without the blanks at its ends a text that matches is a tag. -/
theorem matchesTag_strip (s : String) :
    MatchesTag (Text.strip s).toList ↔ IsTag (Text.strip s).toList := by
  constructor
  · rintro (htag | ⟨tag, -, hline⟩)
    · exact htag
    · have hlast : (Text.strip s).toList.getLast? = some '\n' := by
        rw [hline]
        exact List.getLast?_concat
      exact absurd (not_isBlank_of_strip hlast) (by decide)
  · exact Or.inl

end Phrasebook
