import Phrasebook.Proofs.PlainWord
import Phrasebook.Proofs.Values
import Phrasebook.Yaml.Scalar

/-!
# Locale tags

The locale tags are the texts that settings accept as they are for a locale. They are words, so they may
stand in a YAML text without quotes. A tag means itself there, unless it is one of the short words that
YAML has for truth values.

## Contents
- `isWord_of_isLocaleTag`: tags are words
- `AcceptsUnchanged`, `acceptsUnchanged_iff`: the texts that are accepted as they are
- `truthTags`: the tags that mean a truth value
- `ofPlain_tag`: the type of a tag without quotes
-/

namespace Phrasebook

open Yaml

/-! ## Tags are words -/

/-- Tags are words between separators: a first one of letters, and others of letters and digits. -/
theorem words_of_isLocaleTag {tag : String} (h : isLocaleTag tag = true) :
    ∃ language subtags, tagWords tag.toList = language :: subtags ∧
      language ≠ [] ∧ (∀ c ∈ language, c.isAlpha = true) ∧
      ∀ word ∈ subtags, ∀ c ∈ word, c.isAlphanum = true := by
  unfold isLocaleTag at h
  split at h
  · cases h
  · rename_i language subtags hwords
    simp only [isLanguageWord, isSubtagWord, Bool.and_eq_true, List.all_eq_true,
      decide_eq_true_iff] at h
    obtain ⟨⟨⟨hlength, -⟩, hletters⟩, hsubtags⟩ := h
    refine ⟨language, subtags, hwords, ?_, hletters, fun word hword => (hsubtags word hword).2⟩
    rintro rfl
    exact absurd hlength (by decide)

/-- The characters of a tag are those of words. -/
theorem isNameChar_of_mem_tag {tag : String} {c : Char} (h : isLocaleTag tag = true)
    (hc : c ∈ tag.toList) : isNameChar c = true := by
  obtain ⟨language, subtags, hwords, -, hletters, hsubtags⟩ := words_of_isLocaleTag h
  by_cases hline : c = '_'
  · rw [hline]
    rfl
  · have hmem : c ∈ tag.toList.map fun c => if c = '_' then '-' else c :=
      List.mem_map.mpr ⟨c, hc, if_neg hline⟩
    have hparts : c = '-' ∨ ∃ word ∈ tagWords tag.toList, c ∈ word := Text.mem_splitOn hmem
    rcases hparts with hsep | ⟨word, hword, hcword⟩
    · rw [hsep]
      rfl
    · apply isNameChar_of_isAlphanum
      rw [hwords] at hword
      rcases List.mem_cons.mp hword with rfl | hsubtag
      · exact Text.isAlphanum_of_isAlpha (hletters c hcword)
      · exact hsubtags word hsubtag c hcword

/-- **Tags are words**: they start with a letter. -/
theorem isWord_of_isLocaleTag {tag : String} (h : isLocaleTag tag = true) : IsWord tag.toList := by
  have hnames : ∀ c ∈ tag.toList, isNameChar c = true := fun c hc => isNameChar_of_mem_tag h hc
  obtain ⟨language, subtags, hwords, hne, hletters, -⟩ := words_of_isLocaleTag h
  unfold tagWords at hwords
  cases hcs : tag.toList with
  | nil =>
    rw [hcs] at hwords
    exact absurd (List.cons.inj hwords).1.symm hne
  | cons c cs =>
    rw [hcs] at hnames hwords
    refine ⟨c, cs, rfl, ?_, fun d hd => hnames d (List.mem_cons_of_mem c hd)⟩
    cases language with
    | nil => exact absurd rfl hne
    | cons d ds =>
      have hhead : (if c = '_' then '-' else c) = d := Text.head_of_splitOn hwords
      have hd := hletters d List.mem_cons_self
      by_cases hline : c = '_'
      · rw [if_pos hline] at hhead
        exact absurd hhead.symm (Text.ne_of_class hd rfl)
      · rw [if_neg hline] at hhead
        rw [hhead]
        exact hd

/-! ## Tags are accepted as they are -/

namespace Settings

/-- A text is **accepted unchanged** as a locale when settings made of it alone hold it as it is, be it
given for the fallback locale or for the default one. -/
structure AcceptsUnchanged (tag : String) : Prop where
  fallback : ofValues [(.text Setting.fallback.key, .text tag)] = .ok { fallback := some tag }
  defaultLocale :
    ofValues [(.text Setting.defaultLocale.key, .text tag)] = .ok { defaultLocale := tag }

/-- A tag that is read is one. -/
theorem isLocaleTag_of_readTag {setting : Setting} {s tag : String} (h : readTag setting s = .ok tag) :
    isLocaleTag tag = true := by
  unfold readTag at h
  dsimp only at h
  split at h
  · rename_i htag
    cases h
    exact htag
  · cases h

/-- No character of a tag is blank. -/
theorem isBlank_of_mem_tag {tag : String} {c : Char} (h : isLocaleTag tag = true)
    (hc : c ∈ tag.toList) : Text.isBlank c = false := by
  obtain ⟨hleast, hgreatest⟩ := code_of_isNameChar (isNameChar_of_mem_tag h hc)
  unfold Text.isBlank
  simp only [Bool.or_eq_false_iff, Bool.and_eq_false_iff, decide_eq_false_iff_not]
  omega

theorem strip_tag {tag : String} (h : isLocaleTag tag = true) : Text.strip tag = tag :=
  Text.strip_eq_self fun _ hc => isBlank_of_mem_tag h hc

theorem isBlankText_tag {tag : String} (h : isLocaleTag tag = true) :
    Text.isBlankText tag = false := by
  obtain ⟨c, cs, hcs, -, -⟩ := isWord_of_isLocaleTag h
  have hc : c ∈ tag.toList := by
    rw [hcs]
    exact List.mem_cons_self
  have hblank := isBlank_of_mem_tag h hc
  exact List.all_eq_false.mpr ⟨c, hc, by rw [hblank]; exact Bool.false_ne_true⟩

theorem readTag_tag {tag : String} (h : isLocaleTag tag = true) (setting : Setting) :
    readTag setting tag = .ok tag := by
  unfold readTag
  simp only [strip_tag h, h, if_true]

/-- **The texts that are accepted unchanged** are the locale tags. -/
theorem acceptsUnchanged_iff {tag : String} : AcceptsUnchanged tag ↔ isLocaleTag tag = true := by
  constructor
  · intro h
    have hread : readTag .defaultLocale tag = .ok tag :=
      (ofValues_eq_ok_iff.mp h.defaultLocale).defaultLocale
    exact isLocaleTag_of_readTag hread
  · intro h
    have hfallback : readFallback .fallback (some (.text tag)) = .ok (some tag) := by
      unfold readFallback
      simp only [isBlankText_tag h, readTag_tag h, Bool.false_eq_true, if_false]
      rfl
    have hlocale : readLocale .defaultLocale "en" (some (.text tag)) = .ok tag :=
      readTag_tag h .defaultLocale
    have hapart : ({} : Settings).dartOut ≠ ({} : Settings).typeScriptOut := by
      decide +kernel
    constructor
    · exact ofValues_eq_ok_iff.mpr ⟨rfl, rfl, rfl, rfl, rfl, hfallback, rfl, hapart⟩
    · exact ofValues_eq_ok_iff.mpr ⟨rfl, rfl, rfl, rfl, rfl, rfl, hlocale, hapart⟩

end Settings

/-! ## What a tag means without quotes -/

/-- The tags that are **words for truth values**. -/
def truthTags : List String :=
  ["yes", "Yes", "YES", "no", "No", "NO", "on", "On", "ON", "off", "Off", "OFF"]

/-- No tag is a word for no value. -/
theorem isNullWord_tag {tag : String} (h : isLocaleTag tag = true) : isNullWord tag = false := by
  have hwords : ∀ w ∈ "" :: "~" :: cased "null", isLocaleTag w = false := by decide +kernel
  unfold isNullWord
  rw [List.contains_eq_mem]
  refine decide_eq_false fun hmem => ?_
  rw [hwords tag hmem] at h
  cases h

/-- Of the words for truth values those with up to three letters are tags. -/
theorem isBoolWord_tag_iff {tag : String} (h : isLocaleTag tag = true) :
    isBoolWord tag = true ↔ tag ∈ truthTags := by
  have hwords : ∀ w ∈ ["yes", "no", "true", "false", "on", "off"].flatMap cased,
      w ∈ truthTags ∨ isLocaleTag w = false := by decide +kernel
  have htruth : ∀ w ∈ truthTags, isBoolWord w = true := by decide +kernel
  constructor
  · intro hbool
    unfold isBoolWord at hbool
    rw [List.contains_eq_mem, decide_eq_true_iff] at hbool
    rcases hwords tag hbool with hmem | hno
    · exact hmem
    · rw [hno] at h
      cases h
  · exact htruth tag

/-- **The type of a tag** without quotes: a truth value for the words for those, and else a text. -/
theorem ofPlain_tag {tag : String} (h : isLocaleTag tag = true) :
    ValueType.ofPlain tag = if tag ∈ truthTags then .bool else .text := by
  rw [ofPlain_word (isWord_of_isLocaleTag h), isNullWord_tag h]
  simp only [isBoolWord_tag_iff h]
  rfl

/-- A tag that is a word for a truth value means that value. -/
theorem boolOfText_truthTag {tag : String} (h : tag ∈ truthTags) :
    ∃ b, Scalar.boolOfText tag = .ok b := by
  have hwords : ∀ w ∈ truthTags, ["yes", "true", "on"].contains (Text.toSmall w) = true ∨
      ["no", "false", "off"].contains (Text.toSmall w) = true := by decide +kernel
  unfold Scalar.boolOfText
  dsimp only
  by_cases hyes : ["yes", "true", "on"].contains (Text.toSmall tag) = true
  · exact ⟨true, if_pos hyes⟩
  · have hno := (hwords tag h).resolve_left hyes
    exact ⟨false, by rw [if_neg hyes, if_pos hno]⟩

end Phrasebook
