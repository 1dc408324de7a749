import Phrasebook.Proofs.LocaleTag
import Phrasebook.Proofs.YamlLine
import Phrasebook.Settings.Load

/-!
# A locale in the settings file

A locale tag that is given for a setting on the command line may as well stand in the settings file, in
a line of its own and without quotes. The settings come to the same, with the exception of the tags
that YAML takes for truth values: these are refused, as a truth value is no text.

## Contents
- `readValues_of_tag`: the values in a file that gives one locale
- `loadSettings_of_tag`: the settings from such a file
-/

namespace Phrasebook

open Yaml

/-- The key of a setting is a word, and it means a text. -/
theorem isWord_key (setting : Setting) : IsWord setting.key.toList := by
  cases setting <;> decide +kernel

theorem ofPlain_key (setting : Setting) : ValueType.ofPlain setting.key = .text := by
  have hnull : isNullWord setting.key = false := by
    cases setting <;> decide +kernel
  have hbool : isBoolWord setting.key = false := by
    cases setting <;> decide +kernel
  rw [ofPlain_word (isWord_key setting), hnull, hbool]
  rfl

namespace Workspace

variable {w : Workspace} {p : Path} {setting : Setting} {tag lineEnd : String}

/-- **The values in a file that gives a locale**: the tag as a text, or a value of another kind where the
tag is a word for a truth value. -/
theorem readValues_of_tag (htag : isLocaleTag tag = true) (hend : lineEnd ∈ lineEnds)
    (hfile : w.read p = .ok (setting.key ++ ": " ++ tag ++ lineEnd).toUTF8) :
    w.readValues p =
      .ok [(.text setting.key, if tag ∈ truthTags then .other else .text tag)] := by
  have hkey := isWord_key setting
  have hlength : setting.key.length ≤ 1024 := by
    cases setting <;> decide
  have hword := isWord_of_isLocaleTag htag
  have htype := ofPlain_tag htag
  unfold readValues
  rw [hfile]
  by_cases htruth : tag ∈ truthTags
  · obtain ⟨b, hb⟩ := boolOfText_truthTag htruth
    rw [if_pos htruth] at htype ⊢
    simp only [read_line_bool hkey hlength hword hend (ofPlain_key setting) htype hb]
    rfl
  · rw [if_neg htruth] at htype ⊢
    simp only [read_line_text hkey hlength hword hend (ofPlain_key setting) htype]
    rfl

/-- The settings from a file alone are those that its values give. -/
theorem loadSettings_of_readValues {values : Settings.Values} (h : w.readValues p = .ok values) :
    w.loadSettings (some p) [] = (Settings.ofValues values).mapError .failure := by
  unfold loadSettings
  simp only [h]
  rfl

/-- The settings without a file are those that the values besides give. -/
theorem loadSettings_none (w : Workspace) (name tag : String) :
    w.loadSettings none [(name, .text tag)] =
      (Settings.ofValues [(.text name, .text tag)]).mapError .failure := rfl

/-- **A locale means the same in the settings file as among the values given besides**, unless it is a
word for a truth value. Such a word is no text in the file, and is refused. -/
theorem loadSettings_of_tag (hsetting : setting = .fallback ∨ setting = .defaultLocale)
    (htag : Settings.AcceptsUnchanged tag) (hend : lineEnd ∈ lineEnds)
    (hfile : w.read p = .ok (setting.key ++ ": " ++ tag ++ lineEnd).toUTF8) :
    (tag ∉ truthTags → ∃ settings, w.loadSettings (some p) [] = .ok settings ∧
      w.loadSettings none [(setting.key, .text tag)] = .ok settings) ∧
    (tag ∈ truthTags →
      w.loadSettings (some p) [] = .error (.failure (.invalidSettings [.notText setting]))) := by
  have hvalues := readValues_of_tag (Settings.acceptsUnchanged_iff.mp htag) hend hfile
  rw [loadSettings_of_readValues hvalues, loadSettings_none]
  constructor
  · intro htruth
    rw [if_neg htruth]
    rcases hsetting with rfl | rfl
    · rw [htag.fallback]
      exact ⟨{ fallback := some tag }, rfl, rfl⟩
    · rw [htag.defaultLocale]
      exact ⟨{ defaultLocale := tag }, rfl, rfl⟩
  · intro htruth
    rw [if_pos htruth]
    rcases hsetting with rfl | rfl
    · rfl
    · rfl

/-- A workspace with a settings file of a given text. -/
def withSettings (text : String) : Workspace where
  tree := .dir [("c.yaml", .file text.toUTF8)]
  base := []

theorem loadSettings_of_tag_deDE_off :
    (Settings.AcceptsUnchanged "de-DE" ∧ "\n" ∈ lineEnds ∧ "de-DE" ∉ truthTags ∧
      (withSettings "default_locale: de-DE\n").read (.ofString "c.yaml") =
        .ok (Setting.defaultLocale.key ++ ": " ++ "de-DE" ++ "\n").toUTF8 ∧
      ∃ settings,
        (withSettings "default_locale: de-DE\n").loadSettings (some (.ofString "c.yaml")) [] =
          .ok settings ∧
        (withSettings "default_locale: de-DE\n").loadSettings none
          [(Setting.defaultLocale.key, .text "de-DE")] = .ok settings) ∧
    (Settings.AcceptsUnchanged "Off" ∧ "" ∈ lineEnds ∧ "Off" ∈ truthTags ∧
      (withSettings "fallback_locale: Off").read (.ofString "c.yaml") =
        .ok (Setting.fallback.key ++ ": " ++ "Off" ++ "").toUTF8 ∧
      (withSettings "fallback_locale: Off").loadSettings (some (.ofString "c.yaml")) [] =
        .error (.failure (.invalidSettings [.notText .fallback]))) := by
  constructor
  · have htag : Settings.AcceptsUnchanged "de-DE" :=
      Settings.acceptsUnchanged_iff.mpr (by decide)
    have hend : "\n" ∈ lineEnds := by decide
    have htruth : "de-DE" ∉ truthTags := by decide
    have hfile : (withSettings "default_locale: de-DE\n").read (.ofString "c.yaml") =
        .ok (Setting.defaultLocale.key ++ ": " ++ "de-DE" ++ "\n").toUTF8 := rfl
    exact ⟨htag, hend, htruth, hfile,
      (loadSettings_of_tag (Or.inr rfl) htag hend hfile).1 htruth⟩
  · have htag : Settings.AcceptsUnchanged "Off" := Settings.acceptsUnchanged_iff.mpr (by decide)
    have hend : "" ∈ lineEnds := by decide
    have htruth : "Off" ∈ truthTags := by decide
    have hfile : (withSettings "fallback_locale: Off").read (.ofString "c.yaml") =
        .ok (Setting.fallback.key ++ ": " ++ "Off" ++ "").toUTF8 := rfl
    exact ⟨htag, hend, htruth, hfile,
      (loadSettings_of_tag (Or.inl rfl) htag hend hfile).2 htruth⟩

/-- **A tag can be refused in the file only.** Besides it, the word for a truth value is a locale like any
other. -/
theorem loadSettings_no_refused :
    Settings.AcceptsUnchanged "no" ∧
      (withSettings "fallback_locale: no\n").read (.ofString "c.yaml") =
        .ok (Setting.fallback.key ++ ": " ++ "no" ++ "\n").toUTF8 ∧
      (withSettings "fallback_locale: no\n").loadSettings (some (.ofString "c.yaml")) [] =
        .error (.failure (.invalidSettings [.notText .fallback])) ∧
      (withSettings "fallback_locale: no\n").loadSettings none
        [(Setting.fallback.key, .text "no")] = .ok { fallback := some "no" } := by
  have htag : isLocaleTag "no" = true := by decide
  have haccepted := Settings.acceptsUnchanged_iff.mpr htag
  have hfile : (withSettings "fallback_locale: no\n").read (.ofString "c.yaml") =
      .ok (Setting.fallback.key ++ ": " ++ "no" ++ "\n").toUTF8 := rfl
  have hvalues := readValues_of_tag htag (by decide) hfile
  refine ⟨haccepted, hfile, ?_, ?_⟩
  · rw [loadSettings_of_readValues hvalues]
    rfl
  · rw [loadSettings_none, haccepted.fallback]
    rfl

end Workspace

end Phrasebook
