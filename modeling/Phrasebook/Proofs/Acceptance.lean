import Mathlib.Data.List.TakeWhile
import Phrasebook.Proofs.LocaleTag
import Phrasebook.Proofs.PathText
import Phrasebook.Proofs.TagGrammar

/-!
# Acceptance

Which values become settings, and which settings they become, without reference to the reading: each value
given for a setting is one that fits it, and what it gives is in normal form. So settings, once accepted, are
given by their own values. Where values are refused, the first unknown key is named before all other faults.

## Contents
- `GivesPath`, `GivesTag`, `GivesLocale`, `GivesFallback`: what the values for a setting give
- `DescribedBy`, `ofValues_eq_ok_iff_describedBy`: the settings that values describe
- `FirstUnknown`, `ofValues_eq_unknownParameter_iff`, `exists_issues`: why values are refused
- `IsValid`, `toValues`, `describedBy_toValues`: settings as values
- `acceptance_of_values`: the whole
-/

namespace Phrasebook.Settings

/-! ## What values give -/

/-- What is given for a path **gives** a path: nothing the default, a text the path that it names, and a path
itself. -/
inductive GivesPath (default : Path) : Option Value → Path → Prop where
  | missing : GivesPath default none default
  | text (s : String) : GivesPath default (some (.text s)) (.ofString s)
  | path (p : Path) : GivesPath default (some (.path p)) p

/-- A value **gives** a tag when it is a text, or the bytes of one, that is this tag without the blanks at
its ends. -/
inductive GivesTag : Value → String → Prop where
  | text {s : String} (htag : IsTag (Text.strip s).toList) : GivesTag (.text s) (Text.strip s)
  | bytes {b : ByteArray} {s : String} (hread : String.fromUTF8? b = some s)
    (htag : IsTag (Text.strip s).toList) : GivesTag (.bytes b) (Text.strip s)

/-- What is given for a locale **gives** a tag: nothing the default, and a value the tag that it gives. -/
inductive GivesLocale (default : String) : Option Value → String → Prop where
  | missing : GivesLocale default none default
  | given {value : Value} {tag : String} (h : GivesTag value tag) : GivesLocale default (some value) tag

/-- What is given for the fallback locale **gives** a tag or none: nothing, a null and a blank text none, and
a value the tag that it gives. -/
inductive GivesFallback : Option Value → Option String → Prop where
  | missing : GivesFallback none none
  | null : GivesFallback (some .null) none
  | blank {s : String} (h : ∀ c ∈ s.toList, Text.isBlank c = true) : GivesFallback (some (.text s)) none
  | given {value : Value} {tag : String} (h : GivesTag value tag) : GivesFallback (some value) (some tag)

theorem readPath_eq_ok_iff {setting : Setting} {default path : Path} {given : Option Value} :
    readPath setting default given = .ok path ↔ GivesPath default given path := by
  constructor
  · intro h
    unfold readPath at h
    split at h
    · cases h
      exact GivesPath.missing
    · cases h
      exact GivesPath.text _
    · cases h
      exact GivesPath.path _
    · cases h
  · intro h
    cases h <;> rfl

theorem readOutput_eq_ok_iff {setting : Setting} {default path : Path} {given : Option Value} :
    readOutput setting default given = .ok path ↔ GivesPath default given path ∧ path.name ≠ "" := by
  have hpath : readPath setting default given = .ok path ↔ GivesPath default given path :=
    readPath_eq_ok_iff
  rw [← hpath]
  unfold readOutput
  cases readPath setting default given with
  | error issue => exact ⟨nofun, fun h => nomatch h.1⟩
  | ok p =>
    dsimp only
    by_cases hname : p.name.isEmpty = true
    · rw [if_pos hname, Except.ok.injEq]
      refine ⟨nofun, ?_⟩
      rintro ⟨rfl, hne⟩
      exact absurd (String.isEmpty_iff.mp hname) hne
    · rw [if_neg hname, Except.ok.injEq]
      refine ⟨?_, And.left⟩
      rintro rfl
      exact ⟨rfl, fun hempty => hname (String.isEmpty_iff.mpr hempty)⟩

theorem readTag_eq_ok_iff {setting : Setting} {s tag : String} :
    readTag setting s = .ok tag ↔ IsTag (Text.strip s).toList ∧ Text.strip s = tag := by
  rw [← isLocaleTag_iff]
  unfold readTag
  dsimp only
  by_cases htag : isLocaleTag (Text.strip s) = true
  · rw [if_pos htag, Except.ok.injEq]
    exact (and_iff_right htag).symm
  · rw [if_neg htag]
    exact ⟨nofun, fun h => absurd h.1 htag⟩

theorem readLocale_eq_ok_iff {setting : Setting} {default tag : String} {given : Option Value} :
    readLocale setting default given = .ok tag ↔ GivesLocale default given tag := by
  constructor
  · intro h
    unfold readLocale at h
    split at h
    · cases h
      exact GivesLocale.missing
    · obtain ⟨htag, rfl⟩ := readTag_eq_ok_iff.mp h
      exact GivesLocale.given (GivesTag.text htag)
    · split at h
      · cases h
      · rename_i hread
        obtain ⟨htag, rfl⟩ := readTag_eq_ok_iff.mp h
        exact GivesLocale.given (GivesTag.bytes hread htag)
    · cases h
  · intro h
    cases h with
    | missing => rfl
    | given hgives =>
      unfold readLocale
      cases hgives with
      | text htag => exact readTag_eq_ok_iff.mpr (And.intro htag rfl)
      | bytes hread htag =>
        simp only [hread]
        exact readTag_eq_ok_iff.mpr (And.intro htag rfl)

/-- A text that is a tag without the blanks at its ends does not hold blanks only. -/
theorem not_blank_of_isTag_strip {s : String} (h : IsTag (Text.strip s).toList) :
    ¬ Text.isBlankText s = true := by
  intro hblank
  have hnil : s.toList.dropWhile Text.isBlank = [] :=
    List.dropWhile_eq_nil_iff.mpr (List.all_eq_true.mp hblank)
  have hempty : Text.strip s = "" := by
    unfold Text.strip
    rw [hnil]
    rfl
  rw [hempty] at h
  exact absurd (isLocaleTag_iff.mpr h) (by decide)

theorem map_some_eq_ok_iff {α : Type} {read : Except Issue α} {result : Option α} :
    read.map some = .ok result ↔ ∃ a, read = .ok a ∧ result = some a := by
  cases read with
  | error issue => exact ⟨nofun, fun ⟨_, h, _⟩ => nomatch h⟩
  | ok a =>
    constructor
    · intro h
      exact ⟨a, rfl, (Except.ok.inj h).symm⟩
    · rintro ⟨_, h, rfl⟩
      rw [Except.ok.inj h]
      rfl

theorem readFallback_eq_ok_iff {setting : Setting} {given : Option Value} {fallback : Option String} :
    readFallback setting given = .ok fallback ↔ GivesFallback given fallback := by
  constructor
  · intro h
    unfold readFallback at h
    split at h
    · cases h
      exact GivesFallback.missing
    · cases h
      exact GivesFallback.null
    · split at h
      · rename_i hblank
        cases h
        exact GivesFallback.blank (List.all_eq_true.mp hblank)
      · obtain ⟨tag, hread, rfl⟩ := map_some_eq_ok_iff.mp h
        obtain ⟨htag, rfl⟩ := readTag_eq_ok_iff.mp hread
        exact GivesFallback.given (GivesTag.text htag)
    · rename_i hmissing _ _
      obtain ⟨tag, hread, rfl⟩ := map_some_eq_ok_iff.mp h
      cases readLocale_eq_ok_iff.mp hread with
      | missing => exact absurd rfl hmissing
      | given hgives => exact GivesFallback.given hgives
  · intro h
    cases h with
    | missing => rfl
    | null => rfl
    | blank hblank => exact if_pos (List.all_eq_true.mpr hblank)
    | @given value tag hgives =>
      have hread : readLocale setting "" (some value) = .ok tag :=
        readLocale_eq_ok_iff.mpr (GivesLocale.given hgives)
      have hmap := map_some_eq_ok_iff.mpr ⟨tag, hread, rfl⟩
      cases hgives with
      | text htag => exact (if_neg (not_blank_of_isTag_strip htag)).trans hmap
      | bytes hbytes htag => exact hmap

/-! ## Known keys -/

theorem isKey_iff {name : String} : Setting.isKey name = true ↔ ∃ setting : Setting, name = setting.key := by
  unfold Setting.isKey
  rw [List.any_eq_true]
  constructor
  · rintro ⟨setting, -, hkey⟩
    exact ⟨setting, (decide_eq_true_iff.mp hkey).symm⟩
  · rintro ⟨setting, rfl⟩
    refine ⟨setting, ?_, decide_eq_true rfl⟩
    cases setting <;> decide

/-- The **texts** among the keys of values **are known** when each is a setting's. -/
def KnownTexts (values : Values) : Prop :=
  ∀ s v, (.text s, v) ∈ values → ∃ setting : Setting, s = setting.key

/-- A name is the **first unknown key** of values when it is no setting's, and the texts before it are. -/
def FirstUnknown (values : Values) (name : String) : Prop :=
  ∃ before value after, values = before ++ (.text name, value) :: after ∧
    (∀ setting : Setting, name ≠ setting.key) ∧ KnownTexts before

theorem unknownKey?_eq_none_iff {values : Values} :
    values.unknownKey? = none ↔ KnownTexts values := by
  unfold Values.unknownKey? KnownTexts
  rw [List.findSome?_eq_none_iff]
  constructor
  · intro h s v hmem
    have hnone : (if Setting.isKey s then none else some s) = none := h _ hmem
    by_contra hunknown
    rw [if_neg fun hkey => hunknown (isKey_iff.mp hkey)] at hnone
    cases hnone
  · rintro h ⟨key, v⟩ hmem
    cases key with
    | text s => exact if_pos (isKey_iff.mpr (h s v hmem))
    | other shown => rfl

theorem unknownKey?_eq_some_iff {values : Values} {name : String} :
    values.unknownKey? = some name ↔ FirstUnknown values name := by
  unfold FirstUnknown
  simp only [← unknownKey?_eq_none_iff]
  unfold Values.unknownKey?
  simp only [List.findSome?_eq_some_iff, List.findSome?_eq_none_iff]
  constructor
  · rintro ⟨before, ⟨key, value⟩, after, rfl, hname, hbefore⟩
    cases key with
    | other shown => cases hname
    | text s =>
      dsimp only at hname
      split at hname
      · cases hname
      · rename_i hunknown
        cases hname
        exact ⟨before, value, after, rfl, fun setting hkey => hunknown (isKey_iff.mpr ⟨setting, hkey⟩),
          hbefore⟩
  · rintro ⟨before, value, after, rfl, hunknown, hbefore⟩
    refine ⟨before, (.text name, value), after, rfl, if_neg ?_, hbefore⟩
    intro hkey
    obtain ⟨setting, hname⟩ := isKey_iff.mp hkey
    exact hunknown setting hname

theorem keyIssues_eq_nil_iff {values : Values} :
    values.keyIssues = [] ↔ ∀ shown v, (.other shown, v) ∉ values := by
  unfold Values.keyIssues
  rw [List.filterMap_eq_nil_iff]
  constructor
  · intro h shown v hmem
    cases h (.other shown, v) hmem
  · rintro h ⟨key, v⟩ hmem
    cases key with
    | text s => rfl
    | other shown => exact absurd hmem (h shown v)

/-- Every key is a setting's when no text is unknown and every key is a text. -/
theorem keys_iff {values : Values} :
    values.unknownKey? = none ∧ values.keyIssues = [] ↔
      ∀ key v, (key, v) ∈ values → ∃ setting : Setting, key = .text setting.key := by
  rw [unknownKey?_eq_none_iff, keyIssues_eq_nil_iff]
  constructor
  · rintro ⟨hknown, htexts⟩ key v hmem
    cases key with
    | text s =>
      obtain ⟨setting, rfl⟩ := hknown s v hmem
      exact ⟨setting, rfl⟩
    | other shown => exact absurd hmem (htexts shown v)
  · intro h
    constructor
    · intro s v hmem
      obtain ⟨setting, hkey⟩ := h _ v hmem
      exact ⟨setting, Key.text.inj hkey⟩
    · intro shown v hmem
      obtain ⟨setting, hkey⟩ := h _ v hmem
      cases hkey

/-! ## The settings that values describe -/

/-- Settings are **described by** values when every key is a setting's, what is given for each setting gives
the value that it has, both outputs end in a file name, and they differ. -/
structure DescribedBy (settings : Settings) (values : Values) : Prop where
  keys : ∀ key v, (key, v) ∈ values → ∃ setting : Setting, key = .text setting.key
  bundleDir : GivesPath ({} : Settings).bundleDir (values.get? .bundleDir) settings.bundleDir
  dartOut : GivesPath ({} : Settings).dartOut (values.get? .dartOut) settings.dartOut
  typeScriptOut :
    GivesPath ({} : Settings).typeScriptOut (values.get? .typeScriptOut) settings.typeScriptOut
  dartNamed : settings.dartOut.name ≠ ""
  typeScriptNamed : settings.typeScriptOut.name ≠ ""
  apart : settings.dartOut ≠ settings.typeScriptOut
  fallback : GivesFallback (values.get? .fallback) settings.fallback
  defaultLocale :
    GivesLocale ({} : Settings).defaultLocale (values.get? .defaultLocale) settings.defaultLocale

theorem givenBy_iff_describedBy {values : Values} {settings : Settings} :
    settings.GivenBy values ↔ settings.DescribedBy values := by
  constructor
  · intro h
    have hdart := readOutput_eq_ok_iff.mp h.dartOut
    have htypeScript := readOutput_eq_ok_iff.mp h.typeScriptOut
    exact {
      keys := keys_iff.mp ⟨h.known, h.texts⟩
      bundleDir := readPath_eq_ok_iff.mp h.bundleDir
      dartOut := hdart.1
      typeScriptOut := htypeScript.1
      dartNamed := hdart.2
      typeScriptNamed := htypeScript.2
      apart := h.apart
      fallback := readFallback_eq_ok_iff.mp h.fallback
      defaultLocale := readLocale_eq_ok_iff.mp h.defaultLocale }
  · intro h
    obtain ⟨hknown, htexts⟩ := keys_iff.mpr h.keys
    exact {
      known := hknown
      texts := htexts
      bundleDir := readPath_eq_ok_iff.mpr h.bundleDir
      dartOut := readOutput_eq_ok_iff.mpr ⟨h.dartOut, h.dartNamed⟩
      typeScriptOut := readOutput_eq_ok_iff.mpr ⟨h.typeScriptOut, h.typeScriptNamed⟩
      fallback := readFallback_eq_ok_iff.mpr h.fallback
      defaultLocale := readLocale_eq_ok_iff.mpr h.defaultLocale
      apart := h.apart }

/-- **Values are accepted** exactly as the settings that they describe. -/
theorem ofValues_eq_ok_iff_describedBy {values : Values} {settings : Settings} :
    ofValues values = .ok settings ↔ settings.DescribedBy values :=
  ofValues_eq_ok_iff.trans givenBy_iff_describedBy

/-! ## Why values are refused -/

theorem ofValues_of_unknownKey {values : Values} {name : String} (h : values.unknownKey? = some name) :
    ofValues values = .error (.unknownParameter name) := by
  unfold ofValues
  simp only [h]

theorem exists_eq_ok_of_issue? {α : Type} {read : Except Issue α} (h : issue? read = none) :
    ∃ a, read = .ok a := by
  cases read with
  | error issue => cases h
  | ok a => exact ⟨a, rfl⟩

/-- Without an unknown key values are accepted, or refused for the issues with them. -/
theorem ofValues_of_known {values : Values} (h : values.unknownKey? = none) :
    (∃ settings, ofValues values = .ok settings) ∨
      ∃ issues, issues ≠ [] ∧ ofValues values = .error (.invalidSettings issues) := by
  unfold ofValues
  simp only [h]
  split
  · split
    · exact Or.inr ⟨_, List.cons_ne_nil _ _, rfl⟩
    · exact Or.inl ⟨_, rfl⟩
  · rename_i hfault
    refine Or.inr ⟨_, ?_, rfl⟩
    intro hnil
    obtain ⟨hsettings, hkeys⟩ := List.append_eq_nil_iff.mp hnil
    simp only [List.filterMap_eq_nil_iff, List.forall_mem_cons, id_eq] at hsettings
    obtain ⟨hdir, hdart, htypeScript, hfallback, hlocale, -⟩ := hsettings
    obtain ⟨dir, hdir⟩ := exists_eq_ok_of_issue? hdir
    obtain ⟨dart, hdart⟩ := exists_eq_ok_of_issue? hdart
    obtain ⟨typeScript, htypeScript⟩ := exists_eq_ok_of_issue? htypeScript
    obtain ⟨fallback, hfallback⟩ := exists_eq_ok_of_issue? hfallback
    obtain ⟨locale, hlocale⟩ := exists_eq_ok_of_issue? hlocale
    exact hfault dir dart typeScript fallback locale hdir hdart htypeScript hfallback hlocale hkeys

/-- **The first unknown key is named**, and a key is named in no other case. -/
theorem ofValues_eq_unknownParameter_iff {values : Values} {name : String} :
    ofValues values = .error (.unknownParameter name) ↔ FirstUnknown values name := by
  rw [← unknownKey?_eq_some_iff]
  refine ⟨fun hrefused => ?_, ofValues_of_unknownKey⟩
  cases hunknown : values.unknownKey? with
  | some first =>
    rw [ofValues_of_unknownKey hunknown] at hrefused
    cases hrefused
    rfl
  | none =>
    rcases ofValues_of_known hunknown with ⟨settings, haccepted⟩ | ⟨issues, -, hissues⟩
    · rw [haccepted] at hrefused
      cases hrefused
    · rw [hissues] at hrefused
      cases hrefused

/-- **Other issues are named** where values describe no settings and have no unknown key. -/
theorem exists_issues {values : Values} (hnone : ¬ ∃ settings : Settings, settings.DescribedBy values)
    (hknown : ¬ ∃ name, FirstUnknown values name) :
    ∃ issues, issues ≠ [] ∧ ofValues values = .error (.invalidSettings issues) := by
  have hkey : values.unknownKey? = none := by
    refine Option.eq_none_iff_forall_ne_some.mpr fun name hname => ?_
    exact hknown ⟨name, unknownKey?_eq_some_iff.mp hname⟩
  rcases ofValues_of_known hkey with ⟨settings, haccepted⟩ | hissues
  · exact absurd ⟨settings, ofValues_eq_ok_iff_describedBy.mp haccepted⟩ hnone
  · exact hissues

/-! ## Settings as values -/

/-- The value of a setting, where a path becomes the value that `ofPath` makes of it. -/
def value (settings : Settings) (ofPath : Path → Value) : Setting → Value
  | .bundleDir => ofPath settings.bundleDir
  | .dartOut => ofPath settings.dartOut
  | .typeScriptOut => ofPath settings.typeScriptOut
  | .fallback => settings.fallback.elim .null .text
  | .defaultLocale => .text settings.defaultLocale

/-- Settings as values for them. -/
def toValues (settings : Settings) (ofPath : Path → Value) : Values :=
  Setting.all.map fun setting => (.text setting.key, settings.value ofPath setting)

theorem get?_toValues (settings : Settings) (ofPath : Path → Value) (setting : Setting) :
    (settings.toValues ofPath).get? setting = some (settings.value ofPath setting) := by
  cases setting <;> rfl

/-- The paths of settings. -/
def paths (settings : Settings) : List Path :=
  [settings.bundleDir, settings.dartOut, settings.typeScriptOut]

/-- Settings are **valid** when both outputs end in a file name, they differ, and the locales are tags. -/
structure IsValid (settings : Settings) : Prop where
  dartNamed : settings.dartOut.name ≠ ""
  typeScriptNamed : settings.typeScriptOut.name ≠ ""
  apart : settings.dartOut ≠ settings.typeScriptOut
  fallback : ∀ tag, settings.fallback = some tag → IsTag tag.toList
  defaultLocale : IsTag settings.defaultLocale.toList

theorem GivesTag.isTag {value : Value} {tag : String} (h : GivesTag value tag) : IsTag tag.toList := by
  cases h with
  | text htag => exact htag
  | bytes _ htag => exact htag

theorem GivesLocale.isTag {default tag : String} {given : Option Value} (hdefault : IsTag default.toList)
    (h : GivesLocale default given tag) : IsTag tag.toList := by
  cases h with
  | missing => exact hdefault
  | given hgives => exact hgives.isTag

theorem GivesFallback.isTag {given : Option Value} {tag : String} (h : GivesFallback given (some tag)) :
    IsTag tag.toList := by
  cases h with
  | given hgives => exact hgives.isTag

/-- **What values describe is valid.** -/
theorem DescribedBy.isValid {values : Values} {settings : Settings} (h : settings.DescribedBy values) :
    settings.IsValid := by
  refine ⟨h.dartNamed, h.typeScriptNamed, h.apart, ?_, ?_⟩
  · intro tag htag
    have hgives := h.fallback
    rw [htag] at hgives
    exact hgives.isTag
  · have hdefault : IsTag ({} : Settings).defaultLocale.toList := isLocaleTag_iff.mp (by decide)
    exact h.defaultLocale.isTag hdefault

/-- Values **hold normal paths** when each path among them is in normal form. -/
def NormalPaths (values : Values) : Prop := ∀ key p, (key, .path p) ∈ values → p.IsNormal

theorem GivesPath.isNormal {default p : Path} {given : Option Value} (hdefault : default.IsNormal)
    (hgiven : ∀ q, given = some (.path q) → q.IsNormal) (h : GivesPath default given p) :
    p.IsNormal := by
  cases h with
  | missing => exact hdefault
  | text s => exact Path.isNormal_ofString s
  | path => exact hgiven p rfl

/-- **The paths that values describe are in normal form.** -/
theorem DescribedBy.isNormal {values : Values} {settings : Settings} (h : settings.DescribedBy values)
    (hnormal : NormalPaths values) : ∀ p ∈ settings.paths, p.IsNormal := by
  have hgiven : ∀ setting q, values.get? setting = some (.path q) → q.IsNormal := by
    intro setting q hget
    obtain ⟨before, after, hvalues, -⟩ := List.lookup_eq_some_iff.mp hget
    have hmem : (Key.text setting.key, Value.path q) ∈ values := by
      rw [hvalues]
      exact List.mem_append_right before List.mem_cons_self
    exact hnormal _ q hmem
  simp only [paths, List.forall_mem_cons]
  refine ⟨?_, ?_, ?_, fun p hp => absurd hp List.not_mem_nil⟩
  · exact h.bundleDir.isNormal (Path.isNormal_ofString _) (hgiven _)
  · exact h.dartOut.isNormal (Path.isNormal_ofString _) (hgiven _)
  · exact h.typeScriptOut.isNormal (Path.isNormal_ofString _) (hgiven _)

/-- A tag without the blanks at its ends is the tag. -/
theorem givesTag_text {tag : String} (h : IsTag tag.toList) : GivesTag (.text tag) tag := by
  have hstrip := strip_tag (isLocaleTag_iff.mpr h)
  have hgives : GivesTag (.text tag) (Text.strip tag) := GivesTag.text (by rwa [hstrip])
  rwa [hstrip] at hgives

theorem givesFallback_elim {fallback : Option String}
    (h : ∀ tag, fallback = some tag → IsTag tag.toList) :
    GivesFallback (some (fallback.elim .null .text)) fallback := by
  cases fallback with
  | none => exact GivesFallback.null
  | some tag => exact GivesFallback.given (givesTag_text (h tag rfl))

/-- **Valid settings are described by their own values**, when their paths are by what they become. -/
theorem IsValid.describedBy_toValues {settings : Settings} {ofPath : Path → Value}
    (h : settings.IsValid)
    (hpath : ∀ p ∈ settings.paths, ∀ default, GivesPath default (some (ofPath p)) p) :
    settings.DescribedBy (settings.toValues ofPath) := by
  simp only [paths, List.forall_mem_cons] at hpath
  obtain ⟨hdir, hdart, htypeScript, -⟩ := hpath
  refine ⟨?_, ?_, ?_, ?_, h.dartNamed, h.typeScriptNamed, h.apart, ?_, ?_⟩
  · intro key v hmem
    obtain ⟨setting, -, heq⟩ := List.mem_map.mp hmem
    exact ⟨setting, (Prod.mk.inj heq).1.symm⟩
  · rw [get?_toValues]
    exact hdir _
  · rw [get?_toValues]
    exact hdart _
  · rw [get?_toValues]
    exact htypeScript _
  · rw [get?_toValues]
    exact givesFallback_elim h.fallback
  · rw [get?_toValues]
    exact GivesLocale.given (givesTag_text h.defaultLocale)

/-- A path in normal form is given by its text. -/
theorem givesPath_text {default p : Path} (h : p.IsNormal) : GivesPath default (some (.text p.text)) p := by
  have hgives : GivesPath default (some (.text p.text)) (.ofString p.text) := GivesPath.text p.text
  rwa [Path.ofString_text h] at hgives

/-! ## The whole -/

/-- **Values become settings** exactly when they describe these. The locales of such settings are tags, none of
which holds a line feed: it makes no difference whether the end of the expression for a tag allows one. The
settings are accepted once more when their own values are given, be the paths given as paths or as texts.
Values that describe no settings are refused with the first key that is unknown, whatever else is wrong, and
with other issues only when there is no such key. -/
theorem acceptance_of_values (values : Values) :
    (∀ settings, ofValues values = .ok settings ↔ settings.DescribedBy values) ∧
    (∀ settings, ofValues values = .ok settings →
      (∀ tag, settings.fallback = some tag ∨ settings.defaultLocale = tag →
        IsTag tag.toList ∧ '\n' ∉ tag.toList) ∧
      ofValues (settings.toValues .path) = .ok settings ∧
      (NormalPaths values → ofValues (settings.toValues fun p => .text p.text) = .ok settings)) ∧
    (∀ s, MatchesTag (Text.strip s).toList ↔ IsTag (Text.strip s).toList) ∧
    (∀ name, ofValues values = .error (.unknownParameter name) ↔ FirstUnknown values name) ∧
    ((¬ ∃ settings : Settings, settings.DescribedBy values) → (¬ ∃ name, FirstUnknown values name) →
      ∃ issues, issues ≠ [] ∧ ofValues values = .error (.invalidSettings issues)) := by
  refine ⟨fun settings => ofValues_eq_ok_iff_describedBy, ?_, matchesTag_strip,
    fun name => ofValues_eq_unknownParameter_iff, exists_issues⟩
  intro settings haccepted
  have hdescribed := ofValues_eq_ok_iff_describedBy.mp haccepted
  have hvalid := hdescribed.isValid
  refine ⟨?_, ?_, ?_⟩
  · intro tag htag
    have hgrammar : IsTag tag.toList := by
      rcases htag with hfallback | rfl
      · exact hvalid.fallback tag hfallback
      · exact hvalid.defaultLocale
    refine ⟨hgrammar, fun hline => ?_⟩
    exact absurd (isBlank_of_mem_tag (isLocaleTag_iff.mpr hgrammar) hline) (by decide)
  · exact ofValues_eq_ok_iff_describedBy.mpr
      (hvalid.describedBy_toValues fun p _ default => GivesPath.path p)
  · intro hnormal
    exact ofValues_eq_ok_iff_describedBy.mpr
      (hvalid.describedBy_toValues fun p hp default =>
        givesPath_text (hdescribed.isNormal hnormal p hp))

/-- Values with a blank fallback locale, a tag between blanks, and a path that is not in normal form. -/
def paddedValues : Values :=
  [(.text "fallback_locale", .text " \t"), (.text "default_locale", .text " de_DE\n"),
    (.text "dart_out", .text "out//./l10n.dart/")]

/-- The settings that the padded values describe. -/
def plainSettings : Settings :=
  { dartOut := ⟨.relative, ["out", "l10n.dart"]⟩, defaultLocale := "de_DE" }

/-- Values of which nothing fits, with two unknown keys. -/
def misnamedValues : Values :=
  [(.other "1", .other), (.text "default_locale", .null), (.text "locale", .null), (.text "arbs", .null)]

theorem acceptance_of_values_padded :
    plainSettings.DescribedBy paddedValues ∧
      ofValues (plainSettings.toValues .path) = .ok plainSettings ∧
      ofValues (plainSettings.toValues fun p => .text p.text) = .ok plainSettings ∧
      FirstUnknown misnamedValues "locale" ∧
      ofValues misnamedValues = .error (.unknownParameter "locale") ∧
      ∃ issues, issues ≠ [] ∧
        ofValues [(.text "default_locale", .text "english")] = .error (.invalidSettings issues) := by
  obtain ⟨haccepts, hstored, -, -, -⟩ := acceptance_of_values paddedValues
  obtain ⟨-, -, -, hunknown, -⟩ := acceptance_of_values misnamedValues
  obtain ⟨-, -, -, -, hissues⟩ := acceptance_of_values [(.text "default_locale", .text "english")]
  have haccepted : ofValues paddedValues = .ok plainSettings := by
    have hapart : plainSettings.dartOut ≠ plainSettings.typeScriptOut := by decide +kernel
    exact ofValues_eq_ok_iff.mpr ⟨rfl, rfl, rfl, rfl, rfl, rfl, rfl, hapart⟩
  have hfirst : FirstUnknown misnamedValues "locale" := unknownKey?_eq_some_iff.mp (by decide)
  have hnormal : NormalPaths paddedValues := by
    intro key p hmem
    simp [paddedValues] at hmem
  obtain ⟨-, hpaths, htexts⟩ := hstored plainSettings haccepted
  refine ⟨(haccepts plainSettings).mp haccepted, hpaths, htexts hnormal, hfirst,
    (hunknown "locale").mpr hfirst, hissues ?_ ?_⟩
  · rintro ⟨settings, hdescribed⟩
    have hread : readLocale .defaultLocale "en" (some (.text "english")) = .ok settings.defaultLocale :=
      readLocale_eq_ok_iff.mpr hdescribed.defaultLocale
    cases hread
  · rintro ⟨name, hname⟩
    have hunknown : Values.unknownKey? [(.text "default_locale", .text "english")] = some name :=
      unknownKey?_eq_some_iff.mpr hname
    cases hunknown

end Phrasebook.Settings
