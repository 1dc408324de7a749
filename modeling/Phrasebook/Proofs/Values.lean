import Phrasebook.Settings.Values

/-!
# Accepted values

When values given under keys become settings: every key is a setting's, every value is read, and the
outputs are two files.

## Contents
- `GivenBy`: the settings that values give
- `ofValues_eq_ok_iff`: values are accepted as the settings that they give
-/

namespace Phrasebook.Settings

/-- Settings are **given by** values when the keys of these are texts that name settings, each setting
is what is read from the value given for it, and the outputs differ. -/
structure GivenBy (settings : Settings) (values : Values) : Prop where
  known : values.unknownKey? = none
  texts : values.keyIssues = []
  bundleDir : readPath .bundleDir ({} : Settings).bundleDir (values.get? .bundleDir) =
    .ok settings.bundleDir
  dartOut : readOutput .dartOut ({} : Settings).dartOut (values.get? .dartOut) =
    .ok settings.dartOut
  typeScriptOut :
    readOutput .typeScriptOut ({} : Settings).typeScriptOut (values.get? .typeScriptOut) =
      .ok settings.typeScriptOut
  fallback : readFallback .fallback (values.get? .fallback) = .ok settings.fallback
  defaultLocale :
    readLocale .defaultLocale ({} : Settings).defaultLocale (values.get? .defaultLocale) =
      .ok settings.defaultLocale
  apart : settings.dartOut ≠ settings.typeScriptOut

/-- **Values are accepted** exactly as the settings that they give. -/
theorem ofValues_eq_ok_iff {values : Values} {settings : Settings} :
    ofValues values = .ok settings ↔ settings.GivenBy values := by
  unfold ofValues
  constructor
  · intro h
    dsimp only at h
    split at h
    · cases h
    · rename_i hknown
      split at h
      · rename_i hdir hdart htypeScript hfallback hlocale htexts
        split at h
        · cases h
        · rename_i hne
          cases h
          exact ⟨hknown, htexts, hdir, hdart, htypeScript, hfallback, hlocale, hne⟩
      · cases h
  · intro h
    simp only [h.known, h.texts, h.bundleDir, h.dartOut, h.typeScriptOut, h.fallback,
      h.defaultLocale, if_neg h.apart]

end Phrasebook.Settings
