import Phrasebook.Proofs.InputOrder
import Phrasebook.Proofs.Requests

/-!
# What a fallback locale changes

A fallback locale is asked for a text only where there is a gap, and only a locale with a text can close
one. So a catalog without gaps is completed from any fallback locale as it is without; and in the catalog of
bundles a locale without a bundle has no texts, so a fallback locale that is misspelt changes neither what
is completed nor what fails. All that tells such runs from one without a fallback locale is the report that
the locale has no bundle, which comes first.

## Contents
- `Entry.complete_of_get?`: a fallback locale without a text
- `visit_congr`, `Catalog.step_validate_of_complete`: entries that are completed alike
- `get?_of_not_mem_locales`: texts of the catalog of bundles are for its locales
- `fallback_only_fills`: with any fallback locale, and without one
-/

namespace Phrasebook

/-! ## Entries that are completed alike -/

/-- A fallback locale without a text is as good as none. -/
theorem Entry.complete_of_get? {e : Entry} {f : String} (h : e.texts.get? f = none) (key : String)
    (locales : List String) : e.complete key (some f) locales = e.complete key none locales := by
  have hnone : e.fallbackText? (some f) = none := fallbackText?_eq_none_iff.mpr h
  have hnone' : e.fallbackText? none = none := rfl
  rw [complete_of_fallbackText?_eq_none hnone, complete_of_fallbackText?_eq_none hnone']

/-- Visits that complete each entry alike are alike. -/
theorem visit_congr {locales : List String} {fallback fallback' : Option String}
    {l : List (String × Entry)}
    (h : ∀ key e, (key, e) ∈ l → e.complete key fallback locales = e.complete key fallback' locales) :
    visit locales fallback l = visit locales fallback' l := by
  induction l with
  | nil => rfl
  | cons p rest ih =>
    obtain ⟨key, e⟩ := p
    have hhead := h key e List.mem_cons_self
    have hrest : visit locales fallback rest = visit locales fallback' rest := by
      apply ih
      intro key' e' hmem
      exact h key' e' (List.mem_cons_of_mem _ hmem)
    simp only [visit, hhead, hrest]

namespace Catalog

/-- Where a fallback locale closes no gap, all that it changes is what is reported of it. -/
theorem step_validate_of_complete {c : Catalog} {fallback : Option String}
    (h : ∀ key e, c.find? key = some e →
      e.complete key fallback c.locales = e.complete key none c.locales) :
    c.step (.validate fallback) =
      ((c.step (.validate none)).1, (c.step (.validate none)).2.say (c.fallbackNotices fallback)) := by
  have hvisit : visit c.locales fallback c.entries.sorted.toList = visit c.locales none c.entries.sorted.toList := by
    apply visit_congr
    intro key e hmem
    exact h key e (Fields.mem_sorted.mp hmem)
  have hvalidate : c.validate fallback = ⟨(c.validate none).catalog,
      c.fallbackNotices fallback ++ (c.validate none).notices, (c.validate none).gap?⟩ := by
    apply validate_eq_of_visit (locales_validate c none) (names_validate c none)
    rw [hvisit, sorted_validate]
    rfl
  dsimp only [step]
  rw [hvalidate]
  rfl

/-! ## The catalog of bundles -/

/-- In the catalog of bundles a locale without a bundle has no text. -/
theorem get?_of_not_mem_locales {bundles : Bundles} {key f : String} {e : Entry}
    (hf : f ∉ bundles.locales) (he : (ofBundles bundles).find? key = some e) :
    e.texts.get? f = none := by
  rw [mem_locales, Option.not_isSome_iff_eq_none] at hf
  rw [(Bundles.entry_ofBundles he).2]
  unfold Bundles.text?
  rw [hf, Option.bind_none]

theorem fallbackNotices_ofBundles (bundles : Bundles) (f : String) :
    (ofBundles bundles).fallbackNotices (some f) =
      if f ∈ bundles.locales then [] else [.unknownFallback f bundles.locales] := by
  unfold fallbackNotices
  rw [locales_ofBundles]
  simp only [List.contains_iff_mem]

/-- **A fallback locale only ever fills gaps.** If completing the catalog of bundles succeeds without a
fallback locale, it does so with every one, and comes to the same catalog with the same notices; and for a
fallback locale without a bundle it has the same outcome, whether a catalog or an error, leaves the same
catalog and gives the same notices as without one. The only difference is the report that a fallback locale
has no bundle: it is put first. -/
theorem fallback_only_fills (bundles : Bundles) (f : String) :
    let strict := (ofBundles bundles).step (.validate none)
    let filled := (ofBundles bundles).step (.validate (some f))
    (strict.2.outcome = .ok .nothing → filled = (strict.1, strict.2.say
      (if f ∈ bundles.locales then [] else [.unknownFallback f bundles.locales]))) ∧
    (f ∉ bundles.locales →
      filled = (strict.1, strict.2.say [.unknownFallback f bundles.locales])) := by
  intro strict filled
  have hnotices := fallbackNotices_ofBundles bundles f
  constructor
  · intro hok
    have hgap : ((ofBundles bundles).validate none).gap? = none := outcome_validate_eq_ok_iff.mp ⟨_, hok⟩
    rw [← hnotices]
    apply step_validate_of_complete
    intro key e he
    have hopen := openGap?_of_validate hgap he
    -- no entry has a gap that a fallback locale could close
    rw [Entry.openGap?_none, Option.map_eq_none_iff] at hopen
    rw [Entry.complete_of_firstGap? hopen, Entry.complete_of_firstGap? hopen]
  · intro hf
    rw [if_neg hf] at hnotices
    rw [← hnotices]
    apply step_validate_of_complete
    intro key e he
    exact Entry.complete_of_get? (get?_of_not_mem_locales hf he) key _

/-- Two bundles without a gap. -/
def translated : Bundles :=
  .ofList [("en", .ofList [("a", .str "\x7bx\x7d")]), ("de", .ofList [("a", .str "\x7bx\x7d")])]

theorem fallback_only_fills_translated :
    ((ofBundles translated).step (.validate none)).2.outcome = .ok .nothing ∧
    (ofBundles translated).step (.validate (some "en")) = (ofBundles translated).step (.validate none) ∧
    ((ofBundles Bundles.listed).step (.validate none)).2.outcome =
      .error (.failure (.missingText "b" "de")) ∧
    "sv" ∉ Bundles.listed.locales ∧
    ((ofBundles Bundles.listed).step (.validate (some "sv"))).1 =
      ((ofBundles Bundles.listed).step (.validate none)).1 ∧
    ((ofBundles Bundles.listed).step (.validate (some "sv"))).2.outcome =
      .error (.failure (.missingText "b" "de")) ∧
    ((ofBundles Bundles.listed).step (.validate (some "sv"))).2.notices =
      [.unknownFallback "sv" ["de", "en"], .mismatch "a" ["x", "z"] ["x", "y"]] := by
  have hok : ((ofBundles translated).step (.validate none)).2.outcome = .ok .nothing := rfl
  have hgap : ((ofBundles Bundles.listed).step (.validate none)).2.outcome =
      .error (.failure (.missingText "b" "de")) := rfl
  have hnotices : ((ofBundles Bundles.listed).step (.validate none)).2.notices =
      [.mismatch "a" ["x", "z"] ["x", "y"]] := by decide +kernel
  have hen : "en" ∈ translated.locales := mem_locales.mpr rfl
  have hsv : "sv" ∉ Bundles.listed.locales := fun h => Bool.false_ne_true (mem_locales.mp h)
  have hlocales : Bundles.listed.locales = ["de", "en"] := (keys_sortedBundles Bundles.listed).symm
  have hsame := (fallback_only_fills translated "en").1 hok
  rw [if_pos hen] at hsame
  have hunknown := (fallback_only_fills Bundles.listed "sv").2 hsv
  rw [hlocales] at hunknown
  refine ⟨hok, hsame, hgap, hsv, ?_, ?_, ?_⟩
  · rw [hunknown]
  · rw [hunknown]
    exact hgap
  · rw [hunknown]
    exact congrArg (_ :: ·) hnotices

end Catalog

end Phrasebook
