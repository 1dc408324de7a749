import Phrasebook.Output
import Phrasebook.Proofs.Build
import Phrasebook.Proofs.Plan

/-!
# From bundles to accessors

The three stages from bundles to a plan, as one table. A key is a name without a mark that some bundle
has a text under; its text for a locale is the one that the bundle of the locale has, or else the one
of the fallback locale. The stages succeed exactly when the table has no hole, and then the accessors
are the table; otherwise the error names the first hole, by key and then by locale.

## Contents
- `Bundles.completedText?`, `Bundles.IsCovered`: the table and its rows without holes
- `Bundles.accessors`: the three stages
- `entry_ofBundles`, `gap_ofBundles`, `plan_ofBundles`: what each stage adds
- `accessors_of_bundles`: the stages as the table
-/

namespace Phrasebook

namespace Bundles

/-- The text of a key for a locale, or else its text for the fallback locale. -/
def completedText? (bundles : Bundles) (fallback : Option String) (locale key : String) :
    Option String :=
  (bundles.text? locale key).or (fallback.bind fun f => bundles.text? f key)

/-- A key has a text, of its own or from the fallback locale, for each locale of the bundles. -/
def IsCovered (bundles : Bundles) (fallback : Option String) (key : String) : Prop :=
  ∀ l ∈ bundles.locales, (bundles.completedText? fallback l key).isSome

/-- The accessors of a target for bundles: their catalog is built, completed and planned. -/
def accessors (bundles : Bundles) (fallback : Option String) (target : Target) :
    Except Fault (List Accessor) :=
  (((Catalog.ofBundles bundles).validate fallback).report.andThen fun c =>
    .ofExcept ((target.plan c).mapError fun l => .crash (.noText l))).outcome

variable {bundles : Bundles} {fallback : Option String} {target : Target}

/-! ## The entries of the catalog -/

theorem entry_ofBundles {key : String} {e : Entry}
    (h : (Catalog.ofBundles bundles).find? key = some e) :
    bundles.IsKey key ∧ ∀ l, e.texts.get? l = bundles.text? l key := by
  have hkey : bundles.IsKey key := by
    rw [← Catalog.isSome_find?_ofBundles, h, Option.isSome_some]
  refine ⟨hkey, fun l => ?_⟩
  have htext := Catalog.text?_ofBundles bundles key l
  rw [if_pos hkey.1] at htext
  rw [← htext, Catalog.text?, h, Option.bind_some]

theorem completedText?_entry {key : String} {e : Entry}
    (h : (Catalog.ofBundles bundles).find? key = some e) (l : String) :
    e.completedText? fallback l = bundles.completedText? fallback l key := by
  have hget := (entry_ofBundles h).2
  unfold Entry.completedText? completedText?
  rw [hget l]
  cases fallback with
  | none => rfl
  | some f => rw [Option.bind_some, Option.bind_some, hget f]

/-- The gap of an entry is closed exactly when its key is covered. -/
theorem openGap?_entry {key : String} {e : Entry}
    (h : (Catalog.ofBundles bundles).find? key = some e) :
    e.openGap? key (Catalog.ofBundles bundles).locales fallback = none ↔
      bundles.IsCovered fallback key := by
  rw [Entry.openGap?_eq_none_iff, Catalog.locales_ofBundles]
  simp only [completedText?_entry h, IsCovered]

/-! ## Completing the catalog -/

/-- Completing the catalog succeeds exactly when every key is covered. -/
theorem gap_ofBundles_eq_none_iff :
    ((Catalog.ofBundles bundles).validate fallback).gap? = none ↔
      ∀ key, bundles.IsKey key → bundles.IsCovered fallback key := by
  rw [Catalog.gap?_validate, List.findSome?_eq_none_iff]
  constructor
  · intro h key hkey
    obtain ⟨e, he⟩ := Option.isSome_iff_exists.mp ((Catalog.isSome_find?_ofBundles bundles key).mpr hkey)
    exact (openGap?_entry he).mp (h (key, e) (Fields.mem_sorted.mpr he))
  · rintro h ⟨key, e⟩ hmem
    have he : (Catalog.ofBundles bundles).find? key = some e := Fields.mem_sorted.mp hmem
    exact (openGap?_entry he).mpr (h key (entry_ofBundles he).1)

/-- **The gap that is reported.** Its key is the smallest that is not covered, and its locale the first
whose bundle has no text for the key. -/
theorem gap_ofBundles {gap : Gap}
    (h : ((Catalog.ofBundles bundles).validate fallback).gap? = some gap) :
    bundles.IsKey gap.key ∧ ¬ bundles.IsCovered fallback gap.key ∧
      (∀ key, bundles.IsKey key → key < gap.key → bundles.IsCovered fallback key) ∧
      bundles.locales.find? (fun l => (bundles.text? l gap.key).isNone) = some gap.locale := by
  obtain ⟨e, he, hopen, hbefore⟩ := Catalog.gap?_validate_eq_some h
  have hfirst := (Entry.openGap?_eq_some hopen).2
  refine ⟨(entry_ofBundles he).1, fun hcov => ?_, fun key hkey hlt => ?_, ?_⟩
  · rw [← openGap?_entry he, hopen] at hcov
    simp at hcov
  · obtain ⟨e', he'⟩ :=
      Option.isSome_iff_exists.mp ((Catalog.isSome_find?_ofBundles bundles key).mpr hkey)
    exact (openGap?_entry he').mp (hbefore key e' hlt he')
  · rw [← hfirst, Catalog.locales_ofBundles]
    unfold Entry.firstGap? Fields.contains
    congr 1
    funext l
    rw [(entry_ofBundles he).2 l]
    cases bundles.text? l gap.key <;> rfl

/-! ## Planning the catalog -/

/-- The entry of a key in the completed catalog. -/
theorem find?_validate_ofBundles
    (h : ((Catalog.ofBundles bundles).validate fallback).gap? = none) {key : String} {e : Entry}
    (he : ((Catalog.ofBundles bundles).validate fallback).catalog.find? key = some e) :
    ∀ l ∈ bundles.locales, e.texts.get? l = bundles.completedText? fallback l key := by
  rw [Catalog.find?_validate h] at he
  obtain ⟨e₀, he₀, rfl⟩ := Option.map_eq_some_iff.mp he
  have hclosed : e₀.openGap? key (Catalog.ofBundles bundles).locales fallback = none :=
    (openGap?_entry he₀).mpr (gap_ofBundles_eq_none_iff.mp h key (entry_ofBundles he₀).1)
  intro l hl
  rw [Entry.get?_completed hclosed, Catalog.locales_ofBundles, if_pos hl, completedText?_entry he₀]

theorem mem_keys_validate_ofBundles
    (h : ((Catalog.ofBundles bundles).validate fallback).gap? = none) (key : String) :
    key ∈ ((Catalog.ofBundles bundles).validate fallback).catalog.entries.keys ↔
      bundles.IsKey key := by
  rw [Fields.mem_keys, ← Catalog.isSome_find?_ofBundles]
  have hfind := Catalog.find?_validate h key
  unfold Catalog.find? at hfind ⊢
  rw [hfind, Option.isSome_map]

theorem locales_validate_ofBundles :
    ((Catalog.ofBundles bundles).validate fallback).catalog.locales = bundles.locales :=
  Catalog.locales_ofBundles bundles

/-- **A completed catalog can be planned**, since no locale lacks a text of any entry. -/
theorem plan_ofBundles (target : Target)
    (h : ((Catalog.ofBundles bundles).validate fallback).gap? = none) :
    ∃ accessors,
      target.plan ((Catalog.ofBundles bundles).validate fallback).catalog = .ok accessors :=
  ⟨_, Target.plan_eq_ok_iff.mpr ⟨Catalog.firstGap?_validate h, rfl⟩⟩

/-! ## The three stages -/

theorem accessors_of_gap {gap : Gap}
    (h : ((Catalog.ofBundles bundles).validate fallback).gap? = some gap) :
    bundles.accessors fallback target = .error (.failure (.missingText gap.key gap.locale)) := by
  unfold accessors Validation.report
  rw [h]
  rfl

theorem accessors_of_plan {planned : List Accessor}
    (h : ((Catalog.ofBundles bundles).validate fallback).gap? = none)
    (hp : target.plan ((Catalog.ofBundles bundles).validate fallback).catalog = .ok planned) :
    bundles.accessors fallback target = .ok planned := by
  unfold accessors Validation.report
  rw [h]
  dsimp only [Report.andThen]
  rw [hp]
  rfl

/-- **From bundles to accessors.** The stages succeed exactly when every key is covered. The accessors
then belong to the keys, in strictly increasing order, and have the completed text of every locale.
Otherwise the error names the smallest key that is not covered, and the first locale whose bundle has
no text for it. -/
theorem accessors_of_bundles (bundles : Bundles) (fallback : Option String) (target : Target) :
    ((∃ accessors, bundles.accessors fallback target = .ok accessors) ↔
      ∀ key, bundles.IsKey key → bundles.IsCovered fallback key) ∧
    (∀ accessors, bundles.accessors fallback target = .ok accessors →
      (accessors.map Accessor.key).Pairwise (· < ·) ∧
      (∀ key, key ∈ accessors.map Accessor.key ↔ bundles.IsKey key) ∧
      ∀ a ∈ accessors, a.rows.map (fun row => (row.1, some row.2)) =
        bundles.locales.map fun l => (l, bundles.completedText? fallback l a.key)) ∧
    ∀ fault, bundles.accessors fallback target = .error fault →
      ∃ key locale, fault = .failure (.missingText key locale) ∧ bundles.IsKey key ∧
        ¬ bundles.IsCovered fallback key ∧
        (∀ k, bundles.IsKey k → k < key → bundles.IsCovered fallback k) ∧
        bundles.locales.find? (fun l => (bundles.text? l key).isNone) = some locale := by
  cases hgap : ((Catalog.ofBundles bundles).validate fallback).gap? with
  | some gap =>
    -- nothing is planned, and the gap is the error
    obtain ⟨hkey, huncovered, hbefore, hfirst⟩ := gap_ofBundles hgap
    rw [accessors_of_gap hgap]
    refine ⟨⟨?_, fun hall => absurd (hall gap.key hkey) huncovered⟩, ?_, ?_⟩
    · rintro ⟨accessors, h⟩
      cases h
    · intro accessors h
      cases h
    · intro fault h
      cases h
      exact ⟨gap.key, gap.locale, rfl, hkey, huncovered, hbefore, hfirst⟩
  | none =>
    -- every entry is completed, so the plan cannot fail
    obtain ⟨planned, hplan⟩ := plan_ofBundles target hgap
    rw [accessors_of_plan hgap hplan]
    refine ⟨⟨fun _ => gap_ofBundles_eq_none_iff.mp hgap, fun _ => ⟨planned, rfl⟩⟩, ?_, ?_⟩
    · intro accessors h
      cases h
      rw [Target.plan_keys hplan]
      refine ⟨Fields.keys_sorted _, mem_keys_validate_ofBundles hgap, fun a ha => ?_⟩
      obtain ⟨e, hfind, hnogap, -, hrows⟩ := Target.mem_plan hplan ha
      rw [hrows, Entry.map_row_eq hnogap, locales_validate_ofBundles]
      refine List.map_congr_left fun l hl => ?_
      rw [find?_validate_ofBundles hgap hfind l hl]
    · intro fault h
      cases h

/-- Two bundles, one of which has a number in place of a text. -/
def halfTranslated : Bundles :=
  .ofList [("en", .ofList [("b", .str "B"), ("a", .str "A"), ("@a", .obj []), ("@@locale", .str "en")]),
    ("de", .ofList [("a", .int 1), ("b", .str "b")])]

theorem accessors_of_bundles_halfTranslated :
    (∃ accessors, halfTranslated.accessors (some "en") .dart = .ok accessors ∧
      accessors.map Accessor.key = ["a", "b"] ∧
      ∀ a ∈ accessors, a.rows.map (fun row => (row.1, some row.2)) =
        halfTranslated.locales.map fun l => (l, halfTranslated.completedText? (some "en") l a.key)) ∧
    halfTranslated.accessors none .dart = .error (.failure (.missingText "a" "de")) ∧
    ¬ halfTranslated.IsCovered none "a" := by
  obtain ⟨accessors, hok, hkeys⟩ : ∃ accessors, halfTranslated.accessors (some "en") .dart = .ok accessors ∧
      accessors.map Accessor.key = ["a", "b"] := ⟨_, rfl, rfl⟩
  have herr : halfTranslated.accessors none .dart = .error (.failure (.missingText "a" "de")) := rfl
  have hrows := ((accessors_of_bundles halfTranslated (some "en") .dart).2.1 accessors hok).2.2
  obtain ⟨key, locale, hfault, -, hopen, -⟩ := (accessors_of_bundles halfTranslated none .dart).2.2 _ herr
  cases hfault
  exact ⟨⟨accessors, hok, hkeys, hrows⟩, herr, hopen⟩

end Bundles

end Phrasebook
