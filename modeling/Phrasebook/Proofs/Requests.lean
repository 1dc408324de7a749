import Phrasebook.Catalog.Operation
import Phrasebook.Output
import Phrasebook.Proofs.Completion
import Phrasebook.Proofs.Lines
import Phrasebook.Proofs.Plan

/-!
# Asking for source

A plan or a file can be asked of any catalog, completed or not. What is asked for needs a text under
every key for every locale of the catalog, and looks for them in the order in which completing without a
fallback locale looks for gaps: key by key, and under a key locale by locale. So the two succeed for the
same catalogs, and where they fail they name the same locale. Completing with any fallback locale leaves
no gap, and therefore whatever is asked of a completed catalog is given.

## Contents
- `Entry.openGap?_none`, `Catalog.locale_gap?_validate`: gaps where no text is taken from elsewhere
- `Target.requests`, `outcome_request`: what is asked of a target, and what comes of it
- `requests_agree`: asking agrees with completing without a fallback locale
-/

namespace Phrasebook

/-! ## Gaps -/

/-- Without a fallback locale the first gap of an entry stays open. -/
theorem Entry.openGap?_none (e : Entry) (key : String) (locales : List String) :
    e.openGap? key locales none = (e.firstGap? locales).map (Gap.mk key) := by
  have hnone : e.fallbackText? none = none := rfl
  rw [openGap?, complete_of_fallbackText?_eq_none hnone]

/-- **Without a fallback locale the first gap of a catalog stays open.** -/
theorem Catalog.locale_gap?_validate (c : Catalog) :
    (c.validate none).gap?.map Gap.locale = c.firstGap? := by
  rw [gap?_validate, List.map_findSome?]
  unfold firstGap?
  congr 1
  funext p
  rw [Function.comp_apply, Entry.openGap?_none]
  cases p.2.firstGap? c.locales <;> rfl

namespace Catalog

variable {c : Catalog} {fallback : Option String}

/-- Completing comes to an answer exactly when no gap stays open. -/
theorem outcome_validate_eq_ok_iff :
    (∃ answer, (c.step (.validate fallback)).2.outcome = .ok answer) ↔
      (c.validate fallback).gap? = none := by
  dsimp only [step]
  cases (c.validate fallback).gap? <;> simp

/-- A gap that stays open is what completing fails with. -/
theorem outcome_validate_of_gap {gap : Gap} (h : (c.validate fallback).gap? = some gap) :
    (c.step (.validate fallback)).2.outcome = .error (.failure (.missingText gap.key gap.locale)) := by
  dsimp only [step]
  rw [h]

/-- A text that completing is stopped for is the gap that stays open. -/
theorem gap?_of_outcome_validate {key locale : String}
    (h : (c.step (.validate fallback)).2.outcome = .error (.failure (.missingText key locale))) :
    (c.validate fallback).gap? = some ⟨key, locale⟩ := by
  cases hgap : (c.validate fallback).gap? with
  | none =>
    obtain ⟨answer, hok⟩ := outcome_validate_eq_ok_iff.mpr hgap
    rw [hok] at h
    cases h
  | some gap =>
    rw [outcome_validate_of_gap hgap] at h
    cases h
    rfl

end Catalog

/-! ## Requests -/

/-- What a target can be asked for: the plan of the accessors, and the file. -/
def Target.requests (target : Target) (asked : String) : List Operation :=
  [.plan target asked, .emit target asked]

namespace Catalog

variable {c : Catalog} {target : Target} {asked : String} {request : Operation}

/-- **What comes of a request** is decided by the first gap of the catalog, which stays as it is. -/
theorem outcome_request (h : request ∈ target.requests asked) :
    (c.step request).1 = c ∧
      match c.firstGap? with
      | none => ∃ answer, (c.step request).2.outcome = .ok answer
      | some locale => (c.step request).2.outcome = .error (.crash (.noText locale)) := by
  have hplan := Target.plan_eq target c
  rcases List.mem_pair.mp h with rfl | rfl
  · refine ⟨rfl, ?_⟩
    dsimp only [step]
    rw [hplan]
    cases c.firstGap? with
    | none => exact ⟨_, rfl⟩
    | some locale => rfl
  · refine ⟨rfl, ?_⟩
    dsimp only [step, Target.emit]
    rw [hplan]
    cases c.firstGap? with
    | none => exact ⟨_, rfl⟩
    | some locale => rfl

/-- A catalog without a gap gives what is asked of it. -/
theorem outcome_request_of_firstGap? (h : request ∈ target.requests asked) (hgap : c.firstGap? = none) :
    ∃ answer, (c.step request).2.outcome = .ok answer := by
  have houtcome := (outcome_request (c := c) h).2
  rwa [hgap] at houtcome

end Catalog

/-! ## Outputs of a compiled catalog -/

theorem Target.emit_of_firstGap? {c : Catalog} (h : c.firstGap? = none) (target : Target)
    (asked : String) : ∃ text, target.emit asked c = .ok text := by
  exact ⟨_, emit_eq_ok_iff.mpr ⟨_, plan_eq_ok_iff.mpr ⟨h, rfl⟩, rfl⟩⟩

/-- A catalog without a gap is rendered for both targets. -/
theorem render_of_firstGap? {c : Catalog} (h : c.firstGap? = none) (settings : Settings) :
    ∃ outputs, render settings c = .ok outputs := by
  obtain ⟨dart, hdart⟩ := Target.dart.emit_of_firstGap? h settings.defaultLocale
  obtain ⟨typeScript, htypeScript⟩ := Target.typeScript.emit_of_firstGap? h settings.defaultLocale
  unfold render renderTarget
  rw [hdart, htypeScript]
  exact ⟨_, rfl⟩

/-- **A compiled catalog has no gap.** -/
theorem Workspace.firstGap?_of_compile {w : Workspace} {settings : Settings} {c : Catalog}
    (h : (w.compile settings).outcome = .ok c) : c.firstGap? = none := by
  obtain ⟨bundles, -, hreport⟩ := Report.andThen_eq_ok_iff.mp h
  dsimp only [Report.say, Validation.report] at hreport
  cases hgap : ((Catalog.ofBundles bundles).validate settings.fallback).gap? with
  | some gap =>
    rw [hgap] at hreport
    cases hreport
  | none =>
    rw [hgap] at hreport
    cases hreport
    exact Catalog.firstGap?_validate hgap

/-! ## Agreement -/

namespace Catalog

/-- **Asking agrees with completing without a fallback locale.** A request changes nothing; it succeeds
exactly when completing would, and when it fails it names the locale that completing would name. What is
asked of a completed catalog is given, whatever the fallback locale was, and so both outputs of a
compiled catalog are rendered. -/
theorem requests_agree (c : Catalog) (target : Target) (asked : String) :
    (∀ request ∈ target.requests asked,
      (c.step request).1 = c ∧
      ((∃ answer, (c.step request).2.outcome = .ok answer) ↔
        ∃ answer, (c.step (.validate none)).2.outcome = .ok answer) ∧
      (∀ fault, (c.step request).2.outcome = .error fault →
        ∃ key locale, fault = .crash (.noText locale) ∧
          (c.step (.validate none)).2.outcome = .error (.failure (.missingText key locale))) ∧
      ∀ fallback, (∃ answer, (c.step (.validate fallback)).2.outcome = .ok answer) →
        ∃ answer, ((c.step (.validate fallback)).1.step request).2.outcome = .ok answer) ∧
    ∀ (w : Workspace) (settings : Settings), (w.compile settings).outcome = .ok c →
      ∃ outputs, render settings c = .ok outputs := by
  refine ⟨fun request hrequest => ?_, fun w settings hcompile =>
    render_of_firstGap? (Workspace.firstGap?_of_compile hcompile) settings⟩
  obtain ⟨hsame, houtcome⟩ := outcome_request (c := c) hrequest
  have hlocale := c.locale_gap?_validate
  have hcompleted : ∀ fallback, (∃ answer, (c.step (.validate fallback)).2.outcome = .ok answer) →
      ∃ answer, ((c.step (.validate fallback)).1.step request).2.outcome = .ok answer :=
    fun fallback hok => outcome_request_of_firstGap? hrequest
      (firstGap?_validate (outcome_validate_eq_ok_iff.mp hok))
  refine ⟨hsame, ?_, ?_, hcompleted⟩
  · rw [outcome_validate_eq_ok_iff, ← Option.map_eq_none_iff (f := Gap.locale), hlocale]
    cases hgap : c.firstGap? with
    | none =>
      rw [hgap] at houtcome
      exact iff_of_true houtcome rfl
    | some locale =>
      rw [hgap] at houtcome
      simp [houtcome]
  · intro fault hfault
    cases hgap : c.firstGap? with
    | none =>
      rw [hgap] at houtcome
      obtain ⟨answer, hok⟩ := houtcome
      rw [hok] at hfault
      cases hfault
    | some locale =>
      rw [hgap] at houtcome hlocale
      obtain ⟨gap, hopen, rfl⟩ := Option.map_eq_some_iff.mp hlocale
      rw [houtcome] at hfault
      cases hfault
      exact ⟨gap.key, gap.locale, rfl, outcome_validate_of_gap hopen⟩

/-- A catalog with a repeated locale, of which the entry of the smaller key has a text for one locale
only and for one that the catalog does not list. -/
def halfFilled : Catalog :=
  (((ofLocales ["en", "fi", "en"]).update "b" id).update "a" fun e => (e.setText "en" "A").setText "sv" "A")

theorem requests_agree_halfFilled :
    (halfFilled.step (.emit .dart "en")).2.outcome = .error (.crash (.noText "fi")) ∧
      (∃ key, (halfFilled.step (.validate none)).2.outcome = .error (.failure (.missingText key "fi"))) ∧
      .emit .dart "en" ∈ Target.dart.requests "en" := by
  have hrequest : .emit .dart "en" ∈ Target.dart.requests "en" := List.mem_cons_of_mem _ List.mem_cons_self
  have hfault : (halfFilled.step (.emit .dart "en")).2.outcome = .error (.crash (.noText "fi")) := rfl
  obtain ⟨key, locale, hlocale, hmissing⟩ :=
    ((requests_agree halfFilled .dart "en").1 _ hrequest).2.2.1 _ hfault
  cases hlocale
  exact ⟨hfault, ⟨key, hmissing⟩, hrequest⟩

end Catalog

end Phrasebook
