import Phrasebook.Proofs.Parameters
import Phrasebook.Proofs.Requests

/-!
# Completing again

Completing leaves traces that a later run cannot tell from what was there before: a text that closed a gap
looks like any other, and placeholders that were found in the texts look like declared ones. The later run
comes to the same all the same. An entry that was completed has no gap, so no fallback locale is asked; and
placeholders that were found are just the names that the texts use, so taken for declared ones they differ
from nothing and are not reported.

Both results below rest on one step: to a visit, an entry without a gap is the same before and after it was
settled (`visit_cons_settle`). Without a fallback locale only such entries are changed, so the run can be
repeated with any fallback locale as if it had not been; after a run that succeeded all entries are such, so
the next one changes nothing.

## Contents
- `Entry.settle_settle`: settling twice, with what is reported
- `visit_cons_of_firstGap?`, `visit_cons_settle`: an entry without a gap, in a visit
- `visit_visit_none`, `retry_after_strict_validate`: after a run without fallback locale
- `Notice.isFill`, `visit_visit_of_gap?`, `validate_of_validated`: after a run that succeeded
-/

namespace Phrasebook

/-! ## One entry -/

namespace Entry

variable {e : Entry} {key : String} {locales : List String} {fallback : Option String}

/-- **Settling twice is settling once**, and it reports the same both times. -/
theorem settle_settle (key : String) (e : Entry) : (e.settle key).1.settle key = e.settle key := by
  by_cases hempty : e.placeholders.isEmpty = true
  · -- the names that were found are now the placeholders, and the texts still use the same
    have hfound : e.settle key = (e.declare e.usedNames.names, []) := if_pos hempty
    have hused : (e.declare e.usedNames.names).usedNames = e.usedNames := rfl
    have hnames : (e.declare e.usedNames.names).placeholders = e.usedNames :=
      NameSet.addAll_names hempty e.usedNames
    rw [hfound]
    unfold settle
    rw [hused, hnames]
    by_cases hnone : e.usedNames.isEmpty = true
    · rw [if_pos hnone]
      refine congrArg (·, []) ?_
      unfold declare
      rw [show e.usedNames.names = [] from List.map_eq_nil_iff.mpr (List.isEmpty_iff.mp hnone)]
      rfl
    · rw [if_neg hnone, if_pos (NameSet.hasSame_iff.mpr fun n => Iff.rfl)]
  · -- placeholders that there were are kept, whether they are reported or not
    have hkept : (e.settle key).1 = e := by
      unfold settle
      rw [if_neg hempty]
      split <;> rfl
    rw [hkept]

theorem firstGap?_settle (key : String) (e : Entry) (locales : List String) :
    (e.settle key).1.firstGap? locales = e.firstGap? locales := by
  unfold firstGap?
  rw [texts_settle]

/-- Without a fallback locale a gap stays open. -/
theorem complete_none_of_firstGap? {l : String} (h : e.firstGap? locales = some l) (key : String) :
    (e.complete key none locales).gap? = some l := by
  have hnone : e.fallbackText? none = none := rfl
  rw [complete_of_fallbackText?_eq_none hnone]
  exact h

/-- What an entry is completed to has no gap. -/
theorem firstGap?_of_complete (h : (e.complete key fallback locales).gap? = none) :
    (e.complete key fallback locales).entry.firstGap? locales = none := by
  have hspec := complete_spec key locales fallback e
  rw [h] at hspec
  obtain ⟨hsome, hget, -⟩ := hspec
  rw [firstGap?_eq_none_iff]
  intro l hl
  rw [hget l, if_pos hl]
  exact hsome l hl

end Entry

/-! ## One step of a visit -/

section Visit

variable {locales : List String} {fallback : Option String} {key : String} {e : Entry}

/-- An entry without a gap is settled only. -/
theorem visit_cons_of_firstGap? (h : e.firstGap? locales = none) (rest : List (String × Entry)) :
    visit locales fallback ((key, e) :: rest) =
      ⟨(key, (e.settle key).1) :: (visit locales fallback rest).entries,
        (e.settle key).2 ++ (visit locales fallback rest).notices,
        (visit locales fallback rest).gap?⟩ := by
  have hcomplete : e.complete key fallback locales = ⟨e, [], none⟩ := Entry.complete_of_firstGap? h
  simp only [visit, hcomplete, List.nil_append]

/-- **To a visit, an entry without a gap is the same before and after it was settled.** -/
theorem visit_cons_settle (h : e.firstGap? locales = none) (rest : List (String × Entry)) :
    visit locales fallback ((key, (e.settle key).1) :: rest) =
      visit locales fallback ((key, e) :: rest) := by
  have hsettled : (e.settle key).1.firstGap? locales = none := by
    rw [Entry.firstGap?_settle]
    exact h
  rw [visit_cons_of_firstGap? hsettled, visit_cons_of_firstGap? h, Entry.settle_settle]

end Visit

/-! ## After a run without fallback locale -/

/-- A visit does not notice an earlier one without fallback locale, wherever that one was stopped. -/
theorem visit_visit_none (locales : List String) (fallback : Option String) (l : List (String × Entry)) :
    visit locales fallback (visit locales none l).entries = visit locales fallback l := by
  induction l with
  | nil => rfl
  | cons p rest ih =>
    obtain ⟨key, e⟩ := p
    cases hgap : e.firstGap? locales with
    | some locale =>
      -- the earlier visit was over here, and left this entry and the rest as they were
      rw [visit_cons_of_gap? (Entry.complete_none_of_firstGap? hgap key)]
    | none =>
      -- the earlier visit settled the entry and nothing else
      rw [visit_cons_of_firstGap? hgap]
      show visit locales fallback ((key, (e.settle key).1) :: (visit locales none rest).entries) = _
      rw [visit_cons_settle hgap, visit_cons_of_firstGap? hgap, visit_cons_of_firstGap? hgap, ih]

namespace Catalog

/-- Completing does not notice an earlier run without fallback locale either. -/
theorem validate_validate_none (c : Catalog) (fallback : Option String) :
    (c.validate none).catalog.validate fallback = c.validate fallback := by
  have hlocales : (c.validate fallback).catalog.locales = (c.validate none).catalog.locales := rfl
  have hnames : (c.validate fallback).catalog.entries.names = (c.validate none).catalog.entries.names := by
    rw [names_validate, names_validate]
  apply validate_eq_of_visit hlocales hnames
  rw [sorted_validate, sorted_validate]
  exact visit_visit_none c.locales fallback c.entries.sorted.toList

/-- The answer to a request to complete a catalog is read off the completed catalog. -/
theorem step_validate_congr {c c' : Catalog} {fallback fallback' : Option String}
    (h : c.validate fallback = c'.validate fallback') :
    c.step (.validate fallback) = c'.step (.validate fallback') := by
  dsimp only [step]
  rw [h]

/-- **A strict run does not spoil a retry.** Completing without a fallback locale may fail, and has then
settled the entries in front of the gap. Whatever it came to, completing from any fallback locale after it
comes to what it would have come to without it: the same outcome, with the same error if it fails, the same
catalog, and the same notices. -/
theorem retry_after_strict_validate (c : Catalog) (fallback : Option String) :
    (c.step (.validate none)).1.step (.validate fallback) = c.step (.validate fallback) := by
  have hsame : (c.step (.validate none)).1.validate fallback = c.validate fallback :=
    c.validate_validate_none fallback
  exact step_validate_congr hsame

/-- A catalog whose first key has no placeholders yet, and whose second key lacks a text. -/
def unfinished : Catalog :=
  [("a", "de", "\x7bx\x7d"), ("a", "en", "\x7bx\x7d"), ("b", "en", "B")].foldl
    (fun c (key, locale, text) => c.update key (·.setText locale text)) (.ofLocales ["de", "en"])

/-- The strict run fails and leaves placeholders behind, which the retry does not report. -/
example :
    (unfinished.step (.validate none)).2.outcome = .error (.failure (.missingText "b" "de")) ∧
    ((unfinished.step (.validate none)).1.find? "a").map (·.placeholders.toNames) = some ["x"] ∧
    ((unfinished.step (.validate none)).1.step (.validate (some "en"))).2.notices =
      [.filled "de" "b" "en"] :=
  ⟨rfl, by decide +kernel, by decide +kernel⟩

end Catalog

/-! ## After a run that succeeded -/

/-- Whether a notice says that a gap took the text of the fallback locale. -/
def Notice.isFill : Notice → Bool
  | filled .. => true
  | _ => false

theorem Entry.filter_isFill_complete (key : String) (locales : List String) (fallback : Option String)
    (e : Entry) : (e.complete key fallback locales).notices.filter (!·.isFill) = [] := by
  rw [List.filter_eq_nil_iff]
  intro n hn
  obtain ⟨l, source, rfl⟩ := mem_complete_notices hn
  exact Bool.false_ne_true

theorem Entry.filter_isFill_settle (key : String) (e : Entry) :
    (e.settle key).2.filter (!·.isFill) = (e.settle key).2 := by
  unfold settle
  split
  · rfl
  · split <;> rfl

/-- A visit of what a visit has gone through changes nothing and fills nothing. -/
theorem visit_visit_of_gap? {locales : List String} {fallback : Option String}
    {l : List (String × Entry)} (h : (visit locales fallback l).gap? = none) (fallback' : Option String) :
    visit locales fallback' (visit locales fallback l).entries =
      ⟨(visit locales fallback l).entries, (visit locales fallback l).notices.filter (!·.isFill), none⟩ := by
  induction l with
  | nil => rfl
  | cons p rest ih =>
    obtain ⟨key, e⟩ := p
    cases hc : (e.complete key fallback locales).gap? with
    | some locale =>
      rw [visit_cons_of_gap? hc] at h
      cases h
    | none =>
      rw [visit_cons_of_complete hc] at h ⊢
      have hgap := Entry.firstGap?_of_complete hc
      obtain ⟨hcompleted, hreports, -, -⟩ :=
        Entry.completed_of_openGap? (Option.map_eq_none_iff.mpr hc)
      -- of the notices on this entry, those on filling are gone and those on settling come again
      have hnotices : (e.notices key locales fallback ++ (visit locales fallback rest).notices).filter
          (!·.isFill) = ((e.complete key fallback locales).entry.settle key).2 ++
            (visit locales fallback rest).notices.filter (!·.isFill) := by
        rw [hreports, List.filter_append, List.filter_append, Entry.filter_isFill_complete,
          Entry.filter_isFill_settle, List.nil_append]
      show visit locales fallback'
        ((key, e.completed key locales fallback) :: (visit locales fallback rest).entries) = _
      rw [hcompleted, visit_cons_settle hgap, visit_cons_of_firstGap? hgap, ih h, hnotices]

namespace Catalog

variable {c : Catalog} {fallback : Option String}

theorem filter_isFill_fallbackNotices (c : Catalog) (fallback : Option String) :
    (c.fallbackNotices fallback).filter (!·.isFill) = c.fallbackNotices fallback := by
  rw [List.filter_eq_self]
  intro n hn
  obtain ⟨f, rfl⟩ := mem_fallbackNotices hn
  rfl

/-- **Completing a completed catalog** from any fallback locale leaves it as it is. -/
theorem validate_validate_of_gap? (h : (c.validate fallback).gap? = none) (fallback' : Option String) :
    (c.validate fallback).catalog.validate fallback' =
      ⟨(c.validate fallback).catalog, c.fallbackNotices fallback' ++
        (visit c.locales fallback c.entries.sorted.toList).notices.filter (!·.isFill), none⟩ := by
  apply validate_eq_of_visit rfl rfl
  rw [sorted_validate]
  exact visit_visit_of_gap? h fallback'

/-- **Completing is idempotent, reports included.** After a run that succeeded, a run with any fallback
locale or none succeeds and leaves the catalog exactly as it is; with the same fallback locale it reports
what the first run reported, in order, apart from the gaps that are no longer there to fill. -/
theorem validate_of_validated (h : (c.step (.validate fallback)).2.outcome = .ok .nothing) :
    let first := c.step (.validate fallback)
    (∀ fallback', (first.1.step (.validate fallback')).1 = first.1 ∧
      (first.1.step (.validate fallback')).2.outcome = .ok .nothing) ∧
    (first.1.step (.validate fallback)).2.notices = first.2.notices.filter (!·.isFill) := by
  intro first
  have hgap : (c.validate fallback).gap? = none := outcome_validate_eq_ok_iff.mp ⟨_, h⟩
  have hagain : ∀ fallback', first.1.validate fallback' = ⟨first.1, c.fallbackNotices fallback' ++
      (visit c.locales fallback c.entries.sorted.toList).notices.filter (!·.isFill), none⟩ :=
    validate_validate_of_gap? hgap
  constructor
  · intro fallback'
    dsimp only [step]
    rw [hagain fallback']
    exact ⟨rfl, rfl⟩
  · show (first.1.validate fallback).notices = (c.fallbackNotices fallback ++
      (visit c.locales fallback c.entries.sorted.toList).notices).filter (!·.isFill)
    rw [hagain fallback, List.filter_append, filter_isFill_fallbackNotices]

theorem validate_of_validated_greetings :
    (greetings.step (.validate (some "en"))).2.outcome = .ok .nothing ∧
    (greetings.step (.validate (some "en"))).2.notices =
      [.filled "de" "hello" "en", .mismatch "note" ["a"] ["a", "b"]] ∧
    ((greetings.step (.validate (some "en"))).1.step (.validate (some "sv"))).1 =
      (greetings.step (.validate (some "en"))).1 ∧
    ((greetings.step (.validate (some "en"))).1.step (.validate (some "en"))).2.notices =
      [.mismatch "note" ["a"] ["a", "b"]] := by
  have hok : (greetings.step (.validate (some "en"))).2.outcome = .ok .nothing := rfl
  have hfirst : (greetings.step (.validate (some "en"))).2.notices =
      [.filled "de" "hello" "en", .mismatch "note" ["a"] ["a", "b"]] := by decide +kernel
  obtain ⟨hsame, hnotices⟩ := validate_of_validated hok
  refine ⟨hok, hfirst, (hsame (some "sv")).1, ?_⟩
  rw [hnotices, hfirst]
  rfl

end Catalog

end Phrasebook
