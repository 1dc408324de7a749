import Phrasebook.Proofs.Build
import Phrasebook.Proofs.Parameters
import Phrasebook.Proofs.Requests

/-!
# What completing leaves

Completing changes a catalog in place and may be stopped on the way, but what it leaves is exact. An entry
is stuck when one of the locales has no text in it and the fallback locale has none to give. The visit
stops at the smallest key with such an entry. It goes through the locales of an entry one by one and might
stop at the second after it has filled the first; but filling does not change whether the fallback locale
has a text, so a stuck entry is left at its first gap and is as it was (`Entry.complete_of_gap?`). Entries
in front of it are completed; those behind it were not reached.

## Contents
- `Entry.IsStuck`, `Catalog.StopsAt`: the entry that stops a visit
- `Entry.CompletedTo`, `completedTo_completed`: what any other entry is completed to
- `stopsAt_of_gap?`, `gap?_of_stopsAt`: the gap that is reported
- `find?_validate_cases`: an entry is completed or left alone
- `effect_of_validate`: the outcome and the catalog, whether something stopped the visit or not
-/

namespace Phrasebook

/-! ## One entry -/

namespace Entry

variable {e : Entry} {key : String} {locales : List String} {fallback : Option String}

/-- An entry is **stuck** when one of the locales has no text in it, and the fallback locale, if there is
one, has none either. -/
def IsStuck (e : Entry) (locales : List String) (fallback : Option String) : Prop :=
  (∃ l ∈ locales, e.texts.get? l = none) ∧ ∀ f ∈ fallback, e.texts.get? f = none

theorem isStuck_iff : e.IsStuck locales fallback ↔ e.openGap? key locales fallback ≠ none := by
  have hfallback : (∀ f ∈ fallback, e.texts.get? f = none) ↔ fallback.bind e.texts.get? = none := by
    cases fallback <;> simp
  unfold IsStuck
  rw [hfallback, Ne, openGap?_eq_none_iff]
  constructor
  · rintro ⟨⟨l, hl, hnone⟩, hbind⟩ hall
    have htext := hall l hl
    simp [completedText?, hnone, hbind] at htext
  · intro hnot
    push Not at hnot
    obtain ⟨l, hl, htext⟩ := hnot
    have htext : (e.texts.get? l).or (fallback.bind e.texts.get?) = none := by
      simpa [completedText?] using htext
    rw [Option.or_eq_none_iff] at htext
    exact ⟨⟨l, hl, htext.1⟩, htext.2⟩

/-- What an entry **is completed to**, for some locales and from a fallback locale. -/
structure CompletedTo (e e' : Entry) (locales : List String) (fallback : Option String) : Prop where
  /-- Each of the locales has a text. -/
  complete : ∀ l ∈ locales, (e'.texts.get? l).isSome
  /-- The texts that there were are kept. -/
  kept : ∀ l text, e.texts.get? l = some text → e'.texts.get? l = some text
  /-- A text is added for one of the locales only, and it is the one for the fallback locale. -/
  added : ∀ l text, e.texts.get? l = none → e'.texts.get? l = some text →
    l ∈ locales ∧ ∃ f ∈ fallback, e.texts.get? f = some text
  /-- Placeholders are kept when there are some. -/
  declared : e.placeholders.toNames ≠ [] → e'.placeholders = e.placeholders
  /-- Otherwise they are the names that the texts use. -/
  inferred : e.placeholders.toNames = [] → ∀ name, name ∈ e'.placeholders.toNames ↔ e'.Uses name

/-- An entry that does not stop a visit is completed. -/
theorem completedTo_completed (h : e.openGap? key locales fallback = none) :
    e.CompletedTo (e.completed key locales fallback) locales fallback where
  complete := by
    intro l hl
    rw [get?_completed h, if_pos hl]
    exact openGap?_eq_none_iff.mp h l hl
  kept := by
    intro l text hget
    rw [get?_completed h, completedText?, hget]
    simp
  added := by
    intro l text hnone hget
    rw [get?_completed h, completedText?, hnone] at hget
    by_cases hl : l ∈ locales
    · rw [if_pos hl, Option.none_or, Option.bind_eq_some_iff] at hget
      exact ⟨hl, hget⟩
    · simp [hl] at hget
  declared := by
    intro hne
    exact placeholders_completed h hne
  inferred := by
    intro hempty name
    exact mem_placeholders_completed h hempty name

end Entry

/-! ## The entry that stops a visit -/

namespace Catalog

variable {c : Catalog} {fallback : Option String} {key : String} {e : Entry}

/-- Completing a catalog **stops at** the smallest key whose entry is stuck. -/
structure StopsAt (c : Catalog) (fallback : Option String) (key : String) (e : Entry) : Prop where
  /-- The entry of the key. -/
  entry : c.find? key = some e
  /-- It is stuck. -/
  stuck : e.IsStuck c.locales fallback
  /-- No smaller key has an entry that is. -/
  least : ∀ k e', c.find? k = some e' → e'.IsStuck c.locales fallback → key ≤ k

theorem stopsAt_of_gap? {gap : Gap} (h : (c.validate fallback).gap? = some gap) :
    ∃ e, c.StopsAt fallback gap.key e ∧ e.firstGap? c.locales = some gap.locale := by
  obtain ⟨e, he, hopen, hbefore⟩ := gap?_validate_eq_some h
  refine ⟨e, ⟨he, ?_, ?_⟩, (Entry.openGap?_eq_some hopen).2⟩
  · have hnone : e.openGap? gap.key c.locales fallback ≠ none := by
      rw [hopen]
      exact Option.some_ne_none gap
    exact Entry.isStuck_iff.mpr hnone
  · intro k e' he' hstuck
    refine Std.not_lt.mp fun hlt => ?_
    exact Entry.isStuck_iff.mp hstuck (hbefore k e' hlt he')

theorem gap?_of_stopsAt (h : c.StopsAt fallback key e) :
    ∃ gap, (c.validate fallback).gap? = some gap ∧ gap.key = key := by
  cases hgap : (c.validate fallback).gap? with
  | none => exact absurd (openGap?_of_validate hgap h.entry) (Entry.isStuck_iff.mp h.stuck)
  | some gap =>
    -- both keys are the smallest
    obtain ⟨e', hstop, -⟩ := stopsAt_of_gap? hgap
    have hle : gap.key ≤ key := hstop.least key e h.entry h.stuck
    have hge : key ≤ gap.key := h.least gap.key e' hstop.entry hstop.stuck
    exact ⟨gap, rfl, String.le_antisymm hle hge⟩

/-- The visit is not stopped at an entry that it gets past. -/
theorem openGap?_of_passed (h : ∀ gap ∈ (c.validate fallback).gap?, key < gap.key)
    (he : c.find? key = some e) : e.openGap? key c.locales fallback = none := by
  cases hgap : (c.validate fallback).gap? with
  | none => exact openGap?_of_validate hgap he
  | some gap =>
    obtain ⟨-, -, -, hbefore⟩ := gap?_validate_eq_some hgap
    exact hbefore key e (h gap hgap) he

/-! ## The catalog that is left -/

/-- An entry that the visit gets past is completed. -/
theorem find?_validate_of_passed (h : ∀ gap ∈ (c.validate fallback).gap?, key < gap.key)
    (he : c.find? key = some e) :
    ∃ e', (c.validate fallback).catalog.find? key = some e' ∧ e.CompletedTo e' c.locales fallback := by
  refine ⟨e.completed key c.locales fallback, ?_, Entry.completedTo_completed (openGap?_of_passed h he)⟩
  rw [find?_validate_eq, he, Option.map_some, if_pos h]

/-- An entry that the visit does not get past is as it was. -/
theorem find?_validate_of_not_passed {gap : Gap} (h : (c.validate fallback).gap? = some gap)
    (hkey : ¬ key < gap.key) : (c.validate fallback).catalog.find? key = c.find? key := by
  have hnot : ¬ ∀ gap ∈ (c.validate fallback).gap?, key < gap.key := fun hall => hkey (hall gap h)
  rw [find?_validate_eq]
  simp only [if_neg hnot, Option.map_id']

/-- **Completing a catalog completes an entry or leaves it alone.** -/
theorem find?_validate_cases (fallback : Option String) (he : c.find? key = some e) :
    ∃ e', (c.validate fallback).catalog.find? key = some e' ∧
      (e' = e ∨ e.CompletedTo e' c.locales fallback) := by
  by_cases hpassed : ∀ gap ∈ (c.validate fallback).gap?, key < gap.key
  · obtain ⟨e', he', hcompleted⟩ := find?_validate_of_passed hpassed he
    exact ⟨e', he', Or.inr hcompleted⟩
  · push Not at hpassed
    obtain ⟨gap, hgap, hkey⟩ := hpassed
    refine ⟨e, ?_, Or.inl rfl⟩
    rw [find?_validate_of_not_passed hgap (Std.not_lt.mpr hkey)]
    exact he

/-- No text is altered. -/
theorem text?_validate_of_some {l text : String} (h : c.text? key l = some text) :
    (c.validate fallback).catalog.text? key l = some text := by
  obtain ⟨e, he, hget⟩ := Option.bind_eq_some_iff.mp h
  obtain ⟨e', he', hcases⟩ := find?_validate_cases fallback he
  rw [text?, he', Option.bind_some]
  rcases hcases with rfl | hcompleted
  · exact hget
  · exact hcompleted.kept l text hget

/-- Placeholders are given only to an entry that has none. -/
theorem placeholders_validate {e' : Entry} (he : c.find? key = some e)
    (he' : (c.validate fallback).catalog.find? key = some e') (hne : e.placeholders.toNames ≠ []) :
    e'.placeholders = e.placeholders := by
  obtain ⟨e'', he'', hcases⟩ := find?_validate_cases fallback he
  obtain rfl : e'' = e' := Option.some.inj (he''.symm.trans he')
  rcases hcases with rfl | hcompleted
  · rfl
  · exact hcompleted.declared hne

/-- **The effect of completing, on success and on failure.** It succeeds when no entry is stuck. Otherwise
it stops at the smallest key with such an entry, and the error names that key and the first locale that has
no text there. Either way the locales, the keys and the texts that there were are kept; an entry with a
smaller key than the one it stops at is completed, as all are when it does not stop; and the entries from
that key on are what they were. -/
theorem effect_of_validate (c : Catalog) (fallback : Option String) :
    let after := (c.step (.validate fallback)).1
    let outcome := (c.step (.validate fallback)).2.outcome
    ((∀ key e, c.find? key = some e → ¬ e.IsStuck c.locales fallback) ∧ outcome = .ok .nothing ∨
      ∃ key e locale, c.StopsAt fallback key e ∧
        c.locales.find? (fun l => (e.texts.get? l).isNone) = some locale ∧
        outcome = .error (.failure (.missingText key locale))) ∧
    after.locales = c.locales ∧ after.entries.keys = c.entries.keys ∧
    (∀ key l text, c.text? key l = some text → after.text? key l = some text) ∧
    ∀ key e, c.find? key = some e →
      ((∀ k e', c.StopsAt fallback k e' → key < k) →
        ∃ e', after.find? key = some e' ∧ e.CompletedTo e' c.locales fallback) ∧
      ∀ k e', c.StopsAt fallback k e' → ¬ key < k → after.find? key = some e := by
  intro after outcome
  refine ⟨?_, rfl, keys_validate, ?_, ?_⟩
  · cases hgap : (c.validate fallback).gap? with
    | none =>
      refine Or.inl ⟨?_, ?_⟩
      · intro key e he hstuck
        exact Entry.isStuck_iff.mp hstuck (openGap?_of_validate hgap he)
      · show (c.step (.validate fallback)).2.outcome = _
        dsimp only [step]
        rw [hgap]
    | some gap =>
      obtain ⟨e, hstop, hfirst⟩ := stopsAt_of_gap? hgap
      have hlocale : c.locales.find? (fun l => (e.texts.get? l).isNone) = some gap.locale := by
        rw [← hfirst]
        unfold Entry.firstGap? Fields.contains
        congr 1
        funext l
        cases e.texts.get? l <;> rfl
      exact Or.inr ⟨gap.key, e, gap.locale, hstop, hlocale, outcome_validate_of_gap hgap⟩
  · intro key l text htext
    exact text?_validate_of_some htext
  · intro key e he
    constructor
    · intro hbefore
      have hpassed : ∀ gap ∈ (c.validate fallback).gap?, key < gap.key := by
        intro gap hgap
        obtain ⟨e', hstop, -⟩ := stopsAt_of_gap? hgap
        exact hbefore gap.key e' hstop
      exact find?_validate_of_passed hpassed he
    · intro k e' hstop hkey
      obtain ⟨gap, hgap, rfl⟩ := gap?_of_stopsAt hstop
      have hsame : after.find? key = c.find? key := find?_validate_of_not_passed hgap hkey
      rw [hsame]
      exact he

/-- A catalog whose first key lacks a text that the fallback locale has, and whose second key lacks the text
for the fallback locale itself. -/
def blocked : Catalog :=
  [("a", "en", "\x7bx\x7d"), ("b", "de", "B"), ("c", "en", "C")].foldl
    (fun c (key, locale, text) => c.update key (·.setText locale text)) (.ofLocales ["de", "en", "de"])

theorem effect_of_validate_blocked :
    (blocked.step (.validate (some "en"))).2.outcome = .error (.failure (.missingText "b" "en")) ∧
    (∃ e, blocked.StopsAt (some "en") "b" e) ∧
    (∃ e e', blocked.find? "a" = some e ∧
      (blocked.step (.validate (some "en"))).1.find? "a" = some e' ∧
      e.CompletedTo e' ["de", "en", "de"] (some "en")) ∧
    ∃ e, blocked.find? "c" = some e ∧ (blocked.step (.validate (some "en"))).1.find? "c" = some e := by
  have hfault : (blocked.step (.validate (some "en"))).2.outcome =
      .error (.failure (.missingText "b" "en")) := rfl
  obtain ⟨houtcome, -, -, -, hentries⟩ := effect_of_validate blocked (some "en")
  rw [hfault] at houtcome
  rcases houtcome with ⟨-, hok⟩ | ⟨key, e, locale, hstop, -, herror⟩
  · cases hok
  · cases herror
    obtain ⟨ea, ha⟩ : ∃ ea, blocked.find? "a" = some ea := ⟨_, rfl⟩
    obtain ⟨ec, hc⟩ : ∃ ec, blocked.find? "c" = some ec := ⟨_, rfl⟩
    -- the key that the visit stops at is the only one
    have honly : ∀ k e', blocked.StopsAt (some "en") k e' → k = "b" := fun k e' hstop' =>
      String.le_antisymm (hstop'.least _ _ hstop.entry hstop.stuck)
        (hstop.least _ _ hstop'.entry hstop'.stuck)
    have hbefore : ∀ k e', blocked.StopsAt (some "en") k e' → "a" < k := by
      intro k e' hstop'
      rw [honly k e' hstop']
      decide
    obtain ⟨ea', ha', hcompleted⟩ := (hentries "a" ea ha).1 hbefore
    exact ⟨hfault, ⟨e, hstop⟩, ⟨ea, ea', ha, ha', hcompleted⟩, ec, hc,
      (hentries "c" ec hc).2 "b" e hstop (by decide)⟩

end Catalog

end Phrasebook
