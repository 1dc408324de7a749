import Phrasebook.Catalog.Validate
import Phrasebook.Proofs.Fields

/-!
# Completing entries

What a visit makes of each entry, and which gap stops it. An entry is completed locale by locale, but no
step changes whether the fallback locale has a text: only gaps are filled, and where it has none nothing
is. So completing stops at the first gap, with the entry as it was, or it does not stop at all and fills
every gap with the one text. A visit goes through the entries in order and stops at the first entry whose
gap stays open.

## Contents
- `Entry.firstGap?`, `Catalog.firstGap?`: gaps
- `Entry.fill`, `Entry.complete_eq`: completing one entry, in closed form
- `Entry.completedText?`, `Entry.complete_spec`: what it comes to
- `Entry.openGap?`, `Entry.completed`: the gap that stays open, the entry that is left
- `visit_cons_of_gap?`, `visit_cons_of_complete`: one step of a visit
- `gap?_visit`, `lookup_visit`, `notices_visit`: all entries
- `Catalog.validate_eq_of_visit`, `Catalog.gap?_validate`, `Catalog.find?_validate_eq`,
  `Catalog.firstGap?_validate`: a whole catalog
-/

namespace Phrasebook

namespace Entry

/-! ## Gaps -/

/-- The first of the locales that has no text. -/
def firstGap? (e : Entry) (locales : List String) : Option String :=
  locales.find? fun locale => !e.texts.contains locale

theorem firstGap?_cons (e : Entry) (locale : String) (rest : List String) :
    e.firstGap? (locale :: rest) =
      if e.texts.contains locale then e.firstGap? rest else some locale := by
  unfold firstGap?
  rw [List.find?_cons]
  cases e.texts.contains locale <;> rfl

/-- An entry has no gap when it has a text for each of the locales. -/
theorem firstGap?_eq_none_iff {e : Entry} {locales : List String} :
    e.firstGap? locales = none ↔ ∀ l ∈ locales, (e.texts.get? l).isSome := by
  unfold firstGap?
  rw [List.find?_eq_none]
  simp [Fields.contains, Option.isSome_iff_ne_none]

theorem get?_of_firstGap? {e : Entry} {locales : List String} {l : String}
    (h : e.firstGap? locales = some l) : l ∈ locales ∧ e.texts.get? l = none := by
  refine ⟨List.mem_of_find?_eq_some h, ?_⟩
  have hl := List.find?_some h
  simpa [Fields.contains] using hl

/-! ## The text of the fallback locale -/

theorem fallbackText?_eq_none_iff {e : Entry} {fallback : Option String} :
    e.fallbackText? fallback = none ↔ fallback.bind e.texts.get? = none := by
  unfold fallbackText?
  cases fallback <;> simp

theorem fallbackText?_eq_some_iff {e : Entry} {fallback : Option String} {source text : String} :
    e.fallbackText? fallback = some (source, text) ↔
      fallback = some source ∧ e.texts.get? source = some text := by
  unfold fallbackText?
  cases fallback with
  | none => simp
  | some f =>
    rw [Option.bind_some, Option.map_eq_some_iff]
    constructor
    · rintro ⟨t, ht, heq⟩
      cases heq
      exact ⟨rfl, ht⟩
    · rintro ⟨hf, ht⟩
      cases hf
      exact ⟨text, ht, rfl⟩

/-- **Filling a gap does not touch the text that it is filled with.** -/
theorem fallbackText?_setText {e : Entry} {fallback : Option String} {source text : String}
    (h : e.fallbackText? fallback = some (source, text)) (locale : String) :
    (e.setText locale text).fallbackText? fallback = some (source, text) := by
  rw [fallbackText?_eq_some_iff] at h ⊢
  refine ⟨h.1, ?_⟩
  rw [get?_setText, h.2, ite_self]

/-! ## Completing one entry -/

/-- Gives every locale of a list that has no text the one given. -/
def fill (key fallback text : String) : List String → Entry → Entry × List Notice
  | [], e => (e, [])
  | locale :: rest, e =>
    if e.texts.contains locale then fill key fallback text rest e
    else
      let (e', notices) := fill key fallback text rest (e.setText locale text)
      (e', .filled locale key fallback :: notices)

/-- Where the fallback locale has no text, completing **stops at the first gap and has filled nothing**. -/
theorem complete_of_fallbackText?_eq_none {e : Entry} {fallback : Option String}
    (h : e.fallbackText? fallback = none) (key : String) (locales : List String) :
    e.complete key fallback locales = ⟨e, [], e.firstGap? locales⟩ := by
  induction locales with
  | nil => rfl
  | cons locale rest ih =>
    rw [firstGap?_cons]
    unfold complete
    by_cases hc : e.texts.contains locale = true
    · rw [if_pos hc, if_pos hc, ih]
    · rw [if_neg hc, if_neg hc, h]

/-- Where it has one, completing **does not stop**, and every gap is filled with that text. -/
theorem complete_of_fallbackText?_eq_some {e : Entry} {fallback : Option String} {source text : String}
    (h : e.fallbackText? fallback = some (source, text)) (key : String) (locales : List String) :
    e.complete key fallback locales =
      ⟨(fill key source text locales e).1, (fill key source text locales e).2, none⟩ := by
  induction locales generalizing e with
  | nil => rfl
  | cons locale rest ih =>
    unfold complete fill
    by_cases hc : e.texts.contains locale = true
    · rw [if_pos hc, if_pos hc, ih h]
    · -- the text to fill with is there for the rest as well
      rw [if_neg hc, if_neg hc, h]
      dsimp only
      rw [ih (fallbackText?_setText h locale)]

/-- **Completing in closed form.** Whether it stops is decided by the text of the fallback locale alone: an
entry that it stops at is never filled in part. -/
theorem complete_eq (key : String) (fallback : Option String) (locales : List String) (e : Entry) :
    e.complete key fallback locales =
      match e.fallbackText? fallback with
      | none => ⟨e, [], e.firstGap? locales⟩
      | some (source, text) =>
        ⟨(fill key source text locales e).1, (fill key source text locales e).2, none⟩ := by
  cases h : e.fallbackText? fallback with
  | none => exact complete_of_fallbackText?_eq_none h key locales
  | some p => exact complete_of_fallbackText?_eq_some h key locales

/-- An entry without a gap needs no fallback locale. -/
theorem complete_of_firstGap? {e : Entry} {key : String} {locales : List String}
    {fallback : Option String} (h : e.firstGap? locales = none) :
    e.complete key fallback locales = ⟨e, [], none⟩ := by
  induction locales with
  | nil => rfl
  | cons locale rest ih =>
    rw [firstGap?_cons] at h
    unfold complete
    by_cases hc : e.texts.contains locale = true
    · rw [if_pos hc] at h
      rw [if_pos hc, ih h]
    · rw [if_neg hc] at h
      cases h

/-- Completing an entry that it **stops at leaves the entry as it was**, and reports nothing. -/
theorem complete_of_gap? {e : Entry} {key l : String} {locales : List String}
    {fallback : Option String} (h : (e.complete key fallback locales).gap? = some l) :
    e.complete key fallback locales = ⟨e, [], some l⟩ ∧ e.firstGap? locales = some l ∧
      fallback.bind e.texts.get? = none := by
  rw [complete_eq] at h ⊢
  cases hf : e.fallbackText? fallback with
  | none =>
    rw [hf] at h
    have hl : e.firstGap? locales = some l := h
    refine ⟨?_, hl, fallbackText?_eq_none_iff.mp hf⟩
    rw [hl]
  | some p =>
    rw [hf] at h
    cases h

/-! ## What completing comes to -/

/-- The text of an entry for a locale, or else the one for the fallback locale. -/
def completedText? (e : Entry) (fallback : Option String) (l : String) : Option String :=
  (e.texts.get? l).or (fallback.bind e.texts.get?)

theorem get?_fill (key source text : String) (locales : List String) (e : Entry) (l : String) :
    (fill key source text locales e).1.texts.get? l =
      if l ∈ locales then (e.texts.get? l).or (some text) else e.texts.get? l := by
  induction locales generalizing e with
  | nil => rfl
  | cons locale rest ih =>
    unfold fill
    split
    · -- the locale has a text, which filling the rest keeps
      rename_i hc
      rw [ih]
      by_cases hl : l = locale
      · subst hl
        obtain ⟨t, ht⟩ := Option.isSome_iff_exists.mp hc
        simp [ht]
      · simp [hl]
    · -- it has none and gets one, which filling the rest keeps
      rename_i hc
      dsimp only
      rw [ih, get?_setText]
      by_cases hl : l = locale
      · subst hl
        have hnone : e.texts.get? l = none := by simpa [Fields.contains] using hc
        simp [hnone]
      · simp [hl]

/-- Filling gaps changes neither the key of an entry nor its placeholders. -/
theorem fill_keeps (key source text : String) (locales : List String) (e : Entry) :
    (fill key source text locales e).1.key = e.key ∧
      (fill key source text locales e).1.placeholders = e.placeholders := by
  induction locales generalizing e with
  | nil => exact ⟨rfl, rfl⟩
  | cons locale rest ih =>
    unfold fill
    split
    · exact ih e
    · exact ih (e.setText locale text)

/-- **What completing an entry comes to.** Its gap stays open when there is one and the fallback locale
has no text; otherwise each of the locales has its own text or that of the fallback locale, and nothing
else has changed. -/
theorem complete_spec (key : String) (locales : List String) (fallback : Option String)
    (e : Entry) :
    match (e.complete key fallback locales).gap? with
    | some l => e.firstGap? locales = some l ∧ fallback.bind e.texts.get? = none
    | none =>
      (∀ l ∈ locales, (e.completedText? fallback l).isSome) ∧
      (∀ l, (e.complete key fallback locales).entry.texts.get? l =
        if l ∈ locales then e.completedText? fallback l else e.texts.get? l) ∧
      (e.complete key fallback locales).entry.placeholders = e.placeholders := by
  cases hgap : (e.complete key fallback locales).gap? with
  | some l => exact (complete_of_gap? hgap).2
  | none =>
    rw [complete_eq] at hgap ⊢
    cases hf : e.fallbackText? fallback with
    | none =>
      -- nothing is filled, and no locale needs the text of another
      rw [hf] at hgap
      have hall := firstGap?_eq_none_iff.mp hgap
      have hown : ∀ l ∈ locales, e.completedText? fallback l = e.texts.get? l := by
        intro l hl
        obtain ⟨t, ht⟩ := Option.isSome_iff_exists.mp (hall l hl)
        unfold completedText?
        rw [ht, Option.some_or]
      refine ⟨fun l hl => (hown l hl).symm ▸ hall l hl, fun l => ?_, rfl⟩
      dsimp only
      split
      · rename_i hl
        exact (hown l hl).symm
      · rfl
    | some p =>
      -- there is a text to fill with, so no locale is left without one
      obtain ⟨source, text⟩ := p
      obtain ⟨rfl, htext⟩ := fallbackText?_eq_some_iff.mp hf
      refine ⟨fun l _ => ?_, fun l => ?_, (fill_keeps key source text locales e).2⟩
      · unfold completedText?
        rw [Option.bind_some, htext]
        cases e.texts.get? l <;> rfl
      · unfold completedText?
        rw [Option.bind_some, htext]
        exact get?_fill key source text locales e l

/-- Completing keeps the key of an entry. -/
theorem key_complete (key : String) (locales : List String) (fallback : Option String) (e : Entry) :
    (e.complete key fallback locales).entry.key = e.key := by
  rw [complete_eq]
  cases e.fallbackText? fallback with
  | none => rfl
  | some p => exact (fill_keeps key p.1 p.2 locales e).1

/-- The gap of the entry of a key that completing it leaves open. -/
def openGap? (e : Entry) (key : String) (locales : List String) (fallback : Option String) :
    Option Gap :=
  (e.complete key fallback locales).gap?.map (Gap.mk key)

/-- The entry of a key as a visit leaves it. -/
def completed (e : Entry) (key : String) (locales : List String) (fallback : Option String) :
    Entry :=
  match (e.complete key fallback locales).gap? with
  | some _ => e
  | none => ((e.complete key fallback locales).entry.settle key).1

/-- What a visit reports of the entry of a key. -/
def notices (e : Entry) (key : String) (locales : List String) (fallback : Option String) :
    List Notice :=
  match (e.complete key fallback locales).gap? with
  | some _ => []
  | none => (e.complete key fallback locales).notices ++
      ((e.complete key fallback locales).entry.settle key).2

theorem gap?_of_openGap? {e : Entry} {key : String} {locales : List String}
    {fallback : Option String} (h : e.openGap? key locales fallback = none) :
    (e.complete key fallback locales).gap? = none :=
  Option.map_eq_none_iff.mp h

theorem openGap?_eq_none_iff {e : Entry} {key : String} {locales : List String}
    {fallback : Option String} :
    e.openGap? key locales fallback = none ↔
      ∀ l ∈ locales, (e.completedText? fallback l).isSome := by
  have hspec := complete_spec key locales fallback e
  unfold openGap?
  cases hgap : (e.complete key fallback locales).gap? with
  | none =>
    rw [hgap] at hspec
    simpa using hspec.1
  | some l =>
    rw [hgap] at hspec
    obtain ⟨hl, hnone⟩ := get?_of_firstGap? hspec.1
    refine ⟨fun h => by simp at h, fun hall => ?_⟩
    have := hall l hl
    simp [completedText?, hnone, hspec.2] at this

theorem openGap?_eq_some {e : Entry} {key : String} {locales : List String}
    {fallback : Option String} {gap : Gap} (h : e.openGap? key locales fallback = some gap) :
    gap.key = key ∧ e.firstGap? locales = some gap.locale := by
  obtain ⟨l, hl, rfl⟩ := Option.map_eq_some_iff.mp h
  exact ⟨rfl, (complete_of_gap? hl).2.1⟩

/-- Settling changes the placeholders only. -/
theorem settle_keeps (key : String) (e : Entry) :
    (e.settle key).1.key = e.key ∧ (e.settle key).1.texts = e.texts := by
  unfold settle
  split
  · exact ⟨rfl, rfl⟩
  · split <;> exact ⟨rfl, rfl⟩

theorem texts_settle (key : String) (e : Entry) : (e.settle key).1.texts = e.texts :=
  (settle_keeps key e).2

theorem key_completed (e : Entry) (key : String) (locales : List String) (fallback : Option String) :
    (e.completed key locales fallback).key = e.key := by
  unfold completed
  split
  · rfl
  · rw [(settle_keeps key _).1, key_complete]

theorem get?_completed {e : Entry} {key : String} {locales : List String}
    {fallback : Option String} (h : e.openGap? key locales fallback = none) (l : String) :
    (e.completed key locales fallback).texts.get? l =
      if l ∈ locales then e.completedText? fallback l else e.texts.get? l := by
  have hgap := gap?_of_openGap? h
  have hspec := complete_spec key locales fallback e
  rw [hgap] at hspec
  unfold completed
  rw [hgap]
  dsimp only
  rw [texts_settle]
  exact hspec.2.1 l

end Entry

/-! ## All entries -/

section Visit

variable {locales : List String} {fallback : Option String} {key : String} {e : Entry}

/-- A visit is over at an entry whose gap stays open, and leaves it as it was. -/
theorem visit_cons_of_gap? {l : String} (h : (e.complete key fallback locales).gap? = some l)
    (rest : List (String × Entry)) :
    visit locales fallback ((key, e) :: rest) = ⟨(key, e) :: rest, [], some ⟨key, l⟩⟩ := by
  simp only [visit, (Entry.complete_of_gap? h).1]

/-- Any other entry is completed and settled, and the visit goes on behind it. -/
theorem visit_cons_of_complete (h : (e.complete key fallback locales).gap? = none)
    (rest : List (String × Entry)) :
    visit locales fallback ((key, e) :: rest) =
      ⟨(key, e.completed key locales fallback) :: (visit locales fallback rest).entries,
        e.notices key locales fallback ++ (visit locales fallback rest).notices,
        (visit locales fallback rest).gap?⟩ := by
  simp only [visit, Entry.completed, Entry.notices, h]

end Visit

/-- A visit keeps the keys. -/
theorem visit_keys (locales : List String) (fallback : Option String) (l : List (String × Entry)) :
    (visit locales fallback l).entries.map Prod.fst = l.map Prod.fst := by
  induction l with
  | nil => rfl
  | cons p rest ih =>
    obtain ⟨key, e⟩ := p
    cases hgap : (e.complete key fallback locales).gap? with
    | some l => rw [visit_cons_of_gap? hgap]
    | none => rw [visit_cons_of_complete hgap, List.map_cons, List.map_cons, ih]

/-- A visit is stopped by the first gap that stays open. -/
theorem gap?_visit (locales : List String) (fallback : Option String) (l : List (String × Entry)) :
    (visit locales fallback l).gap? = l.findSome? fun p => p.2.openGap? p.1 locales fallback := by
  induction l with
  | nil => rfl
  | cons p rest ih =>
    obtain ⟨key, e⟩ := p
    rw [List.findSome?_cons]
    dsimp only [Entry.openGap?]
    cases hgap : (e.complete key fallback locales).gap? with
    | some l => rw [visit_cons_of_gap? hgap, Option.map_some]
    | none =>
      rw [visit_cons_of_complete hgap, Option.map_none]
      exact ih

theorem key_mem_of_gap?_visit {locales : List String} {fallback : Option String}
    {l : List (String × Entry)} {gap : Gap} (h : (visit locales fallback l).gap? = some gap) :
    gap.key ∈ l.map Prod.fst := by
  rw [gap?_visit, List.findSome?_eq_some_iff] at h
  obtain ⟨before, p, after, rfl, hopen, -⟩ := h
  rw [(Entry.openGap?_eq_some hopen).1]
  exact List.mem_map_of_mem (List.mem_append_right before List.mem_cons_self)

/-- **What a visit leaves under a key.** The entries in front of the gap that stops it are completed; that
of the gap and those behind it are as they were. -/
theorem lookup_visit (locales : List String) (fallback : Option String) {l : List (String × Entry)}
    (hsorted : (l.map Prod.fst).Pairwise (· < ·)) (key : String) :
    (visit locales fallback l).entries.lookup key =
      (l.lookup key).map fun e =>
        if ∀ gap ∈ (visit locales fallback l).gap?, key < gap.key then e.completed key locales fallback
        else e := by
  induction l with
  | nil => rfl
  | cons p rest ih =>
    obtain ⟨k, e⟩ := p
    rw [List.map_cons, List.pairwise_cons] at hsorted
    cases hgap : (e.complete k fallback locales).gap? with
    | some locale =>
      -- the visit is over, and it has not got past any key from here on
      rw [visit_cons_of_gap? hgap]
      cases hl : ((k, e) :: rest).lookup key with
      | none => rfl
      | some e' =>
        have hkey : ¬ key < k := by
          have hmem : key ∈ ((k, e) :: rest).map Prod.fst := SortedMap.mem_map_fst_iff.mpr (by simp [hl])
          rcases List.mem_cons.mp hmem with rfl | hrest
          · exact String.lt_irrefl key
          · exact fun hlt => String.lt_irrefl k (String.lt_trans (hsorted.1 key hrest) hlt)
        have hnot : ¬ ∀ gap ∈ some (Gap.mk k locale), key < gap.key := by
          intro hall
          exact hkey (hall _ rfl)
        rw [Option.map_some, if_neg hnot]
    | none =>
      rw [visit_cons_of_complete hgap, SortedMap.lookup_cons_eq, SortedMap.lookup_cons_eq, ih hsorted.2]
      by_cases hk : key = k
      · -- whatever stops the visit comes after this entry
        subst hk
        have hpassed : ∀ gap ∈ (visit locales fallback rest).gap?, key < gap.key := fun gap hgap =>
          hsorted.1 gap.key (key_mem_of_gap?_visit hgap)
        rw [if_pos rfl, if_pos rfl, Option.map_some, if_pos hpassed]
      · rw [if_neg hk, if_neg hk]

/-- A visit that nothing stops reports of every entry in order. -/
theorem notices_visit {locales : List String} {fallback : Option String}
    {l : List (String × Entry)} (h : (visit locales fallback l).gap? = none) :
    (visit locales fallback l).notices = l.flatMap fun p => p.2.notices p.1 locales fallback := by
  induction l with
  | nil => rfl
  | cons p rest ih =>
    obtain ⟨key, e⟩ := p
    cases hgap : (e.complete key fallback locales).gap? with
    | some l =>
      rw [visit_cons_of_gap? hgap] at h
      cases h
    | none =>
      rw [visit_cons_of_complete hgap] at h ⊢
      rw [List.flatMap_cons, ← ih h]

namespace Catalog

/-- The first locale for which the first incomplete entry of a catalog has no text. -/
def firstGap? (c : Catalog) : Option String :=
  c.entries.sorted.toList.findSome? fun p => p.2.firstGap? c.locales

/-- The keys that a visit leaves are those of the catalog. -/
theorem map_fst_visit (c : Catalog) (fallback : Option String) :
    (visit c.locales fallback c.entries.sorted.toList).entries.map Prod.fst = c.entries.keys :=
  visit_keys c.locales fallback c.entries.sorted.toList

/-- Completing a catalog leaves its entries in their places. -/
theorem names_validate (c : Catalog) (fallback : Option String) :
    (c.validate fallback).catalog.entries.names = c.entries.names :=
  Fields.names_putAll_of_keys (c.map_fst_visit fallback)

/-- **Completing a catalog is visiting its entries**: a catalog of the same locales that holds what the
visit leaves, in the same places, is what the catalog is completed to. -/
theorem validate_eq_of_visit {c c' : Catalog} {fallback : Option String} {notices : List Notice}
    {gap? : Option Gap} (hlocales : c'.locales = c.locales) (hnames : c'.entries.names = c.entries.names)
    (hvisit : visit c.locales fallback c.entries.sorted.toList =
      ⟨c'.entries.sorted.toList, notices, gap?⟩) :
    c.validate fallback = ⟨c', c.fallbackNotices fallback ++ notices, gap?⟩ := by
  obtain ⟨locales, entries⟩ := c'
  obtain rfl : locales = c.locales := hlocales
  unfold validate
  simp only [hvisit]
  rw [Fields.putAll_sorted hnames.symm]

/-- What a visit leaves is what stands, sorted, in the catalog that was completed. -/
theorem sorted_validate (c : Catalog) (fallback : Option String) :
    (c.validate fallback).catalog.entries.sorted.toList =
      (visit c.locales fallback c.entries.sorted.toList).entries := by
  have hkeys := c.map_fst_visit fallback
  refine SortedMap.list_eq_of_lookup_eq (SortedMap.sorted _) ?_ fun name => ?_
  · rw [hkeys]
    exact c.entries.keys_sorted
  · have hsorted : (c.validate fallback).catalog.entries.sorted.toList.lookup name =
        (c.validate fallback).catalog.entries.get? name := Fields.get?_sorted _ name
    rw [hsorted]
    exact Fields.get?_putAll_of_keys hkeys name

theorem gap?_validate (c : Catalog) (fallback : Option String) :
    (c.validate fallback).gap? =
      c.entries.sorted.toList.findSome? fun p => p.2.openGap? p.1 c.locales fallback :=
  gap?_visit c.locales fallback c.entries.sorted.toList

/-- **What completing a catalog leaves under a key.** Entries with a smaller key than the gap that stays
open are completed, and all are if there is none; the others are as they were. -/
theorem find?_validate_eq (c : Catalog) (fallback : Option String) (key : String) :
    (c.validate fallback).catalog.find? key =
      (c.find? key).map fun e =>
        if ∀ gap ∈ (c.validate fallback).gap?, key < gap.key then e.completed key c.locales fallback
        else e := by
  have hvisit : (c.validate fallback).catalog.find? key =
      (visit c.locales fallback c.entries.sorted.toList).entries.lookup key :=
    Fields.get?_putAll_of_keys (c.map_fst_visit fallback) key
  have hfind : c.find? key = c.entries.sorted.toList.lookup key := (c.entries.get?_sorted key).symm
  rw [hvisit, hfind]
  exact lookup_visit c.locales fallback c.entries.sorted.sorted key

/-- **A catalog without an open gap has every entry completed**, and no others. -/
theorem find?_validate {c : Catalog} {fallback : Option String}
    (h : (c.validate fallback).gap? = none) (key : String) :
    (c.validate fallback).catalog.find? key =
      (c.find? key).map fun e => e.completed key c.locales fallback := by
  rw [find?_validate_eq, h]
  simp

@[simp] theorem locales_validate (c : Catalog) (fallback : Option String) :
    (c.validate fallback).catalog.locales = c.locales := rfl

/-- Where no gap stays open, none stays open in any entry. -/
theorem openGap?_of_validate {c : Catalog} {fallback : Option String}
    (h : (c.validate fallback).gap? = none) {key : String} {e : Entry} (he : c.find? key = some e) :
    e.openGap? key c.locales fallback = none := by
  rw [gap?_validate, List.findSome?_eq_none_iff] at h
  exact h (key, e) (Fields.mem_sorted.mpr he)

/-- **The gap that stays open** belongs to the smallest key whose entry has one. -/
theorem gap?_validate_eq_some {c : Catalog} {fallback : Option String} {gap : Gap}
    (h : (c.validate fallback).gap? = some gap) :
    ∃ e, c.find? gap.key = some e ∧ e.openGap? gap.key c.locales fallback = some gap ∧
      ∀ key e', key < gap.key → c.find? key = some e' →
        e'.openGap? key c.locales fallback = none := by
  rw [gap?_validate, List.findSome?_eq_some_iff] at h
  obtain ⟨before, ⟨k, e⟩, after, hlist, hopen, hbefore⟩ := h
  obtain ⟨rfl, -⟩ := Entry.openGap?_eq_some hopen
  have hmem : (gap.key, e) ∈ c.entries.sorted.toList := by
    rw [hlist]
    exact List.mem_append_right before List.mem_cons_self
  refine ⟨e, Fields.mem_sorted.mp hmem, hopen, fun key e' hlt he' => ?_⟩
  -- a smaller key stands before the one with the gap, where the visit was not stopped
  exact hbefore (key, e')
    (SortedMap.mem_before_of_lt hlist (Fields.mem_sorted.mpr he') hlt)

/-- **A catalog without an open gap is complete** once it was completed. -/
theorem firstGap?_validate {c : Catalog} {fallback : Option String}
    (h : (c.validate fallback).gap? = none) : (c.validate fallback).catalog.firstGap? = none := by
  unfold firstGap?
  rw [List.findSome?_eq_none_iff]
  rintro ⟨key, e⟩ hmem
  have he : (c.validate fallback).catalog.find? key = some e := Fields.mem_sorted.mp hmem
  rw [find?_validate h] at he
  obtain ⟨e₀, he₀, rfl⟩ := Option.map_eq_some_iff.mp he
  have hclosed := openGap?_of_validate h he₀
  rw [Entry.firstGap?_eq_none_iff, locales_validate]
  intro l hl
  rw [Entry.get?_completed hclosed, if_pos hl]
  exact Entry.openGap?_eq_none_iff.mp hclosed l hl

/-- The keys of a completed catalog are those that it had. -/
theorem keys_validate {c : Catalog} {fallback : Option String} :
    (c.validate fallback).catalog.entries.keys = c.entries.keys := by
  rw [← Fields.map_fst_sorted, sorted_validate, map_fst_visit]

end Catalog

end Phrasebook
