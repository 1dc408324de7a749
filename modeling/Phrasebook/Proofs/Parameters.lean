import Phrasebook.Proofs.Plan
import Phrasebook.Proofs.Template

/-!
# Parameters and texts

An accessor takes an argument for each placeholder of its entry, and a completed entry has the
placeholders that its texts use unless a difference was reported. So, of an entry without such a report,
each token of each text meets the argument of a parameter of its own name.

## Contents
- `Entry.Uses`, `Entry.Mismatched`: the names that an entry's texts use, and when they are reported
- `mem_placeholders_settle`, `placeholders_settle`, `notices_settle`: settling an entry
- `mem_placeholders_completed`, `placeholders_completed`: the placeholders that a completed entry has
- `mem_notices_iff`, `Catalog.mem_notices_validate_iff`: the reports of one entry, of a catalog
- `Accessor.Fits`: the parameters of an accessor are what its texts need
- `parameters_fit_texts`: the reports and the parameters of a whole catalog
-/

namespace Phrasebook

/-! ## Used names -/

namespace Entry

/-- An entry **uses** a name when one of its texts does. -/
def Uses (e : Entry) (name : String) : Prop :=
  ∃ l text, e.texts.get? l = some text ∧ Template.Uses text.toList name

theorem mem_usedNames {e : Entry} {name : String} : name ∈ e.usedNames.toNames ↔ e.Uses name := by
  unfold usedNames Template.namesOfAll
  rw [NameSet.mem_ofNames, List.mem_flatMap]
  constructor
  · rintro ⟨text, htext, hname⟩
    obtain ⟨⟨l, text⟩, hmem, rfl⟩ := List.mem_map.mp htext
    exact ⟨l, text, Fields.mem_toList.mp hmem, Template.mem_names_iff.mp hname⟩
  · rintro ⟨l, text, hget, hname⟩
    have hmem : (l, text) ∈ e.texts.toList := Fields.mem_toList.mpr hget
    exact ⟨text, List.mem_map_of_mem (f := Prod.snd) hmem, Template.mem_names_iff.mpr hname⟩

/-- Entries with the same texts use the same names. -/
theorem uses_congr {e e' : Entry} (h : ∀ l, e.texts.get? l = e'.texts.get? l) (name : String) :
    e.Uses name ↔ e'.Uses name := by
  unfold Uses
  simp only [h]

/-- The placeholders of an entry are **mismatched** by what it is completed to, when there are some and
they are not the names that its texts then use. -/
def Mismatched (e completed : Entry) : Prop :=
  e.placeholders.toNames ≠ [] ∧ ¬ ∀ name, name ∈ e.placeholders.toNames ↔ completed.Uses name

theorem hasSame_placeholders_iff {e : Entry} :
    e.usedNames.hasSame e.placeholders = true ↔ ∀ name, name ∈ e.placeholders.toNames ↔ e.Uses name := by
  rw [NameSet.hasSame_iff]
  refine forall_congr' fun name => ?_
  rw [mem_usedNames]
  exact Iff.comm

/-! ## Settling an entry -/

/-- An entry without placeholders gets the names that its texts use. -/
theorem mem_placeholders_settle {e : Entry} (h : e.placeholders.toNames = []) (key name : String) :
    name ∈ (e.settle key).1.placeholders.toNames ↔ e.Uses name := by
  unfold settle declare
  rw [if_pos (NameSet.isEmpty_iff.mpr h)]
  dsimp only
  rw [NameSet.mem_addAll, h, ← NameSet.mem_toNames, mem_usedNames]
  exact or_iff_left List.not_mem_nil

/-- One that has placeholders keeps them. -/
theorem placeholders_settle {e : Entry} (h : e.placeholders.toNames ≠ []) (key : String) :
    (e.settle key).1.placeholders = e.placeholders := by
  unfold settle
  rw [if_neg fun hempty => h (NameSet.isEmpty_iff.mp hempty)]
  split <;> rfl

/-- **What is reported when an entry is settled**: that its placeholders are mismatched, if they are. -/
theorem notices_settle (e : Entry) (key : String) :
    e.Mismatched e ∧ (e.settle key).2 = [.mismatch key e.placeholders.toNames e.usedNames.toNames] ∨
      ¬ e.Mismatched e ∧ (e.settle key).2 = [] := by
  unfold settle Mismatched
  by_cases hempty : e.placeholders.isEmpty = true
  · rw [if_pos hempty]
    exact Or.inr ⟨fun h => h.1 (NameSet.isEmpty_iff.mp hempty), rfl⟩
  · rw [if_neg hempty]
    by_cases hsame : e.usedNames.hasSame e.placeholders = true
    · rw [if_pos hsame]
      exact Or.inr ⟨fun h => h.2 (hasSame_placeholders_iff.mp hsame), rfl⟩
    · rw [if_neg hsame]
      exact Or.inl ⟨⟨fun hnil => hempty (NameSet.isEmpty_iff.mpr hnil),
        fun hall => hsame (hasSame_placeholders_iff.mpr hall)⟩, rfl⟩

/-! ## Reports on one entry -/

theorem mem_fill_notices {key source text : String} {locales : List String} {e : Entry} {n : Notice}
    (h : n ∈ (fill key source text locales e).2) : ∃ l, n = .filled l key source := by
  induction locales generalizing e with
  | nil => cases h
  | cons locale rest ih =>
    unfold fill at h
    split at h
    · exact ih h
    · rcases List.mem_cons.mp h with rfl | h
      · exact ⟨locale, rfl⟩
      · exact ih h

theorem mem_complete_notices {key : String} {locales : List String} {fallback : Option String}
    {e : Entry} {n : Notice} (h : n ∈ (e.complete key fallback locales).notices) :
    ∃ l source, n = .filled l key source := by
  rw [complete_eq] at h
  split at h
  · cases h
  · obtain ⟨l, hl⟩ := mem_fill_notices h
    exact ⟨l, _, hl⟩

section Completed

variable {key : String} {locales : List String} {fallback : Option String} {e : Entry}

/-- An entry that completing does not stop at, as the entry that is settled in the end: it has the
placeholders that it had, and the texts that it is left with. -/
theorem completed_of_openGap? (h : e.openGap? key locales fallback = none) :
    let filled := (e.complete key fallback locales).entry
    e.completed key locales fallback = (filled.settle key).1 ∧
      e.notices key locales fallback =
        (e.complete key fallback locales).notices ++ (filled.settle key).2 ∧
      filled.placeholders = e.placeholders ∧
      (e.completed key locales fallback).texts = filled.texts := by
  intro filled
  have hgap := gap?_of_openGap? h
  have hspec := complete_spec key locales fallback e
  rw [hgap] at hspec
  have hcompleted : e.completed key locales fallback = (filled.settle key).1 := by
    unfold completed
    rw [hgap]
  refine ⟨hcompleted, ?_, hspec.2.2, ?_⟩
  · unfold notices
    rw [hgap]
  · rw [hcompleted, texts_settle]

/-- A completed entry that had no placeholders has the names that its texts use. -/
theorem mem_placeholders_completed (h : e.openGap? key locales fallback = none)
    (hnil : e.placeholders.toNames = []) (name : String) :
    name ∈ (e.completed key locales fallback).placeholders.toNames ↔
      (e.completed key locales fallback).Uses name := by
  obtain ⟨heq, -, hkeep, htexts⟩ := completed_of_openGap? h
  rw [← hkeep] at hnil
  rw [heq, mem_placeholders_settle hnil]
  refine uses_congr (fun l => ?_) name
  rw [← heq, htexts]

/-- One that had placeholders has the same. -/
theorem placeholders_completed (h : e.openGap? key locales fallback = none)
    (hne : e.placeholders.toNames ≠ []) :
    (e.completed key locales fallback).placeholders = e.placeholders := by
  obtain ⟨heq, -, hkeep, -⟩ := completed_of_openGap? h
  rw [← hkeep] at hne
  rw [heq, placeholders_settle hne, hkeep]

/-- **What is reported of one entry**: that its placeholders are mismatched, if they are. -/
theorem mem_notices_iff (h : e.openGap? key locales fallback = none) {k : String}
    {declared used : List String} :
    .mismatch k declared used ∈ e.notices key locales fallback ↔
      k = key ∧ declared = e.placeholders.toNames ∧
      used = (e.completed key locales fallback).usedNames.toNames ∧
      e.Mismatched (e.completed key locales fallback) := by
  obtain ⟨-, hnotices, hkeep, htexts⟩ := completed_of_openGap? h
  have hfill : .mismatch k declared used ∉ (e.complete key fallback locales).notices := by
    intro hmem
    obtain ⟨l, source, heq⟩ := mem_complete_notices hmem
    cases heq
  -- what is settled has the placeholders of the entry and the texts that it is left with
  have hused : (e.completed key locales fallback).usedNames =
      (e.complete key fallback locales).entry.usedNames := by
    unfold usedNames
    rw [htexts]
  have hmismatched : e.Mismatched (e.completed key locales fallback) ↔
      (e.complete key fallback locales).entry.Mismatched (e.complete key fallback locales).entry := by
    unfold Mismatched Uses
    rw [hkeep, htexts]
  rw [hnotices, List.mem_append, or_iff_right hfill, hused, hmismatched, ← hkeep]
  rcases notices_settle (e.complete key fallback locales).entry key with ⟨hyes, hlist⟩ | ⟨hno, hlist⟩
  · rw [hlist, List.mem_singleton, Notice.mismatch.injEq]
    simp [hyes]
  · rw [hlist]
    exact iff_of_false List.not_mem_nil fun h => hno h.2.2.2

end Completed

end Entry

/-! ## Reports on a catalog -/

namespace Notice

/-- The key whose placeholders a notice reports as mismatched. -/
def mismatchedKey? : Notice → Option String
  | mismatch key _ _ => some key
  | _ => none

theorem mismatchedKey?_eq_some {n : Notice} {key : String} (h : n.mismatchedKey? = some key) :
    ∃ declared used, n = .mismatch key declared used := by
  cases n <;> cases h
  exact ⟨_, _, rfl⟩

end Notice

/-- The entry of a key is reported as mismatched at most once, under its key. -/
theorem Entry.mismatchedKeys_notices (e : Entry) (key : String) (locales : List String)
    (fallback : Option String) :
    ((e.notices key locales fallback).filterMap Notice.mismatchedKey?).Sublist [key] := by
  unfold notices
  split
  · exact List.nil_sublist _
  · have hfill : (e.complete key fallback locales).notices.filterMap Notice.mismatchedKey? = [] := by
      rw [List.filterMap_eq_nil_iff]
      intro n hn
      obtain ⟨l, source, rfl⟩ := mem_complete_notices hn
      rfl
    rw [List.filterMap_append, hfill, List.nil_append]
    rcases notices_settle (e.complete key fallback locales).entry key with ⟨-, hlist⟩ | ⟨-, hlist⟩
    · rw [hlist]
      exact List.Sublist.refl _
    · rw [hlist]
      exact List.nil_sublist _

namespace Catalog

variable {c : Catalog} {fallback : Option String}

theorem mem_fallbackNotices {n : Notice} (h : n ∈ c.fallbackNotices fallback) :
    ∃ f, n = .unknownFallback f c.locales := by
  cases fallback with
  | none => cases h
  | some f =>
    simp only [fallbackNotices] at h
    split at h
    · cases h
    · exact ⟨f, List.mem_singleton.mp h⟩

theorem notices_validate (h : (c.validate fallback).gap? = none) :
    (c.validate fallback).notices = c.fallbackNotices fallback ++
      c.entries.sorted.toList.flatMap fun p => p.2.notices p.1 c.locales fallback :=
  congrArg (c.fallbackNotices fallback ++ ·) (notices_visit h)

/-- **What is reported of a catalog**: the mismatched placeholders of its entries, with what was declared
and what is used. -/
theorem mem_notices_validate_iff (h : (c.validate fallback).gap? = none) {key : String}
    {declared used : List String} :
    .mismatch key declared used ∈ (c.validate fallback).notices ↔
      ∃ e e', c.find? key = some e ∧ (c.validate fallback).catalog.find? key = some e' ∧
        declared = e.placeholders.toNames ∧ used = e'.usedNames.toNames ∧ e.Mismatched e' := by
  have hfallback : .mismatch key declared used ∉ c.fallbackNotices fallback := by
    intro hmem
    obtain ⟨f, heq⟩ := mem_fallbackNotices hmem
    cases heq
  rw [notices_validate h, List.mem_append, or_iff_right hfallback, List.mem_flatMap]
  constructor
  · rintro ⟨⟨k, e⟩, hmem, hnotice⟩
    have he : c.find? k = some e := Fields.mem_sorted.mp hmem
    obtain ⟨rfl, hdeclared, hused, hmismatch⟩ :=
      (Entry.mem_notices_iff (openGap?_of_validate h he)).mp hnotice
    refine ⟨e, _, he, ?_, hdeclared, hused, hmismatch⟩
    rw [find?_validate h, he, Option.map_some]
  · rintro ⟨e, e', he, he', hdeclared, hused, hmismatch⟩
    rw [find?_validate h, he, Option.map_some] at he'
    obtain rfl := Option.some.inj he'
    exact ⟨(key, e), Fields.mem_sorted.mpr he,
      (Entry.mem_notices_iff (openGap?_of_validate h he)).mpr ⟨rfl, hdeclared, hused, hmismatch⟩⟩

/-- The keys that are reported as mismatched, in the order of the reports. -/
def mismatchedKeys (c : Catalog) (fallback : Option String) : List String :=
  (c.validate fallback).notices.filterMap Notice.mismatchedKey?

theorem mem_mismatchedKeys {key : String} :
    key ∈ c.mismatchedKeys fallback ↔
      ∃ declared used, .mismatch key declared used ∈ (c.validate fallback).notices := by
  unfold mismatchedKeys
  rw [List.mem_filterMap]
  constructor
  · rintro ⟨n, hn, hkey⟩
    obtain ⟨declared, used, rfl⟩ := Notice.mismatchedKey?_eq_some hkey
    exact ⟨declared, used, hn⟩
  · rintro ⟨declared, used, hn⟩
    exact ⟨_, hn, rfl⟩

/-- Each mismatched key is reported once, and the keys increase. -/
theorem mismatchedKeys_sorted (h : (c.validate fallback).gap? = none) :
    (c.mismatchedKeys fallback).Pairwise (· < ·) := by
  have hfallback : (c.fallbackNotices fallback).filterMap Notice.mismatchedKey? = [] := by
    rw [List.filterMap_eq_nil_iff]
    intro n hn
    obtain ⟨f, rfl⟩ := mem_fallbackNotices hn
    rfl
  have hentries : ∀ l : List (String × Entry),
      ((l.flatMap fun p => p.2.notices p.1 c.locales fallback).filterMap
        Notice.mismatchedKey?).Sublist (l.map Prod.fst) := by
    intro l
    induction l with
    | nil => exact List.Sublist.refl []
    | cons p rest ih =>
      rw [List.flatMap_cons, List.filterMap_append, List.map_cons]
      exact (p.2.mismatchedKeys_notices p.1 c.locales fallback).append ih
  unfold mismatchedKeys
  rw [notices_validate h, List.filterMap_append, hfallback, List.nil_append]
  exact c.entries.keys_sorted.sublist (hentries c.entries.sorted.toList)

end Catalog

/-! ## Arguments -/

namespace Accessor

/-- The values that arguments for the parameters' identifiers give to the placeholders. -/
def binding (a : Accessor) (argument : String → Json) : List (String × Json) :=
  a.parameters.map fun p => (p.name, argument p.identifier)

/-- A text **replaces** a name when it is the argument of the parameter that has the name. -/
def Replaces (a : Accessor) (argument : String → Json) (name s : String) : Prop :=
  ∃ p ∈ a.parameters, p.name = name ∧ s = (argument p.identifier).display

/-- An accessor **fits** an entry in some locales when its parameters are the names that the texts use;
the text of each locale is then filled with the arguments of the parameters, and without parameters it
stays as it is. -/
structure Fits (a : Accessor) (e : Entry) (locales : List String) : Prop where
  names : ∀ name, name ∈ a.parameters.map Parameter.name ↔ e.Uses name
  filled : ∀ l ∈ locales, ∃ text, e.texts.get? l = some text ∧ ∀ argument : String → Json,
    Template.Filled (a.Replaces argument) text.toList
      (Template.interpolate (a.binding argument) text).toList
  plain : a.parameters = [] → ∀ l ∈ locales, ∃ text, e.texts.get? l = some text ∧
    Template.interpolate [] text = text

/-- The binding of an accessor has for each placeholder the argument of its own parameter. -/
theorem lookup_binding {a : Accessor} (hnodup : (a.parameters.map Parameter.name).Nodup)
    {p : Parameter} (hp : p ∈ a.parameters) (argument : String → Json) :
    (a.binding argument).lookup p.name = some (argument p.identifier) := by
  refine SortedMap.lookup_of_mem ?_ (List.mem_map_of_mem hp)
  unfold binding
  rw [List.map_map]
  exact hnodup

/-- Parameters that are named by what the texts of an entry use are all that these need. -/
theorem fits_of_names {a : Accessor} {e : Entry} {locales : List String}
    (hnodup : (a.parameters.map Parameter.name).Nodup)
    (hnames : ∀ name, name ∈ a.parameters.map Parameter.name ↔ e.Uses name)
    (hgap : e.firstGap? locales = none) : a.Fits e locales := by
  have htext : ∀ l ∈ locales, ∃ text, e.texts.get? l = some text := fun l hl =>
    Option.isSome_iff_exists.mp (Entry.firstGap?_eq_none_iff.mp hgap l hl)
  refine ⟨hnames, fun l hl => ?_, fun hnil l hl => ?_⟩
  · obtain ⟨text, hget⟩ := htext l hl
    refine ⟨text, hget, fun argument => Template.filled_interpolate fun name hname => ?_⟩
    -- the name is used by the entry, so there is a parameter of that name
    obtain ⟨p, hp, rfl⟩ := List.mem_map.mp ((hnames name).mpr ⟨l, text, hget, hname⟩)
    exact ⟨argument p.identifier, lookup_binding hnodup hp argument, p, hp, rfl, rfl⟩
  · obtain ⟨text, hget⟩ := htext l hl
    refine ⟨text, hget, Template.interpolate_of_no_uses fun name hname => ?_⟩
    have hmem := (hnames name).mpr ⟨l, text, hget, hname⟩
    rw [hnil] at hmem
    cases hmem

end Accessor

/-! ## A whole catalog -/

namespace Catalog

variable {c : Catalog} {fallback : Option String}

/-- An entry that was not reported has the placeholders that its texts use. -/
theorem mem_placeholders_iff_uses (h : (c.validate fallback).gap? = none) {key : String} {e : Entry}
    (he : (c.validate fallback).catalog.find? key = some e) (hkey : key ∉ c.mismatchedKeys fallback)
    (name : String) : name ∈ e.placeholders.toNames ↔ e.Uses name := by
  have hfind := find?_validate h key
  rw [he] at hfind
  obtain ⟨e₀, he₀, rfl⟩ := Option.map_eq_some_iff.mp hfind.symm
  by_cases hnil : e₀.placeholders.toNames = []
  · exact Entry.mem_placeholders_completed (openGap?_of_validate h he₀) hnil name
  · rw [Entry.placeholders_completed (openGap?_of_validate h he₀) hnil]
    by_contra hdiffers
    have hmismatch : e₀.Mismatched (e₀.completed key c.locales fallback) :=
      ⟨hnil, fun hall => hdiffers (hall name)⟩
    exact hkey (mem_mismatchedKeys.mpr ⟨_, _,
      (mem_notices_validate_iff h).mpr ⟨e₀, _, he₀, he, rfl, rfl, hmismatch⟩⟩)

/-- **Parameters match the texts.** Of a catalog without an open gap, exactly those entries are reported
whose placeholders there were before, and differ from the names that its texts use afterwards; each is
reported once. For every other entry the accessor that a target plans fits the texts of all locales. -/
theorem parameters_fit_texts (h : (c.validate fallback).gap? = none) :
    (∀ key declared used, .mismatch key declared used ∈ (c.validate fallback).notices ↔
      ∃ e e', c.find? key = some e ∧ (c.validate fallback).catalog.find? key = some e' ∧
        declared = e.placeholders.toNames ∧ used = e'.usedNames.toNames ∧ e.Mismatched e') ∧
    (c.mismatchedKeys fallback).Pairwise (· < ·) ∧
    ∀ target : Target, ∃ accessors, target.plan (c.validate fallback).catalog = .ok accessors ∧
      accessors.map Accessor.key = c.entries.keys ∧
      ∀ a ∈ accessors, a.key ∉ c.mismatchedKeys fallback →
        ∃ e, (c.validate fallback).catalog.find? a.key = some e ∧ a.Fits e c.locales := by
  refine ⟨fun key declared used => mem_notices_validate_iff h, mismatchedKeys_sorted h, fun target => ?_⟩
  have hplan : target.plan (c.validate fallback).catalog = .ok _ :=
    Target.plan_eq_ok_iff.mpr ⟨firstGap?_validate h, rfl⟩
  refine ⟨_, hplan, (Target.plan_keys hplan).trans keys_validate, fun a ha hkey => ?_⟩
  obtain ⟨e, he, hgap, hparameters, -⟩ := Target.mem_plan hplan ha
  have hnames : a.parameters.map Parameter.name = e.placeholders.toNames := by
    rw [hparameters, Target.map_name_parameters]
  refine ⟨e, he, Accessor.fits_of_names ?_ (fun name => ?_) hgap⟩
  · rw [hnames]
    exact e.placeholders.toNames_nodup
  · rw [hnames]
    exact mem_placeholders_iff_uses h he hkey name

/-- A key without placeholders that lacks a text, one with those that its texts use, one with others. -/
def greetings : Catalog :=
  [("hello", [("en", "\x7bname\x7d, \x7b_x\x7d!")], []),
    ("bye", [("en", "bye \x7bname\x7d"), ("de", "\x7b \x7d")], ["name"]),
    ("note", [("en", "\x7ba\x7d"), ("de", "\x7bb\x7d")], ["a"])].foldl
    (fun c (key, texts, names) => c.update key fun e =>
      (texts.foldl (fun e row => e.setText row.1 row.2) e).declare names)
    (.ofLocales ["de", "en"])

theorem parameters_fit_texts_greetings :
    (greetings.validate (some "en")).gap? = none ∧
    greetings.mismatchedKeys (some "en") = ["note"] ∧
    (∃ e e', greetings.find? "note" = some e ∧
      (greetings.validate (some "en")).catalog.find? "note" = some e' ∧ e.Mismatched e') ∧
    ∃ accessors, Target.dart.plan (greetings.validate (some "en")).catalog = .ok accessors ∧
      accessors.map Accessor.key = ["bye", "hello", "note"] ∧
      ∀ a ∈ accessors, a.key ≠ "note" →
        ∃ e, (greetings.validate (some "en")).catalog.find? a.key = some e ∧
          a.Fits e ["de", "en"] := by
  have hgap : (greetings.validate (some "en")).gap? = none := rfl
  have hkeys : greetings.mismatchedKeys (some "en") = ["note"] := by decide +kernel
  have hnotice : .mismatch "note" ["a"] ["a", "b"] ∈ (greetings.validate (some "en")).notices := by
    decide +kernel
  obtain ⟨hreports, -, hplans⟩ := parameters_fit_texts hgap
  obtain ⟨e, e', he, he', -, -, hmismatch⟩ := (hreports "note" ["a"] ["a", "b"]).mp hnotice
  obtain ⟨accessors, hplan, haccessors, hfits⟩ := hplans .dart
  refine ⟨hgap, hkeys, ⟨e, e', he, he', hmismatch⟩, accessors, hplan, haccessors.trans rfl, ?_⟩
  intro a ha hne
  exact hfits a ha (by rw [hkeys, List.mem_singleton]; exact hne)

end Catalog

end Phrasebook
