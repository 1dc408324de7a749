import Phrasebook.Proofs.Compile
import Phrasebook.Proofs.Declared
import Phrasebook.Proofs.EntryOrder

/-!
# What bundles contribute

The catalog of bundles, said without the two folds that build it. A key is a name without a mark that some
bundle has a text under, and its texts are those of the bundles. A placeholder belongs to it when any bundle
declares it in the metadata of the key, whether or not that bundle has a text for the key, and wherever it
stands among the others. All other fields are idle: they can be left out, or others put in, and the catalog
is the same.

## Contents
- `Json.Declares`: metadata that declares a placeholder
- `Bundles.field?`, `text?_eq_some_iff`, `exists_declared_iff`: texts and declarations as fields of bundles
- `ofBundles_same`: what the catalog of bundles depends on
- `Bundles.Idle`, `Bundles.SameButIdle`: fields that contribute nothing
- `entries_ofBundles`: the entries of the catalog
-/

namespace Phrasebook

/-! ## Texts and metadata -/

/-- Metadata **declares** a name when it is an object whose field `placeholders` is an object with a field of
that name. -/
def Json.Declares (metadata : Json) (name : String) : Prop :=
  ∃ fields declared, metadata = .obj fields ∧ fields.lookup "placeholders" = some (.obj declared) ∧
    name ∈ declared.map Prod.fst

theorem Catalog.mem_declaredNames_iff {metadata : Json} {name : String} :
    name ∈ (declaredNames metadata).getD [] ↔ metadata.Declares name := by
  unfold Json.Declares
  constructor
  · intro hmem
    cases hnames : declaredNames metadata with
    | none =>
      rw [hnames] at hmem
      cases hmem
    | some names =>
      rw [hnames, Option.getD_some] at hmem
      obtain ⟨placeholders, hfield, hfields⟩ := Option.bind_eq_some_iff.mp hnames
      obtain ⟨declared, hdeclared, rfl⟩ := Option.map_eq_some_iff.mp hfields
      obtain ⟨fields, hobj, hlookup⟩ := Option.bind_eq_some_iff.mp hfield
      cases metadata <;> cases hobj
      cases placeholders <;> cases hdeclared
      exact ⟨_, _, rfl, hlookup, hmem⟩
  · rintro ⟨fields, declared, rfl, hlookup, hmem⟩
    have hnames : declaredNames (.obj fields) = some (declared.map Prod.fst) := by
      show (fields.lookup "placeholders").bind _ = _
      rw [hlookup]
      rfl
    rw [hnames]
    exact hmem

namespace Bundles

variable {bundles bundles' : Bundles} {l key name text : String}

/-- The value of a field in the bundle of a locale. -/
def field? (bundles : Bundles) (l name : String) : Option Json := (bundles.get? l).bind (·.get? name)

theorem text?_eq_some_iff : bundles.text? l name = some text ↔ bundles.field? l name = some (.str text) := by
  have hfield : bundles.text? l name = (bundles.field? l name).bind Json.text? := by
    unfold text? field?
    rw [Option.bind_assoc]
    rfl
  rw [hfield, Option.bind_eq_some_iff]
  constructor
  · rintro ⟨v, hget, htext⟩
    cases v <;> cases htext
    exact hget
  · intro hget
    exact ⟨_, hget, rfl⟩

/-- The bundle of a locale declares the names that its metadata of the key does. -/
theorem exists_declared_iff (hkey : FieldName.IsKeyName key) :
    (∃ bundle, bundles.get? l = some bundle ∧ name ∈ bundle.declared key) ↔
      ∃ metadata, bundles.field? l ("@" ++ key) = some metadata ∧ metadata.Declares name := by
  have hdeclared : ∀ bundle : Bundle, name ∈ bundle.declared key ↔
      ∃ metadata, bundle.get? ("@" ++ key) = some metadata ∧ metadata.Declares name := by
    intro bundle
    unfold Bundle.declared
    rw [if_pos hkey]
    show name ∈ ((bundle.get? ("@" ++ key)).bind Catalog.declaredNames).getD [] ↔ _
    cases bundle.get? ("@" ++ key) with
    | none => simp
    | some metadata =>
      rw [Option.bind_some, Catalog.mem_declaredNames_iff]
      simp
  unfold field?
  cases bundles.get? l with
  | none => simp
  | some bundle => simpa using hdeclared bundle

/-- The locales of bundles are determined by which locales have one. -/
theorem locales_eq (h : ∀ l, (bundles.get? l).isSome ↔ (bundles'.get? l).isSome) :
    bundles.locales = bundles'.locales := by
  apply SortedMap.eq_of_sorted_of_mem_iff (Catalog.locales_sorted bundles) (Catalog.locales_sorted bundles')
  intro l
  rw [Catalog.mem_locales, Catalog.mem_locales]
  exact h l

end Bundles

/-! ## What the catalog depends on -/

namespace Catalog

variable {bundles bundles' : Bundles} {key : String}

/-- A key that is one of both maps of bundles, with the same texts and declared names, has the same entry. -/
theorem entry_same_ofBundles {e e' : Entry} (he : (ofBundles bundles).find? key = some e)
    (he' : (ofBundles bundles').find? key = some e')
    (htext : ∀ l, bundles.text? l key = bundles'.text? l key)
    (hdeclared : ∀ name, (∃ l bundle, bundles.get? l = some bundle ∧ name ∈ bundle.declared key) ↔
      ∃ l bundle, bundles'.get? l = some bundle ∧ name ∈ bundle.declared key) :
    e.Same e' where
  key := by rw [keyed_ofBundles bundles key e he, keyed_ofBundles bundles' key e' he']
  texts := by
    intro l
    rw [(Bundles.entry_ofBundles he).2, (Bundles.entry_ofBundles he').2, htext l]
  placeholders := by
    intro name
    rw [mem_placeholders_ofBundles he, mem_placeholders_ofBundles he']
    exact hdeclared name

/-- **What the catalog of bundles depends on**, order aside: the locales, the texts under names without a
mark, and the names that are declared for the keys. -/
theorem ofBundles_same (hlocales : bundles.locales = bundles'.locales)
    (htext : ∀ key, FieldName.IsKeyName key → ∀ l, bundles.text? l key = bundles'.text? l key)
    (hdeclared : ∀ key, bundles.IsKey key → ∀ name,
      (∃ l bundle, bundles.get? l = some bundle ∧ name ∈ bundle.declared key) ↔
        ∃ l bundle, bundles'.get? l = some bundle ∧ name ∈ bundle.declared key) :
    (ofBundles bundles).Same (ofBundles bundles') where
  locales := by rw [locales_ofBundles, locales_ofBundles, hlocales]
  entries := by
    intro key
    have hkey : bundles.IsKey key ↔ bundles'.IsKey key := by
      unfold Bundles.IsKey
      refine and_congr_right fun hname => ?_
      simp only [htext key hname]
    rw [← isSome_find?_ofBundles, ← isSome_find?_ofBundles] at hkey
    cases he : (ofBundles bundles).find? key with
    | none =>
      rw [he, Option.isSome_none] at hkey
      rw [Option.not_isSome_iff_eq_none.mp fun h => Bool.false_ne_true (hkey.mpr h)]
      exact .none
    | some e =>
      rw [he, Option.isSome_some] at hkey
      obtain ⟨e', he'⟩ := Option.isSome_iff_exists.mp (hkey.mp rfl)
      have hk := (Bundles.entry_ofBundles he).1
      rw [he']
      exact .some (entry_same_ofBundles he he' (htext key hk.1) (hdeclared key hk))

end Catalog

/-! ## Idle fields -/

namespace FieldName

theorem not_isKeyName_mark (name : String) : ¬ IsKeyName ("@" ++ name) := by
  unfold IsKeyName
  rw [String.toList_append]
  simp

theorem mark_inj {name name' : String} (h : "@" ++ name = "@" ++ name') : name = name' := by
  have hchars := congrArg String.toList h
  rw [String.toList_append, String.toList_append] at hchars
  exact String.toList_inj.mp (List.append_cancel_left hchars)

/-- Two marks are a mark in front of a name that is no key's. -/
theorem two_marks (name : String) : "@@" ++ name = "@" ++ ("@" ++ name) := by
  rw [← String.append_assoc]
  rfl

end FieldName

namespace Bundles

/-- A field of bundles is **idle** when it neither holds the text of a key nor declares a placeholder of
one. -/
inductive Idle (bundles : Bundles) : String → Json → Prop where
  /-- Metadata of a bundle itself. -/
  | document (name : String) (v : Json) : Idle bundles ("@@" ++ name) v
  /-- Metadata of a key that no bundle has a text under. -/
  | orphan {key : String} (h : ¬ bundles.IsKey key) (v : Json) : Idle bundles ("@" ++ key) v
  /-- Metadata that declares nothing: it is no object, it has no `placeholders`, or these are no object. -/
  | malformed (key : String) {v : Json} (h : ∀ name, ¬ v.Declares name) : Idle bundles ("@" ++ key) v
  /-- Data in the place of a text. -/
  | data {name : String} (hname : FieldName.IsKeyName name) {v : Json} (h : ∀ text, v ≠ .str text) :
    Idle bundles name v

variable {bundles bundles' : Bundles} {key name : String} {v : Json}

/-- A text is not idle. -/
theorem not_idle_text (hname : FieldName.IsKeyName name) (text : String) :
    ¬ bundles.Idle name (.str text) := by
  intro hidle
  cases hidle with
  | document name =>
    rw [FieldName.two_marks] at hname
    exact FieldName.not_isKeyName_mark _ hname
  | orphan => exact FieldName.not_isKeyName_mark _ hname
  | malformed key => exact FieldName.not_isKeyName_mark _ hname
  | data _ h => exact h text rfl

/-- Metadata that declares a placeholder of a key is not idle. -/
theorem not_idle_metadata (hkey : bundles.IsKey key) (hdeclares : v.Declares name) :
    ¬ bundles.Idle ("@" ++ key) v := by
  intro hidle
  generalize hfield : "@" ++ key = field at hidle
  cases hidle with
  | document rest =>
    rw [FieldName.two_marks] at hfield
    rw [FieldName.mark_inj hfield] at hkey
    exact FieldName.not_isKeyName_mark rest hkey.1
  | @orphan key' h =>
    rw [FieldName.mark_inj hfield] at hkey
    exact h hkey
  | malformed _ h => exact h name hdeclares
  | data hname =>
    rw [← hfield] at hname
    exact FieldName.not_isKeyName_mark key hname

/-- Two maps of bundles are the **same but for idle fields** of the first. -/
structure SameButIdle (bundles bundles' : Bundles) : Prop where
  /-- They have bundles for the same locales. -/
  locales : ∀ l, (bundles.get? l).isSome ↔ (bundles'.get? l).isSome
  /-- The bundles of a locale have the same fields, apart from idle ones. -/
  fields : ∀ l name v, ¬ bundles.Idle name v →
    (bundles.field? l name = some v ↔ bundles'.field? l name = some v)

/-- **Idle fields contribute nothing.** -/
theorem SameButIdle.ofBundles_same (h : bundles.SameButIdle bundles') :
    (Catalog.ofBundles bundles).Same (Catalog.ofBundles bundles') := by
  apply Catalog.ofBundles_same (locales_eq h.locales)
  · intro key hname l
    refine Option.ext fun text => ?_
    rw [text?_eq_some_iff, text?_eq_some_iff]
    exact h.fields l key (.str text) (not_idle_text hname text)
  · intro key hkey name
    refine exists_congr fun l => ?_
    rw [exists_declared_iff hkey.1, exists_declared_iff hkey.1]
    refine exists_congr fun metadata => and_congr_left fun hdeclares => ?_
    exact h.fields l ("@" ++ key) metadata (not_idle_metadata hkey hdeclares)

end Bundles

/-! ## The entries -/

namespace Catalog

/-- **The entries of the catalog of bundles.** There is one for exactly the names without a mark that some
bundle has a text under; it has a text for exactly the locales whose bundle has one, namely that text; and its
placeholders are the names that the metadata of the key declares in any bundle, be it one without a text for
the key. Fields that are idle contribute nothing: with others in their place, or none, the catalog is the
same. -/
theorem entries_ofBundles (bundles : Bundles) :
    (∀ key, (∃ e, (ofBundles bundles).find? key = some e) ↔
      FieldName.IsKeyName key ∧ ∃ l text, bundles.field? l key = some (.str text)) ∧
    (∀ key e, (ofBundles bundles).find? key = some e →
      (∀ l text, e.texts.get? l = some text ↔ bundles.field? l key = some (.str text)) ∧
      ∀ name, name ∈ e.placeholders.toNames ↔
        ∃ l metadata, bundles.field? l ("@" ++ key) = some metadata ∧ metadata.Declares name) ∧
    ∀ bundles', bundles.SameButIdle bundles' → (ofBundles bundles).Same (ofBundles bundles') := by
  refine ⟨?_, ?_, fun bundles' h => h.ofBundles_same⟩
  · intro key
    rw [← Option.isSome_iff_exists, isSome_find?_ofBundles]
    unfold Bundles.IsKey
    simp only [Option.isSome_iff_exists, Bundles.text?_eq_some_iff]
  · intro key e he
    obtain ⟨hkey, htexts⟩ := Bundles.entry_ofBundles he
    constructor
    · intro l text
      rw [htexts l, Bundles.text?_eq_some_iff]
    · intro name
      rw [mem_placeholders_ofBundles he]
      refine exists_congr fun l => ?_
      exact Bundles.exists_declared_iff hkey.1

/-- Metadata that declares some names. -/
def metadata (names : List String) : Json :=
  .obj [("placeholders", .obj (names.map fun name => (name, .null)))]

/-- Fields without a text, an object or a key of their own. -/
def noise : List (String × Json) :=
  [("@@locale", .str "en"), ("@a", .str "the first letter"), ("n", .int 1), ("@b", metadata ["y"])]

/-- The metadata of a key stands in a bundle without a text for it, in front of the one that has it. -/
def annotated : Bundles :=
  .ofList [("de", .ofList [("@a", metadata ["x"])]), ("en", .ofList ([("a", .str "A")] ++ noise))]

/-- The same without the noise. -/
def bare : Bundles := .ofList [("de", .ofList [("@a", metadata ["x"])]), ("en", .ofList [("a", .str "A")])]

theorem idle_noise : ∀ field ∈ noise, annotated.Idle field.1 field.2 := by
  have horphan : ¬ annotated.IsKey "b" := by
    rw [← isSome_find?_ofBundles]
    decide +kernel
  have hmalformed : ∀ name, ¬ (Json.str "the first letter").Declares name := by
    rintro name ⟨fields, declared, hobj, -⟩
    cases hobj
  intro field hfield
  simp only [noise, List.mem_cons, List.not_mem_nil, or_false] at hfield
  rcases hfield with rfl | rfl | rfl | rfl
  · exact .document "locale" _
  · exact .malformed "a" hmalformed
  · exact .data (by decide) (fun text h => by cases h)
  · exact .orphan horphan _

theorem sameButIdle_annotated : annotated.SameButIdle bare where
  locales := by
    intro l
    unfold Fields.get?
    rw [← SortedMap.mem_map_fst_iff, ← SortedMap.mem_map_fst_iff]
    exact Iff.rfl
  fields := by
    intro l name v hidle
    by_cases hen : l = "en"
    · subst hen
      show ([("a", Json.str "A")] ++ noise).lookup name = some v ↔
        [("a", Json.str "A")].lookup name = some v
      have hnoise : noise.lookup name ≠ some v := fun h =>
        hidle (idle_noise (name, v) (SortedMap.mem_of_lookup h))
      rw [List.lookup_append]
      cases [("a", Json.str "A")].lookup name with
      | none => simpa using hnoise
      | some w => simp
    · have hsame : annotated.get? l = bare.get? l := by
        show List.lookup l [("de", _), ("en", _)] = List.lookup l [("de", _), ("en", _)]
        simp only [SortedMap.lookup_cons_eq, if_neg hen]
      unfold Bundles.field?
      rw [hsame]

theorem entries_ofBundles_annotated :
    annotated.SameButIdle bare ∧
    (∃ e, (ofBundles annotated).find? "a" = some e ∧ e.texts.get? "en" = some "A" ∧
      "x" ∈ e.placeholders.toNames) ∧
    ¬ (∃ e, (ofBundles annotated).find? "b" = some e) ∧
    (ofBundles annotated).Same (ofBundles bare) := by
  obtain ⟨hkeys, hentries, hidle⟩ := entries_ofBundles annotated
  obtain ⟨e, he⟩ := (hkeys "a").mpr ⟨by decide, "en", "A", rfl⟩
  obtain ⟨htexts, hplaceholders⟩ := hentries "a" e he
  have htext : e.texts.get? "en" = some "A" := (htexts "en" "A").mpr rfl
  have hdeclared : "x" ∈ e.placeholders.toNames :=
    (hplaceholders "x").mpr ⟨"de", metadata ["x"], rfl, _, _, rfl, rfl, List.mem_cons_self⟩
  refine ⟨sameButIdle_annotated, ⟨e, he, htext, hdeclared⟩, ?_, hidle bare sameButIdle_annotated⟩
  rintro ⟨e', he'⟩
  have hnone : (ofBundles annotated).find? "b" = none := rfl
  rw [hnone] at he'
  cases he'

end Catalog

end Phrasebook
