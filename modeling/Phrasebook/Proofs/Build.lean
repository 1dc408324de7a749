import Mathlib.Data.List.Basic
import Phrasebook.Catalog.Build
import Phrasebook.Proofs.Fields

/-!
# What the catalog of bundles holds

The catalog is made by two folds over the bundles. Each is followed through the lookup of one key: a
bundle touches the entry of a key at most once, because no field name is repeated in it, and it files
its text under its own locale only, because no locale is repeated among the bundles. So the texts of
an entry are those of the bundles, whatever order they are visited in.

## Contents
- `Bundle.keyText?`, `Bundles.text?`, `Bundles.IsKey`, `Bundles.locales`: the texts, keys and locales
  of bundles
- `find?_addTexts`, `text?_addAllTexts`: one bundle, all bundles
- `text?_ofBundles`, `isSome_find?_ofBundles`, `locales_ofBundles`: the catalog of the bundles
-/

namespace Phrasebook

/-! ## Bundles as tables of texts -/

namespace FieldName

/-- Whether a field of the name may hold the text of a key. -/
def IsKeyName (name : String) : Prop := name.toList.head? ≠ some '@'

instance (name : String) : Decidable (IsKeyName name) :=
  inferInstanceAs (Decidable (name.toList.head? ≠ some '@'))

theorem classify_of_isKeyName {name : String} (h : IsKeyName name) : classify name = .key name := by
  unfold IsKeyName at h
  unfold classify ofChars
  split
  · rename_i hl
    simp [hl] at h
  · rename_i hl
    simp [hl] at h
  · rw [String.ofList_toList]

theorem classify_ne_key {name : String} (h : ¬ IsKeyName name) (key : String) :
    classify name ≠ .key key := by
  obtain ⟨rest, hl⟩ := List.head?_eq_some_iff.mp (not_not.mp h)
  unfold classify
  rw [hl]
  unfold ofChars
  split
  · simp
  · simp
  · rename_i hne
    exact absurd rfl (hne rest)

end FieldName

/-- The text that a bundle files under a key. -/
def Bundle.keyText? (bundle : Bundle) (key : String) : Option String :=
  if FieldName.IsKeyName key then bundle.text? key else none

namespace Bundles

/-- The text that the bundle of a locale has under a name. -/
def text? (bundles : Bundles) (locale name : String) : Option String :=
  (bundles.get? locale).bind (·.text? name)

/-- The locales of the bundles, smallest first. -/
def locales (bundles : Bundles) : List String := bundles.names.mergeSort fun a b => decide (a ≤ b)

/-- A key of the bundles is a name without a mark that some bundle has a text under. -/
def IsKey (bundles : Bundles) (key : String) : Prop :=
  FieldName.IsKeyName key ∧ ∃ locale, (bundles.text? locale key).isSome

end Bundles

/-! ## Filing texts -/

namespace Catalog

/-- The text of a key for a locale. -/
def text? (c : Catalog) (key locale : String) : Option String :=
  (c.find? key).bind fun e => e.texts.get? locale

/-- An entry that is new has no texts. -/
theorem get?_texts_getD (c : Catalog) (key l : String) :
    ((c.find? key).getD (.empty key)).texts.get? l = (c.find? key).bind fun e => e.texts.get? l := by
  cases c.find? key <;> rfl

/-- The text of a field as the text of a key, if it is one. -/
def fieldText? (field : String × Json) (key : String) : Option String :=
  if key = field.1 ∧ FieldName.IsKeyName key then field.2.text? else none

theorem addText_eq (locale : String) (c : Catalog) (field : String × Json) :
    addText locale c field = match fieldText? field field.1 with
      | some text => c.update field.1 (·.setText locale text)
      | none => c := by
  obtain ⟨name, v⟩ := field
  unfold addText fieldText?
  by_cases hk : FieldName.IsKeyName name
  · rw [FieldName.classify_of_isKeyName hk]
    cases v <;> simp [hk, Json.text?]
  · have hne := FieldName.classify_ne_key hk
    cases hc : FieldName.classify name with
    | key k => exact absurd hc (hne k)
    | document n => simp [hk]
    | metadata k => simp [hk]

/-- What filing the text of one field does to the entry of a key. -/
theorem find?_addText (locale : String) (c : Catalog) (field : String × Json) (key : String) :
    (addText locale c field).find? key = match fieldText? field key with
      | some text => some (((c.find? key).getD (.empty key)).setText locale text)
      | none => c.find? key := by
  rw [addText_eq]
  by_cases hk : key = field.1
  · subst hk
    cases fieldText? field field.1 with
    | none => rfl
    | some text => exact (find?_update ..).trans (if_pos rfl)
  · have hnone : fieldText? field key = none := if_neg fun h => hk h.1
    rw [hnone]
    cases fieldText? field field.1 with
    | none => rfl
    | some text => exact (find?_update ..).trans (if_neg hk)

/-- Filing the fields of a list without repeated names touches the entry of a key at most once. -/
theorem find?_foldl_addText (locale key : String) {fields : List (String × Json)}
    (hnodup : (fields.map Prod.fst).Nodup) (c : Catalog) :
    (fields.foldl (addText locale) c).find? key =
      match (if FieldName.IsKeyName key then (fields.lookup key).bind Json.text? else none) with
      | some text => some (((c.find? key).getD (.empty key)).setText locale text)
      | none => c.find? key := by
  induction fields generalizing c with
  | nil => simp
  | cons field rest ih =>
    obtain ⟨name, v⟩ := field
    rw [List.map_cons, List.nodup_cons] at hnodup
    rw [List.foldl_cons, ih hnodup.2, SortedMap.lookup_cons_eq, find?_addText]
    by_cases hk : key = name
    · -- the fields behind it do not have its name, so they leave the entry alone
      subst hk
      have hrest : rest.lookup key = none := SortedMap.lookup_eq_none_of_not_mem hnodup.1
      by_cases hkey : FieldName.IsKeyName key <;> simp [fieldText?, hkey, hrest]
    · simp [fieldText?, hk]

/-- **What the texts of one bundle do to the entry of a key.** -/
theorem find?_addTexts (c : Catalog) (locale : String) (bundle : Bundle) (key : String) :
    (c.addTexts locale bundle).find? key = match bundle.keyText? key with
      | some text => some (((c.find? key).getD (.empty key)).setText locale text)
      | none => c.find? key :=
  find?_foldl_addText locale key bundle.nodup c

theorem isSome_find?_addTexts (c : Catalog) (locale : String) (bundle : Bundle) (key : String) :
    ((c.addTexts locale bundle).find? key).isSome =
      ((bundle.keyText? key).isSome || (c.find? key).isSome) := by
  rw [find?_addTexts]
  cases bundle.keyText? key <;> rfl

theorem text?_addTexts (c : Catalog) (locale : String) (bundle : Bundle) (key l : String) :
    (c.addTexts locale bundle).text? key l =
      if l = locale then (bundle.keyText? key).or (c.text? key l) else c.text? key l := by
  unfold text?
  rw [find?_addTexts]
  cases bundle.keyText? key with
  | none => simp
  | some text =>
    simp [Entry.get?_setText, get?_texts_getD]

/-- The catalog with the texts of a list of bundles filed. -/
def addAllTexts (c : Catalog) (bundles : List (String × Bundle)) : Catalog :=
  bundles.foldl (fun c b => c.addTexts b.1 b.2) c

theorem isSome_find?_addAllTexts (c : Catalog) (bundles : List (String × Bundle)) (key : String) :
    ((c.addAllTexts bundles).find? key).isSome =
      (bundles.any (fun b => (b.2.keyText? key).isSome) || (c.find? key).isSome) := by
  unfold addAllTexts
  induction bundles generalizing c with
  | nil => simp
  | cons b rest ih =>
    rw [List.foldl_cons, ih, isSome_find?_addTexts, List.any_cons]
    cases (b.2.keyText? key).isSome <;> simp

/-- **The texts of all bundles.** Among bundles of different locales each files the texts of its own. -/
theorem text?_addAllTexts (c : Catalog) {bundles : List (String × Bundle)}
    (hnodup : (bundles.map Prod.fst).Nodup) (key l : String) :
    (c.addAllTexts bundles).text? key l =
      ((bundles.lookup l).bind (·.keyText? key)).or (c.text? key l) := by
  unfold addAllTexts
  induction bundles generalizing c with
  | nil => simp
  | cons b rest ih =>
    obtain ⟨locale, bundle⟩ := b
    rw [List.map_cons, List.nodup_cons] at hnodup
    rw [List.foldl_cons, ih _ hnodup.2, SortedMap.lookup_cons_eq, text?_addTexts]
    by_cases hl : l = locale
    · -- no bundle behind it files texts for its locale
      subst hl
      have hrest : rest.lookup l = none := SortedMap.lookup_eq_none_of_not_mem hnodup.1
      simp [hrest]
    · simp [hl]

@[simp] theorem locales_addText (locale : String) (c : Catalog) (field : String × Json) :
    (addText locale c field).locales = c.locales := by
  rw [addText_eq]
  cases fieldText? field field.1 <;> rfl

theorem locales_addAllTexts (c : Catalog) (bundles : List (String × Bundle)) :
    (c.addAllTexts bundles).locales = c.locales := by
  unfold addAllTexts
  induction bundles generalizing c with
  | nil => rfl
  | cons b rest ih =>
    rw [List.foldl_cons, ih]
    exact List.foldlRecOn (motive := fun c' => c'.locales = c.locales) b.2.toList _ rfl
      fun c' hc field _ => (locales_addText b.1 c' field).trans hc

/-! ## Declared placeholders

They change neither the locales of a catalog nor the texts of an entry, and they create no entry. -/

/-- The texts of the entry of a key, if there is one. -/
def textsOf? (c : Catalog) (key : String) : Option (Fields String) := (c.find? key).map Entry.texts

theorem text?_eq_textsOf? (c : Catalog) (key l : String) :
    c.text? key l = (c.textsOf? key).bind fun texts => texts.get? l := by
  unfold text? textsOf?
  cases c.find? key <;> rfl

theorem isSome_textsOf? (c : Catalog) (key : String) :
    (c.textsOf? key).isSome = (c.find? key).isSome :=
  Option.isSome_map

/-- Two catalogs agree on the locales and on all texts. -/
def SameTexts (c c' : Catalog) : Prop :=
  c.locales = c'.locales ∧ ∀ key, c.textsOf? key = c'.textsOf? key

theorem SameTexts.trans {c₁ c₂ c₃ : Catalog} (h : SameTexts c₁ c₂) (h' : SameTexts c₂ c₃) :
    SameTexts c₁ c₃ :=
  ⟨h.1.trans h'.1, fun key => (h.2 key).trans (h'.2 key)⟩

theorem sameTexts_addDeclared (c : Catalog) (field : String × Json) :
    SameTexts (addDeclared c field) c := by
  unfold addDeclared
  split
  · -- the entry of the key is adjusted, in its placeholders only
    rename_i k names _ _
    refine ⟨?_, fun key => ?_⟩
    · unfold adjust
      cases c.find? k <;> rfl
    · unfold textsOf?
      rw [find?_adjust]
      by_cases hk : key = k
      · subst hk
        cases c.find? key <;> simp [Entry.declare]
      · rw [if_neg hk]
  · exact ⟨rfl, fun _ => rfl⟩

theorem sameTexts_addPlaceholders (c : Catalog) (bundle : Bundle) :
    SameTexts (c.addPlaceholders bundle) c :=
  List.foldlRecOn (motive := fun c' => SameTexts c' c) bundle.toList _ ⟨rfl, fun _ => rfl⟩
    fun c' hc field _ => (sameTexts_addDeclared c' field).trans hc

/-! ## The catalog of bundles -/

theorem get?_sortedBundles (bundles : Bundles) (l : String) :
    (sortedBundles bundles).get? l = bundles.get? l :=
  SortedMap.get?_ofList bundles.nodup l

theorem sameTexts_ofBundles (bundles : Bundles) :
    SameTexts (ofBundles bundles)
      ((ofLocales (sortedBundles bundles).keys).addAllTexts (sortedBundles bundles).toList) :=
  List.foldlRecOn (motive := fun c' => SameTexts c' _) (sortedBundles bundles).toList _
    ⟨rfl, fun _ => rfl⟩ fun c' hc b _ => (sameTexts_addPlaceholders c' b.2).trans hc

theorem mem_locales {bundles : Bundles} {l : String} :
    l ∈ bundles.locales ↔ (bundles.get? l).isSome := by
  unfold Bundles.locales Fields.names Fields.get?
  rw [List.mem_mergeSort, SortedMap.mem_map_fst_iff]

/-- The locales of the bundles are the names of the sorted bundles. -/
theorem keys_sortedBundles (bundles : Bundles) : (sortedBundles bundles).keys = bundles.locales := by
  -- both lists are sorted, and they have the same members without repeats
  have hperm : (sortedBundles bundles).keys.Perm bundles.locales := by
    refine (List.perm_ext_iff_of_nodup (sortedBundles bundles).keys_nodup ?_).mpr fun l => ?_
    · exact (List.mergeSort_perm ..).nodup_iff.mpr bundles.nodup
    · rw [SortedMap.mem_keys, get?_sortedBundles, mem_locales]
  have hkeysSorted : (sortedBundles bundles).keys.Pairwise (· ≤ ·) :=
    (sortedBundles bundles).keys_sorted.imp SortedMap.le_of_lt
  have hlocalesSorted : bundles.locales.Pairwise (· ≤ ·) := by
    refine (List.pairwise_mergeSort (fun a b c hab hbc => ?_) (fun a b => ?_) _).imp
      of_decide_eq_true
    · exact decide_eq_true (String.le_trans (of_decide_eq_true hab) (of_decide_eq_true hbc))
    · simpa using String.le_total a b
  exact hperm.eq_of_pairwise (fun a b _ _ => String.le_antisymm) hkeysSorted hlocalesSorted

theorem locales_sorted (bundles : Bundles) : bundles.locales.Pairwise (· < ·) := by
  rw [← keys_sortedBundles]
  exact (sortedBundles bundles).keys_sorted

/-- **The locales of the catalog are those of the bundles in increasing order.** -/
theorem locales_ofBundles (bundles : Bundles) : (ofBundles bundles).locales = bundles.locales := by
  rw [← keys_sortedBundles]
  exact (sameTexts_ofBundles bundles).1.trans (locales_addAllTexts ..)

/-- **The texts of the catalog are those of the bundles.** -/
theorem text?_ofBundles (bundles : Bundles) (key l : String) :
    (ofBundles bundles).text? key l =
      if FieldName.IsKeyName key then bundles.text? l key else none := by
  rw [text?_eq_textsOf?, (sameTexts_ofBundles bundles).2, ← text?_eq_textsOf?,
    text?_addAllTexts _ (sortedBundles bundles).keys_nodup]
  have hget : (sortedBundles bundles).toList.lookup l = bundles.get? l :=
    get?_sortedBundles bundles l
  have hempty : (ofLocales (sortedBundles bundles).keys).text? key l = none := rfl
  rw [hget, hempty, Option.or_none]
  unfold Bundles.text? Bundle.keyText?
  by_cases hk : FieldName.IsKeyName key <;> simp [hk]

/-- **The catalog has an entry for exactly the keys of the bundles.** -/
theorem isSome_find?_ofBundles (bundles : Bundles) (key : String) :
    ((ofBundles bundles).find? key).isSome ↔ bundles.IsKey key := by
  have hempty : (ofLocales (sortedBundles bundles).keys).find? key = none := rfl
  rw [← isSome_textsOf?, (sameTexts_ofBundles bundles).2, isSome_textsOf?,
    isSome_find?_addAllTexts, hempty, Option.isSome_none, Bool.or_false, List.any_eq_true]
  unfold Bundles.IsKey Bundles.text? Bundle.keyText?
  constructor
  · rintro ⟨⟨l, bundle⟩, hmem, htext⟩
    have hget : bundles.get? l = some bundle := by
      rw [← get?_sortedBundles]
      exact SortedMap.get?_eq_some_iff.mpr hmem
    by_cases hk : FieldName.IsKeyName key
    · exact ⟨hk, l, by simpa [hk, hget] using htext⟩
    · simp [hk] at htext
  · rintro ⟨hk, l, htext⟩
    cases hget : bundles.get? l with
    | none => simp [hget] at htext
    | some bundle =>
      refine ⟨(l, bundle), SortedMap.get?_eq_some_iff.mp (get?_sortedBundles bundles l ▸ hget), ?_⟩
      simpa [hk, hget] using htext

end Catalog

end Phrasebook
