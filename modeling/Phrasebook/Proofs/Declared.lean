import Phrasebook.Proofs.Build

/-!
# Declared placeholders

The second fold over the bundles, followed through the lookup of one key as the first one is. One field
name of a bundle may declare placeholders for a key, and it adds the names to the entry that the first
fold has made, whichever bundle the texts came from. So the placeholders of an entry are those that any
of the bundles declares.

## Contents
- `FieldName.classify_eq_metadata_iff`, `Bundle.declared`: the field that declares, and its names
- `find?_addPlaceholders`, `find?_addAllPlaceholders`: one bundle, all bundles
- `keyed_ofBundles`, `mem_placeholders_ofBundles`: the keys and the placeholders of the catalog of bundles
-/

namespace Phrasebook

/-! ## The declaring field -/

namespace FieldName

/-- The name of the field that holds the metadata of a key. -/
def ofMetadata (key : String) : String := "@" ++ key

/-- A field holds the metadata of a key when it has the one name for it, and no other key can have a
field of that name. -/
theorem classify_eq_metadata_iff {name key : String} :
    classify name = .metadata key ↔ name = ofMetadata key ∧ IsKeyName key := by
  have hname : name = ofMetadata key ↔ name.toList = '@' :: key.toList := by
    rw [← String.toList_inj, ofMetadata, String.toList_append]
    rfl
  rw [hname]
  unfold classify ofChars IsKeyName
  split
  · -- two marks: no key starts with the second one
    rename_i rest hl
    refine ⟨fun h => by simp at h, fun ⟨heq, hkey⟩ => absurd ?_ hkey⟩
    rw [hl] at heq
    rw [← (List.cons.inj heq).2]
    rfl
  · -- one mark, and what follows it is the key
    rename_i rest hone hl
    rw [hl]
    constructor
    · intro h
      obtain rfl := FieldName.metadata.inj h
      rw [String.toList_ofList]
      refine ⟨rfl, fun hhead => ?_⟩
      obtain ⟨tail, htail⟩ := List.head?_eq_some_iff.mp hhead
      exact hone tail htail
    · rintro ⟨heq, -⟩
      rw [(List.cons.inj heq).2, String.ofList_toList]
  · -- no mark
    rename_i htwo hone
    exact ⟨fun h => by simp at h, fun h => absurd h.1 (hone key.toList)⟩

end FieldName

/-- The placeholder names that a bundle declares for a key. -/
def Bundle.declared (bundle : Bundle) (key : String) : List String :=
  if FieldName.IsKeyName key then
    ((bundle.get? (FieldName.ofMetadata key)).bind Catalog.declaredNames).getD []
  else []

namespace Catalog

/-- The placeholder names that a field declares for a key. -/
def fieldDeclared (field : String × Json) (key : String) : List String :=
  if field.1 = FieldName.ofMetadata key ∧ FieldName.IsKeyName key then
    (declaredNames field.2).getD []
  else []

/-! ## Adding declared names -/

/-- What one field does to the entry of a key: it adds the names that it declares for it. -/
theorem find?_addDeclared (c : Catalog) (field : String × Json) (key : String) :
    (addDeclared c field).find? key = (c.find? key).map (·.declare (fieldDeclared field key)) := by
  obtain ⟨name, v⟩ := field
  have hkeep : (c.find? key).map (·.declare []) = c.find? key := by
    cases c.find? key <;> rfl
  unfold addDeclared fieldDeclared
  dsimp only
  split
  · rename_i k names hclass hnames
    rw [find?_adjust, hnames]
    by_cases hk : key = k
    · subst hk
      rw [if_pos rfl, if_pos (FieldName.classify_eq_metadata_iff.mp hclass), Option.getD_some]
    · rw [if_neg hk, if_neg, hkeep]
      -- the field would hold the metadata of two keys
      intro h
      rw [FieldName.classify_eq_metadata_iff.mpr h] at hclass
      exact hk (FieldName.metadata.inj hclass)
  · rename_i hnone
    by_cases h : name = FieldName.ofMetadata key ∧ FieldName.IsKeyName key
    · cases hnames : declaredNames v with
      | none => rw [if_pos h, Option.getD_none, hkeep]
      | some names => exact absurd hnames (hnone key names (FieldName.classify_eq_metadata_iff.mpr h))
    · rw [if_neg h, hkeep]

/-- Among the fields of a list without repeated names at most one declares names for a key. -/
theorem find?_foldl_addDeclared (key : String) {fields : List (String × Json)}
    (hnodup : (fields.map Prod.fst).Nodup) (c : Catalog) :
    (fields.foldl addDeclared c).find? key = (c.find? key).map
      (·.declare (if FieldName.IsKeyName key then
        ((fields.lookup (FieldName.ofMetadata key)).bind declaredNames).getD [] else [])) := by
  induction fields generalizing c with
  | nil =>
    rw [List.foldl_nil, List.lookup_nil, Option.bind_none, Option.getD_none, ite_self]
    cases c.find? key <;> rfl
  | cons field rest ih =>
    obtain ⟨name, v⟩ := field
    rw [List.map_cons, List.nodup_cons] at hnodup
    rw [List.foldl_cons, ih hnodup.2, find?_addDeclared, SortedMap.lookup_cons_eq, Option.map_map]
    unfold fieldDeclared
    dsimp only
    by_cases hname : FieldName.ofMetadata key = name
    · -- the fields behind it do not have its name, so they declare nothing for the key
      subst hname
      have hrest : rest.lookup (FieldName.ofMetadata key) = none :=
        SortedMap.lookup_eq_none_of_not_mem hnodup.1
      rw [hrest, if_pos rfl, Option.bind_none, Option.getD_none, ite_self, Option.bind_some]
      simp only [true_and]
      rfl
    · have hother : ¬ (name = FieldName.ofMetadata key ∧ FieldName.IsKeyName key) :=
        fun h => hname h.1.symm
      rw [if_neg hname, if_neg hother]
      rfl

/-- **What the metadata of one bundle does to the entry of a key.** -/
theorem find?_addPlaceholders (c : Catalog) (bundle : Bundle) (key : String) :
    (c.addPlaceholders bundle).find? key = (c.find? key).map (·.declare (bundle.declared key)) :=
  find?_foldl_addDeclared key bundle.nodup c

/-- The catalog with the declared placeholders of a list of bundles added. -/
def addAllPlaceholders (c : Catalog) (bundles : List (String × Bundle)) : Catalog :=
  bundles.foldl (fun c b => c.addPlaceholders b.2) c

/-- **What the metadata of all bundles does to the entry of a key.** -/
theorem find?_addAllPlaceholders (c : Catalog) (bundles : List (String × Bundle)) (key : String) :
    (c.addAllPlaceholders bundles).find? key =
      (c.find? key).map (·.declare (bundles.flatMap (·.2.declared key))) := by
  unfold addAllPlaceholders
  induction bundles generalizing c with
  | nil => cases h : c.find? key <;> simp [h, Entry.declare, NameSet.addAll]
  | cons b rest ih =>
    rw [List.foldl_cons, ih, find?_addPlaceholders, Option.map_map, List.flatMap_cons]
    congr 1
    funext e
    unfold Entry.declare
    rw [NameSet.addAll_append]
    rfl

/-! ## The catalog of bundles -/

theorem keyed_addText {c : Catalog} (h : c.Keyed) (locale : String) (field : String × Json) :
    (addText locale c field).Keyed := by
  unfold addText
  split
  · exact h.update _ fun _ => rfl
  · exact h

theorem keyed_addDeclared {c : Catalog} (h : c.Keyed) (field : String × Json) :
    (addDeclared c field).Keyed := by
  unfold addDeclared
  split
  · exact h.adjust _ fun _ => rfl
  · exact h

/-- **The entries of the catalog of bundles are filed under their own keys.** -/
theorem keyed_ofBundles (bundles : Bundles) : (ofBundles bundles).Keyed := by
  have htexts : ∀ {c : Catalog}, c.Keyed → ∀ locale bundle, (c.addTexts locale bundle).Keyed := by
    intro c hc locale bundle
    exact List.foldlRecOn (motive := Keyed) bundle.toList _ hc
      fun c' hc' field _ => keyed_addText hc' locale field
  have hplaceholders : ∀ {c : Catalog}, c.Keyed → ∀ bundle, (c.addPlaceholders bundle).Keyed := by
    intro c hc bundle
    exact List.foldlRecOn (motive := Keyed) bundle.toList _ hc
      fun c' hc' field _ => keyed_addDeclared hc' field
  refine List.foldlRecOn (motive := Keyed) (sortedBundles bundles).toList _ ?_
    fun c hc b _ => hplaceholders hc b.2
  exact List.foldlRecOn (motive := Keyed) (sortedBundles bundles).toList _ (keyed_ofLocales _)
    fun c hc b _ => htexts hc b.1 b.2

/-- Filing texts declares no placeholders. -/
theorem placeholders_addAllTexts {c : Catalog} (hc : ∀ key e, c.find? key = some e → e.placeholders = .empty)
    (bundles : List (String × Bundle)) {key : String} {e : Entry}
    (he : (c.addAllTexts bundles).find? key = some e) : e.placeholders = .empty := by
  unfold addAllTexts at he
  induction bundles generalizing c with
  | nil => exact hc key e he
  | cons b rest ih =>
    refine ih (fun k e' he' => ?_) he
    rw [find?_addTexts] at he'
    split at he'
    · obtain rfl := Option.some.inj he'
      cases hk : c.find? k with
      | none => rfl
      | some e₀ => exact hc k e₀ hk
    · exact hc k e' he'

/-- **The placeholders of an entry are those that the bundles declare for its key**, each bundle whether
or not it has a text for it. -/
theorem mem_placeholders_ofBundles {bundles : Bundles} {key : String} {e : Entry}
    (he : (ofBundles bundles).find? key = some e) (name : String) :
    name ∈ e.placeholders.toNames ↔
      ∃ locale bundle, bundles.get? locale = some bundle ∧ name ∈ bundle.declared key := by
  have hfold : ofBundles bundles =
      ((ofLocales (sortedBundles bundles).keys).addAllTexts (sortedBundles bundles).toList
        ).addAllPlaceholders (sortedBundles bundles).toList := rfl
  rw [hfold, find?_addAllPlaceholders] at he
  obtain ⟨e₀, he₀, rfl⟩ := Option.map_eq_some_iff.mp he
  have hempty : e₀.placeholders = .empty :=
    placeholders_addAllTexts (fun k e' he' => by cases he') _ he₀
  unfold Entry.declare
  rw [NameSet.mem_addAll, hempty, List.mem_flatMap]
  constructor
  · rintro (⟨⟨locale, bundle⟩, hmem, hname⟩ | hname)
    · refine ⟨locale, bundle, ?_, hname⟩
      rw [← get?_sortedBundles]
      exact SortedMap.get?_eq_some_iff.mpr hmem
    · cases hname
  · rintro ⟨locale, bundle, hget, hname⟩
    rw [← get?_sortedBundles] at hget
    exact Or.inl ⟨(locale, bundle), SortedMap.get?_eq_some_iff.mp hget, hname⟩

end Catalog

end Phrasebook
