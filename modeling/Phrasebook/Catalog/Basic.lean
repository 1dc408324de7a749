import Phrasebook.Fields

/-!
# Catalogs

A catalog holds, for a list of locales, the texts of every key. Entries, the texts of an entry and its
placeholders are kept in the order in which they came; what reads a catalog sorts them first, or only
looks one up.

## Contents
- `Entry`: the texts of one key and its placeholders
- `get?_setText`, `get?_unsetText`: changing a text through the lookup
- `Catalog`: the locales and the entries
- `Catalog.update`, `Catalog.adjust`: changing one entry
- `find?_update`, `find?_adjust`: changing an entry through the lookup
- `Catalog.Keyed`, `Keyed.update`, `Keyed.adjust`: entries that are filed under their own keys
-/

namespace Phrasebook

/-- The texts of one key and the names of its placeholders. -/
structure Entry where
  /-- The key. -/
  key : String
  /-- The text for each locale that has one, in the order in which the locales first got one. -/
  texts : Fields String
  /-- The placeholder names that were declared for the key, or found in its texts. -/
  placeholders : NameSet
  deriving Inhabited

namespace Entry

/-- The entry of a key of which nothing else is known. -/
def empty (key : String) : Entry := ⟨key, .empty, .empty⟩

/-- The entry with a text for a locale. -/
def setText (e : Entry) (locale text : String) : Entry :=
  { e with texts := e.texts.put locale text }

/-- The entry without a text for a locale. -/
def unsetText (e : Entry) (locale : String) : Entry := { e with texts := e.texts.erase locale }

/-- The entry with more placeholder names. -/
def declare (e : Entry) (names : List String) : Entry :=
  { e with placeholders := e.placeholders.addAll names }

theorem get?_setText (e : Entry) (locale text l : String) :
    (e.setText locale text).texts.get? l = if l = locale then some text else e.texts.get? l :=
  Fields.get?_put ..

theorem get?_unsetText (e : Entry) (locale l : String) :
    (e.unsetText locale).texts.get? l = if l = locale then none else e.texts.get? l :=
  Fields.get?_erase ..

end Entry

/-- The texts of all keys. -/
structure Catalog where
  /-- The supported locales, in order and possibly with repeats. -/
  locales : List String
  /-- The entries by key, in the order in which their keys came up. -/
  entries : Fields Entry
  deriving Inhabited

namespace Catalog

/-- The catalog of some locales without entries. -/
def ofLocales (locales : List String) : Catalog := ⟨locales, .empty⟩

/-- The entry that is filed under a key. -/
def find? (c : Catalog) (key : String) : Option Entry := c.entries.get? key

/-- Changes the entry of a key, which is created when it is missing. -/
def update (c : Catalog) (key : String) (f : Entry → Entry) : Catalog :=
  { c with entries := c.entries.put key (f ((c.find? key).getD (.empty key))) }

/-- Changes the entry of a key, if there is one. -/
def adjust (c : Catalog) (key : String) (f : Entry → Entry) : Catalog :=
  match c.find? key with
  | none => c
  | some e => { c with entries := c.entries.put key (f e) }

theorem find?_update (c : Catalog) (key k : String) (f : Entry → Entry) :
    (c.update key f).find? k =
      if k = key then some (f ((c.find? key).getD (.empty key))) else c.find? k :=
  Fields.get?_put ..

theorem find?_adjust (c : Catalog) (key k : String) (f : Entry → Entry) :
    (c.adjust key f).find? k = if k = key then (c.find? key).map f else c.find? k := by
  unfold adjust
  split
  · rename_i h
    by_cases hk : k = key
    · subst hk
      simp [h]
    · simp [hk]
  · rename_i e h
    rw [h]
    exact Fields.get?_put ..

/-! ## Entries under their own keys -/

/-- Every entry is filed under its own key. -/
def Keyed (c : Catalog) : Prop := ∀ key e, c.find? key = some e → e.key = key

/-- Whether an entry is there or is created, it has the key that it is asked for. -/
theorem Keyed.key_getD {c : Catalog} (h : c.Keyed) (key : String) :
    ((c.find? key).getD (.empty key)).key = key := by
  cases hfind : c.find? key with
  | none => rfl
  | some e => exact h key e hfind

theorem keyed_ofLocales (locales : List String) : (ofLocales locales).Keyed := by
  intro key e he
  cases he

/-- An entry is filed under its own key when it is changed or created there, unless the change is one of
its key. -/
theorem Keyed.update {c : Catalog} (h : c.Keyed) (key : String) {f : Entry → Entry}
    (hf : ∀ e, (f e).key = e.key) : (c.update key f).Keyed := by
  intro k e he
  rw [find?_update] at he
  by_cases hk : k = key
  · rw [if_pos hk] at he
    obtain rfl := Option.some.inj he
    rw [hf, hk, h.key_getD]
  · rw [if_neg hk] at he
    exact h k e he

theorem Keyed.adjust {c : Catalog} (h : c.Keyed) (key : String) {f : Entry → Entry}
    (hf : ∀ e, (f e).key = e.key) : (c.adjust key f).Keyed := by
  intro k e he
  rw [find?_adjust] at he
  by_cases hk : k = key
  · rw [if_pos hk] at he
    obtain ⟨e₀, he₀, rfl⟩ := Option.map_eq_some_iff.mp he
    rw [hf, hk]
    exact h key e₀ he₀
  · rw [if_neg hk] at he
    exact h k e he

end Catalog

end Phrasebook
