import Phrasebook.Bundle.Basic
import Phrasebook.Bundle.FieldName
import Phrasebook.Catalog.Basic

/-!
# From bundles to a catalog

The texts of all bundles are filed first and the declared placeholders after them, so that metadata
reaches an entry whichever bundle holds its text.

## Contents
- `addTexts`, `addPlaceholders`: what one bundle contributes
- `declaredNames`: the placeholder names in a key's metadata
- `Catalog.ofBundles`: the catalog of all bundles
-/

namespace Phrasebook

namespace Catalog

/-- Files the text of one field. What is not a text, or not filed under a key, contributes nothing. -/
def addText (locale : String) (c : Catalog) (field : String × Json) : Catalog :=
  match FieldName.classify field.1, field.2 with
  | .key key, .str text => c.update key (·.setText locale text)
  | _, _ => c

/-- Files the texts of one bundle. -/
def addTexts (c : Catalog) (locale : String) (bundle : Bundle) : Catalog :=
  bundle.toList.foldl (addText locale) c

/-- The placeholder names that the metadata of a key declares, if it does. -/
def declaredNames (metadata : Json) : Option (List String) :=
  (metadata.field? "placeholders").bind fun declared =>
    declared.fields?.map (·.map Prod.fst)

/-- Adds the placeholders that one field declares to the entry of its key, if there is one. -/
def addDeclared (c : Catalog) (field : String × Json) : Catalog :=
  match FieldName.classify field.1, declaredNames field.2 with
  | .metadata key, some names => c.adjust key (·.declare names)
  | _, _ => c

/-- Adds the placeholders that one bundle declares. -/
def addPlaceholders (c : Catalog) (bundle : Bundle) : Catalog := bundle.toList.foldl addDeclared c

/-- The bundles with their locales, smallest locale first. -/
def sortedBundles (bundles : Bundles) : SortedMap Bundle := bundles.sorted

/-- The catalog of the bundles: their locales in order, and the texts and declared placeholders of
all of them. -/
def ofBundles (bundles : Bundles) : Catalog :=
  let sorted := sortedBundles bundles
  let filled := sorted.toList.foldl (fun c b => c.addTexts b.1 b.2) (ofLocales sorted.keys)
  sorted.toList.foldl (fun c b => c.addPlaceholders b.2) filled

end Catalog

end Phrasebook
