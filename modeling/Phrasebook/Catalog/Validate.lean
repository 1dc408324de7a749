import Phrasebook.Catalog.Basic
import Phrasebook.Notice
import Phrasebook.Template

/-!
# Completing a catalog

Entries are visited by increasing key. An entry is completed locale by locale: one without a text takes
that of the fallback locale, and when there is none either, the visit stops there. A complete entry
without placeholders gets the names that its texts use; one that has placeholders keeps them, and a
difference is reported. Entries stay where they are in the catalog, and go by the keys under which they
are filed there: those are their own in any catalog that requests lead to (`Catalog.Keyed`).

## Contents
- `Gap`: the text that is missing
- `Entry.complete`, `Entry.settle`: the two steps for one entry
- `visit`: all entries
- `Catalog.validate`: the whole, with its notices
-/

namespace Phrasebook

/-- A key and a locale that it has no text for. -/
structure Gap where
  /-- The key. -/
  key : String
  /-- The locale without a text. -/
  locale : String
  deriving DecidableEq, Repr

/-- What completing one entry comes to: the entry as far as it was filled, the notices, and the locale
that it stopped at, if it did. -/
structure Completion where
  /-- The entry. -/
  entry : Entry
  /-- What was reported, in order. -/
  notices : List Notice
  /-- The locale whose gap was left open. -/
  gap? : Option String

namespace Entry

/-- The fallback locale and its text, when there are both. -/
def fallbackText? (e : Entry) (fallback : Option String) : Option (String × String) :=
  fallback.bind fun locale => (e.texts.get? locale).map fun text => (locale, text)

/-- Goes through locales in order and gives each that has no text the one of the fallback locale. Stops
at the first that cannot be given one. -/
def complete (key : String) (fallback : Option String) : List String → Entry → Completion
  | [], e => ⟨e, [], none⟩
  | locale :: rest, e =>
    if e.texts.contains locale then complete key fallback rest e
    else
      match e.fallbackText? fallback with
      | none => ⟨e, [], some locale⟩
      | some (source, text) =>
        let done := complete key fallback rest (e.setText locale text)
        { done with notices := .filled locale key source :: done.notices }

/-- The placeholder names that the texts of an entry use. -/
def usedNames (e : Entry) : NameSet := Template.namesOfAll e.texts.values

/-- Gives an entry without placeholders those that its texts use; reports a difference otherwise. -/
def settle (key : String) (e : Entry) : Entry × List Notice :=
  if e.placeholders.isEmpty then (e.declare e.usedNames.names, [])
  else if e.usedNames.hasSame e.placeholders then (e, [])
  else (e, [.mismatch key e.placeholders.toNames e.usedNames.toNames])

end Entry

/-- The entries as a visit leaves them, its notices, and the gap that stopped it, if any. -/
structure Visit where
  /-- The entries. -/
  entries : List (String × Entry)
  /-- What was reported, in order. -/
  notices : List Notice
  /-- The gap that was left open. -/
  gap? : Option Gap

/-- Completes and settles entries in order, up to the first one with an open gap. That one is left as far
as it was filled. -/
def visit (locales : List String) (fallback : Option String) : List (String × Entry) → Visit
  | [] => ⟨[], [], none⟩
  | (key, e) :: rest =>
    let done := e.complete key fallback locales
    match done.gap? with
    | some locale => ⟨(key, done.entry) :: rest, done.notices, some ⟨key, locale⟩⟩
    | none =>
      let (settled, reports) := done.entry.settle key
      let v := visit locales fallback rest
      ⟨(key, settled) :: v.entries, done.notices ++ reports ++ v.notices, v.gap?⟩

/-- What completing a catalog comes to: the catalog as far as it was changed, the notices, and the gap
that was left open, if any. -/
structure Validation where
  /-- The catalog after the visit. -/
  catalog : Catalog
  /-- What was reported, in order. -/
  notices : List Notice
  /-- The gap that was left open. -/
  gap? : Option Gap

namespace Catalog

/-- The report that a fallback locale has no bundle. -/
def fallbackNotices (c : Catalog) : Option String → List Notice
  | none => []
  | some fallback =>
    if c.locales.contains fallback then [] else [.unknownFallback fallback c.locales]

/-- Completes a catalog from a fallback locale. -/
def validate (c : Catalog) (fallback : Option String) : Validation :=
  let v := visit c.locales fallback c.entries.sorted.toList
  { catalog := { c with entries := c.entries.putAll v.entries }
    notices := c.fallbackNotices fallback ++ v.notices
    gap? := v.gap? }

end Catalog

end Phrasebook
