import Phrasebook.Catalog.Basic
import Phrasebook.Target.Basic

/-!
# The plan of the accessors

For every key under which an entry is filed, in increasing order, the member that stands for it, a
parameter for each placeholder of the entry, and its text in each locale of the catalog.

## Contents
- `Accessor`: what is generated for one key
- `Entry.rows`: the texts of a key in the locales of a catalog
- `Target.plan`: all accessors
- `Catalog.defaultLocale`: the locale that the generated code falls back to
-/

namespace Phrasebook

/-- A placeholder and the identifier that it is bound to. -/
structure Parameter where
  /-- The placeholder. -/
  name : String
  /-- The identifier in the generated code. -/
  identifier : String
  deriving DecidableEq, Repr

/-- What is generated for one key. -/
structure Accessor where
  /-- The key. -/
  key : String
  /-- The member of the generated class. -/
  member : String
  /-- The parameters in the order of their placeholders. -/
  parameters : List Parameter
  /-- The text for each locale of the catalog, in the catalog's order and with its repeats. -/
  rows : List (String × String)
  deriving DecidableEq, Repr

namespace Accessor

/-- The text for each locale, a repeated locale once. -/
def texts (a : Accessor) : Fields String := .ofList a.rows

end Accessor

/-- The texts of an entry for locales in order, or the first locale that has none. -/
def Entry.rows (e : Entry) : List String → Except String (List (String × String))
  | [] => .ok []
  | locale :: rest =>
    match e.texts.get? locale with
    | none => .error locale
    | some text => (e.rows rest).map ((locale, text) :: ·)

namespace Target

/-- The parameters of an entry. -/
def parameters (target : Target) (e : Entry) : List Parameter :=
  let names := e.placeholders.toNames
  List.zipWith Parameter.mk names (Identifier.assign target.parameter [] names)

/-- The accessors of keys with their members, in order, or the first locale without a text. -/
def accessors (target : Target) (locales : List String) :
    List ((String × Entry) × String) → Except String (List Accessor)
  | [] => .ok []
  | ((key, e), member) :: rest =>
    match e.rows locales with
    | .error locale => .error locale
    | .ok rows => (accessors target locales rest).map (⟨key, member, target.parameters e, rows⟩ :: ·)

/-- The accessors of a catalog by increasing key, or the locale that a key has no text for. -/
def plan (target : Target) (c : Catalog) : Except String (List Accessor) :=
  target.accessors c.locales
    (c.entries.sorted.toList.zip (Identifier.assign target.member [] c.entries.keys))

end Target

/-- The locale that the generated code falls back to: the one asked for when the catalog has it or has
no locale at all, else the catalog's first. -/
def Catalog.defaultLocale (c : Catalog) (asked : String) : String :=
  if c.locales.contains asked then asked else c.locales.headD asked

end Phrasebook
