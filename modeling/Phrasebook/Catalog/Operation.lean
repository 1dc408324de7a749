import Phrasebook.Catalog.Validate
import Phrasebook.Report
import Phrasebook.Target.Emit

/-!
# Operations on a catalog

What may be asked of a catalog, one request after the other. A request that fails leaves the catalog
as far as it was changed, and the next one goes on from there.

## Contents
- `Operation`: a request
- `Answer`: what is given back
- `Catalog.step`: one request
- `Catalog.steps`: requests in order
-/

namespace Phrasebook

/-- A request to a catalog. Each that names a key creates the entry of the key if it is missing. -/
inductive Operation where
  | entry (key : String)
  | setText (key locale text : String)
  | unsetText (key locale : String)
  | declare (key : String) (names : List String)
  | addLocale (locale : String)
  | textFor (key locale : String)
  | validate (fallback : Option String)
  | plan (target : Target) (asked : String)
  | emit (target : Target) (asked : String)
  deriving DecidableEq, Repr

/-- What a request gives back. -/
inductive Answer where
  | nothing
  | key (key : String)
  | text (text : String)
  | plan (defaultLocale : String) (accessors : List Accessor)
  | source (text : String)
  deriving DecidableEq, Repr

namespace Catalog

/-- What is given back where a text may be missing. -/
def answer {α : Type} (found : Except String α) (f : α → Answer) : Report Answer :=
  match found with
  | .error locale => .stop (.crash (.noText locale))
  | .ok a => .done (f a)

/-- The catalog after a request, and what the request gives back. -/
def step (c : Catalog) : Operation → Catalog × Report Answer
  | .entry key =>
    let c' := c.update key id
    (c', .done (.key ((c'.find? key).getD (.empty key)).key))
  | .setText key locale text => (c.update key (·.setText locale text), .done .nothing)
  | .unsetText key locale => (c.update key (·.unsetText locale), .done .nothing)
  | .declare key names => (c.update key (·.declare names), .done .nothing)
  | .addLocale locale => ({ c with locales := c.locales ++ [locale] }, .done .nothing)
  | .textFor key locale =>
    let c' := c.update key id
    let found := (c'.find? key).bind fun e => e.texts.get? locale
    (c', answer (found.elim (.error locale) .ok) .text)
  | .validate fallback =>
    let v := c.validate fallback
    let outcome := match v.gap? with
      | none => .ok .nothing
      | some gap => .error (.failure (.missingText gap.key gap.locale))
    (v.catalog, ⟨v.notices, outcome⟩)
  | .plan target asked => (c, answer (target.plan c) (.plan (c.defaultLocale asked)))
  | .emit target asked => (c, answer (target.emit asked c) .source)

/-- The catalog after requests in order. -/
def steps (c : Catalog) (operations : List Operation) : Catalog :=
  operations.foldl (fun c operation => (c.step operation).1) c

end Catalog

end Phrasebook
