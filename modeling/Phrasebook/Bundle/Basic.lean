import Phrasebook.Fields
import Phrasebook.Json

/-!
# Bundles

A bundle holds the texts of one locale and their metadata, as the fields of a JSON object.

## Contents
- `Bundle`: the type
- `Bundles`: the bundles of several locales
-/

namespace Phrasebook

/-- The fields of a bundle file. -/
abbrev Bundle := Fields Json

/-- The bundles of several locales, in the order in which the locales were first seen. -/
abbrev Bundles := Fields Bundle

namespace Bundle

/-- The text that a bundle has under a field name. -/
def text? (bundle : Bundle) (name : String) : Option String := (bundle.get? name).bind Json.text?

end Bundle

end Phrasebook
