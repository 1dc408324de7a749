/-!
# Help

The texts that explain the command line.

## Contents
- `programName`, `programVersion`: what the program is called
- `usageLines`: the options in short
- `helpLines`: the options with what they do
-/

namespace Phrasebook.CommandLine

/-- The name of the program. -/
def programName : String := "arbgen"

/-- The version of the program. -/
def programVersion : String := "0.1.0"

/-- The options in short. -/
def usageLines : List String :=
  ["usage: arbgen [-h] [-a ARB_DIR] [-d DART_OUT] [-t TS_OUT] [-f FALLBACK_LOCALE]",
    "              [--default-locale DEFAULT_LOCALE] [-c CONFIG] [--check] [-v]",
    "              [--version]"]

/-- What the options do. -/
def helpLines : List String :=
  usageLines ++
    ["",
     "Generate localisation files from .arb bundles, one for Dart and one for",
     "TypeScript.",
     "",
     "options:",
     "  -h, --help            show this help message and exit",
     "  -a ARB_DIR, --arbs ARB_DIR",
     "                        Source directory for .arb files (default: lib/l10n)",
     "  -d DART_OUT, --dart-out DART_OUT",
     "                        Output Dart file (default: lib/generated/l10n.g.dart)",
     "  -t TS_OUT, --ts-out TS_OUT",
     "                        Output TypeScript file (default:",
     "                        web/generated/l10n.ts)",
     "  -f FALLBACK_LOCALE, --fallback-language FALLBACK_LOCALE",
     "                        Locale whose value fills keys missing from other",
     "                        locales (e.g. 'en'); without it every bundle must",
     "                        define every key",
     "  --default-locale DEFAULT_LOCALE",
     "                        Locale the generated code falls back to at runtime",
     "                        (default: en)",
     "  -c CONFIG, --config CONFIG",
     "                        YAML file providing any of the options above",
     "  --check               Exit with an error if the generated files are out of",
     "                        date instead of writing them",
     "  -v, --verbose         Log progress details",
     "  --version             show program's version number and exit"]

end Phrasebook.CommandLine
