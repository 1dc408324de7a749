import Phrasebook.Target.Plan
import Phrasebook.Target.Source

/-!
# The Dart library

A constant table of all texts, functions that pick a locale and fill a template, and a class with a
getter for every key without parameters and a method for every other key.

## Contents
- `Dart.tableLines`: the table
- `Dart.accessorLines`: the member for one key
- `Dart.lines`: the whole file
-/

namespace Phrasebook.Dart

open Source

/-- The locales as elements of a list. -/
def localeList (locales : List String) : List Piece :=
  listed ", " (locales.map fun locale => [.literal locale])

/-- The lines up to the table. -/
def headLines (locales : List String) (defaultLocale : String) : List Line :=
  [[.code "// GENERATED - do not edit."],
   [.code "// ignore_for_file: type=lint"],
   [.code ""],
   .code "const supportedLocales = <String>[" :: localeList locales ++ [.code "];"],
   [.code ""],
   [.code "const defaultLocale = ", .literal defaultLocale, .code ";"],
   [.code ""]]

/-- The row of the table for one locale. -/
def rowLine (row : String × String) : Line :=
  [.code "    ", .literal row.1, .code ": ", .literal row.2, .code ","]

/-- The rows of the table for one key. -/
def keyLines (a : Accessor) : List Line :=
  [.code "  ", .literal a.key, .code ": \x7b"] :: a.rows.map rowLine ++ [[.code "  \x7d,"]]

/-- The table of all texts. -/
def tableLines (accessors : List Accessor) : List Line :=
  [.code "const _strings = <String, Map<String, String>>\x7b"] :: accessors.flatMap keyLines ++
    [[.code "\x7d;"], [.code ""]]

/-- The functions, and the class up to its accessors. -/
def helperLines : List Line :=
  codeLines
    ["final _placeholderPattern = RegExp(r'\\\x7b([a-zA-Z_][a-zA-Z0-9_]*)\\\x7d');",
     "",
     "String resolveLocale(String locale) =>",
     "    supportedLocales.contains(locale) ? locale : defaultLocale;",
     "",
     "String interpolate(String s, Map<String, Object?> params) =>",
     "    s.replaceAllMapped(_placeholderPattern, (m) => '$\x7bparams[m[1]] ?? ''\x7d');",
     "",
     "class L10n \x7b",
     "  final String locale;",
     "",
     "  L10n([String locale = defaultLocale]) : locale = resolveLocale(locale);",
     "",
     "  String t(String key, [Map<String, Object?> params = const \x7b\x7d]) \x7b",
     "    final s = _strings[key]?[locale] ?? key;",
     "    return interpolate(s, params);",
     "  \x7d"]

/-- The member for one key. -/
def accessorLines (a : Accessor) : List Line :=
  [.code ""] ::
    if a.parameters.isEmpty then
      [[.code ("  String get " ++ a.member ++ " => t("), .literal a.key, .code ");"]]
    else
      [.code ("  String " ++ a.member ++ "(\x7b") ::
          listed ", " (a.parameters.map fun p => [.code ("required Object? " ++ p.identifier)]) ++
          [.code "\x7d) =>"],
       .code "      t(" :: .literal a.key :: .code ", \x7b" ::
          listed ", " (a.parameters.map fun p => [.literal p.name, .code (": " ++ p.identifier)]) ++
          [.code "\x7d);"]]

/-- The whole file. -/
def lines (locales : List String) (defaultLocale : String) (accessors : List Accessor) : List Line :=
  headLines locales defaultLocale ++ tableLines accessors ++ helperLines ++
    accessors.flatMap accessorLines ++ [[.code "\x7d"]]

end Phrasebook.Dart
