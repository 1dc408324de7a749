import Phrasebook.Target.Plan
import Phrasebook.Target.Source

/-!
# The TypeScript module

The locales and the keys as types, a table of all texts, functions that pick a locale and fill a
template, and a class with a getter for every key without parameters and a method for every other key.

## Contents
- `TypeScript.unionLines`: the type of the keys
- `TypeScript.tableLines`: the table
- `TypeScript.accessorLines`: the member for one key
- `TypeScript.lines`: the whole file
-/

namespace Phrasebook.TypeScript

open Source

/-- The locales as elements of a list. -/
def localeList (locales : List String) : List Piece :=
  listed ", " (locales.map fun locale => [.literal locale])

/-- The lines up to the type of the keys. -/
def headLines (locales : List String) (defaultLocale : String) : List Line :=
  [[.code "// GENERATED - do not edit."],
   [.code "/* eslint-disable */"],
   [.code ""],
   .code "export const locales = [" :: localeList locales ++ [.code "] as const;"],
   [.code ""],
   [.code "export type Locale = (typeof locales)[number];"],
   [.code ""],
   [.code "export const defaultLocale = ", .literal defaultLocale, .code ";"],
   [.code ""]]

/-- The type of the keys. -/
def unionLines : List String → List Line
  | [] => [[.code "export type MessageKey = never;"]]
  | [key] => [[.code "export type MessageKey = ", .literal key, .code ";"]]
  | keys =>
    [.code "export type MessageKey ="] :: keys.map (fun key => [.code "  | ", .literal key]) ++
      [[.code ";"]]

/-- The row of the table for one locale. -/
def rowLine (row : String × String) : Line :=
  [.code "    ", .literal row.1, .code ": ", .literal row.2, .code ","]

/-- The rows of the table for one key. -/
def keyLines (a : Accessor) : List Line :=
  [.code "  ", .literal a.key, .code ": \x7b"] :: a.rows.map rowLine ++ [[.code "  \x7d,"]]

/-- The table of all texts. -/
def tableLines (accessors : List Accessor) : List Line :=
  [.code "const strings: Record<string, Record<string, string>> = \x7b"] ::
    accessors.flatMap keyLines ++ [[.code "\x7d;"], [.code ""]]

/-- The functions, and the class up to its accessors. -/
def helperLines : List Line :=
  codeLines
    ["const placeholderPattern = /\\\x7b([a-zA-Z_][a-zA-Z0-9_]*)\\\x7d/g;",
     "",
     "export function resolveLocale(locale: string): string \x7b",
     "  return (locales as readonly string[]).includes(locale) ? locale : defaultLocale;",
     "\x7d",
     "",
     "export function interpolate(s: string, params: Record<string, unknown> = \x7b\x7d): string \x7b",
     "  return s.replace(placeholderPattern, (_match: string, name: string) => \x7b",
     "    const value = params[name];",
     "    return value === undefined || value === null ? '' : String(value);",
     "  \x7d);",
     "\x7d",
     "",
     "export function t(locale: string, key: string, params: Record<string, unknown> = \x7b\x7d): " ++
       "string \x7b",
     "  const entry = strings[key];",
     "  const s = (entry && entry[resolveLocale(locale)]) ?? key;",
     "  return interpolate(s, params);",
     "\x7d",
     "",
     "export class L10n \x7b",
     "  readonly locale: string;",
     "",
     "  constructor(locale: string = defaultLocale) \x7b",
     "    this.locale = resolveLocale(locale);",
     "  \x7d"]

/-- How a parameter is bound: by its identifier alone where that is the placeholder's name. -/
def binding (p : Parameter) : List Piece :=
  if p.identifier = p.name then [.code p.identifier]
  else [.literal p.name, .code (": " ++ p.identifier)]

/-- The member for one key. -/
def accessorLines (a : Accessor) : List Line :=
  [.code ""] ::
    if a.parameters.isEmpty then
      [[.code ("  get " ++ a.member ++ "(): string \x7b")],
       [.code "    return t(this.locale, ", .literal a.key, .code ");"],
       [.code "  \x7d"]]
    else
      let bindings := listed ", " (a.parameters.map binding)
      let types := listed "; " (a.parameters.map fun p => [.literal p.name, .code ": unknown"])
      [.code ("  " ++ a.member ++ "(\x7b ") :: bindings ++ .code " \x7d: \x7b " :: types ++
          [.code " \x7d): string \x7b"],
       .code "    return t(this.locale, " :: .literal a.key :: .code ", \x7b " :: bindings ++
          [.code " \x7d);"],
       [.code "  \x7d"]]

/-- The whole file. -/
def lines (locales : List String) (defaultLocale : String) (accessors : List Accessor) : List Line :=
  headLines locales defaultLocale ++ unionLines (accessors.map Accessor.key) ++ [[.code ""]] ++
    tableLines accessors ++ helperLines ++ accessors.flatMap accessorLines ++ [[.code "\x7d"]]

end Phrasebook.TypeScript
