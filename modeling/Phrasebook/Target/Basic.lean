import Phrasebook.Target.Identifier

/-!
# Targets

The languages that accessors are generated for: the words an accessor may not be named by, and how a
text is written as a string literal.

## Contents
- `Target`: the languages, and `ofName?`
- `Target.reserved`: the reserved words and the members of the generated class
- `Target.escapeChar`, `Target.escape`, `Target.quote`: string literals
- `Target.member`, `Target.parameter`: the identifiers of keys and placeholders
-/

namespace Phrasebook

/-- A language that accessors are generated for. -/
inductive Target where
  | dart
  | typeScript
  deriving DecidableEq, Repr

namespace Target

/-- The target of a name. -/
def ofName? : String → Option Target
  | "dart" => some dart
  | "typescript" => some typeScript
  | _ => none

/-! ## Reserved words -/

/-- The keywords of Dart. -/
def dartKeywords : List String :=
  ["abstract", "as", "assert", "async", "await", "base", "break", "case", "catch", "class",
    "const", "continue", "covariant", "default", "deferred", "do", "dynamic", "else", "enum",
    "export", "extends", "extension", "external", "factory", "false", "final", "finally", "for",
    "Function", "get", "hide", "if", "implements", "import", "in", "interface", "is", "late",
    "library", "mixin", "new", "null", "on", "operator", "part", "required", "rethrow", "return",
    "sealed", "set", "show", "static", "super", "switch", "sync", "this", "throw", "true", "try",
    "typedef", "var", "void", "when", "while", "with", "yield"]

/-- The members of the generated Dart class, those of every object, and the names of the library that
the class body uses. -/
def dartMembers : List String :=
  ["L10n", "_strings", "defaultLocale", "hashCode", "interpolate", "locale", "noSuchMethod",
    "resolveLocale", "runtimeType", "supportedLocales", "t", "toString"]

/-- The keywords of TypeScript. -/
def typeScriptKeywords : List String :=
  ["arguments", "await", "break", "case", "catch", "class", "const", "continue", "debugger",
    "default", "delete", "do", "else", "enum", "eval", "export", "extends", "false", "finally",
    "for", "function", "if", "implements", "import", "in", "instanceof", "interface", "let",
    "new", "null", "package", "private", "protected", "public", "return", "static", "super",
    "switch", "this", "throw", "true", "try", "typeof", "var", "void", "while", "with", "yield"]

/-- The members of the generated TypeScript class. -/
def typeScriptMembers : List String := ["constructor", "locale"]

/-- The functions of the generated TypeScript module that the body of an accessor calls. -/
def typeScriptHelpers : List String := ["t"]

/-- The names that no member may have. -/
def reserved : Target → List String
  | dart => dartKeywords ++ dartMembers
  | typeScript => typeScriptKeywords ++ typeScriptMembers

/-- The names that no parameter may have. -/
def reservedParameters : Target → List String
  | dart => dart.reserved
  | typeScript => typeScript.reserved ++ typeScriptHelpers

/-! ## String literals -/

/-- How a character is written between apostrophes. -/
def escapeChar (target : Target) (c : Char) : List Char :=
  match c with
  | '\\' => ['\\', '\\']
  | '\'' => ['\\', '\'']
  | '\n' => ['\\', 'n']
  | '\r' => ['\\', 'r']
  | '\t' => ['\\', 't']
  | c =>
    match target with
    | dart => if c = '$' then ['\\', '$'] else [c]
    | typeScript =>
      if c = '\u2028' then "\\u2028".toList
      else if c = '\u2029' then "\\u2029".toList
      else [c]

/-- Characters as they are written between apostrophes. -/
def escapeChars (target : Target) (cs : List Char) : List Char := cs.flatMap target.escapeChar

/-- The characters of a string literal. -/
def quoteChars (target : Target) (cs : List Char) : List Char :=
  '\'' :: (target.escapeChars cs ++ ['\''])

/-- A text as it is written between apostrophes. -/
def escape (target : Target) (s : String) : String := String.ofList (target.escapeChars s.toList)

/-- A text as a string literal. -/
def quote (target : Target) (s : String) : String := String.ofList (target.quoteChars s.toList)

/-! ## Identifiers -/

/-- The member that a key asks for. -/
def member (target : Target) (key : String) : String :=
  Identifier.sanitize target.reserved Identifier.safePrefix key

/-- The parameter that a placeholder asks for. A named parameter of Dart may not start with an
underscore. -/
def parameter (target : Target) (name : String) : String :=
  let identifier := Identifier.sanitize target.reservedParameters Identifier.safePrefix name
  match target with
  | dart => if identifier.toList.head? = some '_' then "p" ++ identifier else identifier
  | typeScript => identifier

end Target

end Phrasebook
