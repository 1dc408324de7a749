import Phrasebook.Settings.Basic
import Phrasebook.Text.Digit

/-!
# Options of the command line

The options and their names, and how an argument is classed by its looks alone.

## Contents
- `Flag`, `Valued`, `Opt`: the options
- `Opt.ofString?`: the option of a name
- `Arg`, `Arg.classify`: the classes of arguments
-/

namespace Phrasebook.CommandLine

/-- An option without a value. -/
inductive Flag where
  | help
  | version
  | check
  | verbose
  deriving DecidableEq, Repr

/-- An option with a value. -/
inductive Valued where
  /-- The value of a setting. -/
  | setting (setting : Setting)
  /-- The settings file. -/
  | config
  deriving DecidableEq, Repr

/-- An option. -/
inductive Opt where
  | flag (flag : Flag)
  | valued (valued : Valued)
  deriving DecidableEq, Repr

namespace Opt

/-- All options, each with its names. -/
def table : List (Opt × List String) :=
  [(flag .help, ["-h", "--help"]),
    (valued (.setting .bundleDir), ["-a", "--arbs"]),
    (valued (.setting .dartOut), ["-d", "--dart-out"]),
    (valued (.setting .typeScriptOut), ["-t", "--ts-out"]),
    (valued (.setting .fallback), ["-f", "--fallback-language"]),
    (valued (.setting .defaultLocale), ["--default-locale"]),
    (valued .config, ["-c", "--config"]),
    (flag .check, ["--check"]),
    (flag .verbose, ["-v", "--verbose"]),
    (flag .version, ["--version"])]

/-- The names of an option. -/
def names (o : Opt) : List String := (table.lookup o).getD []

/-- The option of a name. -/
def ofString? (s : String) : Option Opt := (table.find? fun p => p.2.contains s).map Prod.fst

end Opt

/-- An argument by its looks. -/
inductive Arg where
  /-- An argument that is no option. -/
  | positional (text : String)
  /-- The mark after which no argument is an option. -/
  | marker
  /-- An option, whether its name is short, and the text joined to the name, if there is one. -/
  | option (option : Opt) (isShort : Bool) (joined : Option String)
  /-- An argument that looks like an option and is none. -/
  | unknown (text : String)
  deriving DecidableEq, Repr

namespace Arg

/-- The digits after a minus sign and what may follow them: nothing, or a point and digits. A line break
at the very end does not count. -/
def isNegativeNumber (cs : List Char) : Bool :=
  match cs with
  | '-' :: rest =>
    let rest := if rest.getLast? = some '\n' then rest.dropLast else rest
    match rest.dropWhile Text.isDecimalDigit with
    | [] => !rest.isEmpty
    | '.' :: decimals => !decimals.isEmpty && decimals.all Text.isDecimalDigit
    | _ => false
  | _ => false

/-- The class of an argument with the form of an option that is not the name of one. -/
def classifyJoined (s : String) : Arg :=
  let cs := s.toList
  let front := cs.takeWhile (· ≠ '=')
  let afterSign := (cs.dropWhile (· ≠ '=')).drop 1
  let assigned := if cs.contains '=' then Opt.ofString? (String.ofList front) else none
  match assigned with
  | some o => .option o (front.length = 2) (some (String.ofList afterSign))
  | none =>
    let short := if cs.take 2 = ['-', '-'] then none else Opt.ofString? (String.ofList (cs.take 2))
    match short with
    | some o => .option o true (some (String.ofList (cs.drop 2)))
    | none =>
      if isNegativeNumber cs || cs.contains ' ' then .positional s else .unknown s

/-- The class of an argument before the mark. -/
def classify (s : String) : Arg :=
  if s.toList.head? ≠ some '-' then .positional s
  else
    match Opt.ofString? s with
    | some o => .option o (s.length = 2) none
    | none => if s = "-" then .positional s else classifyJoined s

/-- The classes of all arguments; after the mark none is an option. -/
def classifyAll : List String → List Arg
  | [] => []
  | s :: rest =>
    if s = "--" then .marker :: rest.map .positional else classify s :: classifyAll rest

end Arg

end Phrasebook.CommandLine
