import Phrasebook.CommandLine.Option
import Phrasebook.Text.Quoted

/-!
# Arguments of the command line

The arguments are read from left to right. Options without a value may be joined to each other and to
one with a value; what is neither an option nor the value of one is collected.

## Contents
- `Given`: what an option with a value was given
- `Misuse`: how an option can be misused, and its wording
- `Arguments`: what the arguments ask for
- `Reading`, `Arguments.read`: reading them
-/

namespace Phrasebook.CommandLine

/-- What an option with a value was given. -/
inductive Given where
  | text (s : String)
  /-- The mark that ends options was joined to the name; it is dropped and nothing is left. -/
  | nothing
  deriving DecidableEq, Repr

/-- What a joined or following text gives an option. -/
def Given.ofText (s : String) : Given := if s = "--" then nothing else text s

/-- How an option is misused. -/
inductive Misuse where
  /-- An option with a value has none. -/
  | noValue (option : Opt)
  /-- A text is joined to an option without a value. -/
  | unexpectedValue (option : Opt) (text : String)
  deriving DecidableEq, Repr

/-- The wording of a misuse. -/
def Misuse.message : Misuse → String
  | noValue o => "argument " ++ "/".intercalate o.names ++ ": expected one argument"
  | unexpectedValue o s =>
    "argument " ++ "/".intercalate o.names ++ ": ignored explicit argument " ++ Text.quoted s

/-- What the arguments ask for. -/
structure Arguments where
  /-- What the settings were given; the last one given counts. -/
  settings : List (Setting × Given) := []
  /-- The settings file. -/
  config : Option Given := none
  /-- Whether the outputs are only compared. -/
  check : Bool := false
  /-- Whether progress is reported. -/
  verbose : Bool := false
  /-- The arguments that have no meaning, in order. -/
  unknown : List String := []
  deriving DecidableEq, Repr

/-- What reading the arguments comes to. -/
inductive Reading where
  /-- All arguments were read. -/
  | arguments (arguments : Arguments)
  /-- The help was asked for. -/
  | help
  /-- The version was asked for. -/
  | version
  /-- An option is misused. -/
  | misuse (misuse : Misuse)
  deriving DecidableEq, Repr

namespace Arguments

/-- Collects an argument that has no meaning. -/
def collect (a : Arguments) (s : String) : Arguments := { a with unknown := a.unknown ++ [s] }

/-- Gives an option its value, in place of an earlier one. -/
def give (a : Arguments) (o : Valued) (given : Given) : Arguments :=
  match o with
  | .setting setting => { a with settings := (setting, given) :: a.settings }
  | .config => { a with config := some given }

/-- Raises flags in order, up to one that is answered at once. -/
def raise (a : Arguments) : List Flag → Except Reading Arguments
  | [] => .ok a
  | .help :: _ => .error .help
  | .version :: _ => .error .version
  | .check :: rest => raise { a with check := true } rest
  | .verbose :: rest => raise { a with verbose := true } rest

/-- The option at the end of a chain of joined options. -/
inductive Last where
  /-- The chain ends with a flag. -/
  | flag
  /-- The chain ends with an option whose value is joined to it. -/
  | joined (option : Valued) (text : String)
  /-- The chain ends with an option whose value is the next argument. -/
  | open (option : Valued)

/-- Takes joined options apart: the flags, and what is at the end. -/
def unchain (o : Opt) (isShort : Bool) : List Char → Except Misuse (List Flag × Last)
  | [] =>
    match o with
    | .valued v => .ok ([], .joined v "")
    | .flag _ => .error (.unexpectedValue o "")
  | c :: cs =>
    match o with
    | .valued v => .ok ([], .joined v (String.ofList (c :: cs)))
    | .flag f =>
      match if isShort then Opt.ofString? (String.ofList ['-', c]) else none with
      | none => .error (.unexpectedValue o (String.ofList (c :: cs)))
      | some next =>
        if cs.isEmpty then
          match next with
          | .flag f' => .ok ([f, f'], .flag)
          | .valued v => .ok ([f], .open v)
        else (unchain next true cs).map fun (flags, last) => (f :: flags, last)

/-- The parts of an option as it is written. -/
def parts (o : Opt) (isShort : Bool) : Option String → Except Misuse (List Flag × Last)
  | some joined => unchain o isShort joined.toList
  | none =>
    match o with
    | .flag f => .ok ([f], .flag)
    | .valued v => .ok ([], .open v)

/-- Reads classed arguments on top of those read before. -/
def readArgs (a : Arguments) : List Arg → Reading
  | [] => .arguments a
  | .positional s :: rest => (a.collect s).readArgs rest
  | .marker :: rest => (a.collect "--").readArgs rest
  | .unknown s :: rest => (a.collect s).readArgs rest
  | .option o isShort joined :: rest =>
    match parts o isShort joined with
    | .error misuse => .misuse misuse
    | .ok (flags, .flag) =>
      match a.raise flags with
      | .error reading => reading
      | .ok a => a.readArgs rest
    | .ok (flags, .joined v s) =>
      match a.raise flags with
      | .error reading => reading
      | .ok a => (a.give v (.ofText s)).readArgs rest
    | .ok (flags, .open v) =>
      match rest with
      | .positional s :: rest =>
        match a.raise flags with
        | .error reading => reading
        | .ok a => (a.give v (.ofText s)).readArgs rest
      | _ => .misuse (.noValue (.valued v))

/-- Reads the arguments of a command line. -/
def read (argv : List String) : Reading := readArgs {} (Arg.classifyAll argv)

end Arguments

end Phrasebook.CommandLine
