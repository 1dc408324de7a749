import Phrasebook.Proofs.Token

/-!
# A reader of generated files

A reader for the files of each target. It cuts the text into lines, the lines into blocks at the empty
ones, and looks for words and literals only. The blocks stand at fixed places from the front, up to the
table of all texts, and there is one for each entry of the table at the end; whatever stands between
is passed over. Its parts, for the table and for the members, read back what is written.

## Contents
- `Contents`: what a file says
- `Target.blocks`: a file as blocks of lines of tokens
- `readTable`, `readBindings`, `Dart.readMember`, `TypeScript.readMember`: the parts
- `Target.read`: the reader
- `readTable_keyLines`, `Dart.readMember_block`, `TypeScript.readMember_block`: reading the parts back
-/

namespace Phrasebook

/-- What a generated file says. -/
structure Contents where
  /-- The locales. -/
  locales : List String
  /-- The locale to fall back to. -/
  defaultLocale : String
  /-- The keys by their type, where there is one. -/
  keyType : Option (List String)
  /-- The accessors. -/
  accessors : List Accessor
  deriving DecidableEq, Repr

/-! ## The reader -/

/-- The blocks of a file between its empty lines, without the line that ends the class and what
follows it. -/
def Target.blocks (target : Target) (file : String) : List (List (List Token)) :=
  ((target.codeLines file).dropLast.dropLast.splitOnP List.isEmpty).map (List.map target.tokens)

/-- The texts of a block of lines. -/
def blockTexts (block : List (List Token)) : List String := block.flatMap Token.literals

/-- The rows at the front of a table, each two texts in a line. -/
def readRows : List (List String) → List (String × String)
  | [locale, text] :: rest => (locale, text) :: readRows rest
  | _ => []

/-- The keys of a table, each alone in its line, with the rows that follow them. -/
def readTable : List (List String) → List (String × List (String × String))
  | [] => []
  | [key] :: rest => (key, readRows rest) :: readTable rest
  | _ :: rest => readTable rest

/-- Parameters by their bindings: a placeholder and an identifier, or one name for both. -/
def readBindings : List Token → List Parameter
  | .literal name :: .word cs :: rest => ⟨name, String.ofList cs⟩ :: readBindings rest
  | .word cs :: rest => ⟨String.ofList cs, String.ofList cs⟩ :: readBindings rest
  | _ => []

/-- A member of the Dart class and its parameters: a getter has one line, a method two. -/
def Dart.readMember : List (List Token) → String × List Parameter
  | [[.word _, .word _, .word cs, .word _, .literal _]] => (String.ofList cs, [])
  | [.word _ :: .word cs :: _, .word _ :: .literal _ :: bindings] =>
    (String.ofList cs, readBindings bindings)
  | _ => ("", [])

/-- A member of the TypeScript class and its parameters: a getter binds none, and its name follows a
word. -/
def TypeScript.readMember : List (List Token) → String × List Parameter
  | [head, .word _ :: .word _ :: .word _ :: .word _ :: .literal _ :: bindings, _] =>
    match bindings, head with
    | [], _ :: .word cs :: _ => (String.ofList cs, [])
    | _ :: _, .word cs :: _ => (String.ofList cs, readBindings bindings)
    | _, _ => ("", [])
  | _ => ("", [])

/-- The accessors of a table and of the last blocks of a file, one for each key of the table. -/
def readAccessors (readMember : List (List Token) → String × List Parameter)
    (table : List (List Token)) (blocks : List (List (List Token))) : List Accessor :=
  let entries := readTable (table.map Token.literals)
  let members := (blocks.drop (blocks.length - entries.length)).map fun block =>
    readMember (block.map Token.names)
  List.zipWith (fun entry member => ⟨entry.1, member.1, member.2, entry.2⟩) entries members

/-- What a Dart library says. -/
def Dart.read (file : String) : Contents :=
  match Target.dart.blocks file with
  | _ :: locales :: fallback :: table :: rest =>
    ⟨blockTexts locales, (blockTexts fallback).headD "", none, readAccessors readMember table rest⟩
  | _ => ⟨[], "", none, []⟩

/-- What a TypeScript module says. -/
def TypeScript.read (file : String) : Contents :=
  match Target.typeScript.blocks file with
  | _ :: locales :: _ :: fallback :: keys :: table :: rest =>
    ⟨blockTexts locales, (blockTexts fallback).headD "", some (blockTexts keys),
      readAccessors readMember table rest⟩
  | _ => ⟨[], "", none, []⟩

/-- **The reader of a target**, of the text of a file alone. -/
def Target.read : Target → String → Contents
  | dart => Dart.read
  | typeScript => TypeScript.read

/-! ## The table -/

theorem readRows_rows (rows : List (String × String)) (rest : List (List String)) :
    readRows (rows.map (fun row => [row.1, row.2]) ++ [] :: rest) = rows := by
  induction rows with
  | nil => rfl
  | cons row rows ih =>
    rw [List.map_cons, List.cons_append, readRows, ih]

theorem readTable_rows (rows : List (String × String)) (rest : List (List String)) :
    readTable (rows.map (fun row => [row.1, row.2]) ++ rest) = readTable rest := by
  induction rows with
  | nil => rfl
  | cons row rows ih =>
    rw [List.map_cons, List.cons_append, ← ih]
    rfl

/-- The texts in the lines of a key. -/
theorem texts_keyLines (a : Accessor) :
    (Dart.keyLines a).map (List.filterMap Source.Piece.text?) =
      [a.key] :: a.rows.map (fun row => [row.1, row.2]) ++ [[]] := by
  unfold Dart.keyLines
  rw [List.cons_append, List.map_cons, List.map_append, List.map_map]
  rfl

/-- **The table reads back**, whatever else its first and last lines hold but texts. -/
theorem readTable_keyLines (accessors : List Accessor) :
    readTable ((accessors.flatMap Dart.keyLines).map (List.filterMap Source.Piece.text?) ++ [[]]) =
      accessors.map fun a => (a.key, a.rows) := by
  induction accessors with
  | nil => rfl
  | cons a rest ih =>
    -- the key, its rows up to the line without texts, then the rest of the table
    rw [List.flatMap_cons, List.map_append, texts_keyLines, List.append_assoc, List.cons_append,
      List.cons_append, readTable, List.append_assoc, List.singleton_append, readRows_rows,
      readTable_rows, List.map_cons, ← ih]
    rfl

/-! ## Members -/

section Members

open Source Token

variable {a : Accessor}

/-- The lines of the member for one key, without the empty line in front of them. -/
def memberBlock (accessorLines : Accessor → List Line) (a : Accessor) : List Line :=
  (accessorLines a).tail

/-- How the Dart class binds a parameter. -/
def Dart.bindingNames (p : Parameter) : List Token := [.literal p.name, .word p.identifier.toList]

theorem Dart.names_binding {p : Parameter} (h : Identifier.IsIdentifier p.identifier) {ts : List Token}
    (hts : Breaks ts) :
    names (addLine [.literal p.name, .code (": " ++ p.identifier)] ts) = bindingNames p ++ names ts := by
  show names (.literal p.name :: (Piece.code (": " ++ p.identifier)).addTokens ts) = _
  rw [addTokens_after h ": " hts]
  rfl

theorem Dart.readBindings_names (ps : List Parameter) :
    readBindings (ps.flatMap bindingNames) = ps := by
  induction ps with
  | nil => rfl
  | cons p ps ih =>
    rw [List.flatMap_cons, bindingNames, List.cons_append, List.cons_append, List.nil_append,
      readBindings, ih, String.ofList_toList]

/-- The separator between bindings is no part of any name. -/
theorem names_comma (ts : List Token) :
    Breaks ((Piece.code ", ").addTokens ts) ∧ names ((Piece.code ", ").addTokens ts) = names ts :=
  ⟨breaks_mark ',' _, rfl⟩

theorem Dart.names_getter (h : a.IsNamed) :
    names (lineTokens [.code ("  String get " ++ a.member ++ " => t("), .literal a.key, .code ");"]) =
      [.word "String".toList, .word "get".toList, .word a.member.toList, .word "t".toList,
        .literal a.key] := by
  have hname := addTokens_between h.member "  String get " " => t("
    (.literal a.key :: (Piece.code ");").addTokens []) (breaks_mark ' ' _)
  show names ((Piece.code ("  String get " ++ a.member ++ " => t(")).addTokens
    (.literal a.key :: (Piece.code ");").addTokens [])) = _
  rw [hname]
  rfl

theorem Dart.names_methodHead (h : a.IsNamed) (rest : Line) :
    names (lineTokens (.code ("  String " ++ a.member ++ "(\x7b") :: rest)) =
      .word "String".toList :: .word a.member.toList :: names (lineTokens rest) := by
  have hname := addTokens_between h.member "  String " "(\x7b" (lineTokens rest) (breaks_mark '(' _)
  show names ((Piece.code ("  String " ++ a.member ++ "(\x7b")).addTokens (lineTokens rest)) = _
  rw [hname]
  rfl

theorem Dart.names_methodBody (h : a.IsNamed) :
    names (lineTokens (.code "      t(" :: .literal a.key :: .code ", \x7b" ::
        listed ", " (a.parameters.map fun p => [.literal p.name, .code (": " ++ p.identifier)]) ++
          [.code "\x7d);"])) =
      .word "t".toList :: .literal a.key :: a.parameters.flatMap bindingNames := by
  have hend : Breaks ((Piece.code "\x7d);").addTokens []) := breaks_mark '\x7d' _
  have hbindings := names_listed names_comma hend fun p hp ts => names_binding (h.parameter p hp)
  rw [lineTokens_concat]
  show .word "t".toList :: .literal a.key :: names (addLine (listed ", " _) _) = _
  rw [hbindings]
  show .word "t".toList :: .literal a.key :: (a.parameters.flatMap bindingNames ++ []) = _
  rw [List.append_nil]

/-- **A member of the Dart class reads back.** -/
theorem Dart.readMember_block (h : a.IsNamed) :
    readMember ((memberBlock accessorLines a).map (names ∘ lineTokens)) =
      (a.member, a.parameters) := by
  unfold memberBlock accessorLines
  split
  · rename_i hempty
    rw [List.tail_cons, List.map_singleton, Function.comp_apply, names_getter h, readMember,
      String.ofList_toList, List.isEmpty_iff.mp hempty]
  · rw [List.tail_cons, List.map_cons, List.map_singleton, Function.comp_apply, Function.comp_apply,
      List.cons_append, names_methodHead h, names_methodBody h, readMember, readBindings_names,
      String.ofList_toList]

/-- How the TypeScript class binds a parameter. -/
def TypeScript.bindingNames (p : Parameter) : List Token :=
  if p.identifier = p.name then [.word p.identifier.toList]
  else [.literal p.name, .word p.identifier.toList]

theorem TypeScript.names_binding {p : Parameter} (h : Identifier.IsIdentifier p.identifier)
    {ts : List Token} (hts : Breaks ts) :
    names (addLine (binding p) ts) = bindingNames p ++ names ts := by
  unfold binding bindingNames
  split
  · show names ((Piece.code p.identifier).addTokens ts) = _
    rw [addTokens_identifier h hts]
    rfl
  · exact Dart.names_binding h hts

/-- A name without a literal stands for itself. -/
theorem TypeScript.readBindings_names (ps : List Parameter) :
    readBindings (ps.flatMap bindingNames) = ps := by
  induction ps with
  | nil => rfl
  | cons p ps ih =>
    obtain ⟨name, identifier⟩ := p
    rw [List.flatMap_cons, bindingNames]
    split
    · rename_i heq
      have hname : identifier = name := heq
      rw [List.singleton_append, readBindings, ih, String.ofList_toList, hname]
    · rw [List.cons_append, List.singleton_append, readBindings, ih, String.ofList_toList]

theorem TypeScript.names_getterHead (h : a.IsNamed) :
    names (lineTokens [.code ("  get " ++ a.member ++ "(): string \x7b")]) =
      [.word "get".toList, .word a.member.toList, .word "string".toList] := by
  have hname := addTokens_between h.member "  get " "(): string \x7b" [] (breaks_mark '(' _)
  show names ((Piece.code ("  get " ++ a.member ++ "(): string \x7b")).addTokens []) = _
  rw [hname]
  rfl

theorem TypeScript.names_methodHead (h : a.IsNamed) (rest : Line) :
    names (lineTokens (.code ("  " ++ a.member ++ "(\x7b ") :: rest)) =
      .word a.member.toList :: names (lineTokens rest) := by
  have hname := addTokens_between h.member "  " "(\x7b " (lineTokens rest) (breaks_mark '(' _)
  show names ((Piece.code ("  " ++ a.member ++ "(\x7b ")).addTokens (lineTokens rest)) = _
  rw [hname]
  rfl

/-- The words in front of the key in the body of a member. -/
def TypeScript.callNames (key : String) : List Token :=
  [.word "return".toList, .word "t".toList, .word "this".toList, .word "locale".toList, .literal key]

theorem TypeScript.names_methodBody (h : a.IsNamed) :
    names (lineTokens (.code "    return t(this.locale, " :: .literal a.key :: .code ", \x7b " ::
        listed ", " (a.parameters.map binding) ++ [.code " \x7d);"])) =
      callNames a.key ++ a.parameters.flatMap bindingNames := by
  have hend : Breaks ((Piece.code " \x7d);").addTokens []) := breaks_mark ' ' _
  have hbindings := names_listed names_comma hend fun p hp ts => names_binding (h.parameter p hp)
  rw [lineTokens_concat]
  show callNames a.key ++ names (addLine (listed ", " _) _) = _
  rw [hbindings]
  show callNames a.key ++ (a.parameters.flatMap bindingNames ++ []) = _
  rw [List.append_nil]

/-- **A member of the TypeScript class reads back.** -/
theorem TypeScript.readMember_block (h : a.IsNamed) :
    readMember ((memberBlock accessorLines a).map (names ∘ lineTokens)) =
      (a.member, a.parameters) := by
  dsimp only [memberBlock, accessorLines]
  split
  · rename_i hempty
    rw [List.tail_cons, List.map_cons, Function.comp_apply, names_getterHead h,
      List.isEmpty_iff.mp hempty]
    show (String.ofList a.member.toList, []) = _
    rw [String.ofList_toList]
  · rename_i hempty
    rw [List.tail_cons, List.map_cons, List.map_cons, Function.comp_apply, Function.comp_apply,
      List.cons_append, List.cons_append, names_methodHead h, names_methodBody h]
    have hread := readBindings_names a.parameters
    cases hbindings : a.parameters.flatMap bindingNames with
    | nil =>
      -- no bindings would be those of a getter
      rw [hbindings] at hread
      exact absurd (List.isEmpty_iff.mpr hread.symm) hempty
    | cons t ts =>
      rw [hbindings] at hread
      show (String.ofList a.member.toList, readBindings (t :: ts)) = _
      rw [hread, String.ofList_toList]

end Members

end Phrasebook
