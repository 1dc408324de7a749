import Phrasebook.Proofs.Reader

/-!
# Reading a generated file back

The reader of a target returns what a file was written from. The lines of a file fall into blocks, as
no line of a block is empty; the head of the file, the table and each member are blocks of their own,
and the parts of the reader take them from there. So a text is the file of one plan only.

## Contents
- `IsBlock`, `lineBlocks_block`, `lineBlocks_members`: the blocks of lines
- `Dart.blocks_lines`, `TypeScript.blocks_lines`: the blocks of a file
- `Dart.read_lines`, `TypeScript.read_lines`: reading what is written
- `Target.read_emit`: a file determines the locales and all accessors
-/

namespace Phrasebook

/-! ## Blocks -/

section Blocks

open Source

variable {target : Target}

/-- A line is not empty when its first piece is not. -/
theorem lineBody_ne_nil {s : String} (hs : s ≠ "") (rest : Line) :
    lineBody target (.code s :: rest) ≠ [] := by
  intro h
  rw [lineBody_cons, List.append_eq_nil_iff] at h
  exact hs (String.toList_eq_nil_iff.mp h.1)

/-- Lines that make up a **block** are not empty, and their code is bare. -/
structure IsBlock (target : Target) (block : List Line) : Prop where
  /-- No line is empty. -/
  filled : ∀ line ∈ block, lineBody target line ≠ []
  /-- All code is bare. -/
  bare : ∀ line ∈ block, ∀ piece ∈ line, piece.IsBare

theorem IsBlock.isEmpty {block : List Line} (h : IsBlock target block) :
    ∀ body ∈ block.map (lineBody target), body.isEmpty = false := by
  intro body hbody
  obtain ⟨line, hline, rfl⟩ := List.mem_map.mp hbody
  exact List.isEmpty_eq_false_iff.mpr (h.filled line hline)

theorem IsBlock.tokens {block : List Line} (h : IsBlock target block) :
    (block.map (lineBody target)).map target.tokens = block.map lineTokens := by
  rw [List.map_map]
  exact List.map_congr_left fun line hline => target.tokens_line (h.bare line hline)

/-- The blocks of lines. -/
def lineBlocks (target : Target) (lines : List Line) : List (List (List Token)) :=
  ((lines.map (lineBody target)).splitOnP List.isEmpty).map (List.map target.tokens)

/-- The blocks of a file are those of its lines, but for the last one. -/
theorem blocks_text {lines : List Line} {last : Line}
    (h : ∀ line ∈ lines ++ [last], ∀ piece ∈ line, piece.IsInline target) :
    target.blocks (text target (lines ++ [last])) = lineBlocks target lines := by
  unfold Target.blocks lineBlocks
  rw [codeLines_text h, List.dropLast_concat, List.map_append, List.map_singleton,
    List.dropLast_concat]

/-- An empty line ends a block. -/
theorem lineBlocks_block {block : List Line} (h : IsBlock target block) (rest : List Line) :
    lineBlocks target (block ++ [.code ""] :: rest) =
      block.map lineTokens :: lineBlocks target rest := by
  unfold lineBlocks
  rw [List.map_append, List.map_cons, ← h.tokens]
  exact congrArg (List.map (List.map target.tokens))
    (List.splitOnP_append_cons_of_forall_mem h.isEmpty [] rfl _)

/-- **The members of a class are blocks** of their own, whatever stands in front of them. -/
theorem lineBlocks_members {accessorLines : Accessor → List Line} {accessors : List Accessor}
    (hlines : ∀ a ∈ accessors, accessorLines a = [.code ""] :: memberBlock accessorLines a)
    (hblock : ∀ a ∈ accessors, IsBlock target (memberBlock accessorLines a)) (front : List Line) :
    lineBlocks target (front ++ accessors.flatMap accessorLines) =
      lineBlocks target front ++
        accessors.map fun a => (memberBlock accessorLines a).map lineTokens := by
  induction accessors generalizing front with
  | nil => simp
  | cons a rest ih =>
    -- the first member is what stands in front of the others
    have hrest := ih (fun b hb => hlines b (List.mem_cons_of_mem a hb))
      (fun b hb => hblock b (List.mem_cons_of_mem a hb)) (memberBlock accessorLines a)
    have ha := hblock a List.mem_cons_self
    have hsingle : lineBlocks target (memberBlock accessorLines a) =
        [(memberBlock accessorLines a).map lineTokens] := by
      unfold lineBlocks
      rw [List.splitOnP_eq_singleton ha.isEmpty, List.map_singleton, ha.tokens]
    have hsplit : lineBlocks target (front ++ [.code ""] :: (memberBlock accessorLines a ++
          rest.flatMap accessorLines)) =
        lineBlocks target front ++
          lineBlocks target (memberBlock accessorLines a ++ rest.flatMap accessorLines) := by
      unfold lineBlocks
      rw [List.map_append, List.map_cons, ← List.map_append]
      exact congrArg (List.map (List.map target.tokens)) (List.splitOnP_append_cons _ _ rfl)
    rw [List.flatMap_cons, hlines a List.mem_cons_self, List.cons_append, hsplit, hrest, hsingle,
      List.map_cons, List.singleton_append]

/-- The texts of a block that is written piece by piece. -/
theorem blockTexts_block (block : List Line) :
    blockTexts (block.map lineTokens) = block.flatMap (List.filterMap Piece.text?) := by
  unfold blockTexts
  rw [List.flatMap_map]
  exact congrArg (List.flatMap · block) (funext literals_lineTokens)

/-- What is left of a list that ends in a given number of elements, when only these are kept. -/
theorem drop_length_sub {α : Type} (front : List α) {back : List α} {n : Nat} (h : back.length = n) :
    (front ++ back).drop ((front ++ back).length - n) = back := by
  have hfront : (front ++ back).length - n = front.length := by
    rw [List.length_append]
    omega
  rw [hfront, List.drop_left]

/-- **The accessors read back** from the table and from the last blocks. -/
theorem readAccessors_blocks {readMember : List (List Token) → String × List Parameter}
    (accessorLines : Accessor → List Line) {accessors : List Accessor}
    (hread : ∀ a ∈ accessors,
      readMember ((memberBlock accessorLines a).map (Token.names ∘ lineTokens)) =
        (a.member, a.parameters))
    {table : List (List Token)}
    (htable : readTable (table.map Token.literals) = accessors.map fun a => (a.key, a.rows))
    (front : List (List (List Token))) :
    readAccessors readMember table
      (front ++ accessors.map fun a => (memberBlock accessorLines a).map lineTokens) = accessors := by
  have hmembers : (accessors.map fun a => (memberBlock accessorLines a).map lineTokens).map
      (fun block => readMember (block.map Token.names)) =
      accessors.map fun a => (a.member, a.parameters) := by
    rw [List.map_map]
    refine List.map_congr_left fun a ha => ?_
    rw [← hread a ha, Function.comp_apply, List.map_map]
  dsimp only [readAccessors]
  -- there are as many blocks at the end as keys in the table
  rw [htable, List.length_map, drop_length_sub front (List.length_map _), hmembers, List.zipWith_map,
    List.zipWith_self]
  exact List.map_id' accessors

end Blocks

/-! ## Files -/

section Files

open Source

theorem lineBody_keyLines_ne_nil (target : Target) (a : Accessor) :
    ∀ line ∈ Dart.keyLines a, lineBody target line ≠ [] := by
  simp only [Dart.keyLines, List.cons_append, List.forall_mem_cons, List.forall_mem_append,
    List.forall_mem_map]
  exact ⟨lineBody_ne_nil (by decide) _, fun row _ => lineBody_ne_nil (by decide) _,
    lineBody_ne_nil (by decide) _, List.forall_mem_nil _⟩

theorem isBlock_tableBlock (target : Target) (opener : String) (hfilled : opener ≠ "")
    (hbare : (Piece.code opener).IsBare) (accessors : List Accessor) :
    IsBlock target (tableBlock opener accessors) := by
  constructor
  · simp only [tableBlock, List.cons_append, List.forall_mem_cons, List.forall_mem_append,
      List.forall_mem_flatMap]
    exact ⟨lineBody_ne_nil hfilled _, fun a _ => lineBody_keyLines_ne_nil target a,
      lineBody_ne_nil (by decide) _, List.forall_mem_nil _⟩
  · exact isBare_tableBlock hbare accessors

theorem readTable_tableBlock (opener : String) (accessors : List Accessor) :
    readTable (((tableBlock opener accessors).map lineTokens).map Token.literals) =
      accessors.map fun a => (a.key, a.rows) := by
  have hliterals : Token.literals ∘ lineTokens = List.filterMap Piece.text? :=
    funext literals_lineTokens
  rw [List.map_map, hliterals, ← readTable_keyLines accessors]
  unfold tableBlock
  rw [List.cons_append, List.map_cons, List.map_append]
  rfl

/-- The texts in a line that lists locales. -/
theorem blockTexts_localeList (front back : String) (locales : List String) :
    blockTexts ([.code front :: Dart.localeList locales ++ [.code back]].map lineTokens) = locales := by
  unfold Dart.localeList
  rw [blockTexts_block, List.flatMap_singleton, List.cons_append, List.filterMap_cons_none rfl,
    List.filterMap_append, filterMap_text?_listed, List.flatMap_map]
  simp [Piece.text?]

theorem Dart.isBlock_memberBlock {a : Accessor} (h : a.IsNamed) :
    IsBlock .dart (memberBlock accessorLines a) := by
  constructor
  · unfold memberBlock accessorLines
    split
    · refine List.forall_mem_singleton.mpr (lineBody_ne_nil ?_ _)
      simp
    · simp only [List.tail_cons, List.cons_append, List.forall_mem_cons]
      refine ⟨lineBody_ne_nil ?_ _, lineBody_ne_nil (by decide) _, List.forall_mem_nil _⟩
      simp
  · exact fun line hline => isBare_accessorLines h line (List.mem_of_mem_tail hline)

theorem TypeScript.isBlock_memberBlock {a : Accessor} (h : a.IsNamed) :
    IsBlock .typeScript (memberBlock accessorLines a) := by
  constructor
  · dsimp only [memberBlock, accessorLines]
    split
    · simp only [List.tail_cons, List.forall_mem_cons]
      refine ⟨lineBody_ne_nil ?_ _, lineBody_ne_nil (by decide) _, lineBody_ne_nil (by decide) _,
        List.forall_mem_nil _⟩
      simp
    · simp only [List.tail_cons, List.cons_append, List.forall_mem_cons]
      refine ⟨lineBody_ne_nil ?_ _, lineBody_ne_nil (by decide) _, lineBody_ne_nil (by decide) _,
        List.forall_mem_nil _⟩
      simp
  · exact fun line hline => isBare_accessorLines h line (List.mem_of_mem_tail hline)

theorem isBlock_singleton {target : Target} {s : String} {rest : Line} (hs : s ≠ "")
    (hbare : ∀ piece ∈ .code s :: rest, piece.IsBare) : IsBlock target [.code s :: rest] :=
  ⟨List.forall_mem_singleton.mpr (lineBody_ne_nil hs rest), List.forall_mem_singleton.mpr hbare⟩

/-- The line of the locales in a Dart library. -/
def Dart.localesLine (locales : List String) : Line :=
  .code "const supportedLocales = <String>[" :: localeList locales ++ [.code "];"]

/-- The line of the locale to fall back to in a Dart library. -/
def Dart.defaultLine (defaultLocale : String) : Line :=
  [.code "const defaultLocale = ", .literal defaultLocale, .code ";"]

/-- **The blocks of a Dart library.** -/
theorem Dart.blocks_lines (locales : List String) (defaultLocale : String) {accessors : List Accessor}
    (hnamed : ∀ a ∈ accessors, a.IsNamed) :
    ∃ first, Target.dart.blocks (text .dart (lines locales defaultLocale accessors)) =
      first :: [localesLine locales].map lineTokens :: [defaultLine defaultLocale].map lineTokens ::
        (tableBlock tableOpener accessors).map lineTokens :: (lineBlocks .dart helperLines ++
          accessors.map fun a => (memberBlock accessorLines a).map lineTokens) := by
  have hbare := isBare_headLines locales defaultLocale
  have hfirst : IsBlock .dart
      [[.code "// GENERATED - do not edit."], [.code "// ignore_for_file: type=lint"]] :=
    ⟨List.forall_mem_cons.mpr ⟨lineBody_ne_nil (by decide) _,
      List.forall_mem_singleton.mpr (lineBody_ne_nil (by decide) _)⟩, by decide⟩
  have hlocales : IsBlock .dart [localesLine locales] :=
    isBlock_singleton (by decide) (hbare (localesLine locales) (by simp [headLines, localesLine]))
  have hdefault : IsBlock .dart [defaultLine defaultLocale] :=
    isBlock_singleton (by decide) (hbare (defaultLine defaultLocale) (by simp [headLines, defaultLine]))
  have htable := isBlock_tableBlock .dart tableOpener (by decide) (by decide) accessors
  have hlines : lines locales defaultLocale accessors =
      ([[.code "// GENERATED - do not edit."], [.code "// ignore_for_file: type=lint"]] ++ [.code ""] ::
        ([localesLine locales] ++ [.code ""] :: ([defaultLine defaultLocale] ++ [.code ""] ::
          (tableBlock tableOpener accessors ++ [.code ""] ::
            (helperLines ++ accessors.flatMap accessorLines))))) ++ [[.code "\x7d"]] := by
    simp [lines, headLines, localesLine, defaultLine, tableLines_eq]
  have hinline := Target.dart.isInline_lines locales defaultLocale hnamed
  rw [show Target.dart.lines locales defaultLocale accessors = _ from hlines] at hinline
  -- the functions need not be blocks; the members cut themselves off from them
  rw [hlines, blocks_text hinline, lineBlocks_block hfirst, lineBlocks_block hlocales,
    lineBlocks_block hdefault, lineBlocks_block htable,
    lineBlocks_members (fun a _ => rfl) fun a ha => isBlock_memberBlock (hnamed a ha)]
  exact ⟨_, rfl⟩

/-- **A Dart library reads back** as what it was written from. -/
theorem Dart.read_lines (locales : List String) (defaultLocale : String) {accessors : List Accessor}
    (hnamed : ∀ a ∈ accessors, a.IsNamed) :
    read (text .dart (lines locales defaultLocale accessors)) =
      ⟨locales, defaultLocale, none, accessors⟩ := by
  obtain ⟨first, hblocks⟩ := blocks_lines locales defaultLocale hnamed
  have haccessors := readAccessors_blocks accessorLines
    (fun a ha => readMember_block (hnamed a ha)) (readTable_tableBlock tableOpener accessors)
    (lineBlocks .dart helperLines)
  have hlocales : blockTexts ([localesLine locales].map lineTokens) = locales :=
    blockTexts_localeList "const supportedLocales = <String>[" "];" locales
  unfold read
  rw [hblocks]
  dsimp only
  rw [haccessors, hlocales, blockTexts_block]
  rfl

/-- The line of the locales in a TypeScript module. -/
def TypeScript.localesLine (locales : List String) : Line :=
  .code "export const locales = [" :: localeList locales ++ [.code "] as const;"]

/-- The line of the type of locales in a TypeScript module. -/
def TypeScript.localeTypeLine : Line := [.code "export type Locale = (typeof locales)[number];"]

/-- The line of the locale to fall back to in a TypeScript module. -/
def TypeScript.defaultLine (defaultLocale : String) : Line :=
  [.code "export const defaultLocale = ", .literal defaultLocale, .code ";"]

theorem TypeScript.isBlock_unionLines (keys : List String) :
    IsBlock .typeScript (unionLines keys) := by
  refine ⟨?_, isBare_unionLines keys⟩
  unfold unionLines
  split
  · exact List.forall_mem_singleton.mpr (lineBody_ne_nil (by decide) _)
  · exact List.forall_mem_singleton.mpr (lineBody_ne_nil (by decide) _)
  · simp only [List.cons_append, List.forall_mem_cons, List.forall_mem_append, List.forall_mem_map]
    exact ⟨lineBody_ne_nil (by decide) _, fun key _ => lineBody_ne_nil (by decide) _,
      lineBody_ne_nil (by decide) _, List.forall_mem_nil _⟩

/-- **The type of the keys lists them**, in each of its three forms. -/
theorem TypeScript.blockTexts_unionLines (keys : List String) :
    blockTexts ((unionLines keys).map lineTokens) = keys := by
  rw [blockTexts_block]
  unfold unionLines
  split
  · rfl
  · rfl
  · rw [List.cons_append, List.flatMap_cons, List.flatMap_append, List.flatMap_map]
    show keys.flatMap (fun key => [key]) ++ [] = keys
    rw [List.append_nil, List.flatMap_singleton']

/-- **The blocks of a TypeScript module.** -/
theorem TypeScript.blocks_lines (locales : List String) (defaultLocale : String)
    {accessors : List Accessor} (hnamed : ∀ a ∈ accessors, a.IsNamed) :
    ∃ first localeType, Target.typeScript.blocks
        (text .typeScript (lines locales defaultLocale accessors)) =
      first :: [localesLine locales].map lineTokens :: localeType ::
        [defaultLine defaultLocale].map lineTokens ::
        (unionLines (accessors.map Accessor.key)).map lineTokens ::
        (tableBlock tableOpener accessors).map lineTokens :: (lineBlocks .typeScript helperLines ++
          accessors.map fun a => (memberBlock accessorLines a).map lineTokens) := by
  have hbare := isBare_headLines locales defaultLocale
  have hfirst : IsBlock .typeScript
      [[.code "// GENERATED - do not edit."], [.code "/* eslint-disable */"]] :=
    ⟨List.forall_mem_cons.mpr ⟨lineBody_ne_nil (by decide) _,
      List.forall_mem_singleton.mpr (lineBody_ne_nil (by decide) _)⟩, by decide⟩
  have hlocales : IsBlock .typeScript [localesLine locales] :=
    isBlock_singleton (by decide) (hbare (localesLine locales) (by simp [headLines, localesLine]))
  have hlocaleType : IsBlock .typeScript [localeTypeLine] :=
    isBlock_singleton (by decide) (hbare localeTypeLine (by simp [headLines, localeTypeLine]))
  have hdefault : IsBlock .typeScript [defaultLine defaultLocale] :=
    isBlock_singleton (by decide) (hbare (defaultLine defaultLocale) (by simp [headLines, defaultLine]))
  have hunion := isBlock_unionLines (accessors.map Accessor.key)
  have htable := isBlock_tableBlock .typeScript tableOpener (by decide) (by decide) accessors
  have hlines : lines locales defaultLocale accessors =
      ([[.code "// GENERATED - do not edit."], [.code "/* eslint-disable */"]] ++ [.code ""] ::
        ([localesLine locales] ++ [.code ""] :: ([localeTypeLine] ++ [.code ""] ::
          ([defaultLine defaultLocale] ++ [.code ""] ::
            (unionLines (accessors.map Accessor.key) ++ [.code ""] ::
              (tableBlock tableOpener accessors ++ [.code ""] ::
                (helperLines ++ accessors.flatMap accessorLines))))))) ++ [[.code "\x7d"]] := by
    simp [lines, headLines, localesLine, localeTypeLine, defaultLine, tableLines_eq]
  have hinline := Target.typeScript.isInline_lines locales defaultLocale hnamed
  rw [show Target.typeScript.lines locales defaultLocale accessors = _ from hlines] at hinline
  rw [hlines, blocks_text hinline, lineBlocks_block hfirst, lineBlocks_block hlocales,
    lineBlocks_block hlocaleType, lineBlocks_block hdefault, lineBlocks_block hunion,
    lineBlocks_block htable,
    lineBlocks_members (fun a _ => rfl) fun a ha => isBlock_memberBlock (hnamed a ha)]
  exact ⟨_, _, rfl⟩

/-- **A TypeScript module reads back** as what it was written from. -/
theorem TypeScript.read_lines (locales : List String) (defaultLocale : String)
    {accessors : List Accessor} (hnamed : ∀ a ∈ accessors, a.IsNamed) :
    read (text .typeScript (lines locales defaultLocale accessors)) =
      ⟨locales, defaultLocale, some (accessors.map Accessor.key), accessors⟩ := by
  obtain ⟨first, localeType, hblocks⟩ := blocks_lines locales defaultLocale hnamed
  have haccessors := readAccessors_blocks accessorLines
    (fun a ha => readMember_block (hnamed a ha)) (readTable_tableBlock tableOpener accessors)
    (lineBlocks .typeScript helperLines)
  have hlocales : blockTexts ([localesLine locales].map lineTokens) = locales :=
    blockTexts_localeList "export const locales = [" "] as const;" locales
  unfold read
  rw [hblocks]
  dsimp only
  rw [haccessors, hlocales, blockTexts_unionLines, blockTexts_block]
  rfl

end Files

namespace Target

/-- The keys as a target writes them for their own sake: only TypeScript has a type of them. -/
def keyType (target : Target) (c : Catalog) : Option (List String) :=
  match target with
  | dart => none
  | typeScript => some c.entries.keys

theorem read_lines {target : Target} {c : Catalog} {accessors : List Accessor}
    (hplan : target.plan c = .ok accessors) (defaultLocale : String) :
    target.read (Source.text target (target.lines c.locales defaultLocale accessors)) =
      ⟨c.locales, defaultLocale, target.keyType c, accessors⟩ := by
  have hnamed := isNamed_plan hplan
  cases target with
  | dart =>
    have hread := Dart.read_lines c.locales defaultLocale hnamed
    simp only [read, lines, keyType, hread]
  | typeScript =>
    have hread := TypeScript.read_lines c.locales defaultLocale hnamed
    rw [plan_keys hplan] at hread
    simp only [read, lines, keyType, hread]

/-- **A file can be read back.** The reader of a target returns, of the text of the file for any
catalog, the locales with their order and repeats, the locale to fall back to, the type of the keys,
and the accessors of the plan. These are one for each key, in increasing order, with the texts of its
entry in the order of the locales and its placeholders in increasing order. Two catalogs with the same
file have all of this in common. -/
theorem read_emit {target : Target} {asked file : String} {c : Catalog}
    (h : target.emit asked c = .ok file) :
    ∃ accessors, target.plan c = .ok accessors ∧
      target.read file = ⟨c.locales, c.defaultLocale asked, target.keyType c, accessors⟩ ∧
      accessors.map Accessor.key = c.entries.keys ∧ c.entries.keys.Pairwise (· < ·) ∧
      (∀ a ∈ accessors, ∃ e, c.find? a.key = some e ∧
        a.rows.map (fun row => (row.1, some row.2)) =
          c.locales.map (fun l => (l, e.texts.get? l)) ∧
        a.parameters.map Parameter.name = e.placeholders.toNames ∧
        e.placeholders.toNames.Pairwise (· < ·)) ∧
      ∀ asked' c', target.emit asked' c' = .ok file →
        c'.locales = c.locales ∧ c'.defaultLocale asked' = c.defaultLocale asked ∧
          c'.entries.keys = c.entries.keys ∧ target.plan c' = target.plan c := by
  obtain ⟨accessors, hplan, rfl⟩ := emit_eq_ok_iff.mp h
  have hread := read_lines hplan (c.defaultLocale asked)
  refine ⟨accessors, hplan, hread, plan_keys hplan, SortedMap.keys_sorted _, ?_, ?_⟩
  · intro a ha
    obtain ⟨e, hfind, hgap, hparameters, hrows⟩ := mem_plan hplan ha
    rw [hrows, hparameters, map_name_parameters]
    exact ⟨e, hfind, Entry.map_row_eq hgap, rfl, e.placeholders.keys_sorted⟩
  · intro asked' c' h'
    obtain ⟨accessors', hplan', htext⟩ := emit_eq_ok_iff.mp h'
    -- the reader sees the text alone, so it returns the same of both
    rw [htext, read_lines hplan'] at hread
    obtain ⟨hlocales, hdefault, -, haccessors⟩ := Contents.mk.inj hread
    rw [← plan_keys hplan', ← plan_keys hplan, hplan', hplan, haccessors]
    exact ⟨hlocales, hdefault, rfl, rfl⟩

/-- A catalog with a repeated locale, with quotes and backslashes, and with a placeholder that is an
identifier beside one that is not. -/
def quoted : Catalog :=
  (Catalog.ofLocales ["e'n", "e'n"]).update "a\\'b" fun e =>
    (e.setText "e'n" "\x7d\n\x7d,\n'\\").declare ["x", "x."]

theorem read_emit_quoted :
    ∃ file accessors, typeScript.emit "fr" quoted = .ok file ∧
      typeScript.read file = ⟨["e'n", "e'n"], "e'n", some ["a\\'b"], accessors⟩ ∧
      accessors.map Accessor.key = ["a\\'b"] := by
  obtain ⟨accessors, hplan⟩ : ∃ accessors, typeScript.plan quoted = .ok accessors := ⟨_, rfl⟩
  have hemit : typeScript.emit "fr" quoted = .ok _ := emit_eq_ok_iff.mpr ⟨accessors, hplan, rfl⟩
  obtain ⟨accessors', -, hread, hkeys, -⟩ := read_emit hemit
  exact ⟨_, accessors', hemit, hread, hkeys⟩

end Target

end Phrasebook
