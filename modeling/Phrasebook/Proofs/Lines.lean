import Phrasebook.Proofs.Literal
import Phrasebook.Proofs.Plan
import Phrasebook.Target.Emit

/-!
# Lines of generated text

What stands on the lines of a generated file. No piece of a line ends it, so that the lines come back
when the text is split; and a piece of code that depends on the catalog is made of names alone, without
any quote.

## Contents
- `Target.codeLines`: a text cut at the ends of its lines
- `Source.Piece.IsInline`, `Source.codeLines_text`: the lines of a text that is written line by line
- `Source.Piece.IsBare`: pieces whose code has no quote either
- `Accessor.IsNamed`, `Target.isNamed_plan`: accessors with identifiers for names
- `Dart.isBare_accessorLines`, `TypeScript.isBare_accessorLines`, …: the lines of each target
- `Target.codeLines_lines`: the lines of a file
-/

namespace Phrasebook

/-! ## Cutting a text into lines -/

namespace Target

/-- The lines of a text as a compiler of the target counts them. -/
def codeLines (target : Target) (text : String) : List (List Char) :=
  text.toList.splitOnP target.isLineEnd

theorem isLineEnd_newline (target : Target) : target.isLineEnd '\n' = true := by
  cases target <;> rfl

/-- A line of TypeScript also ends where one of Dart does. -/
theorem isLineEnd_of_typeScript {target : Target} {c : Char}
    (h : typeScript.isLineEnd c = false) : target.isLineEnd c = false := by
  cases target with
  | dart =>
    simp only [isLineEnd, Bool.or_eq_false_iff] at h ⊢
    exact ⟨h.1, rfl⟩
  | typeScript => exact h

end Target

namespace Source

variable {target : Target}

/-- A piece is **inline** when nothing in it ends a line; a literal always is. -/
def Piece.IsInline (target : Target) : Piece → Prop
  | .code s => ∀ c ∈ s.toList, target.isLineEnd c = false
  | .literal _ => True

/-- The characters of a text are given, so that a kernel need not take its bytes apart. -/
theorem isInline_ofList {cs : List Char} (h : cs.all (fun c => !target.isLineEnd c) = true) :
    (Piece.code (String.ofList cs)).IsInline target := by
  intro c hc
  rw [String.toList_ofList] at hc
  have hend := List.all_eq_true.mp h c hc
  rw [Bool.not_eq_true'] at hend
  exact hend

theorem isInline_append {s t : String} :
    (Piece.code (s ++ t)).IsInline target ↔
      (Piece.code s).IsInline target ∧ (Piece.code t).IsInline target := by
  simp only [Piece.IsInline, String.toList_append]
  exact List.forall_mem_append

theorem Piece.IsInline.chars {piece : Piece} (h : piece.IsInline target) {c : Char}
    (hc : c ∈ piece.chars target) : target.isLineEnd c = false := by
  cases piece with
  | code s => exact h c hc
  | literal s => exact Target.isLineEnd_quoteChars hc

/-- The characters of a line, without its end. -/
def lineBody (target : Target) (line : Line) : List Char := line.flatMap (Piece.chars target)

theorem lineChars_eq (target : Target) (line : Line) :
    lineChars target line = lineBody target line ++ ['\n'] := rfl

theorem lineBody_cons (target : Target) (piece : Piece) (rest : Line) :
    lineBody target (piece :: rest) = piece.chars target ++ lineBody target rest := rfl

/-- **Lines come back** from the text that is written line by line; behind the last end there is an
empty rest. -/
theorem codeLines_text {lines : List Line}
    (h : ∀ line ∈ lines, ∀ piece ∈ line, piece.IsInline target) :
    target.codeLines (text target lines) = lines.map (lineBody target) ++ [[]] := by
  unfold Target.codeLines text
  rw [String.toList_ofList]
  induction lines with
  | nil => rfl
  | cons line rest ih =>
    have hline : ∀ c ∈ lineBody target line, target.isLineEnd c = false := by
      intro c hc
      obtain ⟨piece, hpiece, hmem⟩ := List.mem_flatMap.mp hc
      exact (h line List.mem_cons_self piece hpiece).chars hmem
    have hchars : (line :: rest).flatMap (lineChars target) =
        lineBody target line ++ '\n' :: rest.flatMap (lineChars target) := by
      rw [List.flatMap_cons, lineChars_eq, List.append_assoc, List.singleton_append]
    -- the first character that ends a line is the one behind the line
    rw [hchars, List.splitOnP_append_cons_of_forall_mem hline '\n' target.isLineEnd_newline,
      ih fun line' hmem => h line' (List.mem_cons_of_mem line hmem)]
    rfl

/-! ## Bare code -/

/-- A piece is **bare** when its code has neither a quote nor a character that ends a line for any
target. -/
def Piece.IsBare : Piece → Prop
  | .code s => ∀ c ∈ s.toList, c ≠ '\'' ∧ Target.typeScript.isLineEnd c = false
  | .literal _ => True

instance : DecidablePred Piece.IsBare
  | .code s => List.decidableBAll (fun c => c ≠ '\'' ∧ Target.typeScript.isLineEnd c = false) s.toList
  | .literal _ => instDecidableTrue

theorem Piece.IsBare.isInline {piece : Piece} (h : piece.IsBare) : piece.IsInline target := by
  cases piece with
  | code s => exact fun c hc => Target.isLineEnd_of_typeScript (h c hc).2
  | literal s => trivial

@[simp] theorem isBare_literal (s : String) : (Piece.literal s).IsBare := trivial

@[simp] theorem isBare_append {s t : String} :
    (Piece.code (s ++ t)).IsBare ↔ (Piece.code s).IsBare ∧ (Piece.code t).IsBare := by
  simp only [Piece.IsBare, String.toList_append]
  exact List.forall_mem_append

/-- A name has no quote and does not end a line. -/
theorem isBare_identifier {s : String} (hs : Identifier.IsIdentifier s) : (Piece.code s).IsBare := by
  intro c hc
  have hname := hs.isNameChar c hc
  constructor
  · rintro rfl
    exact absurd hname (by decide)
  · rw [← Bool.not_eq_true]
    intro hend
    -- none of the four characters that may end a line may stand in a name
    simp only [Target.isLineEnd, Bool.or_eq_true, Bool.and_eq_true, decide_eq_true_eq] at hend
    rcases hend with (rfl | rfl) | ⟨-, rfl | rfl⟩ <;> exact absurd hname (by decide)

theorem listed_cons {separator : String} {group : List Piece} {rest : List (List Piece)}
    (h : rest ≠ []) :
    listed separator (group :: rest) = group ++ .code separator :: listed separator rest := by
  cases rest with
  | nil => exact absurd rfl h
  | cons group' rest => rfl

/-- What holds of the separator and of the groups holds of a list. -/
theorem forall_mem_listed {P : Piece → Prop} {separator : String} {groups : List (List Piece)}
    (hseparator : P (.code separator)) (h : ∀ group ∈ groups, ∀ piece ∈ group, P piece) :
    ∀ piece ∈ listed separator groups, P piece := by
  fun_induction listed separator groups with
  | case1 => simp
  | case2 group => exact h group List.mem_cons_self
  | case3 group rest _ ih =>
    intro piece hpiece
    rcases List.mem_append.mp hpiece with hgroup | hrest
    · exact h group List.mem_cons_self piece hgroup
    · rcases List.mem_cons.mp hrest with rfl | hlisted
      · exact hseparator
      · exact ih (fun group' hmem => h group' (List.mem_cons_of_mem group hmem)) piece hlisted

theorem forall_mem_codeLines {P : Piece → Prop} {texts : List String}
    (h : ∀ text ∈ texts, P (.code text)) : ∀ line ∈ codeLines texts, ∀ piece ∈ line, P piece := by
  simp only [codeLines, List.forall_mem_map, List.forall_mem_singleton]
  exact h

end Source

/-! ## The lines of the targets -/

open Source

/-- An accessor is **named** when its member and the parameters are identifiers. -/
structure Accessor.IsNamed (a : Accessor) : Prop where
  /-- The member is an identifier. -/
  member : Identifier.IsIdentifier a.member
  /-- So is what every parameter is called. -/
  parameter : ∀ p ∈ a.parameters, Identifier.IsIdentifier p.identifier

theorem Target.isNamed_plan {target : Target} {c : Catalog} {accessors : List Accessor}
    (h : target.plan c = .ok accessors) : ∀ a ∈ accessors, a.IsNamed := by
  intro a ha
  obtain ⟨e, -, -, hparameters, -⟩ := mem_plan h ha
  refine ⟨isIdentifier_plan_member h ha, fun p hp => ?_⟩
  rw [hparameters] at hp
  exact isIdentifier_parameters hp

theorem isBare_localeList (locales : List String) :
    ∀ piece ∈ Dart.localeList locales, piece.IsBare :=
  forall_mem_listed (by decide) (by simp)

/-- The table is written alike for both targets. -/
theorem isBare_keyLines (a : Accessor) :
    ∀ line ∈ Dart.keyLines a, ∀ piece ∈ line, piece.IsBare := by
  simp only [Dart.keyLines, Dart.rowLine, List.cons_append, List.forall_mem_cons,
    List.forall_mem_append, List.forall_mem_map, isBare_literal, true_and]
  exact ⟨by decide, fun _ _ => by decide, by decide⟩

/-- The lines of the table of all texts, without the empty line behind it. -/
def tableBlock (opener : String) (accessors : List Accessor) : List Line :=
  [.code opener] :: accessors.flatMap Dart.keyLines ++ [[.code "\x7d;"]]

theorem isBare_tableBlock {opener : String} (h : (Piece.code opener).IsBare)
    (accessors : List Accessor) :
    ∀ line ∈ tableBlock opener accessors, ∀ piece ∈ line, piece.IsBare := by
  simp only [tableBlock, List.cons_append, List.forall_mem_cons, List.forall_mem_append,
    List.forall_mem_flatMap]
  exact ⟨⟨h, List.forall_mem_nil _⟩, fun a _ => isBare_keyLines a, by decide⟩

namespace Dart

/-- The line that opens the table of a Dart library. -/
def tableOpener : String := "const _strings = <String, Map<String, String>>\x7b"

theorem tableLines_eq (accessors : List Accessor) :
    tableLines accessors = tableBlock tableOpener accessors ++ [[.code ""]] := by
  simp [tableLines, tableBlock, tableOpener]

theorem isBare_headLines (locales : List String) (defaultLocale : String) :
    ∀ line ∈ headLines locales defaultLocale, ∀ piece ∈ line, piece.IsBare := by
  have hlocales := isBare_localeList locales
  simp only [headLines, List.forall_mem_cons, List.forall_mem_append, List.cons_append,
    isBare_literal, eq_true hlocales, true_and]
  decide +kernel

theorem isBare_tableLines (accessors : List Accessor) :
    ∀ line ∈ tableLines accessors, ∀ piece ∈ line, piece.IsBare := by
  rw [tableLines_eq, List.forall_mem_append]
  exact ⟨isBare_tableBlock (by decide) accessors, by decide⟩

theorem isBare_accessorLines {a : Accessor} (h : a.IsNamed) :
    ∀ line ∈ accessorLines a, ∀ piece ∈ line, piece.IsBare := by
  have hmember := isBare_identifier h.member
  have hrequired : ∀ piece ∈ listed ", "
      (a.parameters.map fun p => [Piece.code ("required Object? " ++ p.identifier)]),
      piece.IsBare := by
    refine forall_mem_listed (by decide) ?_
    simp only [List.forall_mem_map, List.forall_mem_singleton, isBare_append]
    exact fun p hp => ⟨by decide, isBare_identifier (h.parameter p hp)⟩
  have hbindings : ∀ piece ∈ listed ", "
      (a.parameters.map fun p => [.literal p.name, Piece.code (": " ++ p.identifier)]),
      piece.IsBare := by
    refine forall_mem_listed (by decide) ?_
    simp only [List.forall_mem_map, List.forall_mem_cons, isBare_append, isBare_literal, true_and]
    exact fun p hp => ⟨⟨by decide, isBare_identifier (h.parameter p hp)⟩, by simp⟩
  unfold accessorLines
  split
  · simp only [List.forall_mem_cons, isBare_append, isBare_literal, eq_true hmember, true_and,
      and_true]
    decide
  · simp only [List.forall_mem_cons, List.cons_append, List.forall_mem_append, isBare_append,
      isBare_literal, eq_true hmember, eq_true hrequired, eq_true hbindings, true_and, and_true]
    decide

end Dart

namespace TypeScript

/-- The line that opens the table of a TypeScript module. -/
def tableOpener : String := "const strings: Record<string, Record<string, string>> = \x7b"

theorem tableLines_eq (accessors : List Accessor) :
    tableLines accessors = tableBlock tableOpener accessors ++ [[.code ""]] := by
  have hkeys : keyLines = Dart.keyLines := rfl
  simp [tableLines, tableBlock, tableOpener, hkeys]

theorem isBare_headLines (locales : List String) (defaultLocale : String) :
    ∀ line ∈ headLines locales defaultLocale, ∀ piece ∈ line, piece.IsBare := by
  have hlocales : ∀ piece ∈ localeList locales, piece.IsBare := isBare_localeList locales
  simp only [headLines, List.forall_mem_cons, List.forall_mem_append, List.cons_append,
    isBare_literal, eq_true hlocales, true_and]
  decide +kernel

theorem isBare_unionLines (keys : List String) :
    ∀ line ∈ unionLines keys, ∀ piece ∈ line, piece.IsBare := by
  unfold unionLines
  split
  · decide
  · simp only [List.forall_mem_cons, isBare_literal, true_and]
    decide
  · simp only [List.cons_append, List.forall_mem_cons, List.forall_mem_append, List.forall_mem_map,
      isBare_literal, true_and]
    exact ⟨by decide, fun _ _ => by decide, by decide⟩

theorem isBare_tableLines (accessors : List Accessor) :
    ∀ line ∈ tableLines accessors, ∀ piece ∈ line, piece.IsBare := by
  rw [tableLines_eq, List.forall_mem_append]
  exact ⟨isBare_tableBlock (by decide) accessors, by decide⟩

theorem isBare_binding {p : Parameter} (h : Identifier.IsIdentifier p.identifier) :
    ∀ piece ∈ binding p, piece.IsBare := by
  have hname := isBare_identifier h
  unfold binding
  split
  · exact List.forall_mem_singleton.mpr hname
  · simp only [List.forall_mem_cons, isBare_append, isBare_literal, eq_true hname, true_and, and_true]
    decide

theorem isBare_accessorLines {a : Accessor} (h : a.IsNamed) :
    ∀ line ∈ accessorLines a, ∀ piece ∈ line, piece.IsBare := by
  have hmember := isBare_identifier h.member
  have hbindings : ∀ piece ∈ listed ", " (a.parameters.map binding), piece.IsBare := by
    refine forall_mem_listed (by decide) ?_
    rw [List.forall_mem_map]
    exact fun p hp => isBare_binding (h.parameter p hp)
  have htypes : ∀ piece ∈ listed "; "
      (a.parameters.map fun p => [.literal p.name, Piece.code ": unknown"]), piece.IsBare := by
    refine forall_mem_listed (by decide) ?_
    simp only [List.forall_mem_map, List.forall_mem_cons, isBare_literal, true_and]
    exact fun _ _ => by decide
  unfold accessorLines
  split
  · simp only [List.forall_mem_cons, isBare_append, isBare_literal, eq_true hmember, true_and]
    decide
  · simp only [List.forall_mem_cons, List.cons_append, List.forall_mem_append, isBare_append,
      isBare_literal, eq_true hmember, eq_true hbindings, eq_true htypes, true_and, and_true]
    decide

end TypeScript

/-! ## All lines of a file -/

namespace Target

/-- The lines of a file that are the same for all catalogs. -/
def helperLines : Target → List Line
  | dart => Dart.helperLines
  | typeScript => TypeScript.helperLines

/-- **Every line is bare**, but for those of the functions, which do not depend on the catalog. -/
theorem isBare_or_mem_helperLines {target : Target} {locales : List String} {defaultLocale : String}
    {accessors : List Accessor} (hnamed : ∀ a ∈ accessors, a.IsNamed) {line : Line}
    (h : line ∈ target.lines locales defaultLocale accessors) :
    (∀ piece ∈ line, piece.IsBare) ∨ line ∈ target.helperLines := by
  cases target with
  | dart =>
    simp only [lines, Dart.lines, List.mem_append, List.mem_flatMap, List.mem_singleton] at h
    rcases h with (((hhead | htable) | hhelper) | ⟨a, ha, hmem⟩) | rfl
    · exact Or.inl (Dart.isBare_headLines _ _ line hhead)
    · exact Or.inl (Dart.isBare_tableLines _ line htable)
    · exact Or.inr hhelper
    · exact Or.inl (Dart.isBare_accessorLines (hnamed a ha) line hmem)
    · exact Or.inl (by decide)
  | typeScript =>
    simp only [lines, TypeScript.lines, List.mem_append, List.mem_flatMap, List.mem_singleton] at h
    rcases h with (((((hhead | hunion) | rfl) | htable) | hhelper) | ⟨a, ha, hmem⟩) | rfl
    · exact Or.inl (TypeScript.isBare_headLines _ _ line hhead)
    · exact Or.inl (TypeScript.isBare_unionLines _ line hunion)
    · exact Or.inl (by decide)
    · exact Or.inl (TypeScript.isBare_tableLines _ line htable)
    · exact Or.inr hhelper
    · exact Or.inl (TypeScript.isBare_accessorLines (hnamed a ha) line hmem)
    · exact Or.inl (by decide)

theorem isInline_helperLines (target : Target) :
    ∀ line ∈ target.helperLines, ∀ piece ∈ line, piece.IsInline target := by
  cases target with
  | dart =>
    refine forall_mem_codeLines ?_
    simp only [List.forall_mem_cons]
    and_intros
    -- a text of code each, and the end of the list
    all_goals first
      | exact isInline_ofList (by decide +kernel)
      | exact List.forall_mem_nil _
  | typeScript =>
    refine forall_mem_codeLines ?_
    simp only [List.forall_mem_cons, isInline_append]
    and_intros
    all_goals first
      | exact isInline_ofList (by decide +kernel)
      | exact List.forall_mem_nil _

theorem isInline_lines (target : Target) (locales : List String) (defaultLocale : String)
    {accessors : List Accessor} (hnamed : ∀ a ∈ accessors, a.IsNamed) :
    ∀ line ∈ target.lines locales defaultLocale accessors, ∀ piece ∈ line, piece.IsInline target := by
  intro line hline piece hpiece
  rcases isBare_or_mem_helperLines hnamed hline with hbare | hhelper
  · exact (hbare piece hpiece).isInline
  · exact target.isInline_helperLines line hhelper piece hpiece

/-- **The lines of a file come back** from its text. -/
theorem codeLines_lines (target : Target) (locales : List String) (defaultLocale : String)
    {accessors : List Accessor} (hnamed : ∀ a ∈ accessors, a.IsNamed) :
    target.codeLines (text target (target.lines locales defaultLocale accessors)) =
      (target.lines locales defaultLocale accessors).map (lineBody target) ++ [[]] :=
  codeLines_text (target.isInline_lines locales defaultLocale hnamed)

/-- What a file is made of, when there is one. -/
theorem emit_eq_ok_iff {target : Target} {asked : String} {c : Catalog} {file : String} :
    target.emit asked c = .ok file ↔ ∃ accessors, target.plan c = .ok accessors ∧
      file = text target (target.lines c.locales (c.defaultLocale asked) accessors) := by
  unfold emit
  cases target.plan c with
  | error locale => simp [Except.map]
  | ok accessors =>
    simp only [Except.map, Except.ok.injEq, exists_eq_left']
    exact eq_comm

end Target

end Phrasebook
