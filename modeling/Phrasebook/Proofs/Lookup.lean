import Mathlib.Data.List.Induction
import Phrasebook.Proofs.Build
import Phrasebook.Proofs.ReadBack
import Phrasebook.Proofs.Requests

/-!
# Looking a text up

What the generated code finds when it is asked for a key. It takes the locale that it is asked for, or
the default one, and looks in its table; where the table had no row, it would return the key. The locales,
the default one, the table and the keys that the members look up stand in four places of a file. They agree
when the file was written for a completed catalog with a locale, so that no lookup misses.

## Contents
- `Contents.resolveLocale`, `Contents.text?`, `Contents.template`: what the generated code does
- `Contents.Holds`, `text?_of_holds`: rows of the table that are found
- `Target.calledKeys`, `calledKeys_emit`: the keys that the members look up
- `holds_emit`: the rows of a file
- `lookup_of_validate`: every lookup hits
-/

namespace Phrasebook

/-- The last value of a name counts, so one that all its values agree on does. -/
theorem Fields.get?_ofList_of_forall {α : Type} {pairs : List (String × α)} {name : String} {value : α}
    (hmem : (name, value) ∈ pairs) (hall : ∀ p ∈ pairs, p.1 = name → p.2 = value) :
    (ofList pairs).get? name = some value := by
  induction pairs using List.reverseRecOn with
  | nil => cases hmem
  | append_singleton rest p ih =>
    have hconcat : ofList (rest ++ [p]) = (ofList rest).put p.1 p.2 := List.foldl_concat ..
    rw [List.forall_mem_append, List.forall_mem_singleton] at hall
    rw [hconcat, get?_put]
    by_cases hname : name = p.1
    · rw [if_pos hname, hall.2 hname.symm]
    · rw [if_neg hname]
      refine ih ?_ hall.1
      rcases List.mem_append.mp hmem with hrest | hlast
      · exact hrest
      · obtain rfl := List.mem_singleton.mp hlast
        exact absurd rfl hname

/-! ## The generated code -/

namespace Contents

/-- The locale that stands for the one that is asked for. -/
def resolveLocale (f : Contents) (asked : String) : String :=
  if f.locales.contains asked then asked else f.defaultLocale

/-- The table of all texts. As a literal is read, the last of the rows for a repeated locale counts. -/
def table (f : Contents) : Fields (Fields String) :=
  .ofList (f.accessors.map fun a => (a.key, a.texts))

/-- The text in the table under a key for a locale. -/
def text? (f : Contents) (key locale : String) : Option String :=
  (f.table.get? key).bind fun texts => texts.get? locale

/-- The template that is filled for a key; the key itself where the table has no text. -/
def template (f : Contents) (key asked : String) : String :=
  (f.text? key (f.resolveLocale asked)).getD key

/-- The table **holds** a text under a key for a locale: it has a row with the two, and no other row for the
locale has another text. -/
def Holds (f : Contents) (key locale text : String) : Prop :=
  ∃ a ∈ f.accessors, a.key = key ∧ (locale, text) ∈ a.rows ∧
    ∀ row ∈ a.rows, row.1 = locale → row.2 = text

variable {f : Contents} {key locale text : String}

/-- A locale that the code falls back to is one that it has. -/
theorem resolveLocale_mem (h : f.defaultLocale ∈ f.locales) (asked : String) :
    f.resolveLocale asked ∈ f.locales := by
  unfold resolveLocale
  split
  · rename_i hcontains
    exact List.contains_iff_mem.mp hcontains
  · exact h

/-- A locale that the code has stands for itself, so that it does not matter how often it is resolved. -/
theorem resolveLocale_of_mem (h : locale ∈ f.locales) : f.resolveLocale locale = locale :=
  if_pos (List.contains_iff_mem.mpr h)

/-- **What the table holds is found**, when its keys are distinct. -/
theorem text?_of_holds (hnodup : (f.accessors.map Accessor.key).Nodup) (h : f.Holds key locale text) :
    f.text? key locale = some text := by
  obtain ⟨a, ha, rfl, hrow, hall⟩ := h
  have htable : f.table.get? a.key = some a.texts := by
    refine Fields.get?_ofList_of_forall (List.mem_map_of_mem ha) ?_
    rw [List.forall_mem_map]
    -- no other accessor has the key
    intro b hb hkey
    rw [List.inj_on_of_nodup_map hnodup hb ha hkey]
  unfold text?
  rw [htable, Option.bind_some]
  exact Fields.get?_ofList_of_forall hrow hall

end Contents

/-! ## The keys that the members look up -/

/-- The line of a member that looks a text up: the last one of a Dart member, and the one behind the head of
a TypeScript member. -/
def Target.callLine (target : Target) (block : List (List Token)) : List Token :=
  match target with
  | dart => block.getLastD []
  | typeScript => block.getD 1 []

/-- The key that a member looks up: the first literal of that line. -/
def Target.calledKey? (target : Target) (block : List (List Token)) : Option String :=
  (Token.literals (target.callLine block)).head?

/-- The keys that the members of a file look up. The members are the last blocks, one for each accessor. -/
def Target.calledKeys (target : Target) (file : String) : List String :=
  let blocks := target.blocks file
  (blocks.drop (blocks.length - (target.read file).accessors.length)).filterMap target.calledKey?

section CalledKeys

open Source

/-- The key stands first in a call, whatever is passed behind it. -/
theorem head?_literals_call (opener key : String) (rest : Line) :
    (Token.literals (lineTokens (.code opener :: .literal key :: rest))).head? = some key := by
  rw [literals_lineTokens]
  rfl

theorem Dart.calledKey?_block (a : Accessor) :
    Target.dart.calledKey? ((memberBlock accessorLines a).map lineTokens) = some a.key := by
  dsimp only [memberBlock, accessorLines, Target.calledKey?, Target.callLine]
  split
  · exact head?_literals_call ("  String get " ++ a.member ++ " => t(") a.key _
  · exact head?_literals_call "      t(" a.key _

theorem TypeScript.calledKey?_block (a : Accessor) :
    Target.typeScript.calledKey? ((memberBlock accessorLines a).map lineTokens) = some a.key := by
  dsimp only [memberBlock, accessorLines, Target.calledKey?, Target.callLine]
  split
  · exact head?_literals_call "    return t(this.locale, " a.key _
  · exact head?_literals_call "    return t(this.locale, " a.key _

end CalledKeys

namespace Target

variable {target : Target} {asked file : String} {c : Catalog} {accessors : List Accessor}

/-- The keys that are looked up by members whose blocks are the last ones. -/
theorem calledKeys_of_blocks (front : List (List (List Token)))
    {block : Accessor → List (List Token)} (hblocks : target.blocks file = front ++ accessors.map block)
    (hread : (target.read file).accessors = accessors)
    (hblock : ∀ a, target.calledKey? (block a) = some a.key) :
    target.calledKeys file = accessors.map Accessor.key := by
  have hkeys : target.calledKey? ∘ block = some ∘ Accessor.key := funext hblock
  dsimp only [calledKeys]
  rw [hread, hblocks, drop_length_sub front (List.length_map _), List.filterMap_map, hkeys,
    List.filterMap_eq_map]

/-- **The members of a file look up the keys of its catalog**, each one once and in increasing order. -/
theorem calledKeys_emit (h : target.emit asked c = .ok file) :
    target.calledKeys file = c.entries.keys := by
  obtain ⟨accessors, hplan, rfl⟩ := emit_eq_ok_iff.mp h
  have hnamed := isNamed_plan hplan
  have hread := congrArg Contents.accessors (read_lines hplan (c.defaultLocale asked))
  rw [← plan_keys hplan]
  cases target with
  | dart =>
    obtain ⟨first, hblocks⟩ := Dart.blocks_lines c.locales (c.defaultLocale asked) hnamed
    exact calledKeys_of_blocks (first :: _ :: _ :: _ :: _) hblocks hread
      Dart.calledKey?_block
  | typeScript =>
    obtain ⟨first, localeType, hblocks⟩ :=
      TypeScript.blocks_lines c.locales (c.defaultLocale asked) hnamed
    exact calledKeys_of_blocks (first :: _ :: _ :: _ :: _ :: _ :: _) hblocks hread
      TypeScript.calledKey?_block

/-! ## The table of a file -/

/-- **The table of a file holds the texts of its catalog**, one for each key and locale. -/
theorem holds_emit (h : target.emit asked c = .ok file) {key l : String} (hkey : key ∈ c.entries.keys)
    (hl : l ∈ c.locales) :
    ∃ text, c.text? key l = some text ∧ (target.read file).Holds key l text := by
  obtain ⟨accessors, hplan, hread, hkeys, -⟩ := read_emit h
  rw [← hkeys] at hkey
  obtain ⟨a, ha, rfl⟩ := List.mem_map.mp hkey
  obtain ⟨e, hfind, hgap, -, hrows⟩ := mem_plan hplan ha
  obtain ⟨text, htext, hrow⟩ := Entry.row_of_firstGap? hgap hl
  refine ⟨text, ?_, a, ?_, rfl, ?_, ?_⟩
  · rw [Catalog.text?, hfind, Option.bind_some, htext]
  · rw [hread]
    exact ha
  · rw [hrows, ← hrow]
    exact List.mem_map_of_mem hl
  · -- each row is made from its locale, so that repeated locales have equal rows
    rw [hrows, List.forall_mem_map]
    intro l' hl' hsame
    obtain rfl : l' = l := hsame
    rw [hrow]

/-- The keys of the table are distinct. -/
theorem nodup_keys_read (h : target.emit asked c = .ok file) :
    ((target.read file).accessors.map Accessor.key).Nodup := by
  obtain ⟨accessors, -, hread, hkeys, -⟩ := read_emit h
  rw [hread]
  dsimp only
  rw [hkeys]
  exact c.entries.keys_nodup

end Target

/-- The locale to fall back to is one of the catalog's, if it has any, and the one asked for if it has
that. -/
theorem Catalog.defaultLocale_mem {c : Catalog} (h : c.locales ≠ []) (asked : String) :
    c.defaultLocale asked ∈ c.locales ∧ (asked ∈ c.locales → c.defaultLocale asked = asked) := by
  unfold defaultLocale
  split
  · rename_i hcontains
    exact ⟨List.contains_iff_mem.mp hcontains, fun _ => rfl⟩
  · rename_i hnot
    refine ⟨?_, fun hmem => absurd (List.contains_iff_mem.mpr hmem) hnot⟩
    obtain ⟨first, rest, hcons⟩ := List.exists_cons_of_ne_nil h
    rw [hcons]
    exact List.mem_cons_self

/-! ## Every lookup hits -/

namespace Catalog

/-- **Every lookup of the generated code hits.** A catalog that has been completed and has a locale is
written to a file. The locale to fall back to in the file is one of its locales, and the one that was asked
for if the catalog has that; its members look up the keys of the catalog. Whatever locale a key is asked
for, it is resolved to one of the locales, and to the same when it is resolved again; under that the table
holds the text of the catalog, so the code finds this and never returns the key in its place. -/
theorem lookup_of_validate {c : Catalog} {fallback : Option String}
    (hvalid : ∃ answer, (c.step (.validate fallback)).2.outcome = .ok answer)
    (hlocales : c.locales ≠ []) (target : Target) (asked : String) :
    ∃ file, target.emit asked (c.step (.validate fallback)).1 = .ok file ∧
      (target.read file).locales = c.locales ∧
      (target.read file).defaultLocale ∈ c.locales ∧
      (asked ∈ c.locales → (target.read file).defaultLocale = asked) ∧
      target.calledKeys file = c.entries.keys ∧
      ∀ key ∈ target.calledKeys file, ∀ r,
        let locale := (target.read file).resolveLocale r
        locale ∈ c.locales ∧ (target.read file).resolveLocale locale = locale ∧
        ∃ text, (c.step (.validate fallback)).1.text? key locale = some text ∧
          (target.read file).Holds key locale text ∧
          (target.read file).text? key locale = some text ∧
          (target.read file).template key r = text := by
  have hgap : (c.validate fallback).gap? = none := outcome_validate_eq_ok_iff.mp hvalid
  obtain ⟨file, hemit⟩ := target.emit_of_firstGap? (firstGap?_validate hgap) asked
  obtain ⟨accessors, -, hread, -⟩ := Target.read_emit hemit
  have hkeys : target.calledKeys file = c.entries.keys := by
    rw [Target.calledKeys_emit hemit, keys_validate]
  have hlist : (target.read file).locales = c.locales := by
    rw [hread]
    rfl
  have hdefault : (target.read file).defaultLocale = c.defaultLocale asked := by
    rw [hread]
    rfl
  obtain ⟨hmem, hasked⟩ := defaultLocale_mem hlocales asked
  have hfallback : (target.read file).defaultLocale ∈ c.locales := by
    rw [hdefault]
    exact hmem
  refine ⟨file, hemit, hlist, hfallback, ?_, hkeys, ?_⟩
  · intro hlisted
    rw [hdefault]
    exact hasked hlisted
  · intro key hkey r locale
    have hresolved : locale ∈ (target.read file).locales := by
      refine Contents.resolveLocale_mem ?_ r
      rw [hlist]
      exact hfallback
    have hlocale : locale ∈ c.locales := by
      rw [← hlist]
      exact hresolved
    have hkept : (c.step (.validate fallback)).1.entries.keys = c.entries.keys := keys_validate
    rw [hkeys, ← hkept] at hkey
    obtain ⟨text, htext, hholds⟩ := Target.holds_emit hemit hkey hlocale
    have hfound : (target.read file).text? key locale = some text :=
      Contents.text?_of_holds (Target.nodup_keys_read hemit) hholds
    refine ⟨hlocale, Contents.resolveLocale_of_mem hresolved, text, htext, hholds, hfound, ?_⟩
    show ((target.read file).text? key locale).getD key = text
    rw [hfound, Option.getD_some]

/-- A catalog with a repeated locale, and a key that lacks a text for the other one. -/
def awayFromHome : Catalog :=
  ["it's", "de"].foldl (fun c key => c.update key fun e => (e.setText "en" "'\n").declare ["de"])
    (.ofLocales ["de", "en", "de"])

theorem lookup_of_validate_awayFromHome :
    (∃ answer, (awayFromHome.step (.validate (some "en"))).2.outcome = .ok answer) ∧
      awayFromHome.locales ≠ [] ∧
      ∃ file, Target.dart.emit "fr" (awayFromHome.step (.validate (some "en"))).1 = .ok file ∧
        Target.dart.calledKeys file = ["de", "it's"] ∧
        (Target.dart.read file).template "it's" "fr" = "'\n" := by
  have hvalid : ∃ answer, (awayFromHome.step (.validate (some "en"))).2.outcome = .ok answer :=
    ⟨_, rfl⟩
  have hlocales : awayFromHome.locales ≠ [] := by decide
  obtain ⟨file, hemit, -, -, -, hkeys, hhit⟩ := lookup_of_validate hvalid hlocales .dart "fr"
  have hcalled : Target.dart.calledKeys file = ["de", "it's"] := by
    rw [hkeys]
    rfl
  refine ⟨hvalid, hlocales, file, hemit, hcalled, ?_⟩
  obtain ⟨hlocale, -, text, htext, -, -, htemplate⟩ :=
    hhit "it's" (hcalled ▸ List.mem_cons_of_mem _ List.mem_cons_self) "fr"
  rw [htemplate]
  -- the text is the same for each of the locales
  have hsame : ∀ l ∈ awayFromHome.locales,
      (awayFromHome.step (.validate (some "en"))).1.text? "it's" l = some "'\n" := by decide +kernel
  rw [hsame _ hlocale] at htext
  exact (Option.some.inj htext).symm

end Catalog

end Phrasebook
