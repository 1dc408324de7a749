import Phrasebook.Proofs.Completion
import Phrasebook.Proofs.Identifier
import Phrasebook.Target.Plan

/-!
# The plan in closed form

A plan fails at the first locale for which the first incomplete entry has no text. Otherwise it is one
accessor for each entry, so its keys, members, parameters and rows are lists that can be read off the
catalog, and what holds of assigned identifiers holds of its names.

## Contents
- `Entry.rows_eq`, `Target.accessors_eq`, `Target.plan_eq`: the closed forms
- `plan_keys`, `plan_members`, `plan_key_members`, `mem_plan`: the accessors of a plan
- `plan_names`: every assigned name is usable and unambiguous
-/

namespace Phrasebook

/-! ## Closed forms -/

namespace Entry

/-- The row of a locale in an entry that has a text for it. -/
def row (e : Entry) (locale : String) : String × String := (locale, (e.texts.get? locale).getD "")

/-- An entry without a gap has a text for each locale, and it stands in the row. -/
theorem row_of_firstGap? {e : Entry} {locales : List String} {l : String}
    (h : e.firstGap? locales = none) (hl : l ∈ locales) :
    ∃ text, e.texts.get? l = some text ∧ e.row l = (l, text) := by
  obtain ⟨text, htext⟩ := Option.isSome_iff_exists.mp (firstGap?_eq_none_iff.mp h l hl)
  refine ⟨text, htext, ?_⟩
  rw [row, htext, Option.getD_some]

/-- The rows of an entry without a gap hold its texts. -/
theorem map_row_eq {e : Entry} {locales : List String} (h : e.firstGap? locales = none) :
    (locales.map e.row).map (fun row => (row.1, some row.2)) =
      locales.map fun l => (l, e.texts.get? l) := by
  rw [List.map_map]
  refine List.map_congr_left fun l hl => ?_
  obtain ⟨text, htext, hrow⟩ := row_of_firstGap? h hl
  rw [Function.comp_apply, hrow, htext]

/-- The rows of an entry stop at its first gap; without one there is a row for every locale. -/
theorem rows_eq (e : Entry) (locales : List String) :
    e.rows locales = match e.firstGap? locales with
      | some locale => .error locale
      | none => .ok (locales.map e.row) := by
  induction locales with
  | nil => rfl
  | cons locale rest ih =>
    rw [firstGap?_cons]
    unfold rows
    cases hget : e.texts.get? locale with
    | none => simp [Fields.contains, hget]
    | some text =>
      simp only [Fields.contains, hget, Option.isSome_some, if_true]
      -- the first gap of the rest is the first gap of all
      rw [ih]
      cases e.firstGap? rest with
      | some l => rfl
      | none => simp [Except.map, row, hget]

end Entry

namespace Target
open Identifier

/-- The accessor of a complete entry under a key and a member. -/
def accessor (target : Target) (locales : List String) (p : (String × Entry) × String) : Accessor :=
  ⟨p.1.1, p.2, target.parameters p.1.2, locales.map p.1.2.row⟩

theorem accessors_eq (target : Target) (locales : List String)
    (pairs : List ((String × Entry) × String)) :
    target.accessors locales pairs =
      match pairs.findSome? fun p => p.1.2.firstGap? locales with
      | some locale => .error locale
      | none => .ok (pairs.map (target.accessor locales)) := by
  induction pairs with
  | nil => rfl
  | cons p rest ih =>
    obtain ⟨⟨key, e⟩, member⟩ := p
    simp only [accessors, List.findSome?_cons]
    rw [Entry.rows_eq]
    cases e.firstGap? locales with
    | some locale => rfl
    | none =>
      dsimp only
      rw [ih]
      cases rest.findSome? fun p => p.1.2.firstGap? locales with
      | some locale => rfl
      | none => rfl

/-- The entries of a catalog with their keys and the members assigned to them. -/
def planned (target : Target) (c : Catalog) : List ((String × Entry) × String) :=
  c.entries.sorted.toList.zip (assign target.member [] c.entries.keys)

theorem map_fst_planned (target : Target) (c : Catalog) :
    (target.planned c).map Prod.fst = c.entries.sorted.toList :=
  List.map_fst_zip (by simp [Fields.keys, SortedMap.keys])

theorem map_snd_planned (target : Target) (c : Catalog) :
    (target.planned c).map Prod.snd = assign target.member [] c.entries.keys :=
  List.map_snd_zip (by simp [Fields.keys, SortedMap.keys])

/-- **The plan in closed form.** It fails exactly at the first gap of the catalog. -/
theorem plan_eq (target : Target) (c : Catalog) :
    target.plan c = match c.firstGap? with
      | some locale => .error locale
      | none => .ok ((target.planned c).map (target.accessor c.locales)) := by
  have hgap : ((target.planned c).findSome? fun p => p.1.2.firstGap? c.locales) = c.firstGap? := by
    unfold Catalog.firstGap?
    rw [← map_fst_planned target c, List.findSome?_map]
    rfl
  rw [← hgap]
  exact accessors_eq target c.locales (target.planned c)

/-! ## The accessors of a plan -/

variable {target : Target} {c : Catalog} {accessors : List Accessor}

theorem plan_eq_ok_iff :
    target.plan c = .ok accessors ↔
      c.firstGap? = none ∧ accessors = (target.planned c).map (target.accessor c.locales) := by
  rw [plan_eq]
  cases c.firstGap? with
  | some locale => simp
  | none =>
    simp only [Except.ok.injEq, true_and]
    exact eq_comm

theorem plan_keys (h : target.plan c = .ok accessors) :
    accessors.map Accessor.key = c.entries.keys := by
  rw [(plan_eq_ok_iff.mp h).2, List.map_map, ← Fields.map_fst_sorted, ← map_fst_planned target c,
    List.map_map]
  rfl

theorem plan_members (h : target.plan c = .ok accessors) :
    accessors.map Accessor.member = assign target.member [] c.entries.keys := by
  rw [(plan_eq_ok_iff.mp h).2, List.map_map, ← map_snd_planned target c]
  rfl

/-- The keys of a plan with their members: what is assigned to the keys of the catalog. -/
theorem plan_key_members (h : target.plan c = .ok accessors) :
    accessors.map (fun a => (a.key, a.member)) =
      c.entries.keys.zip (assign target.member [] c.entries.keys) := by
  rw [← plan_members h, ← plan_keys h, List.zip_map']

/-- An accessor of a plan has the parameters and the rows of the entry of its key. -/
theorem mem_plan (h : target.plan c = .ok accessors) {a : Accessor} (ha : a ∈ accessors) :
    ∃ e, c.find? a.key = some e ∧ e.firstGap? c.locales = none ∧
      a.parameters = target.parameters e ∧ a.rows = c.locales.map e.row := by
  obtain ⟨hgap, rfl⟩ := plan_eq_ok_iff.mp h
  obtain ⟨p, hp, rfl⟩ := List.mem_map.mp ha
  have hmem : p.1 ∈ c.entries.sorted.toList := by
    rw [← map_fst_planned target c]
    exact List.mem_map_of_mem hp
  refine ⟨p.1.2, Fields.mem_sorted.mp hmem, ?_, rfl, rfl⟩
  exact List.findSome?_eq_none_iff.mp hgap p.1 hmem

/-! ## Names -/

theorem parameters_eq (target : Target) (e : Entry) :
    target.parameters e =
      (e.placeholders.toNames.zip (assign target.parameter [] e.placeholders.toNames)).map
        fun p => ⟨p.1, p.2⟩ := by
  rw [List.map_zip_eq_zipWith]
  rfl

theorem map_name_parameters (target : Target) (e : Entry) :
    (target.parameters e).map Parameter.name = e.placeholders.toNames := by
  rw [parameters_eq, List.map_map]
  exact List.map_fst_zip (by simp)

theorem map_identifier_parameters (target : Target) (e : Entry) :
    (target.parameters e).map Parameter.identifier =
      assign target.parameter [] e.placeholders.toNames := by
  rw [parameters_eq, List.map_map]
  exact List.map_snd_zip (by simp)

/-- A member of a plan is the one that its key asks for, or a numbered variant of it. -/
theorem member_eq_unique (h : target.plan c = .ok accessors) {a : Accessor} (ha : a ∈ accessors) :
    ∃ others, a.member = unique (target.member a.key) others := by
  have hmem : (a.key, a.member) ∈ accessors.map fun a => (a.key, a.member) :=
    List.mem_map_of_mem ha
  rw [plan_key_members h] at hmem
  exact eq_unique_of_mem_zip hmem

/-- The identifier of a parameter is the one that its placeholder asks for, or a numbered variant of it. -/
theorem identifier_eq_unique {e : Entry} {p : Parameter} (hp : p ∈ target.parameters e) :
    ∃ others, p.identifier = unique (target.parameter p.name) others := by
  rw [parameters_eq] at hp
  obtain ⟨q, hq, rfl⟩ := List.mem_map.mp hp
  exact eq_unique_of_mem_zip hq

theorem isIdentifier_plan_member (h : target.plan c = .ok accessors) {a : Accessor}
    (ha : a ∈ accessors) : IsIdentifier a.member := by
  obtain ⟨others, heq⟩ := member_eq_unique h ha
  have hkey := target.isIdentifier_member a.key
  rw [heq]
  exact unique_induction hkey hkey.numbered others

theorem plan_member_not_reserved (h : target.plan c = .ok accessors) {a : Accessor}
    (ha : a ∈ accessors) : a.member ∉ target.reserved := by
  obtain ⟨others, heq⟩ := member_eq_unique h ha
  rw [heq]
  exact unique_induction (motive := (· ∉ target.reserved)) (target.member_not_reserved a.key)
    (numbered_not_mem target.endInLetters_reserved _) others

theorem isIdentifier_parameters {e : Entry} {p : Parameter} (hp : p ∈ target.parameters e) :
    IsIdentifier p.identifier := by
  obtain ⟨others, heq⟩ := identifier_eq_unique hp
  have hname := target.isIdentifier_parameter p.name
  rw [heq]
  exact unique_induction hname hname.numbered others

theorem parameters_not_reserved {e : Entry} {p : Parameter} (hp : p ∈ target.parameters e) :
    p.identifier ∉ target.reservedParameters := by
  obtain ⟨others, heq⟩ := identifier_eq_unique hp
  rw [heq]
  exact unique_induction (motive := (· ∉ target.reservedParameters))
    (target.parameter_not_reserved p.name)
    (numbered_not_mem target.endInLetters_reservedParameters _) others

/-- A parameter of Dart is not private, whatever number it got. -/
theorem head?_dart_parameters {e : Entry} {p : Parameter} (hp : p ∈ dart.parameters e) :
    p.identifier.toList.head? ≠ some '_' := by
  obtain ⟨others, heq⟩ := identifier_eq_unique hp
  rw [heq, head?_unique (dart.isIdentifier_parameter p.name).toList_ne_nil]
  exact head?_dart_parameter p.name

/-- **Every name that a plan assigns is usable and unambiguous.** The members of the accessors are
distinct identifiers that are not reserved. Those of the parameters of one accessor are too, a named
parameter of Dart is not private, and they belong to the placeholders of the entry, each once and in
increasing order. -/
theorem plan_names (h : target.plan c = .ok accessors) :
    (accessors.map Accessor.member).Nodup ∧
    (∀ a ∈ accessors, IsIdentifier a.member ∧ a.member ∉ target.reserved) ∧
    ∀ a ∈ accessors,
      (a.parameters.map Parameter.identifier).Nodup ∧
      (∀ p ∈ a.parameters, IsIdentifier p.identifier ∧ p.identifier ∉ target.reservedParameters ∧
        (target = dart → p.identifier.toList.head? ≠ some '_')) ∧
      (a.parameters.map Parameter.name).Pairwise (· < ·) ∧
      ∃ e, c.find? a.key = some e ∧ a.parameters.map Parameter.name = e.placeholders.toNames := by
  refine ⟨?_, fun a ha => ⟨isIdentifier_plan_member h ha, plan_member_not_reserved h ha⟩, ?_⟩
  · rw [plan_members h]
    exact assign_nodup target.member [] c.entries.keys
  · intro a ha
    obtain ⟨e, hfind, -, hparams, -⟩ := mem_plan h ha
    rw [hparams, map_identifier_parameters, map_name_parameters]
    refine ⟨assign_nodup target.parameter [] _, fun p hp => ?_, e.placeholders.keys_sorted, e, hfind, rfl⟩
    refine ⟨isIdentifier_parameters hp, parameters_not_reserved hp, ?_⟩
    rintro rfl
    exact head?_dart_parameters hp

/-- Keys and placeholders that are cleaned to one identifier, to a reserved word or to a private name. -/
def colliding : Catalog :=
  ["class", "class_", "foo-bar", "foo.bar", "foo_bar", "foo_bar_2"].foldl
    (fun c key => c.update key fun e => (e.setText "en" "").declare ["_a", "-a", "1", "for"])
    (.ofLocales ["en"])

theorem plan_names_colliding :
    ∃ accessors, dart.plan colliding = .ok accessors ∧
      accessors.map Accessor.member =
        ["class_", "class__2", "foo_bar", "foo_bar_2", "foo_bar_3", "foo_bar_2_2"] ∧
      (accessors.map Accessor.member).Nodup ∧
      (∀ a ∈ accessors, IsIdentifier a.member ∧ a.member ∉ dart.reserved) ∧
      ∀ a ∈ accessors, (a.parameters.map Parameter.identifier).Nodup ∧
        ∀ p ∈ a.parameters, p.identifier.toList.head? ≠ some '_' := by
  obtain ⟨accessors, h⟩ : ∃ accessors, dart.plan colliding = .ok accessors := ⟨_, rfl⟩
  obtain ⟨hnodup, hmembers, hparams⟩ := plan_names h
  refine ⟨accessors, h, ?_, hnodup, hmembers, fun a ha => ⟨(hparams a ha).1, fun p hp => ?_⟩⟩
  · rw [plan_members h]
    decide +kernel
  · exact ((hparams a ha).2.1 p hp).2.2 rfl

end Target

end Phrasebook
