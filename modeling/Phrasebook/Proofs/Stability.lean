import Phrasebook.Proofs.EntryOrder

/-!
# Stable names

A member is chosen from the key that it stands for and from the members of the keys below that key. So
what a catalog has above a key does not show in the accessors below it, and texts, placeholders and
locales do not show in any member.

## Contents
- `filter_planned`, `filter_plan`: the accessors below a key, from the entries below it
- `below_same`: catalogs that agree below a key
- `plan_stable`: two plans of catalogs that agree below a key, or in their keys
-/

namespace Phrasebook.Target

open Identifier

variable {target : Target} {c c' : Catalog} {accessors accessors' : List Accessor}

/-- The entries below a key are assigned what they would be without the others. -/
theorem filter_planned (target : Target) (c : Catalog) (k : String) :
    (target.planned c).filter (·.1.1 < k) =
      (c.entries.sorted.below k).zip (assign target.member [] ((c.entries.sorted.below k).map Prod.fst)) := by
  have hlist := c.entries.sorted.toList_eq_below_append k
  have hkeys : c.entries.keys = (c.entries.sorted.below k).map Prod.fst ++
      (c.entries.sorted.toList.filter (¬ ·.1 < k)).map Prod.fst := by
    rw [← List.map_append, ← hlist]
    rfl
  have hlength : (c.entries.sorted.below k).length =
      (assign target.member [] ((c.entries.sorted.below k).map Prod.fst)).length := by
    rw [length_assign, List.length_map]
  unfold planned
  rw [hkeys, assign_append, hlist, List.zip_append hlength, List.filter_append]
  -- in front all keys are below, and behind none is
  have hbelow : ∀ p ∈ (c.entries.sorted.below k).zip
      (assign target.member [] ((c.entries.sorted.below k).map Prod.fst)), decide (p.1.1 < k) = true := by
    intro p hp
    exact (List.mem_filter.mp (List.of_mem_zip hp).1).2
  have habove : ∀ members : List String,
      ((c.entries.sorted.toList.filter (¬ ·.1 < k)).zip members).filter (·.1.1 < k) = [] := by
    intro members
    rw [List.filter_eq_nil_iff]
    intro p hp
    have hnot := (List.mem_filter.mp (List.of_mem_zip hp).1).2
    rw [decide_eq_true_iff] at hnot ⊢
    exact hnot
  rw [List.filter_eq_self.mpr hbelow, habove, List.append_nil]

/-- **The accessors below a key** come from the entries below it. -/
theorem filter_plan (h : target.plan c = .ok accessors) (k : String) :
    accessors.filter (·.key < k) =
      ((c.entries.sorted.below k).zip (assign target.member [] ((c.entries.sorted.below k).map Prod.fst))).map
        (target.accessor c.locales) := by
  rw [(plan_eq_ok_iff.mp h).2, List.filter_map, ← filter_planned]
  rfl

/-- Catalogs that have the same entries below a key have them there in the same order. -/
theorem below_same {k : String}
    (h : ∀ key, key < k → Option.Rel Entry.Same (c.find? key) (c'.find? key)) :
    List.Forall₂ (PairRel Entry.Same) (c.entries.sorted.below k) (c'.entries.sorted.below k) := by
  refine forall₂_of_rel_lookup (SortedMap.below_sorted _ k) (SortedMap.below_sorted _ k) fun key => ?_
  rw [SortedMap.lookup_below, SortedMap.lookup_below, Fields.get?_sorted, Fields.get?_sorted]
  by_cases hkey : key < k
  · rw [if_pos hkey, if_pos hkey]
    exact h key hkey
  · rw [if_neg hkey, if_neg hkey]
    exact .none

/-- **Names are stable.** Catalogs of the same locales that agree in the entries below a key have the same
accessors there. Catalogs with the same keys have the same members for them. -/
theorem plan_stable (h : target.plan c = .ok accessors) (h' : target.plan c' = .ok accessors') :
    (∀ k, c.locales = c'.locales →
      (∀ key, key < k → Option.Rel Entry.Same (c.find? key) (c'.find? key)) →
      accessors.filter (·.key < k) = accessors'.filter (·.key < k)) ∧
    ((∀ key, (c.find? key).isSome = (c'.find? key).isSome) →
      accessors.map (fun a => (a.key, a.member)) = accessors'.map fun a => (a.key, a.member)) := by
  constructor
  · intro k hlocales hentries
    have hbelow := below_same hentries
    rw [filter_plan h, filter_plan h', hlocales, map_fst_of_forall₂ hbelow, map_accessor_same hbelow]
  · intro hkeys
    have hsame : c.entries.keys = c'.entries.keys := Fields.keys_congr hkeys
    rw [plan_key_members h, plan_key_members h', hsame]

/-- The colliding keys, and one more above them that asks for the name of an earlier one. -/
def extended : Catalog := colliding.update "foo_bar_3" (·.setText "en" "")

/-- The same keys again, with another text, another placeholder and a locale listed twice. -/
def retold : Catalog :=
  { extended with locales := ["en", "en"] }.update "foo-bar" fun e =>
    (e.setText "en" "new").declare ["name"]

theorem plan_stable_extended :
    ∃ before after told, dart.plan colliding = .ok before ∧ dart.plan extended = .ok after ∧
      dart.plan retold = .ok told ∧
      before.filter (·.key < "foo_bar_3") = after.filter (·.key < "foo_bar_3") ∧
      after.map (fun a => (a.key, a.member)) = told.map fun a => (a.key, a.member) := by
  obtain ⟨before, hbefore⟩ : ∃ accessors, dart.plan colliding = .ok accessors := ⟨_, rfl⟩
  obtain ⟨after, hafter⟩ : ∃ accessors, dart.plan extended = .ok accessors := ⟨_, rfl⟩
  obtain ⟨told, htold⟩ : ∃ accessors, dart.plan retold = .ok accessors := ⟨_, rfl⟩
  refine ⟨before, after, told, hbefore, hafter, htold, ?_, ?_⟩
  · have hlocales : colliding.locales = extended.locales := by
      simp only [extended, Catalog.update]
    refine (plan_stable hbefore hafter).1 "foo_bar_3" hlocales fun key hkey => ?_
    have hne : key ≠ "foo_bar_3" := by
      rintro rfl
      exact String.lt_irrefl _ hkey
    unfold extended
    rw [Catalog.find?_update, if_neg hne]
    exact rel_refl Entry.Same.refl _
  · refine (plan_stable hafter htold).2 fun key => ?_
    unfold retold
    rw [Catalog.find?_update]
    by_cases hkey : key = "foo-bar"
    · rw [if_pos hkey, hkey]
      rfl
    · rw [if_neg hkey]
      rfl

end Phrasebook.Target
