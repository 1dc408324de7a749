import Phrasebook.Proofs.Plan

/-!
# Names that are private in Dart

A name that starts with an underscore is private to its Dart library. A parameter gets a letter in front
of such a name; a member gets none. So the accessor of a key is private exactly when the first character
of the key is replaced by an underscore, or is one.

## Contents
- `IsPrivate`: private names
- `isPrivate_clean_iff`, `isPrivate_sanitize_iff`, `isPrivate_member_iff`: how the member that a key asks for starts
- `private_members_of_plan`: which accessors of a plan are private
-/

namespace Phrasebook

namespace Identifier

/-- An identifier is **private** when it starts with an underscore. -/
def IsPrivate (identifier : String) : Prop := identifier.toList.head? = some '_'

instance (identifier : String) : Decidable (IsPrivate identifier) :=
  inferInstanceAs (Decidable (identifier.toList.head? = some '_'))

/-- A name **starts beside letters and digits** when its first character is neither. -/
def StartsBeside (name : String) : Prop :=
  ∃ c, name.toList.head? = some c ∧ c.isAlphanum = false

/-- A character becomes the underscore unless it is a letter or a digit. -/
theorem cleanChar_eq_underscore_iff {c : Char} : cleanChar c = '_' ↔ c.isAlphanum = false := by
  unfold cleanChar
  split
  · rename_i hname
    constructor
    · rintro rfl
      rfl
    · intro hother
      simpa [Template.isNameChar, hother] using hname
  · rename_i hname
    simp only [Template.isNameChar, Bool.or_eq_true, not_or, Bool.not_eq_true] at hname
    simp only [hname.1]

/-- What is put in front of a name is no underscore. -/
theorem not_isPrivate_safePrefix (s : String) : ¬ IsPrivate (safePrefix ++ s) := by
  intro h
  unfold IsPrivate at h
  rw [String.toList_append] at h
  cases h

/-- A cleaned name is private when its first character was replaced by an underscore, or was one. -/
theorem isPrivate_clean_iff (name : String) :
    IsPrivate (clean safePrefix name) ↔ StartsBeside name := by
  dsimp only [clean]
  unfold StartsBeside
  cases name.toList with
  | nil =>
    constructor
    · intro h
      exact absurd h (not_isPrivate_safePrefix "")
    · rintro ⟨c, hc, -⟩
      cases hc
  | cons c cs =>
    rw [List.map_cons, List.head?_cons]
    simp only [Option.some_inj, exists_eq_left']
    split
    · rename_i hdigit
      constructor
      · intro h
        exact absurd h (not_isPrivate_safePrefix _)
      · -- a digit stays one
        intro hc
        rw [cleanChar_eq_underscore_iff.mpr hc] at hdigit
        cases hdigit
    · unfold IsPrivate
      rw [String.toList_ofList, List.head?_cons, Option.some_inj, cleanChar_eq_underscore_iff]

/-- An underscore at the end of a reserved word does not change how it starts. -/
theorem isPrivate_sanitize_iff (reserved : List String) (name : String) :
    IsPrivate (sanitize reserved safePrefix name) ↔ StartsBeside name := by
  rw [← isPrivate_clean_iff]
  dsimp only [sanitize]
  split
  · unfold IsPrivate
    rw [String.toList_append, List.head?_append_of_ne_nil _ (isIdentifier_clean name).toList_ne_nil]
  · exact Iff.rfl

end Identifier

namespace Target
open Identifier

variable {c : Catalog} {accessors : List Accessor}

/-- The member of an accessor starts as the one that its key asks for. -/
theorem isPrivate_member_iff {target : Target} (h : target.plan c = .ok accessors) {a : Accessor}
    (ha : a ∈ accessors) : IsPrivate a.member ↔ StartsBeside a.key := by
  obtain ⟨others, heq⟩ := member_eq_unique h ha
  have hstart : IsPrivate a.member ↔ IsPrivate (target.member a.key) := by
    unfold IsPrivate
    rw [heq, head?_unique (target.isIdentifier_member a.key).toList_ne_nil]
  rw [hstart]
  exact isPrivate_sanitize_iff target.reserved a.key

/-- **Which accessors are private.** The member of a key is private exactly when the key starts with
something other than a letter or a digit; it is visible for all other keys, the empty one among them. So a
library has no private accessor exactly when none of its keys starts so. The parameters of its accessors
are never private. -/
theorem private_members_of_plan (h : dart.plan c = .ok accessors) :
    (∀ a ∈ accessors, IsPrivate a.member ↔ StartsBeside a.key) ∧
    ((∀ a ∈ accessors, ¬ IsPrivate a.member) ↔ ∀ key ∈ c.entries.keys, ¬ StartsBeside key) ∧
    ∀ a ∈ accessors, ∀ p ∈ a.parameters, ¬ IsPrivate p.identifier := by
  refine ⟨fun a ha => isPrivate_member_iff h ha, ?_, ?_⟩
  · rw [← plan_keys h, List.forall_mem_map]
    constructor
    · intro hvisible a ha hkey
      exact hvisible a ha ((isPrivate_member_iff h ha).mpr hkey)
    · intro hkeys a ha hprivate
      exact hkeys a ha ((isPrivate_member_iff h ha).mp hprivate)
  · intro a ha p hp
    obtain ⟨e, -, -, hparameters, -⟩ := mem_plan h ha
    rw [hparameters] at hp
    exact head?_dart_parameters hp

/-- Keys that start with all kinds of characters, with a placeholder that starts with an underscore. -/
def variouslyStarted : Catalog :=
  ["", "1st", "_count", "_strings", "count", "été", "日"].foldl
    (fun c key => c.update key fun e => (e.setText "en" "").declare ["_n"]) (.ofLocales ["en"])

theorem private_members_of_plan_variouslyStarted :
    ∃ accessors, dart.plan variouslyStarted = .ok accessors ∧
      accessors.map (fun a => (a.member, decide (IsPrivate a.member))) =
        [("k_", false), ("k_1st", false), ("_count", true), ("_strings_", true), ("count", false),
          ("_t_", true), ("_", true)] ∧
      (∀ a ∈ accessors, IsPrivate a.member ↔ StartsBeside a.key) ∧
      ∀ a ∈ accessors, ∀ p ∈ a.parameters, ¬ IsPrivate p.identifier := by
  obtain ⟨accessors, h⟩ : ∃ accessors, dart.plan variouslyStarted = .ok accessors := ⟨_, rfl⟩
  obtain ⟨hmembers, -, hparameters⟩ := private_members_of_plan h
  refine ⟨accessors, h, ?_, hmembers, hparameters⟩
  have hnames : (accessors.map Accessor.member).map (fun m => (m, decide (IsPrivate m))) =
      [("k_", false), ("k_1st", false), ("_count", true), ("_strings_", true), ("count", false),
        ("_t_", true), ("_", true)] := by
    rw [plan_members h]
    decide +kernel
  rw [List.map_map] at hnames
  exact hnames

/-- **An accessor can be private.** The member of a key that starts with an underscore does so too. -/
theorem member_can_be_private :
    ¬ ∀ (c : Catalog) (accessors : List Accessor), dart.plan c = .ok accessors →
      ∀ a ∈ accessors, ¬ IsPrivate a.member := by
  intro hnever
  let c : Catalog := (Catalog.ofLocales ["en"]).update "_count" (·.setText "en" "x")
  have hplan : dart.plan c = .ok [⟨"_count", "_count", [], [("en", "x")]⟩] := by decide +kernel
  exact hnever c _ hplan _ List.mem_cons_self (by decide)

end Target

end Phrasebook
