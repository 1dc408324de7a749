import Phrasebook.Proofs.Visibility

/-!
# Names that stay as they are

A member or a parameter is made of a name in up to four steps, and each of them changes only a name that
may not be used: an identifier is not cleaned, a word that is not reserved gets no underscore, and a name
that is not private gets no letter. What comes out of all steps may be used, so a second run changes
nothing.

## Contents
- `member_eq_self_iff`, `parameter_eq_self_iff`: which names are kept
- `member_member`, `parameter_parameter`: names are made once
- `kept_names`: all of this, for the words that are reserved
-/

namespace Phrasebook.Target

open Identifier

/-- A Dart parameter is made like a member, unless that is private. -/
theorem dart_parameter_eq {name : String} (h : ¬ IsPrivate (dart.member name)) :
    dart.parameter name = dart.member name := if_neg h

/-- **Members that are kept** are identifiers that are not reserved. -/
theorem member_eq_self_iff (target : Target) (name : String) :
    target.member name = name ↔ IsIdentifier name ∧ name ∉ target.reserved := by
  constructor
  · intro h
    have hname := target.isIdentifier_member name
    have hfree := target.member_not_reserved name
    rw [h] at hname hfree
    exact ⟨hname, hfree⟩
  · rintro ⟨hname, hfree⟩
    exact hname.sanitize_eq hfree

/-- **Parameters that are kept** are identifiers that are not reserved, and in Dart not private. -/
theorem parameter_eq_self_iff (target : Target) (name : String) :
    target.parameter name = name ↔
      IsIdentifier name ∧ name ∉ target.reservedParameters ∧ (target = dart → ¬ IsPrivate name) := by
  constructor
  · intro h
    have hname := target.isIdentifier_parameter name
    have hfree := target.parameter_not_reserved name
    rw [h] at hname hfree
    refine ⟨hname, hfree, ?_⟩
    rintro rfl
    rw [← h]
    exact head?_dart_parameter name
  · rintro ⟨hname, hfree, hvisible⟩
    have hsame := hname.sanitize_eq hfree
    cases target with
    | typeScript => exact hsame
    | dart =>
      have hmember : dart.member name = name := hsame
      rw [dart_parameter_eq, hmember]
      rw [hmember]
      exact hvisible rfl

/-- A member is kept as a member. -/
theorem member_member (target : Target) (name : String) :
    target.member (target.member name) = target.member name :=
  (target.member_eq_self_iff _).mpr ⟨target.isIdentifier_member name, target.member_not_reserved name⟩

/-- A parameter is kept as a parameter. -/
theorem parameter_parameter (target : Target) (name : String) :
    target.parameter (target.parameter name) = target.parameter name := by
  rw [parameter_eq_self_iff]
  refine ⟨target.isIdentifier_parameter name, target.parameter_not_reserved name, ?_⟩
  rintro rfl
  exact head?_dart_parameter name

/-- **A name is changed only where it must be.** It is its own member exactly when it is an identifier that
is not reserved. It is its own parameter exactly when, besides, it is not the function that a TypeScript
accessor calls and not private in Dart. What members and parameters are made into is made into itself. -/
theorem kept_names (target : Target) (name : String) :
    (target.member name = name ↔ IsIdentifier name ∧ name ∉ target.reserved) ∧
    target.member (target.member name) = target.member name ∧
    (target.parameter name = name ↔ IsIdentifier name ∧ name ∉ target.reserved ∧
      (target = typeScript → name ≠ "t") ∧ (target = dart → ¬ IsPrivate name)) ∧
    target.parameter (target.parameter name) = target.parameter name := by
  refine ⟨target.member_eq_self_iff name, target.member_member name, ?_,
    target.parameter_parameter name⟩
  rw [parameter_eq_self_iff, mem_reservedParameters_iff, not_or, not_and, and_assoc]

example : dart.parameter "_strings" = "p_strings_" ∧ dart.parameter "p_strings_" = "p_strings_" := by
  decide +kernel

end Phrasebook.Target
