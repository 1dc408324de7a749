import Mathlib.Data.Finset.Card
import Phrasebook.Proofs.Letters
import Phrasebook.Target.Basic

/-!
# Identifiers: grammar, reserved words, freedom

What the way from an arbitrary name to an identifier keeps at each of its steps. Cleaning gives an
identifier; the underscore and the number that later steps append keep it one and cannot make it
reserved, because every reserved word ends in a letter.

## Contents
- `IsIdentifier`: the grammar, and what may be appended to an identifier
- `unique_eq`, `unique_not_mem`: the free variant of a candidate
- `assign_nodup`, `eq_unique_of_mem_zip`, `assign_append`: identifiers for a list of names
- `member_*`, `parameter_*`: what a target makes of a key and of a placeholder
-/

namespace Phrasebook

namespace Identifier
open Template

/-- A text is an **identifier** when it is a letter or an underscore, followed by letters, digits and
underscores, all of them ASCII. -/
def IsIdentifier (s : String) : Prop :=
  ∃ c cs, s.toList = c :: cs ∧ isNameStart c = true ∧ ∀ d ∈ cs, isNameChar d = true

/-! ## The grammar -/

theorem isNameChar_of_isNameStart {c : Char} (h : isNameStart c = true) : isNameChar c = true := by
  simp only [isNameStart, isNameChar, Char.isAlphanum, Bool.or_eq_true] at h ⊢
  rcases h with h | h
  · exact Or.inl (Or.inl h)
  · exact Or.inr h

theorem isNameStart_of_not_isDigit {c : Char} (h : isNameChar c = true) (hd : c.isDigit = false) :
    isNameStart c = true := by
  simpa [isNameStart, isNameChar, Char.isAlphanum, hd] using h

theorem not_isDigit_of_isNameStart {c : Char} (h : isNameStart c = true) : c.isDigit = false := by
  simp only [isNameStart, Bool.or_eq_true, decide_eq_true_eq] at h
  rcases h with hletter | rfl
  · exact Text.not_isDigit_of_isAlpha hletter
  · rfl

theorem isNameChar_of_isDigit {c : Char} (h : c.isDigit = true) : isNameChar c = true := by
  simp [isNameChar, Char.isAlphanum, h]

theorem isNameChar_cleanChar (c : Char) : isNameChar (cleanChar c) = true := by
  unfold cleanChar
  split
  · assumption
  · rfl

/-- Characters of identifiers may be appended to an identifier. -/
theorem IsIdentifier.append {s t : String} (hs : IsIdentifier s)
    (ht : ∀ d ∈ t.toList, isNameChar d = true) : IsIdentifier (s ++ t) := by
  obtain ⟨c, cs, hcs, hc, hall⟩ := hs
  refine ⟨c, cs ++ t.toList, ?_, hc, ?_⟩
  · rw [String.toList_append, hcs, List.cons_append]
  · intro d hd
    rcases List.mem_append.mp hd with h | h
    · exact hall d h
    · exact ht d h

theorem IsIdentifier.isNameChar {s : String} (hs : IsIdentifier s) :
    ∀ d ∈ s.toList, Template.isNameChar d = true := by
  obtain ⟨c, cs, hcs, hc, hall⟩ := hs
  intro d hd
  rw [hcs] at hd
  rcases List.mem_cons.mp hd with rfl | h
  · exact isNameChar_of_isNameStart hc
  · exact hall d h

theorem IsIdentifier.toList_ne_nil {s : String} (hs : IsIdentifier s) : s.toList ≠ [] := by
  obtain ⟨c, cs, hcs, -, -⟩ := hs
  rw [hcs]
  exact List.cons_ne_nil c cs

/-! ## Cleaning -/

theorem isIdentifier_safePrefix : IsIdentifier safePrefix :=
  ⟨'k', ['_'], by decide, by decide, List.forall_mem_singleton.mpr (by decide)⟩

theorem isNameChar_cleaned (name : String) :
    ∀ d ∈ name.toList.map cleanChar, isNameChar d = true := by
  intro d hd
  obtain ⟨c, -, rfl⟩ := List.mem_map.mp hd
  exact isNameChar_cleanChar c

theorem isIdentifier_clean (name : String) : IsIdentifier (clean safePrefix name) := by
  have hall := isNameChar_cleaned name
  dsimp only [clean]
  split
  · exact isIdentifier_safePrefix
  · rename_i c cs hcs
    rw [hcs] at hall ⊢
    split
    · -- a digit may not start an identifier, so the prefix does
      exact isIdentifier_safePrefix.append (by simpa using hall)
    · rename_i hd
      refine ⟨c, cs, String.toList_ofList, ?_, fun d h => hall d (List.mem_cons_of_mem c h)⟩
      exact isNameStart_of_not_isDigit (hall c List.mem_cons_self) (by simpa using hd)

theorem map_cleanChar_eq_self {cs : List Char} (h : ∀ c ∈ cs, isNameChar c = true) :
    cs.map cleanChar = cs := by
  calc cs.map cleanChar = cs.map id := List.map_congr_left fun c hc => if_pos (h c hc)
    _ = cs := List.map_id cs

/-- **Cleaning leaves an identifier as it is.** -/
theorem IsIdentifier.clean_eq {s : String} (hs : IsIdentifier s) : clean safePrefix s = s := by
  have hmap := map_cleanChar_eq_self hs.isNameChar
  obtain ⟨c, cs, hcs, hc, -⟩ := hs
  dsimp only [clean]
  rw [hmap, String.ofList_toList, hcs]
  dsimp only
  rw [not_isDigit_of_isNameStart hc, if_neg Bool.false_ne_true]

theorem isIdentifier_sanitize (reserved : List String) (name : String) :
    IsIdentifier (sanitize reserved safePrefix name) := by
  dsimp only [sanitize]
  split
  · exact (isIdentifier_clean name).append (List.all_eq_true.mp (by decide))
  · exact isIdentifier_clean name

/-! ## Reserved words

A list of reserved words whose every word ends in a letter cannot catch a name that a later step made:
these end in an underscore or in a digit. -/

/-- Every word of a list ends in a letter. -/
def EndInLetters (words : List String) : Prop :=
  ∀ w ∈ words, w.toList.getLast?.any Char.isAlpha = true

instance (words : List String) : Decidable (EndInLetters words) :=
  inferInstanceAs (Decidable (∀ w ∈ words, w.toList.getLast?.any Char.isAlpha = true))

theorem not_mem_of_last {words : List String} (hw : EndInLetters words) {s : String} {c : Char}
    (hs : s.toList.getLast? = some c) (hc : c.isAlpha = false) : s ∉ words := by
  intro hmem
  have h := hw s hmem
  rw [hs] at h
  simp [hc] at h

/-- **An identifier that is not reserved is left as it is.** -/
theorem IsIdentifier.sanitize_eq {s : String} (hs : IsIdentifier s) {reserved : List String}
    (hfree : s ∉ reserved) : sanitize reserved safePrefix s = s := by
  dsimp only [sanitize]
  rw [hs.clean_eq, if_neg]
  rw [List.contains_iff_mem]
  exact hfree

theorem sanitize_not_mem {reserved : List String} (hw : EndInLetters reserved) (name : String) :
    sanitize reserved safePrefix name ∉ reserved := by
  dsimp only [sanitize]
  split
  · -- the word that was reserved ends in an underscore now
    refine not_mem_of_last hw (c := '_') ?_ (by decide)
    rw [String.toList_append]
    exact List.getLast?_concat
  · rename_i h
    simpa using h

/-! ## Numbered variants -/

theorem toList_numbered (candidate : String) (n : Nat) :
    (numbered candidate n).toList = candidate.toList ++ '_' :: Nat.toDigits 10 n := by
  simp [numbered, String.toList_append]

theorem numbered_injective (candidate : String) : Function.Injective (numbered candidate) := by
  intro m n h
  have hl := congrArg String.toList h
  rw [toList_numbered, toList_numbered] at hl
  -- the candidate cancels, and the digits of a number give the number back
  have hd : Nat.toDigits 10 m = Nat.toDigits 10 n := (List.cons.inj (List.append_cancel_left hl)).2
  have hn := congrArg (fun ds => Nat.ofDigitChars 10 ds 0) hd
  simpa [Nat.ofDigitChars_ten_toDigits] using hn

theorem isDigit_of_mem_toDigits {n : Nat} {c : Char} (h : c ∈ Nat.toDigits 10 n) :
    c.isDigit = true :=
  Nat.isDigit_of_mem_toDigits (by decide) (by decide) h

theorem IsIdentifier.numbered {s : String} (hs : IsIdentifier s) (n : Nat) :
    IsIdentifier (numbered s n) := by
  have happ : Identifier.numbered s n = s ++ ("_" ++ toString n) := String.append_assoc ..
  rw [happ]
  refine hs.append fun d hd => ?_
  have hd' : d ∈ '_' :: Nat.toDigits 10 n := by
    rw [String.toList_append] at hd
    simpa [Nat.toList_repr] using hd
  rcases List.mem_cons.mp hd' with rfl | h
  · rfl
  · exact isNameChar_of_isDigit (isDigit_of_mem_toDigits h)

theorem numbered_not_mem {reserved : List String} (hw : EndInLetters reserved) (s : String)
    (n : Nat) : numbered s n ∉ reserved := by
  have hne : Nat.toDigits 10 n ≠ [] := Nat.toDigits_ne_nil
  have hlast : (numbered s n).toList.getLast? = some ((Nat.toDigits 10 n).getLast hne) := by
    rw [toList_numbered, List.getLast?_append, List.getLast?_cons_of_ne_nil hne,
      List.getLast?_eq_some_getLast hne]
    rfl
  exact not_mem_of_last hw hlast
    (Text.not_isAlpha_of_isDigit (isDigit_of_mem_toDigits (List.getLast_mem hne)))

/-! ## The free variant

The search for a number looks at one number more than there are taken names, and different numbers
give different variants, so it finds one. -/

theorem numbered_ne_self (candidate : String) (n : Nat) : numbered candidate n ≠ candidate := by
  intro h
  have hlength := congrArg List.length (congrArg String.toList h)
  rw [toList_numbered, List.length_append, List.length_cons] at hlength
  omega

/-- Variants with different numbers are different names, so a set that holds `count` of them has at least
that many members. -/
theorem le_card_of_numbered_mem {candidate : String} {start count : Nat} {names : Finset String}
    (h : ∀ i < count, numbered candidate (start + i) ∈ names) : count ≤ names.card := by
  have hinj : Function.Injective fun i => numbered candidate (start + i) := by
    intro i j hij
    have hsame := numbered_injective candidate hij
    omega
  have hsub : (Finset.range count).image (fun i => numbered candidate (start + i)) ⊆ names := by
    intro name hname
    obtain ⟨i, hi, rfl⟩ := Finset.mem_image.mp hname
    exact h i (Finset.mem_range.mp hi)
  calc count = ((Finset.range count).image fun i => numbered candidate (start + i)).card := by
        rw [Finset.card_image_of_injective _ hinj, Finset.card_range]
    _ ≤ names.card := Finset.card_le_card hsub

theorem exists_free (candidate : String) (taken : List String) :
    ∃ i ∈ List.range (taken.length + 1), numbered candidate (i + 2) ∉ taken := by
  by_contra hall
  push Not at hall
  -- more variants than taken names would all be among these
  have hpassed : ∀ i < taken.length + 1, numbered candidate (2 + i) ∈ taken.toFinset := by
    intro i hi
    rw [List.mem_toFinset, Nat.add_comm]
    exact hall i (List.mem_range.mpr hi)
  have hle := le_card_of_numbered_mem hpassed
  have hcard := taken.toFinset_card_le
  omega

theorem unique_of_not_mem {candidate : String} {taken : List String} (h : candidate ∉ taken) :
    unique candidate taken = candidate := by
  simp [unique, h]

/-- **The least free number.** A taken candidate gets the least number from two on whose variant is
free. -/
theorem unique_of_mem {candidate : String} {taken : List String} (h : candidate ∈ taken) :
    ∃ n, unique candidate taken = numbered candidate n ∧ 2 ≤ n ∧ numbered candidate n ∉ taken ∧
      ∀ m, 2 ≤ m → m < n → numbered candidate m ∈ taken := by
  obtain ⟨i, hi, hfree⟩ := exists_free candidate taken
  cases hfind : (List.range (taken.length + 1)).find?
      (fun i => !taken.contains (numbered candidate (i + 2))) with
  | none =>
    have := List.find?_eq_none.mp hfind i hi
    simp [hfree] at this
  | some j =>
    -- the search counts from zero, the numbers from two
    obtain ⟨hj, -, hmin⟩ := List.find?_range_eq_some.mp hfind
    refine ⟨j + 2, ?_, by omega, by simpa using hj, ?_⟩
    · simp only [unique, List.contains_iff_mem.mpr h, if_true, hfind, Option.getD_some]
    · intro m hm hmj
      have := hmin (m - 2) (by omega)
      rw [Nat.sub_add_cancel hm] at this
      simpa using this

/-- What is chosen is the candidate or one of its numbered variants. -/
theorem unique_eq (candidate : String) (taken : List String) :
    unique candidate taken = candidate ∨ ∃ n, unique candidate taken = numbered candidate n := by
  by_cases h : candidate ∈ taken
  · obtain ⟨n, hn, -⟩ := unique_of_mem h
    exact Or.inr ⟨n, hn⟩
  · exact Or.inl (unique_of_not_mem h)

theorem unique_not_mem (candidate : String) (taken : List String) :
    unique candidate taken ∉ taken := by
  by_cases h : candidate ∈ taken
  · obtain ⟨n, hn, -, hfree, -⟩ := unique_of_mem h
    rw [hn]
    exact hfree
  · rw [unique_of_not_mem h]
    exact h

/-- What holds of a candidate and of each of its variants holds of what is chosen. -/
theorem unique_induction {motive : String → Prop} {candidate : String}
    (self : motive candidate) (variant : ∀ n, motive (numbered candidate n))
    (taken : List String) : motive (unique candidate taken) := by
  rcases unique_eq candidate taken with h | ⟨n, h⟩
  · rw [h]
    exact self
  · rw [h]
    exact variant n

/-- A number at its end does not change how a candidate starts. -/
theorem head?_unique {candidate : String} (h : candidate.toList ≠ []) (taken : List String) :
    (unique candidate taken).toList.head? = candidate.toList.head? := by
  refine unique_induction (motive := fun s => s.toList.head? = candidate.toList.head?) rfl
    (fun n => ?_) taken
  rw [toList_numbered, List.head?_append_of_ne_nil _ h]

/-! ## Identifiers for a list of names -/

@[simp] theorem length_assign (identifier : String → String) (taken names : List String) :
    (assign identifier taken names).length = names.length := by
  induction names generalizing taken with
  | nil => rfl
  | cons name rest ih => simp [assign, ih]

/-- No taken identifier is assigned. -/
theorem not_mem_of_mem_assign {identifier : String → String} {taken names : List String}
    {x : String} (h : x ∈ assign identifier taken names) : x ∉ taken := by
  induction names generalizing taken with
  | nil => simp [assign] at h
  | cons name rest ih =>
    simp only [assign, List.mem_cons] at h
    rcases h with rfl | h
    · exact unique_not_mem _ taken
    · intro hx
      exact ih h (List.mem_cons_of_mem _ hx)

/-- **Assigned identifiers are distinct**, since each joins the taken ones for those after it. -/
theorem assign_nodup (identifier : String → String) (taken names : List String) :
    (assign identifier taken names).Nodup := by
  induction names generalizing taken with
  | nil => exact List.nodup_nil
  | cons name rest ih =>
    simp only [assign, List.nodup_cons]
    refine ⟨fun h => ?_, ih _⟩
    exact not_mem_of_mem_assign h List.mem_cons_self

/-- The identifier assigned to a name was made unique from the one that the name asks for. -/
theorem eq_unique_of_mem_zip {identifier : String → String} {taken names : List String}
    {p : String × String} (h : p ∈ names.zip (assign identifier taken names)) :
    ∃ others, p.2 = unique (identifier p.1) others := by
  induction names generalizing taken with
  | nil => cases h
  | cons name rest ih =>
    rw [assign, List.zip_cons_cons, List.mem_cons] at h
    rcases h with rfl | h
    · exact ⟨taken, rfl⟩
    · exact ih h

/-- **Later names do not count**: the names in front are assigned what they would be alone, and those
behind start with what was assigned to them among the taken ones. -/
theorem assign_append (identifier : String → String) (taken names names' : List String) :
    assign identifier taken (names ++ names') =
      assign identifier taken names ++
        assign identifier ((assign identifier taken names).reverse ++ taken) names' := by
  induction names generalizing taken with
  | nil => rfl
  | cons name rest ih =>
    simp only [List.cons_append, assign, List.reverse_cons, List.append_assoc, List.nil_append]
    rw [ih]

end Identifier

/-! ## Keys and placeholders of a target -/

namespace Target
open Identifier

/-- The words that are reserved for parameters: those that are reserved, and the function that a TypeScript
accessor calls. -/
theorem mem_reservedParameters_iff {target : Target} {w : String} :
    w ∈ target.reservedParameters ↔ w ∈ target.reserved ∨ target = typeScript ∧ w = "t" := by
  cases target with
  | dart => simp [reservedParameters]
  | typeScript => simp [reservedParameters, typeScriptHelpers]

theorem endInLetters_reserved (target : Target) : EndInLetters target.reserved := by
  cases target <;> decide +kernel

theorem endInLetters_reservedParameters (target : Target) :
    EndInLetters target.reservedParameters := by
  intro w hw
  rcases mem_reservedParameters_iff.mp hw with hreserved | ⟨-, rfl⟩
  · exact target.endInLetters_reserved w hreserved
  · rfl

theorem isIdentifier_member (target : Target) (key : String) : IsIdentifier (target.member key) :=
  isIdentifier_sanitize target.reserved key

theorem member_not_reserved (target : Target) (key : String) : target.member key ∉ target.reserved :=
  sanitize_not_mem target.endInLetters_reserved key

theorem isIdentifier_parameter (target : Target) (name : String) :
    IsIdentifier (target.parameter name) := by
  have hs := isIdentifier_sanitize target.reservedParameters name
  cases target with
  | typeScript => exact hs
  | dart =>
    dsimp only [parameter]
    split
    · exact IsIdentifier.append ⟨'p', [], by decide, by decide, by simp⟩ hs.isNameChar
    · exact hs

/-- No reserved word of Dart starts as a private name does once a letter is put before it. -/
theorem dart_reserved_not_p_underscore :
    ∀ w ∈ dart.reservedParameters, w.toList.take 2 ≠ ['p', '_'] := by
  decide +kernel

theorem parameter_not_reserved (target : Target) (name : String) :
    target.parameter name ∉ target.reservedParameters := by
  have hs := sanitize_not_mem target.endInLetters_reservedParameters name
  cases target with
  | typeScript => exact hs
  | dart =>
    dsimp only [parameter]
    split
    · -- the name that got a letter is not reserved, whatever it was before
      rename_i h
      intro hmem
      refine dart_reserved_not_p_underscore _ hmem ?_
      obtain ⟨rest, hrest⟩ := List.head?_eq_some_iff.mp h
      simp [String.toList_append, hrest]
    · exact hs

/-- A named parameter of Dart is not private. -/
theorem head?_dart_parameter (name : String) : (dart.parameter name).toList.head? ≠ some '_' := by
  dsimp only [parameter]
  split
  · simp [String.toList_append]
  · assumption

end Target

end Phrasebook
