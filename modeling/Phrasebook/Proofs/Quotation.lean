import Mathlib.Algebra.Ring.Parity
import Phrasebook.Proofs.Literal

/-!
# Literals delimit themselves

A string literal says by itself where it ends: read from its opening quote on, it gives back the text that
it was written for and leaves whatever stands behind it, even if that looks like more of a literal. It
stays on its line, and in Dart no dollar sign of it starts an interpolation.

A character of a literal is escaped when the backslashes right before it are odd in number. What is
written for one character never leaves a backslash over, so between two characters the backslashes are
even in number, and the one that is written before a dollar sign does escape it.

## Contents
- `Target.readQuoted?`: reading a literal with its quotes
- `trailingBackslashes`, `IsEscapedBehind`: when a character is escaped
- `isEscapedBehind_of_dollar`: the dollar signs of a literal
- `read_quote`: what a literal is
-/

namespace Phrasebook.Target

/-- The characters that a literal stands for, and what follows it. -/
def readQuoted? (target : Target) : List Char → Option (List Char × List Char)
  | '\'' :: cs => target.readLiteral? cs
  | _ => none

theorem readQuoted?_quoteChars (target : Target) (cs rest : List Char) :
    target.readQuoted? (target.quoteChars cs ++ rest) = some (cs, rest) := by
  have hchars : target.quoteChars cs ++ rest = '\'' :: (target.escapeChars cs ++ '\'' :: rest) := by
    simp [quoteChars]
  rw [hchars]
  exact target.readLiteral?_escapeChars cs rest

theorem isLineEnd_eq_false_iff {target : Target} {c : Char} :
    target.isLineEnd c = false ↔
      c ≠ '\n' ∧ c ≠ '\r' ∧ (target = typeScript → c ≠ '\u2028' ∧ c ≠ '\u2029') := by
  simp [isLineEnd, and_assoc]

/-! ## Escaped characters -/

/-- The number of backslashes at the end of some characters. -/
def trailingBackslashes (cs : List Char) : Nat := (cs.reverse.takeWhile (· = '\\')).length

/-- What stands behind some characters of a literal is **escaped** when they end in an odd number of
backslashes: each pair of them stands for a backslash, and the last one is left over. -/
def IsEscapedBehind (cs : List Char) : Prop := Odd (trailingBackslashes cs)

variable {target : Target} {c d : Char} {cs front before after : List Char}

theorem trailingBackslashes_concat :
    trailingBackslashes (cs ++ [c]) = if c = '\\' then trailingBackslashes cs + 1 else 0 := by
  unfold trailingBackslashes
  by_cases hc : c = '\\'
  · simp [hc]
  · simp [hc]

/-- What is written for one character does not leave a backslash over. -/
theorem even_trailingBackslashes_escapeChar (h : Even (trailingBackslashes front)) :
    Even (trailingBackslashes (front ++ target.escapeChar c)) := by
  rcases target.escapeChar_cases c with ⟨heq, -, hbackslash, -⟩ | ⟨d, es, heq, -, hplain, -⟩
  · rw [heq, trailingBackslashes_concat, if_neg hbackslash]
    exact Even.zero
  · rw [heq]
    rcases List.eq_nil_or_concat es with rfl | ⟨es', e, rfl⟩
    · -- two characters: a backslash, and one that it escapes
      have hsplit : front ++ ['\\', d] = (front ++ ['\\']) ++ [d] := by simp
      rw [hsplit, trailingBackslashes_concat, trailingBackslashes_concat, if_pos rfl]
      by_cases hd : d = '\\'
      · rw [if_pos hd]
        exact h.add even_two
      · rw [if_neg hd]
        exact Even.zero
    · have hsplit : front ++ '\\' :: d :: es'.concat e = (front ++ '\\' :: d :: es') ++ [e] := by simp
      have he := hplain e (by simp)
      rw [hsplit, trailingBackslashes_concat, if_neg he.2.1]
      exact Even.zero

/-- In Dart a character is written as itself, unless it is a dollar sign, or as a backslash and one more
character. -/
theorem dart_escapeChar_cases (c : Char) :
    dart.escapeChar c = [c] ∧ c ≠ '$' ∨ ∃ d, dart.escapeChar c = ['\\', d] := by
  unfold escapeChar
  split
  case h_6 =>
    by_cases hc : c = '$'
    · exact Or.inr ⟨'$', if_pos hc⟩
    · exact Or.inl ⟨if_neg hc, hc⟩
  all_goals exact Or.inr ⟨_, rfl⟩

/-- What is written for one character has a dollar sign right behind a backslash only. -/
theorem eq_backslash_of_dart_escapeChar (h : dart.escapeChar c = before ++ '$' :: after) :
    before = ['\\'] := by
  rcases dart_escapeChar_cases c with ⟨heq, hc⟩ | ⟨d, heq⟩
  · rw [heq, List.singleton_eq_append_iff] at h
    simp [hc.symm] at h
  · rw [heq] at h
    cases before with
    | nil => simp at h
    | cons x before =>
      obtain ⟨rfl, h⟩ := List.cons.inj h
      cases before with
      | nil => rfl
      | cons y before => simp at h

/-- **The dollar signs of a Dart text are escaped**, behind characters that leave no backslash over. -/
theorem isEscapedBehind_of_dollar (hfront : Even (trailingBackslashes front))
    (h : dart.escapeChars cs ++ ['\''] = before ++ '$' :: after) : IsEscapedBehind (front ++ before) := by
  induction cs generalizing front before with
  | nil =>
    rw [escapeChars, List.flatMap_nil, List.nil_append, List.singleton_eq_append_iff] at h
    simp at h
  | cons c cs ih =>
    have hnext : Even (trailingBackslashes (front ++ dart.escapeChar c)) :=
      even_trailingBackslashes_escapeChar hfront
    unfold escapeChars at ih h
    rw [List.flatMap_cons, List.append_assoc] at h
    rcases List.append_eq_append_iff.mp h with ⟨rest, rfl, hrest⟩ | ⟨inner, hinner, hafter⟩
    · -- the dollar sign is written for a later character
      rw [← List.append_assoc]
      exact ih hnext hrest
    · cases inner with
      | nil =>
        rw [List.append_nil] at hinner
        rw [← hinner, ← List.append_nil (front ++ dart.escapeChar c)]
        exact ih hnext hafter.symm
      | cons x inner =>
        -- it is written for this one, so its backslash is all that stands before it
        obtain ⟨rfl, -⟩ := List.cons.inj hafter
        rw [eq_backslash_of_dart_escapeChar hinner, IsEscapedBehind, trailingBackslashes_concat,
          if_pos rfl]
        exact hfront.add_one

/-- **A literal delimits itself.** Whatever follows it, reading a literal gives back exactly the text that
it was written for and leaves exactly what follows. There is no raw line end in it, and in Dart each
dollar sign in it is escaped. -/
theorem read_quote (target : Target) (s rest : String) :
    target.readQuoted? (target.quote s ++ rest).toList = some (s.toList, rest.toList) ∧
    (∀ c ∈ (target.quote s).toList,
      c ≠ '\n' ∧ c ≠ '\r' ∧ (target = typeScript → c ≠ '\u2028' ∧ c ≠ '\u2029')) ∧
    (target = dart → ∀ before after, (target.quote s).toList = before ++ '$' :: after →
      IsEscapedBehind before) := by
  have hquote : (target.quote s).toList = target.quoteChars s.toList := String.toList_ofList
  rw [String.toList_append, hquote]
  refine ⟨target.readQuoted?_quoteChars s.toList rest.toList,
    fun c hc => isLineEnd_eq_false_iff.mp (isLineEnd_quoteChars hc), ?_⟩
  rintro rfl before after h
  cases before with
  | nil => simp [quoteChars] at h
  | cons x before =>
    obtain ⟨rfl, hchars⟩ := List.cons.inj h
    have hopen : Even (trailingBackslashes ['\'']) := by decide
    exact isEscapedBehind_of_dollar hopen hchars

/-- A text that ends in backslashes, before text that looks like the end of another literal. -/
example : dart.readQuoted? "'a\\\\\\$\\\\'';'".toList = some ("a\\$\\".toList, "';'".toList) := by
  decide +kernel

end Phrasebook.Target
