import Phrasebook.Json.Reader
import Phrasebook.Target.Basic

/-!
# String literals

A reader of the string literals of a target, and why it reads back what is written. Everything rests
on one fact about how a character is written: either as itself, when it is neither a quote nor a
backslash nor the end of a line, or as an escape, which no quote or line end is part of but for the
character right after the backslash.

## Contents
- `Target.isLineEnd`: the characters that end a line of code
- `Target.readEscape?`, `Target.readLiteral?`: the reader
- `escapeChar_cases`: how a character is written
- `readLiteral?_escapeChars`: reading back what is written
- `isLineEnd_quoteChars`: a literal stays on its line
-/

namespace Phrasebook.Target

/-- Whether a character ends a line of code. -/
def isLineEnd (target : Target) (c : Char) : Bool :=
  c = '\n' || c = '\r' || (target = typeScript && (c = '\u2028' || c = '\u2029'))

/-! ## Reading a literal -/

/-- The character that a letter after a backslash stands for. -/
def unescaped : Char → Char
  | 'n' => '\n'
  | 'r' => '\r'
  | 't' => '\t'
  | c => c

/-- The character that four hexadecimal digits stand for, and what follows them. -/
def readCode? : List Char → Option (Char × List Char)
  | x :: y :: z :: w :: rest => (Json.hexUnit? x y z w).map fun n => (Char.ofNat n, rest)
  | _ => none

/-- The character that an escape stands for, and what follows it; its backslash has been read. -/
def readEscape? (target : Target) : List Char → Option (Char × List Char)
  | [] => none
  | c :: rest =>
    (if target = typeScript ∧ c = 'u' then readCode? rest else none).or (some (unescaped c, rest))

theorem length_readCode? {cs rest : List Char} {c : Char} (h : readCode? cs = some (c, rest)) :
    rest.length < cs.length := by
  unfold readCode? at h
  split at h
  · obtain ⟨n, -, heq⟩ := Option.map_eq_some_iff.mp h
    rw [← (Prod.mk.inj heq).2]
    simp only [List.length_cons]
    omega
  · simp at h

theorem length_readEscape? {target : Target} {cs rest : List Char} {c : Char}
    (h : target.readEscape? cs = some (c, rest)) : rest.length < cs.length := by
  cases cs with
  | nil => simp [readEscape?] at h
  | cons d ds =>
    unfold readEscape? at h
    rcases Option.or_eq_some_iff.mp h with hcode | ⟨-, hself⟩
    · split at hcode
      · have := length_readCode? hcode
        exact Nat.lt_succ_of_lt this
      · simp at hcode
    · obtain ⟨-, rfl⟩ := Prod.mk.inj (Option.some.inj hself)
      exact Nat.lt_succ_self ds.length

/-- The characters that a literal stands for, and what follows its closing quote; its opening quote has
been read. -/
def readLiteral? (target : Target) : List Char → Option (List Char × List Char)
  | [] => none
  | c :: cs =>
    if c = '\'' then some ([], cs)
    else if c = '\\' then
      match h : target.readEscape? cs with
      | none => none
      | some (d, rest) =>
        have : rest.length < cs.length := length_readEscape? h
        (readLiteral? target rest).map fun r => (d :: r.1, r.2)
    else (readLiteral? target cs).map fun r => (c :: r.1, r.2)
  termination_by cs => cs.length

/-! ## How a character is written -/

/-- A character that neither ends a literal or a line nor starts an escape. -/
def IsPlain (target : Target) (c : Char) : Prop :=
  c ≠ '\'' ∧ c ≠ '\\' ∧ target.isLineEnd c = false

/-- How a character is written **as an escape** that reads back as the character. -/
def IsEscape (target : Target) (c : Char) (cs : List Char) : Prop :=
  ∃ d es, cs = '\\' :: d :: es ∧ target.isLineEnd d = false ∧ (∀ e ∈ es, target.IsPlain e) ∧
    ∀ tail, target.readEscape? (d :: (es ++ tail)) = some (c, tail)

/-- An escape of one letter. -/
theorem isEscape_letter {target : Target} {c d : Char} (hu : d ≠ 'u') (hc : unescaped d = c)
    (hd : target.isLineEnd d = false) : target.IsEscape c ['\\', d] := by
  refine ⟨d, [], rfl, hd, by simp, fun tail => ?_⟩
  simp [readEscape?, hu, hc]

/-- **How a character is written**: as itself when it is plain, as an escape when it is not. -/
theorem escapeChar_cases (target : Target) (c : Char) :
    target.escapeChar c = [c] ∧ target.IsPlain c ∨ target.IsEscape c (target.escapeChar c) := by
  unfold escapeChar
  split
  · exact Or.inr (isEscape_letter (by decide) rfl (by cases target <;> rfl))
  · exact Or.inr (isEscape_letter (by decide) rfl (by cases target <;> rfl))
  · exact Or.inr (isEscape_letter (by decide) rfl (by cases target <;> rfl))
  · exact Or.inr (isEscape_letter (by decide) rfl (by cases target <;> rfl))
  · exact Or.inr (isEscape_letter (by decide) rfl (by cases target <;> rfl))
  · -- what is left is an escape of one target at most
    rename_i hbackslash hquote hn hr _
    have hnewline : c ≠ '\n' := hn
    have hreturn : c ≠ '\r' := hr
    cases target with
    | dart =>
      dsimp only
      split
      · rename_i hc
        subst hc
        exact Or.inr (isEscape_letter (by decide) rfl rfl)
      · exact Or.inl ⟨rfl, hquote, hbackslash, by simp [isLineEnd, hnewline, hreturn]⟩
    | typeScript =>
      dsimp only
      split
      · rename_i hc
        subst hc
        exact Or.inr ⟨'u', ['2', '0', '2', '8'], rfl, rfl, by simp [IsPlain, isLineEnd], fun tail => rfl⟩
      · rename_i h28
        split
        · rename_i hc
          subst hc
          exact Or.inr ⟨'u', ['2', '0', '2', '9'], rfl, rfl, by simp [IsPlain, isLineEnd],
            fun tail => rfl⟩
        · rename_i h29
          exact Or.inl ⟨rfl, hquote, hbackslash, by simp [isLineEnd, hnewline, hreturn, h28, h29]⟩

/-! ## Reading back -/

theorem readLiteral?_escapeChar (target : Target) (c : Char) (tail : List Char) :
    target.readLiteral? (target.escapeChar c ++ tail) =
      (target.readLiteral? tail).map fun r => (c :: r.1, r.2) := by
  rcases target.escapeChar_cases c with ⟨heq, hquote, hbackslash, -⟩ | ⟨d, es, heq, -, -, hread⟩
  · rw [heq, List.singleton_append, readLiteral?, if_neg hquote, if_neg hbackslash]
  · -- the reader takes the backslash and leaves the rest of the escape to its own reader
    rw [heq, List.cons_append, List.cons_append, readLiteral?, if_neg (by decide), if_pos rfl]
    split
    · rename_i hnone
      rw [hread tail] at hnone
      simp at hnone
    · rename_i d' rest hsome
      rw [hread tail] at hsome
      obtain ⟨rfl, rfl⟩ := Prod.mk.inj (Option.some.inj hsome)
      rfl

/-- **A literal reads back** as the characters that it was written for, and nothing behind its closing
quote is read. -/
theorem readLiteral?_escapeChars (target : Target) (cs rest : List Char) :
    target.readLiteral? (target.escapeChars cs ++ '\'' :: rest) = some (cs, rest) := by
  induction cs with
  | nil =>
    rw [escapeChars, List.flatMap_nil, List.nil_append, readLiteral?, if_pos rfl]
  | cons c cs ih =>
    unfold escapeChars at ih ⊢
    rw [List.flatMap_cons, List.append_assoc, readLiteral?_escapeChar, ih]
    rfl

/-! ## Literals and lines -/

theorem isLineEnd_escapeChar {target : Target} {c d : Char} (h : d ∈ target.escapeChar c) :
    target.isLineEnd d = false := by
  rcases target.escapeChar_cases c with ⟨heq, -, -, hc⟩ | ⟨e, es, heq, he, hplain, -⟩
  · rw [heq, List.mem_singleton] at h
    rw [h]
    exact hc
  · rw [heq] at h
    rcases List.mem_cons.mp h with rfl | h
    · cases target <;> rfl
    · rcases List.mem_cons.mp h with rfl | h
      · exact he
      · exact (hplain d h).2.2

/-- **A literal stays on its line.** -/
theorem isLineEnd_quoteChars {target : Target} {cs : List Char} {d : Char}
    (h : d ∈ target.quoteChars cs) : target.isLineEnd d = false := by
  have hquote : target.isLineEnd '\'' = false := by cases target <;> rfl
  unfold quoteChars at h
  rcases List.mem_cons.mp h with rfl | h
  · exact hquote
  · rcases List.mem_append.mp h with h | h
    · obtain ⟨c, -, hc⟩ := List.mem_flatMap.mp h
      exact isLineEnd_escapeChar hc
    · rw [List.mem_singleton.mp h]
      exact hquote

end Phrasebook.Target
