import Mathlib.Data.List.TakeWhile
import Phrasebook.Json.Display
import Phrasebook.Proofs.Identifier

/-!
# Tokens of a template

A name is used by a text when its token occurs there, as characters that follow one another. Reading
from left to right, a text either starts with a token or with a character that stands for itself; the
pieces of the text are exactly this reading. No token starts inside another, since a brace is no
character of a name. So the pieces hold the tokens that occur, all of them, and filling a template
replaces each occurrence.

## Contents
- `tokenChars`, `StartsToken`, `Uses`: tokens as characters
- `scan_induction`, `pieces_token`, `pieces_char`: reading a text
- `mem_names_iff`: the names of a text are those that it uses
- `Filled`, `filled_interpolate`: what filling a template comes to
-/

namespace Phrasebook.Template

open Identifier (IsIdentifier)

/-! ## Tokens as characters -/

/-- The characters of the token of a name. -/
def tokenChars (name : String) : List Char := '\x7b' :: (name.toList ++ ['\x7d'])

/-- Characters **start with a token** when the token of some identifier is at their front. -/
def StartsToken (cs : List Char) : Prop := ∃ name, IsIdentifier name ∧ tokenChars name <+: cs

/-- A text **uses** a name when the name is an identifier and its token occurs in the text. -/
def Uses (cs : List Char) (name : String) : Prop := IsIdentifier name ∧ tokenChars name <:+: cs

theorem isNameChar_openBrace : isNameChar '\x7b' = false := by decide

/-- What is read as a token after its opening brace. -/
theorem token?_eq_some_iff {cs rest : List Char} {name : String} :
    token? cs = some (name, rest) ↔ IsIdentifier name ∧ cs = name.toList ++ '\x7d' :: rest := by
  constructor
  · intro h
    cases cs with
    | nil => cases h
    | cons c cs =>
      simp only [token?] at h
      split at h
      · rename_i hstart
        split at h
        · rename_i r hr
          obtain ⟨hname, rfl⟩ := Prod.mk.inj (Option.some.inj h)
          refine ⟨⟨c, cs.takeWhile isNameChar, ?_, hstart, fun d hd => List.mem_takeWhile_imp hd⟩, ?_⟩
          · rw [← hname, String.toList_ofList]
          · rw [← hname, String.toList_ofList, List.cons_append, ← hr, List.takeWhile_append_dropWhile]
        · cases h
      · cases h
  · rintro ⟨⟨c, ds, hname, hstart, hall⟩, rfl⟩
    -- the closing brace ends the name, because no name holds one
    have htake : (ds ++ '\x7d' :: rest).takeWhile isNameChar = ds := by
      rw [List.takeWhile_append_of_pos hall, List.takeWhile_cons_of_neg (by decide), List.append_nil]
    have hdrop : (ds ++ '\x7d' :: rest).dropWhile isNameChar = '\x7d' :: rest := by
      rw [List.dropWhile_append_of_pos hall, List.dropWhile_cons_of_neg (by decide)]
    rw [hname, List.cons_append, token?, if_pos hstart, hdrop, htake, ← hname, String.ofList_toList]
    rfl

/-- The token at the front of a text is the only one that starts there. -/
theorem tokenChars_append_inj {name name' : String} {rest rest' : List Char}
    (h : IsIdentifier name) (h' : IsIdentifier name')
    (heq : tokenChars name ++ rest = tokenChars name' ++ rest') : name = name' ∧ rest = rest' := by
  unfold tokenChars at heq
  rw [List.cons_append, List.cons_append, List.append_assoc, List.append_assoc,
    List.singleton_append, List.singleton_append] at heq
  have htoken : token? (name.toList ++ '\x7d' :: rest) = some (name, rest) :=
    token?_eq_some_iff.mpr ⟨h, rfl⟩
  rw [(List.cons.inj heq).2, token?_eq_some_iff.mpr ⟨h', rfl⟩] at htoken
  obtain ⟨hname, hrest⟩ := Prod.mk.inj (Option.some.inj htoken)
  exact ⟨hname.symm, hrest.symm⟩

/-! ## Reading a text -/

theorem pieces_token {name : String} (h : IsIdentifier name) (rest : List Char) :
    pieces (tokenChars name ++ rest) = .token name :: pieces rest := by
  have htoken : token? (name.toList ++ '\x7d' :: rest) = some (name, rest) :=
    token?_eq_some_iff.mpr ⟨h, rfl⟩
  unfold tokenChars
  rw [List.cons_append, List.append_assoc, List.singleton_append, pieces.eq_def]
  dsimp only
  rw [if_pos rfl]
  split
  · rename_i n r heq
    rw [htoken] at heq
    obtain ⟨rfl, rfl⟩ := Prod.mk.inj (Option.some.inj heq)
    rfl
  · rename_i hnone
    rw [htoken] at hnone
    cases hnone

theorem pieces_char {c : Char} {cs : List Char} (h : ¬ StartsToken (c :: cs)) :
    pieces (c :: cs) = .char c :: pieces cs := by
  rw [pieces.eq_def]
  dsimp only
  split
  · rename_i hc
    split
    · rename_i name rest htoken
      obtain ⟨hname, hcs⟩ := token?_eq_some_iff.mp htoken
      refine absurd ⟨name, hname, rest, ?_⟩ h
      rw [hc, hcs, tokenChars, List.cons_append, List.append_assoc, List.singleton_append]
    · rfl
  · rfl

/-- **A text is read from left to right**: it is over, or it starts with a token, or it starts with a
character that stands for itself. -/
theorem scan_induction {motive : List Char → Prop} (nil : motive [])
    (token : ∀ name rest, IsIdentifier name → motive rest → motive (tokenChars name ++ rest))
    (char : ∀ c cs, ¬ StartsToken (c :: cs) → motive cs → motive (c :: cs)) (cs : List Char) :
    motive cs := by
  match cs with
  | [] => exact nil
  | c :: cs =>
    by_cases hstart : StartsToken (c :: cs)
    · obtain ⟨name, hname, rest, heq⟩ := hstart
      have hshorter : rest.length < cs.length + 1 := by
        have hlength := congrArg List.length heq
        rw [List.length_append, List.length_cons, tokenChars, List.length_cons] at hlength
        omega
      rw [← heq]
      exact token name rest hname (scan_induction nil token char rest)
    · exact char c cs hstart (scan_induction nil token char cs)
  termination_by cs.length

/-! ## Names -/

theorem not_mem_of_isIdentifier {name : String} (h : IsIdentifier name) {c : Char}
    (hc : isNameChar c = false) : c ∉ name.toList := by
  intro hmem
  rw [h.isNameChar c hmem] at hc
  cases hc

/-- What starts with a character that does not occur in a list is found behind it. -/
theorem infix_of_not_mem {c : Char} {s l r : List Char} (hc : c ∉ l) (h : c :: s <:+: l ++ r) :
    c :: s <:+: r := by
  induction l with
  | nil => exact h
  | cons d rest ih =>
    rw [List.mem_cons, not_or] at hc
    rw [List.cons_append, List.infix_cons_iff] at h
    rcases h with hprefix | hinfix
    · exact absurd (List.cons_prefix_cons.mp hprefix).1 hc.1
    · exact ih hc.2 hinfix

theorem not_uses_nil (name : String) : ¬ Uses [] name := by
  rintro ⟨-, hinfix⟩
  cases List.eq_nil_of_infix_nil hinfix

/-- A text that starts with a token uses the name of that token, and what the rest uses. -/
theorem uses_tokenChars_append {name : String} (h : IsIdentifier name) {rest : List Char}
    {n : String} : Uses (tokenChars name ++ rest) n ↔ n = name ∨ Uses rest n := by
  constructor
  · rintro ⟨hn, hinfix⟩
    have hsplit : tokenChars name ++ rest = '\x7b' :: ((name.toList ++ ['\x7d']) ++ rest) := rfl
    rw [hsplit, List.infix_cons_iff, ← hsplit] at hinfix
    rcases hinfix with ⟨rest', heq⟩ | hinfix
    · exact Or.inl (tokenChars_append_inj hn h heq).1
    · -- an opening brace is found neither in the name nor at its end
      refine Or.inr ⟨hn, infix_of_not_mem ?_ hinfix⟩
      rw [List.mem_append, not_or]
      exact ⟨not_mem_of_isIdentifier h isNameChar_openBrace, by decide⟩
  · rintro (rfl | ⟨hn, hinfix⟩)
    · exact ⟨h, List.infix_append' [] _ rest⟩
    · exact ⟨hn, hinfix.trans (List.suffix_append _ _).isInfix⟩

/-- A character that stands for itself adds nothing to what a text uses. -/
theorem uses_cons {c : Char} {cs : List Char} (h : ¬ StartsToken (c :: cs)) {n : String} :
    Uses (c :: cs) n ↔ Uses cs n := by
  unfold Uses
  rw [List.infix_cons_iff]
  constructor
  · rintro ⟨hn, hprefix | hinfix⟩
    · exact absurd ⟨n, hn, hprefix⟩ h
    · exact ⟨hn, hinfix⟩
  · rintro ⟨hn, hinfix⟩
    exact ⟨hn, Or.inr hinfix⟩

/-- **The names of a text are those that it uses.** -/
theorem mem_names_iff {text name : String} : name ∈ names text ↔ Uses text.toList name := by
  unfold names
  induction text.toList using scan_induction with
  | nil =>
    rw [pieces]
    exact iff_of_false List.not_mem_nil (not_uses_nil name)
  | token n rest hn ih =>
    rw [pieces_token hn, uses_tokenChars_append hn, List.filterMap_cons, Piece.name?, List.mem_cons, ih]
  | char c cs hstart ih =>
    rw [pieces_char hstart, uses_cons hstart, List.filterMap_cons, Piece.name?, ih]

/-! ## Filling -/

/-- A text is **filled** with replacements when each token that occurs in it, read from left to right,
gives way to a replacement of its name, and all else is left as it is. -/
inductive Filled (replacement : String → String → Prop) : List Char → List Char → Prop where
  | nil : Filled replacement [] []
  | token {name s : String} {rest out : List Char} (hname : IsIdentifier name)
      (hs : replacement name s) (h : Filled replacement rest out) :
      Filled replacement (tokenChars name ++ rest) (s.toList ++ out)
  | char {c : Char} {cs out : List Char} (hstart : ¬ StartsToken (c :: cs))
      (h : Filled replacement cs out) : Filled replacement (c :: cs) (c :: out)

/-- The pieces of a text filled with an argument for each name are the text filled with these. -/
theorem filled_pieces {replacement : String → String → Prop} {argument : String → String}
    (cs : List Char) (h : ∀ name, Uses cs name → replacement name (argument name)) :
    Filled replacement cs ((pieces cs).flatMap (Piece.fill argument)) := by
  induction cs using scan_induction with
  | nil =>
    rw [pieces]
    exact .nil
  | token n rest hn ih =>
    rw [pieces_token hn, List.flatMap_cons, Piece.fill]
    refine .token hn (h n ((uses_tokenChars_append hn).mpr (Or.inl rfl))) (ih fun name hname => ?_)
    exact h name ((uses_tokenChars_append hn).mpr (Or.inr hname))
  | char c cs hstart ih =>
    rw [pieces_char hstart, List.flatMap_cons, Piece.fill]
    exact .char hstart (ih fun name hname => h name ((uses_cons hstart).mpr hname))

/-- **Filling a template replaces exactly its tokens**: when every name that the text uses has a value,
each token gives way to the value of its own name. -/
theorem filled_interpolate {replacement : String → String → Prop} {arguments : List (String × Json)}
    {text : String}
    (h : ∀ name, Uses text.toList name →
      ∃ v, arguments.lookup name = some v ∧ replacement name v.display) :
    Filled replacement text.toList (interpolate arguments text).toList := by
  unfold interpolate fill
  rw [String.toList_ofList]
  refine filled_pieces text.toList fun name hname => ?_
  obtain ⟨v, hv, hreplacement⟩ := h name hname
  rw [hv, Option.map_some, Option.getD_some]
  exact hreplacement

/-- Without replacements a text can only be filled when it has no token, and stays as it is. -/
theorem Filled.eq_of_no_replacement {cs out : List Char} (h : Filled (fun _ _ => False) cs out) :
    out = cs := by
  induction h with
  | nil => rfl
  | token _ hs _ _ => exact hs.elim
  | char _ _ ih => rw [ih]

/-- **A text without tokens is left as it is**, whatever is given. -/
theorem interpolate_of_no_uses {arguments : List (String × Json)} {text : String}
    (h : ∀ name, ¬ Uses text.toList name) : interpolate arguments text = text := by
  have hfilled : Filled (fun _ _ => False) text.toList (interpolate arguments text).toList :=
    filled_interpolate fun name hname => absurd hname (h name)
  exact String.toList_inj.mp hfilled.eq_of_no_replacement

end Phrasebook.Template
