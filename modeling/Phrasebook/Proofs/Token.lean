import Phrasebook.Proofs.Lines

/-!
# The tokens of a line

A reader that cuts a line of generated code into words, literals and all other characters, and what it
makes of a line that is written piece by piece: it takes the code of a piece character by character,
and a literal as a whole, whatever that holds.

## Contents
- `Token`, `Target.tokens`: the reader
- `Source.lineTokens`, `Target.tokens_line`: the tokens of a line, piece by piece
- `addTokens_identifier`: a name is one word
- `Token.names`, `Token.literals`: the tokens that depend on a catalog
-/

namespace Phrasebook

/-- A part of a line of code. -/
inductive Token where
  /-- Characters that may stand in a name, as many as there are. -/
  | word (cs : List Char)
  /-- A string literal, by the text that it stands for. -/
  | literal (text : String)
  /-- Any other character. -/
  | mark (c : Char)
  deriving DecidableEq, Repr

/-- Puts a character in front of tokens; it becomes part of a word that follows. -/
def Token.prepend (c : Char) (tokens : List Token) : List Token :=
  if Template.isNameChar c then
    match tokens with
    | .word cs :: rest => .word (c :: cs) :: rest
    | tokens => .word [c] :: tokens
  else .mark c :: tokens

/-! ## The reader -/

namespace Target

theorem length_readLiteral? {target : Target} {cs text rest : List Char}
    (h : target.readLiteral? cs = some (text, rest)) : rest.length < cs.length := by
  fun_induction readLiteral? target cs generalizing text rest with
  | case1 => simp at h
  | case2 cs =>
    obtain ⟨-, rfl⟩ := Prod.mk.inj (Option.some.inj h)
    exact Nat.lt_succ_self cs.length
  | case3 => simp at h
  | case4 cs _ d rest' hescape hlt ih =>
    obtain ⟨r, hr, heq⟩ := Option.map_eq_some_iff.mp h
    obtain ⟨-, rfl⟩ := Prod.mk.inj heq
    have hrest := ih hr
    rw [List.length_cons]
    omega
  | case5 c cs _ _ ih =>
    obtain ⟨r, hr, heq⟩ := Option.map_eq_some_iff.mp h
    obtain ⟨-, rfl⟩ := Prod.mk.inj heq
    exact Nat.lt_succ_of_lt (ih hr)

/-- The tokens of a line. -/
def tokens (target : Target) : List Char → List Token
  | [] => []
  | c :: cs =>
    if c = '\'' then
      match h : target.readLiteral? cs with
      | none => .mark c :: tokens target cs
      | some (text, rest) =>
        have : rest.length < cs.length := length_readLiteral? h
        .literal (String.ofList text) :: tokens target rest
    else Token.prepend c (tokens target cs)
  termination_by cs => cs.length

end Target

/-! ## Piece by piece -/

namespace Source

/-- The tokens of a piece in front of others. -/
def Piece.addTokens : Piece → List Token → List Token
  | .code s, ts => s.toList.foldr Token.prepend ts
  | .literal text, ts => .literal text :: ts

/-- The tokens of a line that is written piece by piece. -/
def lineTokens (line : Line) : List Token := line.foldr Piece.addTokens []

end Source

open Source

namespace Target

theorem tokens_unquoted (target : Target) {cs : List Char} (h : ∀ c ∈ cs, c ≠ '\'') (rest : List Char) :
    target.tokens (cs ++ rest) = cs.foldr Token.prepend (target.tokens rest) := by
  induction cs with
  | nil => rfl
  | cons c cs ih =>
    rw [List.cons_append, tokens, if_neg (h c List.mem_cons_self),
      ih fun d hd => h d (List.mem_cons_of_mem c hd)]
    rfl

theorem tokens_quoteChars (target : Target) (cs rest : List Char) :
    target.tokens (target.quoteChars cs ++ rest) =
      .literal (String.ofList cs) :: target.tokens rest := by
  have hread : target.readLiteral? (target.escapeChars cs ++ ['\''] ++ rest) = some (cs, rest) := by
    rw [List.append_assoc, List.singleton_append]
    exact readLiteral?_escapeChars target cs rest
  unfold quoteChars
  rw [List.cons_append, tokens, if_pos rfl]
  split
  · rename_i hnone
    rw [hread] at hnone
    simp at hnone
  · rename_i text rest' hsome
    rw [hread] at hsome
    obtain ⟨rfl, rfl⟩ := Prod.mk.inj (Option.some.inj hsome)
    rfl

theorem tokens_piece (target : Target) {piece : Piece} (h : piece.IsBare) (rest : List Char) :
    target.tokens (piece.chars target ++ rest) = piece.addTokens (target.tokens rest) := by
  cases piece with
  | code s => exact target.tokens_unquoted (fun c hc => (h c hc).1) rest
  | literal text =>
    have hquote := target.tokens_quoteChars text.toList rest
    rw [String.ofList_toList] at hquote
    exact hquote

/-- **The tokens of a line** are those of its pieces. -/
theorem tokens_line (target : Target) {line : Line} (h : ∀ piece ∈ line, piece.IsBare) :
    target.tokens (lineBody target line) = lineTokens line := by
  induction line with
  | nil =>
    unfold lineBody
    rw [List.flatMap_nil, tokens]
    rfl
  | cons piece rest ih =>
    rw [lineBody_cons, target.tokens_piece (h piece List.mem_cons_self),
      ih fun p hp => h p (List.mem_cons_of_mem piece hp)]
    rfl

end Target

/-! ## Literals -/

/-- The text of a token that is a literal. -/
def Token.text? : Token → Option String
  | .literal text => some text
  | _ => none

/-- The texts of the literals among tokens. -/
def Token.literals (tokens : List Token) : List String := tokens.filterMap Token.text?

/-- The text of a piece that is a literal. -/
def Source.Piece.text? : Piece → Option String
  | .code _ => none
  | .literal text => some text

theorem Token.literals_prepend (c : Char) (ts : List Token) :
    literals (prepend c ts) = literals ts := by
  unfold prepend
  split
  · split
    · rfl
    · rfl
  · rfl

theorem Token.literals_foldr_prepend (cs : List Char) (ts : List Token) :
    literals (cs.foldr prepend ts) = literals ts := by
  induction cs with
  | nil => rfl
  | cons c cs ih => rw [List.foldr_cons, literals_prepend, ih]

/-- Code has no part in the literals of a line. -/
theorem literals_lineTokens (line : Line) :
    Token.literals (lineTokens line) = line.filterMap Piece.text? := by
  induction line with
  | nil => rfl
  | cons piece rest ih =>
    have hcons : lineTokens (piece :: rest) = piece.addTokens (lineTokens rest) := rfl
    rw [hcons]
    cases piece with
    | literal text =>
      rw [List.filterMap_cons_some (f := Piece.text?) rfl, ← ih]
      rfl
    | code s =>
      rw [List.filterMap_cons_none rfl, ← ih]
      exact Token.literals_foldr_prepend s.toList (lineTokens rest)

theorem filterMap_text?_listed (separator : String) (groups : List (List Piece)) :
    (listed separator groups).filterMap Piece.text? =
      groups.flatMap (List.filterMap Piece.text?) := by
  fun_induction listed separator groups with
  | case1 => rfl
  | case2 group => simp
  | case3 group rest _ ih =>
    rw [List.filterMap_append, List.filterMap_cons_none rfl, ih, List.flatMap_cons]

/-! ## Words -/

namespace Token

/-- Whether a token is neither a word nor a literal. -/
def isMark : Token → Bool
  | mark _ => true
  | _ => false

/-- The words and literals among tokens. -/
def names (tokens : List Token) : List Token := tokens.filter fun t => !t.isMark

/-- Tokens that do not start with a word, so that a word in front of them ends there. -/
def Breaks (tokens : List Token) : Prop := ∀ cs rest, tokens ≠ .word cs :: rest

theorem breaks_mark (c : Char) (tokens : List Token) : Breaks (.mark c :: tokens) := by
  intro cs rest h
  simp at h

theorem foldr_prepend_name {cs : List Char} (h : ∀ c ∈ cs, Template.isNameChar c = true)
    (hne : cs ≠ []) {tokens : List Token} (hbreaks : Breaks tokens) :
    cs.foldr prepend tokens = .word cs :: tokens := by
  induction cs with
  | nil => exact absurd rfl hne
  | cons c cs ih =>
    have hc : Template.isNameChar c = true := h c List.mem_cons_self
    rw [List.foldr_cons]
    cases cs with
    | nil =>
      -- the last character of the name meets no word that it could become part of
      rw [List.foldr_nil, prepend, if_pos hc]
      exact hbreaks
    | cons d ds =>
      rw [ih (fun e he => h e (List.mem_cons_of_mem c he)) (List.cons_ne_nil d ds), prepend, if_pos hc]

end Token

namespace Source

theorem addTokens_append (s t : String) (ts : List Token) :
    (Piece.code (s ++ t)).addTokens ts = (Piece.code s).addTokens ((Piece.code t).addTokens ts) := by
  simp only [Piece.addTokens, String.toList_append, List.foldr_append]

/-- **A name is one word**, where no other word follows. -/
theorem addTokens_identifier {s : String} (h : Identifier.IsIdentifier s) {ts : List Token}
    (hbreaks : Token.Breaks ts) : (Piece.code s).addTokens ts = .word s.toList :: ts :=
  Token.foldr_prepend_name h.isNameChar h.toList_ne_nil hbreaks

/-- A name behind other code. -/
theorem addTokens_after {s : String} (h : Identifier.IsIdentifier s) (front : String) {ts : List Token}
    (hbreaks : Token.Breaks ts) :
    (Piece.code (front ++ s)).addTokens ts = (Piece.code front).addTokens (.word s.toList :: ts) := by
  rw [addTokens_append, addTokens_identifier h hbreaks]

/-- A name between other code. -/
theorem addTokens_between {s : String} (h : Identifier.IsIdentifier s) (front back : String)
    (ts : List Token) (hbreaks : Token.Breaks ((Piece.code back).addTokens ts)) :
    (Piece.code (front ++ s ++ back)).addTokens ts =
      (Piece.code front).addTokens (.word s.toList :: (Piece.code back).addTokens ts) := by
  rw [addTokens_append, addTokens_after h front hbreaks]

/-- The tokens of pieces in front of others. -/
def addLine (line : Line) (ts : List Token) : List Token := line.foldr Piece.addTokens ts

theorem lineTokens_concat (line : Line) (piece : Piece) :
    lineTokens (line ++ [piece]) = addLine line (piece.addTokens []) := List.foldr_append

/-- The names in a list are those of its groups. -/
theorem names_listed {α : Type} {separator : String} {f : α → List Piece} {g : α → List Token}
    (hseparator : ∀ ts, Token.Breaks ((Piece.code separator).addTokens ts) ∧
      Token.names ((Piece.code separator).addTokens ts) = Token.names ts)
    {ts : List Token} (hts : Token.Breaks ts) {xs : List α}
    (h : ∀ x ∈ xs, ∀ us, Token.Breaks us → Token.names (addLine (f x) us) = g x ++ Token.names us) :
    Token.names (addLine (listed separator (xs.map f)) ts) = xs.flatMap g ++ Token.names ts := by
  induction xs with
  | nil => rfl
  | cons x xs ih =>
    rw [List.flatMap_cons, List.append_assoc]
    by_cases hxs : xs = []
    · subst hxs
      exact h x List.mem_cons_self ts hts
    · have hne : xs.map f ≠ [] := mt List.map_eq_nil_iff.mp hxs
      obtain ⟨hbreaks, hnames⟩ := hseparator (addLine (listed separator (xs.map f)) ts)
      rw [List.map_cons, listed_cons hne, addLine, List.foldr_append, List.foldr_cons]
      -- behind the separator no word is open, so the group before it ends there
      rw [← ih fun y hy => h y (List.mem_cons_of_mem x hy), ← hnames]
      exact h x List.mem_cons_self _ hbreaks

end Source

end Phrasebook
