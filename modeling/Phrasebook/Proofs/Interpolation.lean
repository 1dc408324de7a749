import Phrasebook.Proofs.Fields
import Phrasebook.Proofs.Template

/-!
# Interpolation is substitution at the tokens

A template is literal text, then a token, then literal text, and so on. Where its tokens are is a matter
of the text alone: a token occurs at a place when its characters stand there. A template has exactly one
cut whose tokens are those that occur, each at its own place; its pieces, taken together, are that cut.
Inferring the placeholders of a template lists the names of the cut, and interpolating writes, between
the literal texts and in one pass, what is given for each name.

## Contents
- `OccursAt`: where a token occurs in a text
- `Cut`, `Cut.HasTokenAt`, `Cut.Of`: a text cut at its tokens
- `Cut.of_iff`: a text has exactly one cut
- `inserted`, `interpolate_eq`: what takes the place of a token
- `interpolate_cut`: a template, its cut, its placeholders and its interpolations
-/

namespace Phrasebook.Template

open Identifier (IsIdentifier)

/-! ## Where tokens occur -/

/-- The token of an identifier **occurs** in a text behind some of its characters. -/
def OccursAt (cs before : List Char) (name : String) : Prop :=
  IsIdentifier name ∧ ∃ after, cs = before ++ (tokenChars name ++ after)

variable {c : Char} {cs before rest : List Char} {name n : String}

theorem not_occursAt_nil : ¬ OccursAt [] before name := by
  rintro ⟨-, after, heq⟩
  have hlength := congrArg List.length heq
  simp [tokenChars] at hlength

/-- Behind a character that stands for itself, tokens occur where they do without it. -/
theorem occursAt_cons (hstart : ¬ StartsToken (c :: cs)) :
    OccursAt (c :: cs) before name ↔ ∃ b, before = c :: b ∧ OccursAt cs b name := by
  constructor
  · rintro ⟨hname, after, heq⟩
    cases before with
    | nil => exact absurd ⟨name, hname, after, heq.symm⟩ hstart
    | cons d b =>
      obtain ⟨rfl, hcs⟩ := List.cons.inj heq
      exact ⟨b, rfl, hname, after, hcs⟩
  · rintro ⟨b, rfl, hname, after, rfl⟩
    exact ⟨hname, after, rfl⟩

/-- A token occurs at the start of a text, or else behind the token that is there. -/
theorem occursAt_tokenChars (hn : IsIdentifier n) :
    OccursAt (tokenChars n ++ rest) before name ↔
      before = [] ∧ name = n ∨ ∃ b, before = tokenChars n ++ b ∧ OccursAt rest b name := by
  constructor
  · rintro ⟨hname, after, heq⟩
    cases before with
    | nil => exact Or.inl ⟨rfl, (tokenChars_append_inj hn hname heq).1.symm⟩
    | cons d b =>
      right
      have hbrace : '\x7b' ∉ n.toList ++ ['\x7d'] := by
        rw [List.mem_append, not_or]
        exact ⟨not_mem_of_isIdentifier hn isNameChar_openBrace, by decide⟩
      obtain ⟨rfl, hinside⟩ := List.cons.inj heq
      rcases List.append_eq_append_iff.mp hinside with ⟨b', hb, hrest⟩ | ⟨inner, hinner, hafter⟩
      · exact ⟨b', congrArg ('\x7b' :: ·) hb, hname, after, hrest⟩
      · cases inner with
        | nil =>
          rw [List.append_nil] at hinner
          exact ⟨[], by rw [← hinner, List.append_nil]; rfl, hname, after, hafter.symm⟩
        | cons e inner =>
          -- the later token would start inside of the first one, which holds no further brace
          have he : e = '\x7b' := (List.cons.inj hafter).1.symm
          have hmem : e ∈ n.toList ++ ['\x7d'] := by
            rw [hinner]
            exact List.mem_append_right b List.mem_cons_self
          exact absurd (he ▸ hmem) hbrace
  · rintro (⟨rfl, rfl⟩ | ⟨b, rfl, hname, after, rfl⟩)
    · exact ⟨hn, rest, rfl⟩
    · exact ⟨hname, after, (List.append_assoc _ _ _).symm⟩

/-! ## Cutting a text at its tokens -/

/-- A text **cut at tokens**: the literal text in front, and names of tokens, each with the literal text
behind it. -/
structure Cut where
  /-- The literal text before the first token. -/
  front : List Char
  /-- The names of the tokens, each with the literal text behind it. -/
  tokens : List (String × List Char)
  deriving DecidableEq

namespace Cut

/-- The names of the tokens, in order and with repeats. -/
def names (d : Cut) : List String := d.tokens.map Prod.fst

/-- The literal texts with something for each name between them. -/
def fill (d : Cut) (f : String → List Char) : List Char :=
  d.front ++ d.tokens.flatMap fun t => f t.1 ++ t.2

/-- The literal texts with the tokens between them. -/
def join (d : Cut) : List Char := d.fill tokenChars

/-- A cut **has a token** behind some characters when these are its literal texts and tokens up to there. -/
def HasTokenAt (d : Cut) (before : List Char) (name : String) : Prop :=
  ∃ earlier literal later, d.tokens = earlier ++ (name, literal) :: later ∧
    before = (Cut.mk d.front earlier).join

/-- A cut is **of a text** when it gives the text back, and has the tokens that occur in the text, each at
its place, and no others. -/
structure Of (d : Cut) (cs : List Char) : Prop where
  join : d.join = cs
  tokens : ∀ before name, d.HasTokenAt before name ↔ OccursAt cs before name

/-- The cut with a character in front. -/
def withChar (c : Char) (d : Cut) : Cut := ⟨c :: d.front, d.tokens⟩

/-- The cut with a token in front. -/
def withToken (name : String) (d : Cut) : Cut := ⟨[], (name, d.front) :: d.tokens⟩

/-- The cut that the pieces of a text make. -/
def ofPieces : List Piece → Cut
  | [] => ⟨[], []⟩
  | .char c :: ps => (ofPieces ps).withChar c
  | .token name :: ps => (ofPieces ps).withToken name

variable {d : Cut} {f : String → List Char}

theorem fill_withChar : (d.withChar c).fill f = c :: d.fill f := rfl

theorem fill_withToken : (d.withToken n).fill f = f n ++ d.fill f := by
  simp [withToken, fill, List.append_assoc]

theorem join_withToken : (d.withToken n).join = tokenChars n ++ d.join := fill_withToken

theorem hasTokenAt_withChar :
    (d.withChar c).HasTokenAt before name ↔ ∃ b, before = c :: b ∧ d.HasTokenAt b name := by
  constructor
  · rintro ⟨earlier, literal, later, htokens, rfl⟩
    exact ⟨_, rfl, earlier, literal, later, htokens, rfl⟩
  · rintro ⟨b, rfl, earlier, literal, later, htokens, rfl⟩
    exact ⟨earlier, literal, later, htokens, rfl⟩

theorem hasTokenAt_withToken :
    (d.withToken n).HasTokenAt before name ↔
      before = [] ∧ name = n ∨ ∃ b, before = tokenChars n ++ b ∧ d.HasTokenAt b name := by
  constructor
  · rintro ⟨earlier, literal, later, htokens, rfl⟩
    cases earlier with
    | nil =>
      have hname := congrArg Prod.fst (List.cons.inj htokens).1
      exact Or.inl ⟨rfl, hname.symm⟩
    | cons first earlier =>
      obtain ⟨rfl, hlater⟩ := List.cons.inj htokens
      refine Or.inr ⟨(Cut.mk d.front earlier).join, ?_, earlier, literal, later, hlater, rfl⟩
      exact join_withToken (d := ⟨d.front, earlier⟩)
  · rintro (⟨rfl, rfl⟩ | ⟨b, rfl, earlier, literal, later, htokens, rfl⟩)
    · exact ⟨[], d.front, d.tokens, rfl, rfl⟩
    · refine ⟨(n, d.front) :: earlier, literal, later, ?_, ?_⟩
      · show (n, d.front) :: d.tokens = _
        rw [htokens, List.cons_append]
      · exact (join_withToken (d := ⟨d.front, earlier⟩)).symm

/-! ## The cut of a text -/

theorem of_nil_iff : d.Of [] ↔ d = ⟨[], []⟩ := by
  constructor
  · intro h
    have hjoin := h.join
    obtain ⟨front, tokens⟩ := d
    cases tokens with
    | nil =>
      have hfront : front = [] := by simpa [join, fill] using hjoin
      rw [hfront]
    | cons t tokens => simp [join, fill, tokenChars] at hjoin
  · rintro rfl
    refine ⟨rfl, fun before name => iff_of_false ?_ not_occursAt_nil⟩
    rintro ⟨earlier, literal, later, htokens, -⟩
    simp at htokens

/-- The cut of a text that starts with a character is the cut of the rest, with the character in front. -/
theorem of_cons_iff (hstart : ¬ StartsToken (c :: cs)) :
    d.Of (c :: cs) ↔ ∃ d', d = withChar c d' ∧ d'.Of cs := by
  constructor
  · intro h
    obtain ⟨front, tokens⟩ := d
    cases front with
    | nil =>
      have hjoin := h.join
      cases tokens with
      | nil => cases hjoin
      | cons t tokens =>
        -- a cut with nothing in front starts with a token, but the text does not
        have hfirst := (h.tokens [] t.1).mp ⟨[], t.2, tokens, rfl, rfl⟩
        obtain ⟨b, hb, -⟩ := (occursAt_cons hstart).mp hfirst
        cases hb
    | cons e front =>
      obtain ⟨rfl, hjoin⟩ := List.cons.inj h.join
      refine ⟨⟨front, tokens⟩, rfl, hjoin, fun before name => ?_⟩
      have htokens := h.tokens (e :: before) name
      have hcut : (Cut.mk (e :: front) tokens).HasTokenAt (e :: before) name ↔
          (Cut.mk front tokens).HasTokenAt before name := by
        refine (hasTokenAt_withChar (d := ⟨front, tokens⟩)).trans ⟨?_, fun hb => ⟨before, rfl, hb⟩⟩
        rintro ⟨b, hb, hhas⟩
        cases hb
        exact hhas
      rw [← hcut, htokens, occursAt_cons hstart]
      simp
  · rintro ⟨d', rfl, h⟩
    refine ⟨congrArg (c :: ·) h.join, fun before name => ?_⟩
    rw [hasTokenAt_withChar, occursAt_cons hstart]
    simp only [h.tokens]

/-- The cut of a text that starts with a token is the cut of the rest, with the token in front. -/
theorem of_tokenChars_iff (hn : IsIdentifier n) :
    d.Of (tokenChars n ++ rest) ↔ ∃ d', d = withToken n d' ∧ d'.Of rest := by
  constructor
  · intro h
    have hfirst : d.HasTokenAt [] n :=
      (h.tokens [] n).mpr ((occursAt_tokenChars hn).mpr (Or.inl ⟨rfl, rfl⟩))
    obtain ⟨front, tokens⟩ := d
    obtain ⟨earlier, literal, later, htokens, hnil⟩ := hfirst
    -- nothing stands before the first token
    obtain ⟨hfront, hflat⟩ := List.append_eq_nil_iff.mp hnil.symm
    have hearlier : earlier = [] := by
      cases earlier with
      | nil => rfl
      | cons t earlier => simp [tokenChars] at hflat
    dsimp only at hfront htokens
    subst hearlier
    rw [List.nil_append] at htokens
    subst hfront htokens
    have hjoin := (join_withToken (d := ⟨literal, later⟩)).symm.trans h.join
    refine ⟨⟨literal, later⟩, rfl, List.append_cancel_left hjoin, fun before name => ?_⟩
    have hne : ∀ b, tokenChars n ++ b ≠ [] := by
      intro b hb
      simp [tokenChars] at hb
    have hcut : ((Cut.mk literal later).withToken n).HasTokenAt (tokenChars n ++ before) name ↔ _ :=
      hasTokenAt_withToken
    have htext : OccursAt (tokenChars n ++ rest) (tokenChars n ++ before) name ↔ _ :=
      occursAt_tokenChars hn
    have htokens := h.tokens (tokenChars n ++ before) name
    simp only [hne, false_and, false_or, List.append_cancel_left_eq, exists_eq_left'] at hcut htext
    rw [← hcut, ← htext]
    exact htokens
  · rintro ⟨d', rfl, h⟩
    refine ⟨join_withToken.trans (congrArg (tokenChars n ++ ·) h.join), fun before name => ?_⟩
    rw [hasTokenAt_withToken, occursAt_tokenChars hn]
    simp only [h.tokens]

/-- **A text has exactly one cut**, which its pieces make. -/
theorem of_iff : d.Of cs ↔ d = ofPieces (pieces cs) := by
  induction cs using scan_induction generalizing d with
  | nil =>
    rw [of_nil_iff, pieces]
    rfl
  | token name rest hname ih =>
    rw [of_tokenChars_iff hname, pieces_token hname]
    simp only [ih, exists_eq_right]
    rfl
  | char c cs hstart ih =>
    rw [of_cons_iff hstart, pieces_char hstart]
    simp only [ih, exists_eq_right]
    rfl

theorem fill_ofPieces (ps : List Piece) (argument : String → String) :
    (ofPieces ps).fill (fun name => (argument name).toList) = ps.flatMap (Piece.fill argument) := by
  induction ps with
  | nil => rfl
  | cons p ps ih =>
    cases p with
    | char c => exact fill_withChar.trans (congrArg (c :: ·) ih)
    | token name => exact fill_withToken.trans (congrArg ((argument name).toList ++ ·) ih)

theorem names_ofPieces (ps : List Piece) : (ofPieces ps).names = ps.filterMap Piece.name? := by
  induction ps with
  | nil => rfl
  | cons p ps ih =>
    cases p with
    | char c => exact ih
    | token name => exact congrArg (name :: ·) ih

end Cut

/-! ## Placeholders and interpolations -/

/-- What takes the place of a token: the string form of the value given for its name, and nothing where
there is no value or a null. -/
def inserted (arguments : List (String × Json)) (name : String) : String :=
  match arguments.lookup name with
  | none | some .null => ""
  | some (.str s) => s
  | some v => v.shown

variable {text : String} {arguments arguments' : List (String × Json)} {d : Cut}

theorem interpolate_eq : interpolate arguments text = fill text (inserted arguments) := by
  have hinserted : ∀ name, ((arguments.lookup name).map Json.display).getD "" =
      inserted arguments name := by
    intro name
    unfold inserted
    cases arguments.lookup name with
    | none => rfl
    | some v => cases v <;> rfl
  unfold interpolate
  simp only [hinserted]

theorem mem_namesOfAll_singleton : name ∈ (namesOfAll [text]).toNames ↔ name ∈ names text := by
  rw [namesOfAll, NameSet.mem_ofNames, List.flatMap_singleton]

/-- The placeholders of a template are the names of its cut. -/
theorem Cut.Of.names (h : d.Of text.toList) : Template.names text = d.names := by
  rw [of_iff.mp h, names_ofPieces]
  rfl

/-- A template is filled by filling its cut. -/
theorem Cut.Of.fill (h : d.Of text.toList) (argument : String → String) :
    (Template.fill text argument).toList = d.fill fun name => (argument name).toList := by
  rw [of_iff.mp h, fill_ofPieces, Template.fill, String.toList_ofList]

/-- Filling a cut depends on what is given for its names only. -/
theorem Cut.fill_congr {f g : String → List Char} (h : ∀ name ∈ d.names, f name = g name) :
    d.fill f = d.fill g := by
  have htokens : ∀ t ∈ d.tokens, f t.1 ++ t.2 = g t.1 ++ t.2 := by
    intro t ht
    rw [h t.1 (List.mem_map_of_mem ht)]
  unfold Cut.fill
  rw [List.flatMap_congr htokens]

/-- **Interpolation is substitution at the tokens.** A template has exactly one cut into literal texts and
the tokens that occur in it. Its placeholders are the names of that cut, and interpolating writes what is
given for each name between the literal texts, as it stands. So only the values of the placeholders
matter, giving each its own token gives the template back, and a template without placeholders is left as
it is. -/
theorem interpolate_cut (text : String) :
    ∃ d : Cut, d.Of text.toList ∧ (∀ d', Cut.Of d' text.toList → d' = d) ∧
      (∀ name, name ∈ (namesOfAll [text]).toNames ↔ name ∈ d.names) ∧
      (∀ arguments, (interpolate arguments text).toList =
        d.fill fun name => (inserted arguments name).toList) ∧
      (∀ arguments arguments', (∀ name ∈ (namesOfAll [text]).toNames,
          arguments.lookup name = arguments'.lookup name) →
        interpolate arguments text = interpolate arguments' text) ∧
      (∀ arguments, (∀ name ∈ (namesOfAll [text]).toNames,
          arguments.lookup name = some (.str (String.ofList (tokenChars name)))) →
        interpolate arguments text = text) ∧
      ((namesOfAll [text]).toNames = [] → ∀ arguments, interpolate arguments text = text) := by
  obtain ⟨d, hd⟩ : ∃ d : Cut, d.Of text.toList := ⟨_, Cut.of_iff.mpr rfl⟩
  have hnames : ∀ name, name ∈ (namesOfAll [text]).toNames ↔ name ∈ d.names := by
    intro name
    rw [mem_namesOfAll_singleton, hd.names]
  have hfill : ∀ arguments, (interpolate arguments text).toList =
      d.fill fun name => (inserted arguments name).toList := by
    intro arguments
    rw [interpolate_eq]
    exact hd.fill (inserted arguments)
  -- each consequence compares what is inserted for the names of the cut
  have hown : ∀ arguments, (∀ name ∈ (namesOfAll [text]).toNames,
      arguments.lookup name = some (.str (String.ofList (tokenChars name)))) →
      interpolate arguments text = text := by
    intro arguments h
    apply String.toList_inj.mp
    rw [hfill, ← hd.join]
    refine Cut.fill_congr fun name hname => ?_
    rw [inserted, h name ((hnames name).mpr hname)]
    exact String.toList_ofList
  refine ⟨d, hd, fun d' hd' => ?_, hnames, hfill, fun arguments arguments' h => ?_, hown,
    fun hnone arguments => hown arguments fun name hname => ?_⟩
  · rw [Cut.of_iff.mp hd', Cut.of_iff.mp hd]
  · apply String.toList_inj.mp
    rw [hfill, hfill]
    refine Cut.fill_congr fun name hname => ?_
    unfold inserted
    rw [h name ((hnames name).mpr hname)]
  · rw [hnone] at hname
    cases hname

/-- Braces that belong to no token stay where they are, and a value that looks like a token is not read
again. -/
example : interpolate [("a", .str "\x7bb\x7d"), ("b", .null)] "\x7b\x7ba\x7d\x7d \x7b1\x7d\x7bb\x7d" =
    "\x7b\x7bb\x7d\x7d \x7b1\x7d" := by
  decide +kernel

end Phrasebook.Template
