import Phrasebook.Proofs.ReadBack

/-!
# Names that the generated code refers to

Inside of the Dart class a member hides any other thing of its name, so no member may have a name that the
class refers to. These names can be read off the text of the class. Most of them are reserved; the types
of the core library are not, and each of these is the member of the key that has its name. In a TypeScript
module the parameters hide what the body of their accessor refers to, and all of that is reserved for them.

## Contents
- `Source.words`: the words that stand in the code of lines
- `Dart.namesUsed`, `Dart.mem_namesUsed_iff`, `Dart.mem_words_accessorLines`: what the Dart class refers to
- `TypeScript.namesUsed`, `TypeScript.mem_words_bodyLine`: what the body of a TypeScript accessor refers to
- `Identifier.OfLetters`, `Target.plan_member_eq_iff`: a name of letters is the member of one key at most
- `Target.shadowing_of_plan`: which members hide what the class refers to
-/

namespace Phrasebook

open Source

/-! ## The words of generated code -/

/-- The word that a token is. -/
def Token.word? : Token → Option String
  | .word cs => some (String.ofList cs)
  | _ => none

/-- The words that stand in the code of lines. -/
def Source.words (lines : List Line) : List String :=
  lines.flatMap fun line => (lineTokens line).filterMap Token.word?

/-- A word of lines is among the names of one of them. -/
theorem Source.mem_words {lines : List Line} {w : String} :
    w ∈ words lines ↔ ∃ line ∈ lines, .word w.toList ∈ Token.names (lineTokens line) := by
  have hword : ∀ t : Token, t.word? = some w ↔ t = .word w.toList := by
    intro t
    cases t with
    | word cs =>
      simp only [Token.word?, Option.some.injEq, Token.word.injEq]
      rw [← String.toList_inj, String.toList_ofList]
    | literal text => simp [Token.word?]
    | mark c => simp [Token.word?]
  unfold words Token.names
  simp only [List.mem_flatMap, List.mem_filterMap, List.mem_filter, hword]
  constructor
  · rintro ⟨line, hline, t, ht, rfl⟩
    exact ⟨line, hline, ht, rfl⟩
  · rintro ⟨line, hline, ht, -⟩
    exact ⟨line, hline, _, ht, rfl⟩

namespace Dart

/-- The lines of the class up to its accessors. -/
def classLines : List Line := helperLines.dropWhile (· ≠ [.code "class L10n \x7b"])

/-- The names that the text of the class binds itself, in the body of a method. -/
def localNames : List String := ["key", "params", "s"]

/-- The names that the class refers to. -/
def namesUsed : List String :=
  ["String", "Map", "Object", "L10n", "locale", "defaultLocale", "resolveLocale", "interpolate",
    "_strings", "t"]

/-- The types of the core library among them. -/
def coreTypes : List String := ["String", "Map", "Object"]

/-- The words of the class, in the order of its text. -/
theorem words_classLines : words classLines =
    ["class", "L10n", "final", "String", "locale", "L10n", "String", "locale", "defaultLocale",
      "locale", "resolveLocale", "locale", "String", "t", "String", "key", "Map", "String", "Object",
      "params", "const", "final", "s", "_strings", "key", "locale", "key", "return", "interpolate",
      "s", "params"] := by
  decide +kernel

theorem mem_namesUsed_iff (w : String) :
    w ∈ namesUsed ↔ w ∈ words classLines ∧ w ∉ Target.dartKeywords ∧ w ∉ localNames := by
  rw [words_classLines]
  constructor
  · revert w
    decide
  · rintro ⟨hword, hkeyword, hlocal⟩
    revert w
    decide

/-- The words of a parameter in a signature. -/
def requiredNames (p : Parameter) : List Token :=
  [.word "required".toList, .word "Object".toList, .word p.identifier.toList]

theorem names_required {p : Parameter} (h : Identifier.IsIdentifier p.identifier) {ts : List Token}
    (hts : Token.Breaks ts) :
    Token.names (addLine [.code ("required Object? " ++ p.identifier)] ts) =
      requiredNames p ++ Token.names ts := by
  show Token.names ((Piece.code ("required Object? " ++ p.identifier)).addTokens ts) = _
  rw [addTokens_after h "required Object? " hts]
  rfl

/-- The names in the signature of a method, behind the name of the method. -/
theorem names_signature {a : Accessor} (h : a.IsNamed) :
    Token.names (lineTokens (listed ", "
        (a.parameters.map fun p => [.code ("required Object? " ++ p.identifier)]) ++
          [.code "\x7d) =>"])) = a.parameters.flatMap requiredNames := by
  have hend : Token.Breaks ((Piece.code "\x7d) =>").addTokens []) := Token.breaks_mark '\x7d' _
  have hrequired := names_listed names_comma hend fun p hp ts => names_required (h.parameter p hp)
  rw [lineTokens_concat, hrequired]
  show a.parameters.flatMap requiredNames ++ [] = _
  rw [List.append_nil]

/-- **What an accessor refers to**, besides its own member and parameters. -/
theorem mem_words_accessorLines {a : Accessor} (h : a.IsNamed) {w : String}
    (hw : w ∈ words (accessorLines a)) :
    w ∈ namesUsed ∨ w ∈ Target.dartKeywords ∨ w = a.member ∨
      ∃ p ∈ a.parameters, w = p.identifier := by
  obtain ⟨line, hline, hw⟩ := mem_words.mp hw
  unfold accessorLines at hline
  split at hline
  · rcases List.mem_pair.mp hline with rfl | rfl
    · cases hw
    · rw [names_getter h] at hw
      simp only [List.mem_cons, Token.word.injEq, String.toList_inj, reduceCtorEq, List.not_mem_nil,
        or_false] at hw
      rcases hw with rfl | rfl | rfl | rfl
      · exact Or.inl (by decide)
      · exact Or.inr (Or.inl (by decide))
      · exact Or.inr (Or.inr (Or.inl rfl))
      · exact Or.inl (by decide)
  · simp only [List.mem_cons, List.not_mem_nil, or_false] at hline
    rcases hline with rfl | rfl | rfl
    · cases hw
    · rw [List.cons_append, names_methodHead h, names_signature h] at hw
      simp only [requiredNames, List.mem_cons, List.mem_flatMap, Token.word.injEq, String.toList_inj,
        List.not_mem_nil, or_false] at hw
      rcases hw with rfl | rfl | ⟨p, hp, rfl | rfl | rfl⟩
      · exact Or.inl (by decide)
      · exact Or.inr (Or.inr (Or.inl rfl))
      · exact Or.inr (Or.inl (by decide))
      · exact Or.inl (by decide)
      · exact Or.inr (Or.inr (Or.inr ⟨p, hp, rfl⟩))
    · rw [names_methodBody h] at hw
      simp only [bindingNames, List.mem_cons, List.mem_flatMap, Token.word.injEq, String.toList_inj,
        reduceCtorEq, List.not_mem_nil, or_false, false_or] at hw
      rcases hw with rfl | ⟨p, hp, rfl⟩
      · exact Or.inl (by decide)
      · exact Or.inr (Or.inr (Or.inr ⟨p, hp, rfl⟩))

end Dart

namespace TypeScript

/-- The body of an accessor: the line behind its head. -/
def bodyLine (a : Accessor) : Line := (accessorLines a).getD 2 []

/-- The names that the body of an accessor refers to. -/
def namesUsed : List String := ["t", "this"]

/-- **What the body of an accessor refers to**, besides its parameters; the locale is a member. -/
theorem mem_words_bodyLine {a : Accessor} (h : a.IsNamed) {w : String}
    (hw : w ∈ words [bodyLine a]) :
    w ∈ namesUsed ∨ w ∈ Target.typeScriptKeywords ∨ w = "locale" ∨
      ∃ p ∈ a.parameters, w = p.identifier := by
  obtain ⟨line, hline, hw⟩ := mem_words.mp hw
  obtain rfl := List.mem_singleton.mp hline
  have hnames : Token.names (lineTokens (bodyLine a)) =
      callNames a.key ++ a.parameters.flatMap bindingNames := by
    unfold bodyLine accessorLines
    split
    · rename_i hempty
      rw [List.isEmpty_iff.mp hempty]
      rfl
    · exact names_methodBody h
  rw [hnames, List.mem_append, List.mem_flatMap] at hw
  rcases hw with hcall | ⟨p, hp, hbinding⟩
  · simp only [callNames, List.mem_cons, Token.word.injEq, String.toList_inj, reduceCtorEq,
      List.not_mem_nil, or_false] at hcall
    rcases hcall with rfl | rfl | rfl | rfl
    · exact Or.inr (Or.inl (by decide))
    · exact Or.inl (by decide)
    · exact Or.inl (by decide)
    · exact Or.inr (Or.inr (Or.inl rfl))
  · refine Or.inr (Or.inr (Or.inr ⟨p, hp, ?_⟩))
    unfold bindingNames at hbinding
    split at hbinding
    · simpa [String.toList_inj] using hbinding
    · simpa [String.toList_inj] using hbinding

end TypeScript

/-! ## Names of letters

What the steps from a name to an identifier add is an underscore or has one in it. So a name of letters
alone comes out of them only where it went in. -/

namespace Identifier

/-- A name **of letters** alone. -/
def OfLetters (w : String) : Prop := w.toList ≠ [] ∧ w.toList.all Char.isAlpha = true

instance (w : String) : Decidable (OfLetters w) :=
  inferInstanceAs (Decidable (w.toList ≠ [] ∧ w.toList.all Char.isAlpha = true))

variable {w : String}

theorem OfLetters.isAlpha (h : OfLetters w) : ∀ c ∈ w.toList, c.isAlpha = true :=
  List.all_eq_true.mp h.2

theorem OfLetters.underscore_not_mem (h : OfLetters w) : '_' ∉ w.toList := by
  intro hmem
  exact absurd (h.isAlpha '_' hmem) (by decide)

/-- A character that is cleaned to a letter is that letter. -/
theorem cleanChar_eq_of_isAlpha {c : Char} (h : (cleanChar c).isAlpha = true) : cleanChar c = c := by
  unfold cleanChar at h ⊢
  split
  · rfl
  · rename_i hname
    rw [if_neg hname] at h
    exact absurd h (by decide)

theorem OfLetters.isIdentifier (h : OfLetters w) : IsIdentifier w := by
  have hletters := h.isAlpha
  obtain ⟨c, cs, hcs⟩ := List.exists_cons_of_ne_nil h.1
  rw [hcs, List.forall_mem_cons] at hletters
  refine ⟨c, cs, hcs, ?_, ?_⟩
  · simp [Template.isNameStart, hletters.1]
  · intro d hd
    simp [Template.isNameChar, Char.isAlphanum, hletters.2 d hd]

/-- A name that is cleaned to a name of letters is that name. -/
theorem clean_eq_iff (h : OfLetters w) (name : String) : clean safePrefix name = w ↔ name = w := by
  constructor
  · intro hclean
    dsimp only [Identifier.clean] at hclean
    split at hclean
    · -- what stands for an empty name has an underscore
      subst hclean
      exact absurd (by decide) h.underscore_not_mem
    · split at hclean
      · -- so has what is put in front of a digit
        refine absurd ?_ h.underscore_not_mem
        rw [← hclean, String.toList_append]
        exact List.mem_append_left _ (by decide)
      · have hchars : name.toList.map cleanChar = w.toList := by
          rw [← hclean, String.toList_ofList]
        have hsame : name.toList.map cleanChar = name.toList.map id := by
          refine List.map_congr_left fun c hc => cleanChar_eq_of_isAlpha (h.isAlpha _ ?_)
          rw [← hchars]
          exact List.mem_map_of_mem hc
        rw [← String.toList_inj, ← hchars, hsame, List.map_id]
  · rintro rfl
    exact h.isIdentifier.clean_eq

/-- A name of letters is made of itself only, unless it is reserved. -/
theorem sanitize_eq_iff (h : OfLetters w) {reserved : List String} (hreserved : w ∉ reserved)
    (name : String) : sanitize reserved safePrefix name = w ↔ name = w := by
  have hclean := clean_eq_iff h name
  dsimp only [sanitize]
  split
  · rename_i hcontains
    have hmem : clean safePrefix name ∈ reserved := List.contains_iff_mem.mp hcontains
    constructor
    · intro hw
      refine absurd ?_ h.underscore_not_mem
      rw [← hw, String.toList_append]
      exact List.mem_append_right _ (by decide)
    · intro hw
      rw [hclean.mpr hw] at hmem
      exact absurd hmem hreserved
  · exact hclean

/-- The free variant of a candidate is a name of letters only where the candidate is that name. -/
theorem unique_eq_iff (h : OfLetters w) {candidate : String} {taken : List String}
    (htaken : w ∉ taken) : unique candidate taken = w ↔ candidate = w := by
  constructor
  · intro hunique
    rcases unique_eq candidate taken with hsame | ⟨n, hnumbered⟩
    · rw [← hsame, hunique]
    · refine absurd ?_ h.underscore_not_mem
      rw [← hunique, hnumbered, toList_numbered]
      simp
  · rintro rfl
    exact unique_of_not_mem htaken

/-- **Among assigned identifiers a name of letters belongs to the name that asks for it.** -/
theorem assign_eq_iff (h : OfLetters w) {identifier : String → String}
    (hidentifier : ∀ name, identifier name = w ↔ name = w) {names taken : List String}
    (hnodup : names.Nodup) (htaken : w ∉ taken) :
    ∀ p ∈ names.zip (assign identifier taken names), p.2 = w ↔ p.1 = w := by
  induction names generalizing taken with
  | nil => simp
  | cons name rest ih =>
    have hchosen : unique (identifier name) taken = w ↔ name = w :=
      (unique_eq_iff h htaken).trans (hidentifier name)
    rw [List.nodup_cons] at hnodup
    dsimp only [assign]
    rw [List.zip_cons_cons, List.forall_mem_cons]
    refine ⟨hchosen, ?_⟩
    by_cases hname : name = w
    · -- it is taken now, and no name behind this one is the same
      have htaken' : w ∈ unique (identifier name) taken :: taken := by
        rw [hchosen.mpr hname]
        exact List.mem_cons_self
      rintro ⟨other, x⟩ hp
      obtain ⟨hother, hx⟩ := List.of_mem_zip hp
      constructor
      · intro hxw
        obtain rfl : x = w := hxw
        exact absurd htaken' (not_mem_of_mem_assign hx)
      · intro how
        obtain rfl : other = w := how
        rw [← hname] at hother
        exact absurd hother hnodup.1
    · refine ih hnodup.2 ?_
      intro hmem
      rcases List.mem_cons.mp hmem with hw | hw
      · exact hname (hchosen.mp hw.symm)
      · exact htaken hw

end Identifier

namespace Target
open Identifier

variable {target : Target} {c : Catalog} {accessors : List Accessor} {w : String}

/-- **A name of letters is the member of one key at most**, the one that has this name. -/
theorem plan_member_eq_iff (h : target.plan c = .ok accessors) (hw : OfLetters w)
    (hreserved : w ∉ target.reserved) {a : Accessor} (ha : a ∈ accessors) :
    a.member = w ↔ a.key = w := by
  have hassign := assign_eq_iff hw (sanitize_eq_iff hw hreserved)
    c.entries.keys_nodup (List.not_mem_nil : w ∉ [])
  have hmem : (a.key, a.member) ∈ accessors.map fun a => (a.key, a.member) :=
    List.mem_map_of_mem ha
  rw [plan_key_members h] at hmem
  exact hassign (a.key, a.member) hmem

/-- What the Dart class refers to is reserved, but for the types of the core library. -/
theorem dart_reserved_or_coreType :
    ∀ w ∈ Dart.namesUsed, w ∈ dart.reserved ∨ w ∈ Dart.coreTypes := by
  decide

theorem dart_coreTypes_not_reserved : ∀ w ∈ Dart.coreTypes, OfLetters w ∧ w ∉ dart.reserved := by
  decide

/-- A key that is called like a type of the core library gets a member of the same name. -/
theorem dart_member_of_coreType (h : dart.plan c = .ok accessors) {a : Accessor} (ha : a ∈ accessors)
    (hcore : a.key ∈ Dart.coreTypes) : a.member = a.key := by
  obtain ⟨hletters, hfree⟩ := dart_coreTypes_not_reserved a.key hcore
  exact (plan_member_eq_iff h hletters hfree ha).mpr rfl

/-- **A member that hides what the Dart class refers to** is called like a type of the core library, and
so is its key. -/
theorem dart_coreType_of_member (h : dart.plan c = .ok accessors) {a : Accessor} (ha : a ∈ accessors)
    (hused : a.member ∈ Dart.namesUsed) : a.key ∈ Dart.coreTypes := by
  rcases dart_reserved_or_coreType a.member hused with hreserved | hcore
  · exact absurd hreserved (plan_member_not_reserved h ha)
  · obtain ⟨hletters, hfree⟩ := dart_coreTypes_not_reserved a.member hcore
    have hkey : a.key = a.member := (plan_member_eq_iff h hletters hfree ha).mp rfl
    rw [hkey]
    exact hcore

/-- What the body of a TypeScript accessor refers to is reserved for its parameters. -/
theorem typeScript_namesUsed_reserved :
    ∀ w ∈ TypeScript.namesUsed, w ∈ typeScript.reservedParameters := by
  decide

/-- **What generated names hide.** What the Dart class refers to is what stands in its text, but for the
keywords of the language and the names that are bound where they are used; its accessors add only their own
members and parameters to that. A member hides one of these names exactly when its key is called like a type
of the core library, and then it has that name as well. No parameter of a TypeScript accessor hides a name
that the body of the accessor refers to. -/
theorem shadowing_of_plan (c : Catalog) :
    (∀ w, w ∈ Dart.namesUsed ↔
      w ∈ words Dart.classLines ∧ w ∉ dartKeywords ∧ w ∉ Dart.localNames) ∧
    (∀ accessors, dart.plan c = .ok accessors → ∀ a ∈ accessors,
      (∀ w ∈ words (Dart.accessorLines a), w ∈ Dart.namesUsed ∨ w ∈ dartKeywords ∨ w = a.member ∨
        ∃ p ∈ a.parameters, w = p.identifier) ∧
      (a.member ∈ Dart.namesUsed ↔ a.key ∈ Dart.coreTypes) ∧
      (a.key ∈ Dart.coreTypes → a.member = a.key)) ∧
    ∀ accessors, typeScript.plan c = .ok accessors → ∀ a ∈ accessors,
      (∀ w ∈ words [TypeScript.bodyLine a], w ∈ TypeScript.namesUsed ∨ w ∈ typeScriptKeywords ∨
        w = "locale" ∨ ∃ p ∈ a.parameters, w = p.identifier) ∧
      ∀ p ∈ a.parameters, p.identifier ∉ TypeScript.namesUsed := by
  refine ⟨Dart.mem_namesUsed_iff, ?_, ?_⟩
  · intro accessors h a ha
    have hmember : a.key ∈ Dart.coreTypes → a.member = a.key := dart_member_of_coreType h ha
    refine ⟨?_, ⟨dart_coreType_of_member h ha, ?_⟩, hmember⟩
    · intro w hw
      exact Dart.mem_words_accessorLines (isNamed_plan h a ha) hw
    · intro hcore
      have hused : ∀ w ∈ Dart.coreTypes, w ∈ Dart.namesUsed := by decide
      rw [hmember hcore]
      exact hused a.key hcore
  · intro accessors h a ha
    constructor
    · intro w hw
      exact TypeScript.mem_words_bodyLine (isNamed_plan h a ha) hw
    · intro p hp hused
      obtain ⟨e, -, -, hparameters, -⟩ := mem_plan h ha
      rw [hparameters] at hp
      exact parameters_not_reserved hp (typeScript_namesUsed_reserved p.identifier hused)

/-- A catalog whose keys, and a placeholder of each, are called like things that the generated code
refers to. -/
def coreNamed : Catalog :=
  ["Map", "Object!", "String", "String_2", "t"].foldl
    (fun c key => c.update key fun e => (e.setText "en" "").declare ["t", "this"]) (.ofLocales ["en"])

theorem shadowing_of_plan_coreNamed :
    (∃ accessors, dart.plan coreNamed = .ok accessors ∧
      accessors.map Accessor.member = ["Map", "Object_", "String", "String_2", "t_"] ∧
      ∀ a ∈ accessors, a.member ∈ Dart.namesUsed ↔ a.key ∈ Dart.coreTypes) ∧
    ∃ accessors, typeScript.plan coreNamed = .ok accessors ∧
      ∀ a ∈ accessors, ∀ p ∈ a.parameters, p.identifier ∉ TypeScript.namesUsed := by
  obtain ⟨accessors, h⟩ : ∃ accessors, dart.plan coreNamed = .ok accessors := ⟨_, rfl⟩
  obtain ⟨accessors', h'⟩ : ∃ accessors, typeScript.plan coreNamed = .ok accessors := ⟨_, rfl⟩
  obtain ⟨-, hdart, htypeScript⟩ := shadowing_of_plan coreNamed
  have hmembers : accessors.map Accessor.member =
      ["Map", "Object_", "String", "String_2", "t_"] := by
    rw [plan_members h]
    decide +kernel
  exact ⟨⟨accessors, h, hmembers, fun a ha => (hdart accessors h a ha).2.1⟩, accessors', h',
    fun a ha => (htypeScript accessors' h' a ha).2⟩

/-- **A member can hide a type that the class refers to.** The getter for a key that is called `String` has
that name, as has the type of all members. -/
theorem member_hides_coreType :
    ¬ ∀ (c : Catalog) (accessors : List Accessor), dart.plan c = .ok accessors →
      ∀ a ∈ accessors, a.member ∉ Dart.namesUsed := by
  intro hnever
  let c : Catalog := (Catalog.ofLocales ["en"]).update "String" (·.setText "en" "x")
  have hplan : dart.plan c = .ok [⟨"String", "String", [], [("en", "x")]⟩] := by decide +kernel
  exact hnever c _ hplan _ List.mem_cons_self (by decide)

end Target

end Phrasebook
