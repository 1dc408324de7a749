import Phrasebook.Bundle.Load
import Phrasebook.Proofs.LocaleTag
import Phrasebook.Proofs.TagGrammar

/-!
# The locale in a file name

The name of a bundle file tells a locale when it ends in an underscore, a tag, a dot and an extension.
There is one way at most to take a name apart so, because the dot is the last one and the tag has its
length fixed by what stands before it. The tags of file names are among those that settings accept.

## Contents
- `IsFileTag`, `NameParts`, `MatchesName`: the grammar of names
- `localeOfFileName?_eq_some_iff`: the tag in a name is the one of its parts
- `NameParts.unique`: a name has one set of parts
- `readLocalized_of_name`: what a file comes to whose bundle names no locale
- `locale_of_name`: all of it for one path
-/

namespace Phrasebook

/-! ## The grammar -/

/-- Characters are a **tag of a file name**: two small letters, and possibly a hyphen and two capitals. -/
inductive IsFileTag : List Char → Prop where
  | language {a b : Char} (ha : a.isLower = true) (hb : b.isLower = true) : IsFileTag [a, b]
  | region {a b x y : Char} (ha : a.isLower = true) (hb : b.isLower = true) (hx : x.isUpper = true)
    (hy : y.isUpper = true) : IsFileTag [a, b, '-', x, y]

/-- A name is **taken apart** into anything, an underscore, a tag, a dot, and an extension in which no
other dot stands. -/
structure NameParts (name front tag ext : String) : Prop where
  name_eq : name = front ++ "_" ++ tag ++ "." ++ ext
  isFileTag : IsFileTag tag.toList
  ext_ne : ext ≠ ""
  dot_not_mem : '.' ∉ ext.toList

/-- A name **matches** the expression for file names, which may leave a last line feed to its end mark. -/
def MatchesName (name front tag ext : String) : Prop :=
  IsFileTag tag.toList ∧ ext ≠ "" ∧ '.' ∉ ext.toList ∧
    ∃ behind ∈ ["", "\n"], name = front ++ "_" ++ tag ++ "." ++ ext ++ behind

/-- The end mark adds nothing: what it leaves may as well belong to the extension. -/
theorem exists_nameParts_iff_matchesName {name tag : String} :
    (∃ front ext, NameParts name front tag ext) ↔ ∃ front ext, MatchesName name front tag ext := by
  constructor
  · rintro ⟨front, ext, h⟩
    refine ⟨front, ext, h.isFileTag, h.ext_ne, h.dot_not_mem, "", List.mem_cons_self, ?_⟩
    rw [String.append_empty]
    exact h.name_eq
  · rintro ⟨front, ext, htag, hne, hdot, behind, hbehind, hname⟩
    have hends : ∀ s ∈ ["", "\n"], '.' ∉ s.toList := by decide
    refine ⟨front, ext ++ behind, ?_, htag, ?_, ?_⟩
    · rw [hname, String.append_assoc]
    · intro hempty
      exact hne (String.append_eq_empty_iff.mp hempty).1
    · rw [String.toList_append, List.mem_append, not_or]
      exact ⟨hdot, hends behind hbehind⟩

/-- The characters of a name by its parts, from the last one to the first. -/
theorem NameParts.reverse_toList {name front tag ext : String} (h : NameParts name front tag ext) :
    name.toList.reverse =
      ext.toList.reverse ++ '.' :: (tag.toList.reverse ++ '_' :: front.toList.reverse) := by
  rw [h.name_eq]
  simp [String.toList_append]

/-! ## The tag in a name -/

/-- From the back of a stem its tag is read, which has to stand behind an underscore. -/
theorem tagOfReversedStem?_eq_some_iff {stem : List Char} {tag : String} :
    tagOfReversedStem? stem = some tag ↔
      IsFileTag tag.toList ∧ ∃ front, stem = tag.toList.reverse ++ '_' :: front := by
  constructor
  · intro h
    unfold tagOfReversedStem? at h
    split at h
    · rename_i y x b a front
      split at h
      · rename_i hletters
        simp only [Bool.and_eq_true] at hletters
        obtain ⟨⟨⟨ha, hb⟩, hx⟩, hy⟩ := hletters
        cases h
        rw [String.toList_ofList]
        exact ⟨IsFileTag.region ha hb hx hy, front, rfl⟩
      · cases h
    · rename_i b a front
      split at h
      · rename_i hletters
        obtain ⟨ha, hb⟩ := Bool.and_eq_true_iff.mp hletters
        cases h
        rw [String.toList_ofList]
        exact ⟨IsFileTag.language ha hb, front, rfl⟩
      · cases h
    · cases h
  · rintro ⟨htag, front, rfl⟩
    rw [← String.ofList_toList (s := tag)]
    generalize tag.toList = cs at htag
    cases htag with
    | language ha hb => simp [tagOfReversedStem?, ha, hb]
    | region ha hb hx hy => simp [tagOfReversedStem?, ha, hb, hx, hy]

/-- Characters up to the first dot, and from it on. -/
theorem span_dot {ext : List Char} (stem : List Char) (h : '.' ∉ ext) :
    (ext ++ '.' :: stem).takeWhile (· ≠ '.') = ext ∧
      (ext ++ '.' :: stem).dropWhile (· ≠ '.') = '.' :: stem := by
  have hext : ∀ c ∈ ext, decide (c ≠ '.') = true := by
    intro c hc
    rw [decide_eq_true_iff]
    rintro rfl
    exact h hc
  constructor
  · rw [List.takeWhile_append_of_pos hext, List.takeWhile_cons_of_neg (by decide), List.append_nil]
  · rw [List.dropWhile_append_of_pos hext, List.dropWhile_cons_of_neg (by decide)]

/-- Characters with a dot among them are cut at the first one. -/
theorem eq_of_dropWhile_dot {cs stem : List Char} {c : Char}
    (h : cs.dropWhile (· ≠ '.') = c :: stem) :
    cs = cs.takeWhile (· ≠ '.') ++ '.' :: stem ∧ '.' ∉ cs.takeWhile (· ≠ '.') := by
  have hhead := List.head?_dropWhile_not (fun c => decide (c ≠ '.')) cs
  rw [h] at hhead
  obtain rfl : c = '.' := by simpa using hhead
  constructor
  · rw [← h, List.takeWhile_append_dropWhile]
  · intro hmem
    have hall := List.all_takeWhile (p := fun c => decide (c ≠ '.')) (l := cs)
    exact absurd (List.all_eq_true.mp hall '.' hmem) (by decide)

/-- **The tag in a name** is that of the parts that the name is taken apart into. -/
theorem localeOfFileName?_eq_some_iff {name tag : String} :
    localeOfFileName? name = some tag ↔ ∃ front ext, NameParts name front tag ext := by
  unfold localeOfFileName?
  dsimp only
  constructor
  · intro h
    split at h
    · cases h
    · rename_i hext
      split at h
      · cases h
      · rename_i c stem hdrop
        obtain ⟨hcut, hdot⟩ := eq_of_dropWhile_dot hdrop
        obtain ⟨htag, front, hstem⟩ := tagOfReversedStem?_eq_some_iff.mp h
        generalize name.toList.reverse.takeWhile (· ≠ '.') = ext at hext hcut hdot
        have hname : name.toList = front.reverse ++ '_' :: (tag.toList ++ '.' :: ext.reverse) := by
          rw [← List.reverse_inj, hcut, hstem]
          simp
        refine ⟨String.ofList front.reverse, String.ofList ext.reverse, ?_, htag, ?_, ?_⟩
        · rw [← String.toList_inj, hname]
          simp [String.toList_append]
        · intro hempty
          rw [← String.toList_inj, String.toList_ofList] at hempty
          exact hext (List.isEmpty_iff.mpr (List.reverse_eq_nil_iff.mp hempty))
        · rw [String.toList_ofList, List.mem_reverse]
          exact hdot
  · rintro ⟨front, ext, h⟩
    have hdot : '.' ∉ ext.toList.reverse := by
      rw [List.mem_reverse]
      exact h.dot_not_mem
    obtain ⟨htake, hdrop⟩ :=
      span_dot (tag.toList.reverse ++ '_' :: front.toList.reverse) hdot
    rw [h.reverse_toList, htake, hdrop, if_neg]
    · exact tagOfReversedStem?_eq_some_iff.mpr ⟨h.isFileTag, _, rfl⟩
    · rw [List.isEmpty_iff, List.reverse_eq_nil_iff]
      intro hnil
      exact h.ext_ne (String.toList_inj.mp hnil)

/-- **A name is taken apart in one way only.** -/
theorem NameParts.unique {name front tag ext front' tag' ext' : String}
    (h : NameParts name front tag ext) (h' : NameParts name front' tag' ext') :
    front = front' ∧ tag = tag' ∧ ext = ext' := by
  -- the tag is the one that the name is read as
  have htag : tag = tag' := by
    have hread := localeOfFileName?_eq_some_iff.mpr ⟨front, ext, h⟩
    rw [localeOfFileName?_eq_some_iff.mpr ⟨front', ext', h'⟩] at hread
    exact (Option.some.inj hread).symm
  subst htag
  have hcut := h.reverse_toList
  rw [h'.reverse_toList] at hcut
  -- the dot is the last one in both
  have hspan := span_dot (tag.toList.reverse ++ '_' :: front.toList.reverse)
    (mt List.mem_reverse.mp h.dot_not_mem)
  have hspan' := span_dot (tag.toList.reverse ++ '_' :: front'.toList.reverse)
    (mt List.mem_reverse.mp h'.dot_not_mem)
  rw [hcut] at hspan'
  have hext : ext.toList.reverse = ext'.toList.reverse := hspan.1.symm.trans hspan'.1
  have hstem := List.cons.inj (hspan.2.symm.trans hspan'.2)
  have hfront := List.cons.inj (List.append_cancel_left hstem.2)
  exact ⟨String.toList_inj.mp (List.reverse_inj.mp hfront.2), rfl,
    String.toList_inj.mp (List.reverse_inj.mp hext)⟩

/-! ## Files whose bundles name no locale -/

/-- A file whose bundle names no locale belongs to the locale in the name of the file; where there is none,
reading it fails with that name. -/
theorem Workspace.readLocalized_of_name {w : Workspace} {p : Path} {bundle : Bundle}
    (hread : w.readBundle p = .ok bundle) (hnone : bundle.declaredLocale? = none) :
    w.readLocalized p = match localeOfFileName? p.name with
      | some tag => .ok (tag, bundle)
      | none => .error (.failure (.unknownLocale p.name)) := by
  have hlocale : bundle.locale? p = localeOfFileName? p.name := by
    unfold Bundle.locale?
    rw [hnone, Option.none_or]
  unfold readLocalized
  rw [hread]
  dsimp only
  rw [hlocale]
  cases localeOfFileName? p.name with
  | none => rfl
  | some tag => rfl

/-! ## Tags of file names in settings -/

theorem isAlpha_of_isLower {c : Char} (h : c.isLower = true) : c.isAlpha = true := by
  have hdef : c.isAlpha = (c.isUpper || c.isLower) := rfl
  rw [hdef, h, Bool.or_true]

theorem isAlpha_of_isUpper {c : Char} (h : c.isUpper = true) : c.isAlpha = true := by
  have hdef : c.isAlpha = (c.isUpper || c.isLower) := rfl
  rw [hdef, h, Bool.true_or]

/-- **The tags of file names are locale tags.** -/
theorem IsFileTag.isTag {cs : List Char} (h : IsFileTag cs) : IsTag cs := by
  have hpair : ∀ {p : Char → Bool} {most : Nat} {a b : Char}, p a = true → p b = true → 2 ≤ most →
      Repeats p 2 most [a, b] := by
    intro p most a b ha hb hmost
    refine ⟨Nat.le_refl 2, hmost, ?_⟩
    intro c hc
    rcases List.mem_cons.mp hc with rfl | hc
    · exact ha
    · rw [List.mem_singleton.mp hc]
      exact hb
  cases h with
  | @language a b ha hb =>
    exact ⟨[a, b], [], rfl, hpair (isAlpha_of_isLower ha) (isAlpha_of_isLower hb) (by decide),
      IsSubtags.nil⟩
  | @region a b x y ha hb hx hy =>
    have hsubtag : Repeats Char.isAlphanum 2 8 [x, y] :=
      hpair (Text.isAlphanum_of_isAlpha (isAlpha_of_isUpper hx))
        (Text.isAlphanum_of_isAlpha (isAlpha_of_isUpper hy)) (by decide)
    refine ⟨[a, b], '-' :: ([x, y] ++ []), rfl,
      hpair (isAlpha_of_isLower ha) (isAlpha_of_isLower hb) (by decide), ?_⟩
    exact IsSubtags.cons (Or.inl rfl) hsubtag IsSubtags.nil

/-- **What the name of a file tells.** It tells a tag exactly when it is taken apart with this tag, which is
possible in one way only; and that is exactly when the expression matches, wherever in the name the match
starts. A file whose bundle names no locale then belongs to the locale of this tag, and otherwise reading it
fails with the name of the file. Settings accept every such tag as it is. -/
theorem locale_of_name (p : Path) :
    (∀ tag, localeOfFileName? p.name = some tag ↔ ∃ front ext, NameParts p.name front tag ext) ∧
    (∀ tag, (∃ front ext, MatchesName p.name front tag ext) ↔
      ∃ front ext, NameParts p.name front tag ext) ∧
    (∀ front tag ext front' tag' ext', NameParts p.name front tag ext →
      NameParts p.name front' tag' ext' → front = front' ∧ tag = tag' ∧ ext = ext') ∧
    (∀ (w : Workspace) bundle, w.readBundle p = .ok bundle → bundle.declaredLocale? = none →
      (∀ front tag ext, NameParts p.name front tag ext → w.readLocalized p = .ok (tag, bundle)) ∧
      ((¬ ∃ front tag ext, NameParts p.name front tag ext) →
        w.readLocalized p = .error (.failure (.unknownLocale p.name)))) ∧
    ∀ tag, localeOfFileName? p.name = some tag → Settings.AcceptsUnchanged tag := by
  refine ⟨fun tag => localeOfFileName?_eq_some_iff, fun tag => exists_nameParts_iff_matchesName.symm,
    fun front tag ext front' tag' ext' => NameParts.unique, ?_, ?_⟩
  · intro w bundle hread hnone
    rw [Workspace.readLocalized_of_name hread hnone]
    constructor
    · intro front tag ext h
      rw [localeOfFileName?_eq_some_iff.mpr ⟨front, ext, h⟩]
    · intro hno
      cases hname : localeOfFileName? p.name with
      | none => rfl
      | some tag =>
        obtain ⟨front, ext, h⟩ := localeOfFileName?_eq_some_iff.mp hname
        exact absurd ⟨front, tag, ext, h⟩ hno
  · intro tag htag
    obtain ⟨front, ext, h⟩ := localeOfFileName?_eq_some_iff.mp htag
    exact Settings.acceptsUnchanged_iff.mpr (isLocaleTag_iff.mpr h.isFileTag.isTag)

/-- A workspace with one bundle file, whose bundle is empty. -/
def withEmptyBundle (name : String) : Workspace where
  tree := .dir [(name, .file "{}".toUTF8)]
  base := []

theorem locale_of_name_deDE :
    NameParts "foo_en.x_de-DE.arb\n" "foo_en.x" "de-DE" "arb\n" ∧
      (withEmptyBundle "foo_en.x_de-DE.arb\n").readLocalized (.ofString "foo_en.x_de-DE.arb\n") =
        .ok ("de-DE", .empty) ∧
      Settings.AcceptsUnchanged "de-DE" ∧
      (¬ ∃ front tag ext, NameParts "app_english.arb" front tag ext) ∧
      (withEmptyBundle "app_english.arb").readLocalized (.ofString "app_english.arb") =
        .error (.failure (.unknownLocale "app_english.arb")) := by
  obtain ⟨hparts, -, -, hread, haccepts⟩ := locale_of_name (.ofString "foo_en.x_de-DE.arb\n")
  obtain ⟨hparts', -, -, hread', -⟩ := locale_of_name (.ofString "app_english.arb")
  have hname : NameParts "foo_en.x_de-DE.arb\n" "foo_en.x" "de-DE" "arb\n" :=
    ⟨by decide, IsFileTag.region rfl rfl rfl rfl, by decide, by decide⟩
  have hno : ¬ ∃ front tag ext, NameParts "app_english.arb" front tag ext := by
    rintro ⟨front, tag, ext, h⟩
    have hnone : localeOfFileName? (Path.ofString "app_english.arb").name = none := by
      decide +kernel
    rw [(hparts' tag).mpr ⟨front, ext, h⟩] at hnone
    cases hnone
  refine ⟨hname, ?_, ?_, hno, ?_⟩
  · exact (hread (withEmptyBundle "foo_en.x_de-DE.arb\n") .empty rfl rfl).1 _ _ _ hname
  · exact haccepts "de-DE" ((hparts "de-DE").mpr ⟨_, _, hname⟩)
  · exact (hread' (withEmptyBundle "app_english.arb") .empty rfl rfl).2 hno

end Phrasebook
