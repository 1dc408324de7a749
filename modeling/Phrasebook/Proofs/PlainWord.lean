import Phrasebook.Proofs.Letters
import Phrasebook.Yaml.PlainScalar
import Phrasebook.Yaml.Type

/-!
# Words as plain scalars

A word of letters, digits, hyphens and underscores that starts with a letter needs no quotes in a YAML
text: none of its characters has a meaning there. It means a text, unless it is one of the words that
YAML has for truth values and for no value.

## Contents
- `IsWord`: the words
- `plainScalar_word`: a word is read as a plain scalar
- `ofPlain_word`: the type that it gets
-/

namespace Phrasebook

namespace Yaml

open Text (code_of_isAlpha isAlphanum_of_isAlpha ne_of_class not_isDigit_of_isAlpha)

/-! ## Characters of a word -/

theorem isNameChar_of_isAlphanum {c : Char} (h : c.isAlphanum = true) : isNameChar c = true := by
  unfold isNameChar
  rw [h]
  rfl

theorem isNameChar_of_isAlpha {c : Char} (h : c.isAlpha = true) : isNameChar c = true :=
  isNameChar_of_isAlphanum (isAlphanum_of_isAlpha h)

theorem code_of_isNameChar {c : Char} (h : isNameChar c = true) : 45 ≤ c.toNat ∧ c.toNat ≤ 122 := by
  have hcases : ((c.isAlpha || c.isDigit) || decide (c = '-') || decide (c = '_')) = true := h
  simp only [Bool.or_eq_true, decide_eq_true_iff] at hcases
  rcases hcases with ((hletter | hdigit) | rfl) | rfl
  · have hcode := code_of_isAlpha hletter
    omega
  · have hcode : 48 ≤ c.toNat ∧ c.toNat ≤ 57 := Char.isDigit_iff_toNat.mp hdigit
    omega
  · decide
  · decide

theorem isBreak_of_isNameChar {c : Char} (h : isNameChar c = true) : isBreak c = false := by
  simp [isBreak, ne_of_class (x := '\n') h rfl, ne_of_class (x := '\x85') h rfl,
    ne_of_class (x := '\u2028') h rfl, ne_of_class (x := '\u2029') h rfl]

theorem isGap_of_isNameChar {c : Char} (h : isNameChar c = true) : isGap c = false := by
  simp [isGap, ne_of_class (x := ' ') h rfl, ne_of_class (x := '\t') h rfl]

theorem isAllowed_of_isNameChar {c : Char} (h : isNameChar c = true) : isAllowed c = true := by
  obtain ⟨hleast, hgreatest⟩ := code_of_isNameChar h
  have hprinted : 32 ≤ c.toNat ∧ c.toNat ≤ 126 := by omega
  simp [isAllowed, hprinted]

/-- A **word** is a letter, followed by letters, digits, hyphens and underscores. -/
def IsWord (cs : List Char) : Prop :=
  ∃ c ds, cs = c :: ds ∧ c.isAlpha = true ∧ ∀ d ∈ ds, isNameChar d = true

theorem isWord_cons_iff {c : Char} {cs : List Char} :
    IsWord (c :: cs) ↔ (c.isAlpha && cs.all isNameChar) = true := by
  rw [Bool.and_eq_true, List.all_eq_true]
  constructor
  · rintro ⟨d, ds, heq, hd, hds⟩
    cases heq
    exact ⟨hd, hds⟩
  · rintro ⟨hc, hcs⟩
    exact ⟨c, cs, rfl, hc, hcs⟩

instance : DecidablePred IsWord
  | [] => isFalse fun ⟨_, _, heq, _⟩ => nomatch heq
  | _ :: _ => decidable_of_iff _ isWord_cons_iff.symm

theorem IsWord.isNameChar {cs : List Char} (h : IsWord cs) : ∀ c ∈ cs, Yaml.isNameChar c = true := by
  obtain ⟨c, ds, rfl, hc, hall⟩ := h
  exact List.forall_mem_cons.mpr ⟨isNameChar_of_isAlpha hc, hall⟩

/-- What does not occur in words does not occur in a given one. -/
theorem IsWord.not_mem {cs : List Char} (h : IsWord cs) {x : Char} (hx : Yaml.isNameChar x = false) :
    x ∉ cs :=
  fun hmem => ne_of_class (h.isNameChar x hmem) hx rfl

/-! ## Reading a word -/

theorem skip_append {ws rest : List Char} (hws : ∀ c ∈ ws, isNameChar c = true) (i l col : Nat) :
    (Cursor.mk (ws ++ rest) i l col).skip ws.length =
      ⟨rest, i + ws.length, l, col + ws.length⟩ := by
  induction ws generalizing i col with
  | nil => rfl
  | cons c ws ih =>
    have hc := hws c List.mem_cons_self
    have hnext : (Cursor.mk (c :: ws ++ rest) i l col).next = ⟨ws ++ rest, i + 1, l, col + 1⟩ := by
      simp [Cursor.next, isBreak_of_isNameChar hc, ne_of_class (x := '\ufeff') hc rfl]
    rw [List.length_cons, Cursor.skip, hnext, ih fun d hd => hws d (List.mem_cons_of_mem c hd)]
    congr 1
    · omega
    · omega

theorem plainRun_append {ws rest : List Char} (hws : ∀ c ∈ ws, isNameChar c = true) :
    plainRun false (ws ++ rest) = ws ++ plainRun false rest := by
  induction ws with
  | nil => rfl
  | cons c ws ih =>
    have hc := hws c List.mem_cons_self
    rw [List.cons_append, plainRun, ih fun d hd => hws d (List.mem_cons_of_mem c hd)]
    simp [isBreak_of_isNameChar hc, isGap_of_isNameChar hc, ne_of_class (x := ':') hc rfl]

/-- **A word is read as a plain scalar** when the scalar does not go on behind it: there is nothing
between the word and what ends it, or what follows is not indented deep enough. -/
theorem plainScalar_word {ws rest : List Char} (hws : IsWord ws) (hrest : plainRun false rest = [])
    {indent : Int} {n i l col : Nat} {gap : PlainGap}
    (hgap : plainGap (n + 1) ⟨rest, i + ws.length, l, col + ws.length⟩ = gap)
    (hends : gap.text = [] ∨ (gap.cursor.column : Int) < indent) :
    plainScalar false indent (n + 1) [] [] false ⟨ws ++ rest, i, l, col⟩ =
      ⟨ws, gap.cursor, gap.breaks⟩ := by
  have hpeek : (Cursor.mk (ws ++ rest) i l col).peek ≠ some '#' := by
    obtain ⟨c, ds, rfl, hc, -⟩ := hws
    simpa [Cursor.peek] using ne_of_class (x := '#') hc rfl
  have hne : ws ≠ [] := by
    obtain ⟨c, ds, rfl, -, -⟩ := hws
    exact List.cons_ne_nil c ds
  have hrun : plainRun false (ws ++ rest) = ws := by
    rw [plainRun_append hws.isNameChar, hrest, List.append_nil]
  unfold plainScalar
  simp only [if_neg hpeek, hrun, skip_append hws.isNameChar, hgap]
  rcases hends with htext | hcolumn
  · simp [hne, htext]
  · simp [hne, hcolumn]

/-! ## The type of a word -/

theorem dropLastBreak_word {cs : List Char} (h : IsWord cs) : dropLastBreak cs = cs := by
  unfold dropLastBreak
  refine if_neg fun hlast => ?_
  exact h.not_mem rfl (List.mem_of_getLast? hlast)

/-- A number does not start with a letter. -/
theorem isInteger_word {cs : List Char} (h : IsWord cs) : isInteger cs = false := by
  have hparts := Text.splitOn_of_not_mem (h.not_mem (x := ':') rfl)
  obtain ⟨c, ds, rfl, hc, -⟩ := h
  have hsign : dropSign (c :: ds) = c :: ds := by
    unfold dropSign
    split
    · rename_i heq
      exact absurd (List.cons.inj heq).1 (ne_of_class hc rfl)
    · rename_i heq
      exact absurd (List.cons.inj heq).1 (ne_of_class hc rfl)
    · rfl
  have hdigits : startsDigits (c :: ds) = false := by
    simp [startsDigits, not_isDigit_of_isAlpha hc]
  have hsixty : isSexagesimal (c :: ds) = false := by
    unfold isSexagesimal
    rw [hparts]
  have hzero : c ≠ '0' := ne_of_class hc rfl
  unfold isInteger
  rw [hsign]
  split
  · rename_i heq
    exact absurd (List.cons.inj heq).1 hzero
  · rename_i heq
    exact absurd (List.cons.inj heq).1 hzero
  · rename_i heq
    exact absurd (List.cons.inj heq).1 hzero
  · rename_i heq
    exact absurd (List.cons.inj heq).1 hzero
  · rw [hdigits, hsixty]
    rfl

/-- A float has a point. -/
theorem isFloat_word {cs : List Char} (h : IsWord cs) : isFloat cs = false := by
  have hpoint : '.' ∉ cs := h.not_mem rfl
  unfold isFloat
  simp [hpoint]

/-- A timestamp starts with a digit. -/
theorem timestamp_word {cs : List Char} (h : IsWord cs) : Timestamp.parse? cs = none := by
  obtain ⟨c, ds, rfl, hc, -⟩ := h
  have hyear : Timestamp.digits? 4 4 (c :: ds) = none := by
    simp [Timestamp.digits?, not_isDigit_of_isAlpha hc]
  unfold Timestamp.parse?
  rw [hyear]
  rfl

/-- **The type of a word** without quotes: a text, unless it is a word for a truth value or for no
value. -/
theorem ofPlain_word {s : String} (h : IsWord s.toList) :
    ValueType.ofPlain s =
      if isNullWord s then .null else if isBoolWord s then .bool else .text := by
  have hdrop := dropLastBreak_word h
  have hint := isInteger_word h
  have hfloat := isFloat_word h
  have htime := timestamp_word h
  obtain ⟨c, ds, hs, hc, -⟩ := h
  have hmark : ∀ t : String, (∃ x xs, t.toList = x :: xs ∧ x.isAlpha = false) → s ≠ t := by
    rintro t ⟨x, xs, ht, hx⟩ rfl
    rw [hs] at ht
    exact ne_of_class hc hx (List.cons.inj ht).1
  have hmerge : s ≠ "<<" := hmark _ ⟨'<', ['<'], rfl, rfl⟩
  have hdefault : s ≠ "=" := hmark _ ⟨'=', [], rfl, rfl⟩
  have hbang : s ≠ "!" := hmark _ ⟨'!', [], rfl, rfl⟩
  have hand : s ≠ "&" := hmark _ ⟨'&', [], rfl, rfl⟩
  have hstar : s ≠ "*" := hmark _ ⟨'*', [], rfl, rfl⟩
  have hlist : s.toList.isEmpty = false := by
    rw [hs]
    rfl
  unfold ValueType.ofPlain
  rw [hdrop]
  simp [String.ofList_toList, hint, hfloat, htime, hlist, hmerge, hdefault, hbang, hand, hstar]

end Yaml

end Phrasebook
