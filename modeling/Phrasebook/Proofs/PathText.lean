import Phrasebook.Path

/-!
# Paths and their texts

A path that a text names is in normal form, and a path in normal form is the one that its own text names.

## Contents
- `Path.IsNormal`, `isNormal_ofString`: the normal form
- `partsOf`: the components that a text names
- `ofString_text`: a text of a path in normal form names it
-/

namespace Phrasebook.Path

/-- A path is in **normal form** when each of its components counts and holds no slash. -/
def IsNormal (p : Path) : Prop := ∀ part ∈ p.parts, isPart part.toList = true ∧ '/' ∉ part.toList

/-- The components that a text names. -/
def partsOf (cs : List Char) : List String :=
  ((Text.splitOn '/' cs).filter isPart).map String.ofList

theorem parts_ofString (s : String) : (ofString s).parts = partsOf s.toList := rfl

/-- **What a text names is in normal form.** -/
theorem isNormal_ofString (s : String) : (ofString s).IsNormal := by
  intro part hpart
  rw [parts_ofString] at hpart
  obtain ⟨cs, hcs, rfl⟩ := List.mem_map.mp hpart
  obtain ⟨hmem, hcounts⟩ := List.mem_filter.mp hcs
  rw [String.toList_ofList]
  exact ⟨hcounts, Text.not_mem_of_mem_splitOn hmem⟩

/-! ## The components of a text -/

/-- A slash in front makes an empty component, which does not count. -/
theorem partsOf_slash (cs : List Char) : partsOf ('/' :: cs) = partsOf cs := by
  obtain ⟨part, parts, hparts⟩ := List.exists_cons_of_ne_nil (Text.splitOn_ne_nil '/' cs)
  unfold partsOf
  rw [Text.splitOn_cons hparts, hparts, if_pos rfl]
  rfl

/-- The slashes of a root name no component. -/
theorem partsOf_root (root : Root) (cs : List Char) :
    partsOf (root.text.toList ++ cs) = partsOf cs := by
  cases root with
  | relative => rfl
  | single => exact partsOf_slash cs
  | double => exact (partsOf_slash ('/' :: cs)).trans (partsOf_slash cs)

/-- Components that are joined by slashes are the ones that the text names. -/
theorem partsOf_intercalate {parts : List String}
    (h : ∀ part ∈ parts, isPart part.toList = true ∧ '/' ∉ part.toList) :
    partsOf (['/'].intercalate (parts.map String.toList)) = parts := by
  cases hparts : parts with
  | nil => rfl
  | cons first later =>
    rw [← hparts]
    have hslash : ∀ cs ∈ parts.map String.toList, '/' ∉ cs :=
      List.forall_mem_map.mpr fun part hpart => (h part hpart).2
    have hcounts : ∀ cs ∈ parts.map String.toList, isPart cs = true :=
      List.forall_mem_map.mpr fun part hpart => (h part hpart).1
    have hne : parts.map String.toList ≠ [] := by
      rw [hparts]
      exact List.cons_ne_nil _ _
    unfold partsOf
    rw [Text.splitOn_eq, List.splitOn_intercalate '/' hslash hne, List.filter_eq_self.mpr hcounts,
      List.map_map]
    exact (List.map_congr_left fun part _ => String.ofList_toList).trans (List.map_id parts)

/-! ## The root of a text -/

/-- The root in front of a text that does not start with a slash. -/
theorem rootOf_append (root : Root) {cs : List Char} (h : cs.head? ≠ some '/') :
    rootOf (root.text.toList ++ cs) = root := by
  cases cs with
  | nil => cases root <;> rfl
  | cons c cs =>
    have hc : c ≠ '/' := fun hc => h (congrArg some hc)
    cases root <;> simp [Root.text, rootOf, hc]

/-- Joined components do not start with a slash. -/
theorem head?_intercalate {parts : List String}
    (h : ∀ part ∈ parts, isPart part.toList = true ∧ '/' ∉ part.toList) :
    (['/'].intercalate (parts.map String.toList)).head? ≠ some '/' := by
  cases parts with
  | nil => exact nofun
  | cons first later =>
    obtain ⟨hcounts, hslash⟩ := h first List.mem_cons_self
    cases hfirst : first.toList with
    | nil =>
      rw [hfirst] at hcounts
      cases hcounts
    | cons c cs =>
      rw [hfirst, List.mem_cons, not_or] at hslash
      have hhead : (['/'].intercalate (first.toList :: later.map String.toList)).head? = some c := by
        rw [hfirst]
        cases later.map String.toList with
        | nil => rfl
        | cons second rest => rfl
      rw [List.map_cons, hhead]
      exact fun heq => hslash.1 (Option.some.inj heq).symm

/-! ## Writing and reading a path -/

/-- A text of a root and joined components names them. -/
theorem ofString_root_append {root : Root} {parts : List String}
    (h : ∀ part ∈ parts, isPart part.toList = true ∧ '/' ∉ part.toList) :
    ofString (root.text ++ "/".intercalate parts) = ⟨root, parts⟩ := by
  have hcs : (root.text ++ "/".intercalate parts).toList =
      root.text.toList ++ ['/'].intercalate (parts.map String.toList) := by
    rw [String.toList_append, String.toList_intercalate]
    rfl
  rw [Path.mk.injEq]
  constructor
  · show rootOf (root.text ++ "/".intercalate parts).toList = root
    rw [hcs, rootOf_append root (head?_intercalate h)]
  · rw [parts_ofString, hcs, partsOf_root, partsOf_intercalate h]

/-- **The text of a path in normal form names it.** -/
theorem ofString_text {p : Path} (h : p.IsNormal) : ofString p.text = p := by
  unfold text
  split
  · -- the path of no components is written as a dot, which does not count as one
    rename_i hroot hparts
    obtain ⟨root, parts⟩ := p
    cases hroot
    cases hparts
    rfl
  · exact ofString_root_append h

end Phrasebook.Path
