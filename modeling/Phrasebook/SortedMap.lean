/-!
# Sorted maps

Finite maps from names to values, kept as a list of pairs whose names strictly increase by code
point. Two maps with the same lookups are the same list, so whatever walks such a map cannot depend
on the order in which it was filled.

## Contents
- `SortedMap`: the type, `get?`, `insert`, `keys`, `ofList`
- `get?_insert`, `lookup_filter`: each operation through the lookup
- `list_eq_of_lookup_eq`: increasing lists with the same lookups are equal
-/

namespace Phrasebook

universe u

/-- A map from names to values, in strictly increasing order of names. -/
structure SortedMap (α : Type u) where
  /-- The pairs, smallest name first. -/
  toList : List (String × α)
  /-- No name is repeated and the names increase. -/
  sorted : (toList.map Prod.fst).Pairwise (· < ·)

namespace SortedMap

variable {α : Type u}

/-! ## Order of names -/

theorem name_lt_of_not_lt_of_ne {a b : String} (h : ¬ a < b) (hne : a ≠ b) : b < a :=
  Classical.byContradiction fun h' =>
    hne (String.le_antisymm (Std.not_lt.mp h') (Std.not_lt.mp h))

/-! ## Lookup -/

/-- The map without pairs. -/
def empty : SortedMap α := ⟨[], .nil⟩

instance : Inhabited (SortedMap α) := ⟨empty⟩

/-- The names of the map, smallest first. -/
def keys (m : SortedMap α) : List String := m.toList.map Prod.fst

/-- The value filed under a name. -/
def get? (m : SortedMap α) (name : String) : Option α := m.toList.lookup name

@[simp] theorem get?_empty (name : String) : (empty : SortedMap α).get? name = none := rfl

theorem lookup_cons_eq (name k : String) (v : α) (rest : List (String × α)) :
    ((k, v) :: rest).lookup name = if name = k then some v else rest.lookup name := by
  rw [List.lookup_cons]
  by_cases h : name = k
  · simp [h]
  · simp [h, beq_eq_false_iff_ne.mpr h]

theorem lookup_eq_none_of_lt {name : String} {l : List (String × α)}
    (h : ∀ k ∈ l.map Prod.fst, name < k) : l.lookup name = none := by
  rw [List.lookup_eq_none_iff]
  intro p hp
  have hlt := h p.1 (List.mem_map_of_mem hp)
  simp only [bne_iff_ne, ne_eq]
  exact fun he => String.lt_irrefl p.1 (he ▸ hlt)

/-! ## Insertion -/

/-- Files a value under a name in an increasing list of pairs, in place of the old one if any. -/
def insertIn (name : String) (value : α) : List (String × α) → List (String × α)
  | [] => [(name, value)]
  | (k, v) :: rest =>
    if name < k then (name, value) :: (k, v) :: rest
    else if name = k then (name, value) :: rest
    else (k, v) :: insertIn name value rest

theorem mem_keys_insertIn {name k : String} {value : α} {l : List (String × α)} :
    k ∈ (insertIn name value l).map Prod.fst ↔ k = name ∨ k ∈ l.map Prod.fst := by
  induction l with
  | nil => simp [insertIn]
  | cons p rest ih =>
    simp only [insertIn]
    split
    · simp
    · split
      · rename_i h
        simp [h]
      · simp only [List.map_cons, List.mem_cons, ih]
        constructor
        · rintro (h | h | h) <;> simp [h]
        · rintro (h | h | h) <;> simp [h]

theorem sorted_insertIn {name : String} {value : α} {l : List (String × α)}
    (h : (l.map Prod.fst).Pairwise (· < ·)) :
    ((insertIn name value l).map Prod.fst).Pairwise (· < ·) := by
  induction l with
  | nil => simp [insertIn]
  | cons p rest ih =>
    obtain ⟨k, v⟩ := p
    simp only [List.map_cons, List.pairwise_cons] at h
    simp only [insertIn]
    split
    · rename_i hlt
      simp only [List.map_cons, List.pairwise_cons, List.mem_cons]
      refine ⟨?_, h⟩
      rintro x (rfl | hx)
      · exact hlt
      · exact String.lt_trans hlt (h.1 x hx)
    · split
      · rename_i he
        simp only [List.map_cons, List.pairwise_cons]
        exact ⟨fun x hx => he ▸ h.1 x hx, h.2⟩
      · rename_i hlt hne
        simp only [List.map_cons, List.pairwise_cons]
        refine ⟨fun x hx => ?_, ih h.2⟩
        rcases mem_keys_insertIn.mp hx with rfl | hx
        · exact name_lt_of_not_lt_of_ne hlt hne
        · exact h.1 x hx

theorem lookup_insertIn {name k : String} {value : α} {l : List (String × α)} :
    (insertIn name value l).lookup k = if k = name then some value else l.lookup k := by
  induction l with
  | nil => simp only [insertIn, lookup_cons_eq]
  | cons p rest ih =>
    obtain ⟨k', v'⟩ := p
    simp only [insertIn]
    split
    · simp only [lookup_cons_eq]
    · split
      · rename_i he
        subst he
        by_cases hk : k = name <;> simp [lookup_cons_eq, hk]
      · rename_i hne
        simp only [lookup_cons_eq, ih]
        by_cases hk : k = name
        · subst hk
          simp [hne]
        · simp [hk]

/-- Files a value under a name, in place of the old one if any. -/
def insert (m : SortedMap α) (name : String) (value : α) : SortedMap α :=
  ⟨insertIn name value m.toList, sorted_insertIn m.sorted⟩

/-- After an insertion the name has the new value and every other name its old one. -/
theorem get?_insert (m : SortedMap α) (name k : String) (value : α) :
    (m.insert name value).get? k = if k = name then some value else m.get? k :=
  lookup_insertIn

/-- The map that holds the pairs of a list, a later pair in place of an earlier one of its name. -/
def ofList (pairs : List (String × α)) : SortedMap α :=
  pairs.foldl (fun m p => m.insert p.1 p.2) empty

/-! ## Selection -/

/-- Among the pairs whose names pass a test, a name that passes has its value and no other has one. -/
theorem lookup_filter (p : String → Bool) {k : String} {l : List (String × α)} :
    (l.filter (p ·.1)).lookup k = if p k then l.lookup k else none := by
  induction l with
  | nil => simp
  | cons q rest ih =>
    obtain ⟨k', v'⟩ := q
    rw [List.filter_cons]
    by_cases hk' : p k' = true
    · rw [if_pos hk', lookup_cons_eq, lookup_cons_eq, ih]
      by_cases hk : k = k'
      · subst hk
        simp [hk']
      · simp [hk]
    · rw [if_neg hk', ih, lookup_cons_eq]
      by_cases hk : k = k'
      · subst hk
        simp [hk']
      · simp [hk]

theorem lookup_filter_ne {name k : String} {l : List (String × α)} :
    (l.filter (·.1 ≠ name)).lookup k = if k = name then none else l.lookup k := by
  rw [lookup_filter (fun k => k ≠ name)]
  by_cases hk : k = name
  · simp [hk]
  · simp [hk]

/-! ## Extensionality -/

theorem not_head_lt_head {k k' : String} {v v' : α} {rest rest' : List (String × α)}
    (h' : (((k', v') :: rest').map Prod.fst).Pairwise (· < ·))
    (heq : ((k, v) :: rest).lookup k = ((k', v') :: rest').lookup k) : ¬ k < k' := by
  intro hlt
  simp only [List.map_cons, List.pairwise_cons] at h'
  have hnone : ((k', v') :: rest').lookup k = none := by
    refine lookup_eq_none_of_lt fun x hx => ?_
    simp only [List.map_cons, List.mem_cons] at hx
    rcases hx with rfl | hx
    · exact hlt
    · exact String.lt_trans hlt (h'.1 x hx)
  rw [hnone] at heq
  simp at heq

/-- Increasing lists with the same lookups are equal. -/
theorem list_eq_of_lookup_eq {l l' : List (String × α)}
    (h : (l.map Prod.fst).Pairwise (· < ·)) (h' : (l'.map Prod.fst).Pairwise (· < ·))
    (heq : ∀ name, l.lookup name = l'.lookup name) : l = l' := by
  induction l generalizing l' with
  | nil =>
    cases l' with
    | nil => rfl
    | cons p rest => exact absurd (heq p.1) (by cases p; simp)
  | cons p rest ih =>
    cases l' with
    | nil => exact absurd (heq p.1) (by cases p; simp)
    | cons p' rest' =>
      obtain ⟨k, v⟩ := p
      obtain ⟨k', v'⟩ := p'
      have hk : k = k' := String.le_antisymm
        (Std.not_lt.mp (not_head_lt_head h (heq k').symm))
        (Std.not_lt.mp (not_head_lt_head h' (heq k)))
      subst hk
      have hv : v = v' := by simpa [lookup_cons_eq] using heq k
      subst hv
      simp only [List.map_cons, List.pairwise_cons] at h h'
      have hrest : rest = rest' := by
        refine ih h.2 h'.2 fun name => ?_
        by_cases hn : name = k
        · subst hn
          rw [lookup_eq_none_of_lt h.1, lookup_eq_none_of_lt h'.1]
        · simpa [lookup_cons_eq, hn] using heq name
      rw [hrest]

end SortedMap

end Phrasebook
