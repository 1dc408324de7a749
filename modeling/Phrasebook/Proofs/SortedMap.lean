import Phrasebook.SortedMap

/-!
# Sorted maps through their pairs

The lookup of a sorted map is membership in its list of pairs, since no name is repeated there.

## Contents
- `get?_eq_some_iff`, `mem_keys`: the lookup through the pairs and the names
- `keys_sorted`, `nodup_of_sorted`: the names strictly increase
- `get?_ofList`: a map made from a list without repeated names
- `below`, `toList_eq_below_append`, `lookup_below`: the pairs with names below a given one
-/

namespace Phrasebook.SortedMap

universe u
variable {α : Type u}

theorem le_of_lt {a b : String} (h : a < b) : a ≤ b :=
  Std.not_lt.mp fun h' => String.lt_irrefl a (String.lt_trans h h')

theorem keys_sorted (m : SortedMap α) : m.keys.Pairwise (· < ·) := m.sorted

/-- Names that strictly increase are not repeated. -/
theorem nodup_of_sorted {names : List String} (h : names.Pairwise (· < ·)) : names.Nodup := by
  refine h.imp fun {a b} hlt => ?_
  rintro rfl
  exact String.lt_irrefl a hlt

theorem keys_nodup (m : SortedMap α) : m.keys.Nodup := nodup_of_sorted m.sorted

theorem lookup_eq_none_of_not_mem {l : List (String × α)} {name : String}
    (h : name ∉ l.map Prod.fst) : l.lookup name = none := by
  rw [List.lookup_eq_none_iff]
  intro p hp
  rw [bne_iff_ne]
  rintro rfl
  exact h (List.mem_map_of_mem hp)

/-- Without repeated names, a pair of a list is what the lookup of its name finds. -/
theorem lookup_of_mem {l : List (String × α)} (h : (l.map Prod.fst).Nodup)
    {name : String} {value : α} (hm : (name, value) ∈ l) : l.lookup name = some value := by
  induction l with
  | nil => simp at hm
  | cons p rest ih =>
    obtain ⟨k, v⟩ := p
    rw [List.map_cons, List.nodup_cons] at h
    rw [lookup_cons_eq]
    rcases List.mem_cons.mp hm with heq | hm
    · cases heq
      rw [if_pos rfl]
    · have hmem : name ∈ rest.map Prod.fst := List.mem_map_of_mem hm
      have hne : name ≠ k := fun he => h.1 (he ▸ hmem)
      rw [if_neg hne]
      exact ih h.2 hm

theorem mem_of_lookup {l : List (String × α)} {name : String} {value : α}
    (h : l.lookup name = some value) : (name, value) ∈ l := by
  obtain ⟨l₁, l₂, rfl, -⟩ := List.lookup_eq_some_iff.mp h
  simp

/-- A name is among those of a list when its lookup finds a value. -/
theorem mem_map_fst_iff {l : List (String × α)} {name : String} :
    name ∈ l.map Prod.fst ↔ (l.lookup name).isSome := by
  rw [List.lookup_isSome_iff, List.mem_map]
  constructor
  · rintro ⟨p, hp, rfl⟩
    exact ⟨p, hp, BEq.rfl⟩
  · rintro ⟨p, hp, heq⟩
    exact ⟨p, hp, (eq_of_beq heq).symm⟩

/-- **The lookup finds exactly the pairs of the map.** -/
theorem get?_eq_some_iff {m : SortedMap α} {name : String} {value : α} :
    m.get? name = some value ↔ (name, value) ∈ m.toList :=
  ⟨mem_of_lookup, lookup_of_mem m.keys_nodup⟩

theorem mem_keys {m : SortedMap α} {name : String} : name ∈ m.keys ↔ (m.get? name).isSome :=
  mem_map_fst_iff

/-- Strictly increasing lists with the same members are equal. -/
theorem eq_of_sorted_of_mem_iff {l l' : List String} (h : l.Pairwise (· < ·))
    (h' : l'.Pairwise (· < ·)) (hmem : ∀ n, n ∈ l ↔ n ∈ l') : l = l' := by
  have hperm : l.Perm l' :=
    (List.perm_ext_iff_of_nodup (nodup_of_sorted h) (nodup_of_sorted h')).mpr hmem
  exact hperm.eq_of_pairwise (fun a b _ _ => String.le_antisymm) (h.imp le_of_lt) (h'.imp le_of_lt)

/-- A pair with a smaller name stands before a pair of the map. -/
theorem mem_before_of_lt {m : SortedMap α} {before after : List (String × α)} {k k' : String}
    {v v' : α} (hlist : m.toList = before ++ (k, v) :: after) (hmem : (k', v') ∈ m.toList)
    (hlt : k' < k) : (k', v') ∈ before := by
  have hsorted := m.sorted
  rw [hlist, List.map_append, List.map_cons, List.pairwise_append, List.pairwise_cons] at hsorted
  rw [hlist] at hmem
  rcases List.mem_append.mp hmem with hb | hb
  · exact hb
  · -- from the pair on, no name is smaller than its own
    rcases List.mem_cons.mp hb with heq | ha
    · obtain ⟨rfl, -⟩ := Prod.mk.inj heq
      exact absurd hlt (String.lt_irrefl k')
    · have hgt : k < k' := hsorted.2.1.1 k' (List.mem_map_of_mem (f := Prod.fst) ha)
      exact absurd (String.lt_trans hlt hgt) (String.lt_irrefl k')

/-! ## Maps from lists -/

theorem get?_foldl_insert {pairs : List (String × α)} (hnodup : (pairs.map Prod.fst).Nodup)
    (m : SortedMap α) (name : String) :
    (pairs.foldl (fun m p => m.insert p.1 p.2) m).get? name =
      (pairs.lookup name).or (m.get? name) := by
  induction pairs generalizing m with
  | nil => rfl
  | cons p rest ih =>
    obtain ⟨k, v⟩ := p
    rw [List.map_cons, List.nodup_cons] at hnodup
    rw [List.foldl_cons, ih hnodup.2, lookup_cons_eq, get?_insert]
    -- a name that is not repeated is not overwritten by the pairs behind it
    by_cases hk : name = k
    · subst hk
      simp [lookup_eq_none_of_not_mem hnodup.1]
    · simp [hk]

theorem get?_ofList {pairs : List (String × α)} (hnodup : (pairs.map Prod.fst).Nodup)
    (name : String) : (ofList pairs).get? name = pairs.lookup name := by
  unfold ofList
  rw [get?_foldl_insert hnodup, get?_empty, Option.or_none]

/-! ## Pairs below a name -/

/-- The pairs with names below a given one. -/
def below (m : SortedMap α) (k : String) : List (String × α) := m.toList.filter (·.1 < k)

/-- Increasing pairs start with those below a name; behind these come those that are not. -/
theorem eq_filter_append_filter {l : List (String × α)} (h : (l.map Prod.fst).Pairwise (· < ·))
    (k : String) : l = l.filter (·.1 < k) ++ l.filter (¬ ·.1 < k) := by
  induction l with
  | nil => rfl
  | cons p rest ih =>
    rw [List.map_cons, List.pairwise_cons] at h
    by_cases hp : p.1 < k
    · rw [List.filter_cons_of_pos (by simpa using hp), List.filter_cons_of_neg (by simpa using hp),
        List.cons_append, ← ih h.2]
    · -- the names behind one that is not below are greater still
      have hrest : ∀ q ∈ p :: rest, ¬ q.1 < k := by
        intro q hq hlt
        rcases List.mem_cons.mp hq with rfl | hq
        · exact hp hlt
        · exact hp (String.lt_trans (h.1 q.1 (List.mem_map_of_mem hq)) hlt)
      have hnone : (p :: rest).filter (·.1 < k) = [] := by
        rw [List.filter_eq_nil_iff]
        intro q hq
        rw [decide_eq_true_iff]
        exact hrest q hq
      have hall : (p :: rest).filter (¬ ·.1 < k) = p :: rest := by
        rw [List.filter_eq_self]
        intro q hq
        rw [decide_eq_true_iff]
        exact hrest q hq
      rw [hnone, hall, List.nil_append]

theorem toList_eq_below_append (m : SortedMap α) (k : String) :
    m.toList = m.below k ++ m.toList.filter (¬ ·.1 < k) :=
  eq_filter_append_filter m.sorted k

theorem below_sorted (m : SortedMap α) (k : String) : ((m.below k).map Prod.fst).Pairwise (· < ·) :=
  m.sorted.sublist (List.filter_sublist.map Prod.fst)

/-- The lookup among the pairs below a name finds those, and nothing above. -/
theorem lookup_below (m : SortedMap α) (k name : String) :
    (m.below k).lookup name = if name < k then m.get? name else none := by
  rw [below, lookup_filter (· < k)]
  by_cases hname : name < k
  · rw [if_pos (decide_eq_true hname), if_pos hname]
    rfl
  · rw [if_neg (by simpa using hname), if_neg hname]

end Phrasebook.SortedMap
