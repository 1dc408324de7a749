import Phrasebook.Fields
import Phrasebook.Proofs.SortedMap

/-!
# Fields through their lookups

Two things can be told of fields: what is filed under a name, and in which order the names stand. Sorting
forgets the second, and a value that is set under a name that is there does not touch it.

## Contents
- `mem_toList`, `mem_sorted`, `mem_keys`: the fields, the sorted fields and the names through the lookup
- `ext_get?`: fields with the same names in the same order and the same lookups
- `get?_putAll`, `names_putAll`, `putAll_sorted`: setting values of names that are there
- `NameSet.mem_addAll`, `NameSet.toNames_inj_iff`, `NameSet.hasSame_iff`: sets of names through
  membership
- `NameSet.addAll_names`: a set made again from its names
-/

namespace Phrasebook.Fields

universe u
variable {α : Type u} {f g : Fields α} {name : String} {value : α}

/-! ## Lookups -/

/-- **The lookup finds exactly the fields.** -/
theorem mem_toList : (name, value) ∈ f.toList ↔ f.get? name = some value :=
  ⟨SortedMap.lookup_of_mem f.nodup, SortedMap.mem_of_lookup⟩

theorem mem_names : name ∈ f.names ↔ (f.get? name).isSome := SortedMap.mem_map_fst_iff

theorem isEmpty_iff : f.isEmpty = true ↔ ∀ name, f.get? name = none := by
  unfold isEmpty
  rw [List.isEmpty_iff]
  constructor
  · intro h name
    rw [get?, h]
    rfl
  · intro h
    rw [List.eq_nil_iff_forall_not_mem]
    intro p hp
    have hget := mem_toList.mp hp
    rw [h p.1] at hget
    cases hget

/-! ## Sorted fields -/

@[simp] theorem get?_sorted (f : Fields α) (name : String) : f.sorted.get? name = f.get? name :=
  SortedMap.get?_ofList f.nodup name

/-- Sorting keeps the fields. -/
theorem mem_sorted : (name, value) ∈ f.sorted.toList ↔ f.get? name = some value := by
  rw [← SortedMap.get?_eq_some_iff, get?_sorted]

theorem mem_keys : name ∈ f.keys ↔ (f.get? name).isSome := by
  unfold keys
  rw [SortedMap.mem_keys, get?_sorted]

theorem keys_sorted (f : Fields α) : f.keys.Pairwise (· < ·) := f.sorted.keys_sorted

theorem keys_nodup (f : Fields α) : f.keys.Nodup := f.sorted.keys_nodup

theorem map_fst_sorted (f : Fields α) : f.sorted.toList.map Prod.fst = f.keys := rfl

/-- Fields of the same names have the same names in increasing order. -/
theorem keys_congr {β : Type u} {g : Fields β} (h : ∀ name, (f.get? name).isSome = (g.get? name).isSome) :
    f.keys = g.keys := by
  refine SortedMap.eq_of_sorted_of_mem_iff f.keys_sorted g.keys_sorted fun name => ?_
  rw [mem_keys, mem_keys, h]

/-! ## The order of the names -/

theorem list_ext_lookup {l l' : List (String × α)} (hnodup : (l.map Prod.fst).Nodup)
    (hnames : l.map Prod.fst = l'.map Prod.fst) (hlookup : ∀ name, l.lookup name = l'.lookup name) :
    l = l' := by
  induction l generalizing l' with
  | nil => exact (List.map_eq_nil_iff.mp hnames.symm).symm
  | cons p rest ih =>
    cases l' with
    | nil => cases hnames
    | cons p' rest' =>
      obtain ⟨k, v⟩ := p
      obtain ⟨k', v'⟩ := p'
      obtain ⟨rfl, hrest⟩ := List.cons.inj hnames
      rw [List.map_cons, List.nodup_cons] at hnodup
      have hv : v = v' := by simpa [SortedMap.lookup_cons_eq] using hlookup k
      subst hv
      rw [ih hnodup.2 hrest]
      intro name
      by_cases hname : name = k
      · -- the name is not repeated in either list
        subst hname
        have hmem' : name ∉ rest'.map Prod.fst := fun h => hnodup.1 (hrest ▸ h)
        rw [SortedMap.lookup_eq_none_of_not_mem hnodup.1, SortedMap.lookup_eq_none_of_not_mem hmem']
      · simpa [SortedMap.lookup_cons_eq, hname] using hlookup name

/-- Fields with the same names in the same order and the same lookups are equal. -/
theorem ext_get? (hnames : f.names = g.names) (hget : ∀ name, f.get? name = g.get? name) : f = g := by
  obtain ⟨l, hl⟩ := f
  obtain ⟨l', hl'⟩ := g
  obtain rfl : l = l' := list_ext_lookup hl hnames hget
  rfl

theorem map_fst_putIn (name : String) (value : α) (l : List (String × α)) :
    (putIn name value l).map Prod.fst =
      if name ∈ l.map Prod.fst then l.map Prod.fst else l.map Prod.fst ++ [name] := by
  induction l with
  | nil => rfl
  | cons p rest ih =>
    simp only [putIn]
    by_cases hp : p.1 = name
    · simp [hp]
    · rw [if_neg hp, List.map_cons, ih]
      simp only [List.map_cons, List.mem_cons, Ne.symm hp, false_or]
      split
      · rfl
      · rfl

/-- Setting a value adds its name at the end, unless the name is there already. -/
theorem names_put (f : Fields α) (name : String) (value : α) :
    (f.put name value).names = if name ∈ f.names then f.names else f.names ++ [name] :=
  map_fst_putIn name value f.toList

/-- A value under a new name is put last. -/
theorem putIn_of_not_mem {l : List (String × α)} (h : name ∉ l.map Prod.fst) :
    putIn name value l = l ++ [(name, value)] := by
  induction l with
  | nil => rfl
  | cons p rest ih =>
    obtain ⟨k, v⟩ := p
    rw [List.map_cons, List.mem_cons, not_or] at h
    rw [putIn, if_neg (Ne.symm h.1), ih h.2, List.cons_append]

theorem names_putAll {pairs : List (String × α)} (h : ∀ p ∈ pairs, p.1 ∈ f.names) :
    (f.putAll pairs).names = f.names := by
  unfold putAll
  induction pairs generalizing f with
  | nil => rfl
  | cons p rest ih =>
    have hput : (f.put p.1 p.2).names = f.names := by
      rw [names_put, if_pos (h p List.mem_cons_self)]
    rw [List.foldl_cons, ih, hput]
    intro q hq
    rw [hput]
    exact h q (List.mem_cons_of_mem p hq)

/-- Values set under different names are what the names then have. -/
theorem get?_putAll {pairs : List (String × α)} (hnodup : (pairs.map Prod.fst).Nodup) (f : Fields α)
    (name : String) : (f.putAll pairs).get? name = (pairs.lookup name).or (f.get? name) := by
  unfold putAll
  induction pairs generalizing f with
  | nil => rfl
  | cons p rest ih =>
    obtain ⟨k, v⟩ := p
    rw [List.map_cons, List.nodup_cons] at hnodup
    rw [List.foldl_cons, ih hnodup.2, SortedMap.lookup_cons_eq, get?_put]
    -- a name that is not repeated is not set again by the pairs behind it
    by_cases hk : name = k
    · subst hk
      simp [SortedMap.lookup_eq_none_of_not_mem hnodup.1]
    · simp [hk]

/-- Where all names get values, the lookup finds these. -/
theorem get?_putAll_of_keys {pairs : List (String × α)} (h : pairs.map Prod.fst = f.keys)
    (name : String) : (f.putAll pairs).get? name = pairs.lookup name := by
  have hnodup : (pairs.map Prod.fst).Nodup := by
    rw [h]
    exact f.keys_nodup
  rw [get?_putAll hnodup]
  cases hlookup : pairs.lookup name with
  | some v => rfl
  | none =>
    have hname : name ∉ f.keys := by
      rw [← h, SortedMap.mem_map_fst_iff, hlookup]
      exact Bool.false_ne_true
    rw [mem_keys, Option.not_isSome_iff_eq_none] at hname
    rw [hname, Option.or_none]

/-- The names keep their places when they all get values. -/
theorem names_putAll_of_keys {pairs : List (String × α)} (h : pairs.map Prod.fst = f.keys) :
    (f.putAll pairs).names = f.names := by
  apply names_putAll
  intro p hp
  have hkey : p.1 ∈ f.keys := h ▸ List.mem_map_of_mem hp
  rw [mem_names]
  exact mem_keys.mp hkey

/-- **Setting the values of sorted fields** under names that are the same: the fields get these values and
keep their places. -/
theorem putAll_sorted (h : f.names = g.names) : f.putAll g.sorted.toList = g := by
  have hkeys : g.sorted.toList.map Prod.fst = f.keys := by
    rw [map_fst_sorted]
    refine keys_congr fun name => ?_
    rw [Bool.eq_iff_iff, ← mem_names, ← mem_names, h]
  apply ext_get?
  · rw [names_putAll_of_keys hkeys, h]
  · intro name
    rw [get?_putAll_of_keys hkeys]
    exact get?_sorted g name

end Phrasebook.Fields

/-! ## Sets of names -/

namespace Phrasebook.NameSet

variable {s t : NameSet} {names : List String} {n : String}

theorem mem_add {name : String} : n ∈ (s.add name).toNames ↔ n = name ∨ n ∈ s.toNames := by
  unfold toNames add
  rw [Fields.mem_keys, Fields.mem_keys, Fields.get?_put]
  by_cases hn : n = name
  · simp [hn]
  · simp [hn]

/-- The names of a list join those of a set. -/
theorem mem_addAll : n ∈ (s.addAll names).toNames ↔ n ∈ names ∨ n ∈ s.toNames := by
  unfold addAll
  induction names generalizing s with
  | nil => simp
  | cons name rest ih =>
    rw [List.foldl_cons, ih, mem_add, List.mem_cons]
    constructor
    · rintro (h | h | h) <;> simp [h]
    · rintro ((h | h) | h) <;> simp [h]

theorem mem_ofNames : n ∈ (ofNames names).toNames ↔ n ∈ names := by
  unfold ofNames
  rw [mem_addAll]
  exact or_iff_left List.not_mem_nil

theorem addAll_append (s : NameSet) (names names' : List String) :
    s.addAll (names ++ names') = (s.addAll names).addAll names' :=
  List.foldl_append

/-- Names that are new are added behind those that are there. -/
theorem toList_addAll (hnodup : names.Nodup) (hnew : ∀ n ∈ names, n ∉ Fields.names s) :
    (s.addAll names).toList = s.toList ++ names.map fun n => (n, ()) := by
  unfold addAll
  induction names generalizing s with
  | nil => exact (List.append_nil _).symm
  | cons name rest ih =>
    rw [List.nodup_cons] at hnodup
    have hadd : (s.add name).toList = s.toList ++ [(name, ())] :=
      Fields.putIn_of_not_mem (hnew name List.mem_cons_self)
    rw [List.foldl_cons, ih hnodup.2, hadd, List.map_cons, List.append_assoc]
    · rfl
    · intro n hn hmem
      unfold Fields.names at hmem
      rw [hadd, List.map_append, List.mem_append] at hmem
      rcases hmem with hmem | hmem
      · exact hnew n (List.mem_cons_of_mem name hn) hmem
      · obtain rfl : n = name := by simpa using hmem
        exact hnodup.1 hn

/-- **A set is made again** from its names, added to a set without names. -/
theorem addAll_names (h : s.isEmpty = true) (t : NameSet) : s.addAll (Fields.names t) = t := by
  have hnil : s.toList = [] := List.isEmpty_iff.mp h
  have hnames : Fields.names s = [] := by
    unfold Fields.names
    rw [hnil]
    rfl
  have hnodup : (Fields.names t).Nodup := t.nodup
  have hlist : (s.addAll (Fields.names t)).toList = t.toList := by
    rw [toList_addAll hnodup fun n _ => hnames ▸ List.not_mem_nil, hnil, List.nil_append]
    unfold Fields.names
    rw [List.map_map]
    exact List.map_id _
  generalize s.addAll (Fields.names t) = u at hlist
  cases u
  cases t
  cases hlist
  rfl

theorem toNames_sorted (s : NameSet) : s.toNames.Pairwise (· < ·) := Fields.keys_sorted s

theorem toNames_nodup (s : NameSet) : s.toNames.Nodup := Fields.keys_nodup s

/-- The names of a set are those that it keeps, whatever their order. -/
theorem mem_toNames : n ∈ s.toNames ↔ n ∈ Fields.names s := by
  unfold toNames
  rw [Fields.mem_keys, Fields.mem_names]

/-- Sets list the same names when they have the same members. -/
theorem toNames_inj_iff : s.toNames = t.toNames ↔ ∀ n, n ∈ s.toNames ↔ n ∈ t.toNames := by
  constructor
  · intro h n
    rw [h]
  · exact SortedMap.eq_of_sorted_of_mem_iff s.toNames_sorted t.toNames_sorted

/-- **Comparing two sets** name by name tells whether they have the same members. -/
theorem hasSame_iff : s.hasSame t = true ↔ ∀ n, n ∈ s.toNames ↔ n ∈ t.toNames := by
  have hcontains : ∀ (s : NameSet) (n : String), Fields.contains s n = true ↔ n ∈ s.toNames := by
    intro s n
    exact Fields.mem_keys.symm
  unfold hasSame
  simp only [Bool.and_eq_true, List.all_eq_true, hcontains, ← mem_toNames]
  constructor
  · rintro ⟨hst, hts⟩ n
    exact ⟨hst n, hts n⟩
  · intro h
    exact ⟨fun n => (h n).mp, fun n => (h n).mpr⟩

theorem isEmpty_iff : s.isEmpty = true ↔ s.toNames = [] := by
  rw [Fields.isEmpty_iff, List.eq_nil_iff_forall_not_mem]
  refine forall_congr' fun n => ?_
  unfold toNames
  rw [Fields.mem_keys, Option.not_isSome_iff_eq_none]

end Phrasebook.NameSet
