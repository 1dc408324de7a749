import Phrasebook.SortedMap

/-!
# Fields

Named values in the order in which the names were first given, as the fields of an object in a file
are. A name that is given again keeps its first place and takes its last value. Where names are wanted
in increasing order, they are sorted when they are read.

## Contents
- `Fields`: the type, `get?`, `put`, `erase`, `putAll`, `ofList`
- `get?_put`, `get?_erase`: each operation through the lookup
- `Fields.sorted`, `Fields.keys`: the fields by increasing name
- `NameSet`: a set of names, as fields without values
-/

namespace Phrasebook

universe u

/-- Named values, each name once, in the order of their first appearance. -/
structure Fields (α : Type u) where
  /-- The fields in order. -/
  toList : List (String × α)
  /-- No name is repeated. -/
  nodup : (toList.map Prod.fst).Nodup

namespace Fields

variable {α : Type u}

/-- No fields. -/
def empty : Fields α := ⟨[], .nil⟩

instance : Inhabited (Fields α) := ⟨empty⟩

/-- The names in order. -/
def names (f : Fields α) : List String := f.toList.map Prod.fst

/-- The values in the order of their names. -/
def values (f : Fields α) : List α := f.toList.map Prod.snd

/-- The number of fields. -/
def size (f : Fields α) : Nat := f.toList.length

/-- Whether there are no fields. -/
def isEmpty (f : Fields α) : Bool := f.toList.isEmpty

/-- The value of a field. -/
def get? (f : Fields α) (name : String) : Option α := f.toList.lookup name

/-- Whether a field of the name is there. -/
def contains (f : Fields α) (name : String) : Bool := (f.get? name).isSome

@[simp] theorem get?_empty (name : String) : (empty : Fields α).get? name = none := rfl

/-! ## Setting a value -/

/-- Sets the value of a name in a list of fields: in its place, or at the end when it is new. -/
def putIn (name : String) (value : α) : List (String × α) → List (String × α)
  | [] => [(name, value)]
  | (k, v) :: rest => if k = name then (k, value) :: rest else (k, v) :: putIn name value rest

theorem mem_names_putIn {name k : String} {value : α} {l : List (String × α)} :
    k ∈ (putIn name value l).map Prod.fst ↔ k = name ∨ k ∈ l.map Prod.fst := by
  induction l with
  | nil => simp [putIn]
  | cons p rest ih =>
    simp only [putIn]
    split
    · rename_i h
      simp [h]
    · simp only [List.map_cons, List.mem_cons, ih]
      constructor
      · rintro (h | h | h) <;> simp [h]
      · rintro (h | h | h) <;> simp [h]

theorem nodup_putIn {name : String} {value : α} {l : List (String × α)}
    (h : (l.map Prod.fst).Nodup) : ((putIn name value l).map Prod.fst).Nodup := by
  induction l with
  | nil => simp [putIn]
  | cons p rest ih =>
    simp only [List.map_cons, List.nodup_cons] at h
    simp only [putIn]
    split
    · simpa using h
    · rename_i hne
      simp only [List.map_cons, List.nodup_cons]
      refine ⟨fun hm => ?_, ih h.2⟩
      rcases mem_names_putIn.mp hm with he | hm
      · exact hne he
      · exact h.1 hm

theorem lookup_putIn {name k : String} {value : α} {l : List (String × α)} :
    (putIn name value l).lookup k = if k = name then some value else l.lookup k := by
  induction l with
  | nil => simp only [putIn, SortedMap.lookup_cons_eq]
  | cons p rest ih =>
    obtain ⟨k', v'⟩ := p
    simp only [putIn]
    split
    · rename_i he
      subst he
      by_cases hk : k = k' <;> simp [SortedMap.lookup_cons_eq, hk]
    · rename_i hne
      simp only [SortedMap.lookup_cons_eq, ih]
      by_cases hk : k = name
      · subst hk
        simp [Ne.symm hne]
      · simp [hk]

/-- Sets the value of a name: in its place, or as a last field when it is new. -/
def put (f : Fields α) (name : String) (value : α) : Fields α :=
  ⟨putIn name value f.toList, nodup_putIn f.nodup⟩

/-- After a value is set, the name has it and every other name its old one. -/
theorem get?_put (f : Fields α) (name k : String) (value : α) :
    (f.put name value).get? k = if k = name then some value else f.get? k :=
  lookup_putIn

/-- Sets the values of the pairs of a list, one after the other. -/
def putAll (f : Fields α) (pairs : List (String × α)) : Fields α :=
  pairs.foldl (fun f p => f.put p.1 p.2) f

/-- The fields given by a list, a repeated name with its first place and its last value. -/
def ofList (pairs : List (String × α)) : Fields α := empty.putAll pairs

/-! ## Removal -/

/-- Removes the field of a name, if there is one; the others keep their order. -/
def erase (f : Fields α) (name : String) : Fields α :=
  ⟨f.toList.filter (·.1 ≠ name), f.nodup.sublist (List.filter_sublist.map Prod.fst)⟩

/-- After a removal the name has no value and every other name its old one. -/
theorem get?_erase (f : Fields α) (name k : String) :
    (f.erase name).get? k = if k = name then none else f.get? k :=
  SortedMap.lookup_filter_ne

/-! ## Sorting -/

/-- The fields by increasing name. -/
def sorted (f : Fields α) : SortedMap α := .ofList f.toList

/-- The names in increasing order. -/
def keys (f : Fields α) : List String := f.sorted.keys

end Fields

/-! ## Sets of names -/

/-- A set of names. They are kept as they were added, and asked for in increasing order. -/
abbrev NameSet := Fields Unit

namespace NameSet

/-- The names of the set, smallest first. -/
def toNames (s : NameSet) : List String := Fields.keys s

/-- The set with one more name. -/
def add (s : NameSet) (name : String) : NameSet := Fields.put s name ()

/-- The set with the names of a list added. -/
def addAll (s : NameSet) (names : List String) : NameSet := names.foldl add s

/-- The set of the names of a list. -/
def ofNames (names : List String) : NameSet := addAll Fields.empty names

/-- Whether two sets have the same names. -/
def hasSame (s t : NameSet) : Bool :=
  (Fields.names s).all (Fields.contains t) && (Fields.names t).all (Fields.contains s)

end NameSet

end Phrasebook
