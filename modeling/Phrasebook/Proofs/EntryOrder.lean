import Mathlib.Data.List.Forall2
import Phrasebook.Catalog.Operation
import Phrasebook.Proofs.Parameters

/-!
# The order inside a catalog

A catalog keeps its entries, the texts of an entry and its placeholders in the order in which they came.
None of what is done with it can tell: texts are looked up, sets of names are compared by their members,
and where something is listed it is sorted first. So two catalogs that differ in these orders only are
completed alike, with the same notices and the same error, and come to the same plan and the same file.

## Contents
- `Entry.Same`, `Catalog.Same`: the same but for the order
- `forall₂_of_rel_lookup`, `rel_lookup`: sorted lists that are related pair by pair
- `Entry.Same.complete`, `Entry.Same.settle`: the two steps for one entry
- `visit_same`, `Catalog.Same.validate`: a visit, a catalog
- `Catalog.Same.plan_eq`, `Catalog.Same.emit_eq`: plans and files
-/

namespace Phrasebook

/-! ## The same but for the order -/

/-- Two entries are the **same** when they have the same key, the same text for each locale and the same
placeholders, in whatever order they came. -/
structure Entry.Same (e e' : Entry) : Prop where
  key : e.key = e'.key
  texts : ∀ l, e.texts.get? l = e'.texts.get? l
  placeholders : ∀ name, name ∈ e.placeholders.toNames ↔ name ∈ e'.placeholders.toNames

/-- Two catalogs are the **same** when they have the same locales, and entries for the same keys that are
the same, in whatever order they came. -/
structure Catalog.Same (c c' : Catalog) : Prop where
  locales : c.locales = c'.locales
  entries : ∀ key, Option.Rel Entry.Same (c.find? key) (c'.find? key)

theorem Entry.Same.refl (e : Entry) : e.Same e := ⟨rfl, fun _ => rfl, fun _ => Iff.rfl⟩

section Related

variable {α β : Type} {R : α → β → Prop}

/-- Related lookups find nothing, or two related values. -/
theorem rel_cases {o : Option α} {o' : Option β} (h : Option.Rel R o o') :
    (o = none ∧ o' = none) ∨ ∃ v v', o = some v ∧ o' = some v' ∧ R v v' := by
  cases h with
  | none => exact Or.inl ⟨rfl, rfl⟩
  | some hv => exact Or.inr ⟨_, _, rfl, rfl, hv⟩

theorem rel_refl {R : α → α → Prop} (hrefl : ∀ v, R v v) (o : Option α) : Option.Rel R o o := by
  cases o with
  | none => exact .none
  | some v => exact .some (hrefl v)

theorem isSome_of_rel {o : Option α} {o' : Option β} (h : Option.Rel R o o') : o.isSome = o'.isSome := by
  cases h <;> rfl

/-- Two pairs have the same name and related values. -/
def PairRel (R : α → β → Prop) (p : String × α) (q : String × β) : Prop := p.1 = q.1 ∧ R p.2 q.2

theorem rel_lookup {l : List (String × α)} {l' : List (String × β)} (h : List.Forall₂ (PairRel R) l l')
    (name : String) : Option.Rel R (l.lookup name) (l'.lookup name) := by
  induction h with
  | nil => exact .none
  | @cons p q rest rest' hpq _ ih =>
    obtain ⟨k, v⟩ := p
    obtain ⟨k', v'⟩ := q
    obtain ⟨rfl, hv⟩ := hpq
    rw [SortedMap.lookup_cons_eq, SortedMap.lookup_cons_eq]
    by_cases hk : name = k
    · rw [if_pos hk, if_pos hk]
      exact .some hv
    · rw [if_neg hk, if_neg hk]
      exact ih

theorem forall₂_of_map_fst {l : List (String × α)} {l' : List (String × β)}
    (hnames : l.map Prod.fst = l'.map Prod.fst)
    (hvalues : ∀ p ∈ l, ∀ q ∈ l', p.1 = q.1 → R p.2 q.2) : List.Forall₂ (PairRel R) l l' := by
  induction l generalizing l' with
  | nil =>
    obtain rfl : l' = [] := List.map_eq_nil_iff.mp hnames.symm
    exact .nil
  | cons p rest ih =>
    cases l' with
    | nil => cases hnames
    | cons q rest' =>
      obtain ⟨hhead, hrest⟩ := List.cons.inj hnames
      refine .cons ⟨hhead, hvalues p List.mem_cons_self q List.mem_cons_self hhead⟩ (ih hrest ?_)
      intro p' hp' q' hq'
      exact hvalues p' (List.mem_cons_of_mem p hp') q' (List.mem_cons_of_mem q hq')

/-- **Increasing lists with related lookups are related pair by pair.** -/
theorem forall₂_of_rel_lookup {l : List (String × α)} {l' : List (String × β)}
    (h : (l.map Prod.fst).Pairwise (· < ·)) (h' : (l'.map Prod.fst).Pairwise (· < ·))
    (hrel : ∀ name, Option.Rel R (l.lookup name) (l'.lookup name)) : List.Forall₂ (PairRel R) l l' := by
  apply forall₂_of_map_fst
  · refine SortedMap.eq_of_sorted_of_mem_iff h h' fun name => ?_
    rw [SortedMap.mem_map_fst_iff, SortedMap.mem_map_fst_iff, isSome_of_rel (hrel name)]
  · rintro ⟨k, v⟩ hp ⟨k', v'⟩ hq rfl
    have hrel := hrel k
    rw [SortedMap.lookup_of_mem (SortedMap.nodup_of_sorted h) hp,
      SortedMap.lookup_of_mem (SortedMap.nodup_of_sorted h') hq] at hrel
    cases hrel with
    | some hv => exact hv

theorem map_fst_of_forall₂ {l : List (String × α)} {l' : List (String × β)}
    (h : List.Forall₂ (PairRel R) l l') : l.map Prod.fst = l'.map Prod.fst := by
  induction h with
  | nil => rfl
  | cons hpq _ ih => rw [List.map_cons, List.map_cons, hpq.1, ih]

end Related

/-! ## One entry -/

namespace Entry.Same

variable {e e' : Entry}

theorem contains (h : e.Same e') (l : String) : e.texts.contains l = e'.texts.contains l := by
  unfold Fields.contains
  rw [h.texts l]

theorem fallbackText? (h : e.Same e') (fallback : Option String) :
    e.fallbackText? fallback = e'.fallbackText? fallback := by
  unfold Entry.fallbackText?
  simp only [h.texts]

theorem setText (h : e.Same e') (locale text : String) :
    (e.setText locale text).Same (e'.setText locale text) where
  key := h.key
  texts := by
    intro l
    rw [get?_setText, get?_setText, h.texts l]
  placeholders := h.placeholders

theorem toNames (h : e.Same e') : e.placeholders.toNames = e'.placeholders.toNames :=
  NameSet.toNames_inj_iff.mpr h.placeholders

theorem usedNames (h : e.Same e') : e.usedNames.toNames = e'.usedNames.toNames := by
  rw [NameSet.toNames_inj_iff]
  intro name
  rw [mem_usedNames, mem_usedNames]
  exact uses_congr h.texts name

/-- **Completing does not depend on the order**: it stops at the same locale, reports the same, and leaves
the same entry. -/
theorem complete (h : e.Same e') (key : String) (fallback : Option String) (locales : List String) :
    (e.complete key fallback locales).entry.Same (e'.complete key fallback locales).entry ∧
      (e.complete key fallback locales).notices = (e'.complete key fallback locales).notices ∧
      (e.complete key fallback locales).gap? = (e'.complete key fallback locales).gap? := by
  induction locales generalizing e e' with
  | nil => exact ⟨h, rfl, rfl⟩
  | cons locale rest ih =>
    unfold Entry.complete
    rw [h.contains locale, h.fallbackText? fallback]
    split
    · exact ih h
    · split
      · exact ⟨h, rfl, rfl⟩
      · rename_i source text _
        obtain ⟨hentry, hnotices, hgap⟩ := ih (h.setText locale text)
        exact ⟨hentry, congrArg (_ :: ·) hnotices, hgap⟩

/-- **Settling does not depend on the order** either. -/
theorem settle (h : e.Same e') (key : String) :
    (e.settle key).1.Same (e'.settle key).1 ∧ (e.settle key).2 = (e'.settle key).2 := by
  have hempty : e.placeholders.isEmpty = e'.placeholders.isEmpty := by
    rw [Bool.eq_iff_iff, NameSet.isEmpty_iff, NameSet.isEmpty_iff, h.toNames]
  have hsame : e.usedNames.hasSame e.placeholders = e'.usedNames.hasSame e'.placeholders := by
    rw [Bool.eq_iff_iff, NameSet.hasSame_iff, NameSet.hasSame_iff, h.usedNames, h.toNames]
  unfold Entry.settle
  rw [hempty, hsame, h.usedNames, h.toNames]
  split
  · refine ⟨⟨h.key, h.texts, fun name => ?_⟩, rfl⟩
    unfold declare
    rw [NameSet.mem_addAll, NameSet.mem_addAll, ← NameSet.mem_toNames, ← NameSet.mem_toNames,
      h.usedNames, h.placeholders]
  · split
    · exact ⟨h, rfl⟩
    · exact ⟨h, rfl⟩

theorem completed (h : e.Same e') (key : String) (locales : List String) (fallback : Option String) :
    (e.completed key locales fallback).Same (e'.completed key locales fallback) ∧
      e.notices key locales fallback = e'.notices key locales fallback := by
  obtain ⟨hentry, hnotices, hgap⟩ := h.complete key fallback locales
  obtain ⟨hsettled, hreports⟩ := hentry.settle key
  unfold Entry.completed Entry.notices
  rw [hgap, hnotices, hreports]
  split
  · exact ⟨h, rfl⟩
  · exact ⟨hsettled, rfl⟩

theorem firstGap? (h : e.Same e') (locales : List String) : e.firstGap? locales = e'.firstGap? locales := by
  unfold Entry.firstGap?
  simp only [h.contains]

theorem row (h : e.Same e') : e.row = e'.row := by
  funext locale
  unfold Entry.row
  rw [h.texts locale]

theorem parameters (h : e.Same e') (target : Target) : target.parameters e = target.parameters e' := by
  unfold Target.parameters
  rw [h.toNames]

end Entry.Same

/-! ## All entries -/

section Entries

variable {l l' : List (String × Entry)}

/-- **A visit does not depend on the order inside the entries.** It is stopped by the same gap, reports the
same, and leaves the same entries. -/
theorem visit_same (h : List.Forall₂ (PairRel Entry.Same) l l') (locales : List String)
    (fallback : Option String) :
    List.Forall₂ (PairRel Entry.Same) (visit locales fallback l).entries (visit locales fallback l').entries ∧
      (visit locales fallback l).notices = (visit locales fallback l').notices ∧
      (visit locales fallback l).gap? = (visit locales fallback l').gap? := by
  induction h with
  | nil => exact ⟨.nil, rfl, rfl⟩
  | @cons p q rest rest' hpq hrest ih =>
    obtain ⟨key, e⟩ := p
    obtain ⟨key', e'⟩ := q
    obtain ⟨rfl, hsame⟩ := hpq
    have hgap' := (hsame.complete key fallback locales).2.2
    cases hgap : (e.complete key fallback locales).gap? with
    | some l =>
      rw [hgap] at hgap'
      rw [visit_cons_of_gap? hgap, visit_cons_of_gap? hgap'.symm]
      exact ⟨.cons ⟨rfl, hsame⟩ hrest, rfl, rfl⟩
    | none =>
      rw [hgap] at hgap'
      rw [visit_cons_of_complete hgap, visit_cons_of_complete hgap'.symm]
      obtain ⟨hcompleted, hreports⟩ := hsame.completed key locales fallback
      obtain ⟨hentries, hnotices, hstop⟩ := ih
      exact ⟨.cons ⟨rfl, hcompleted⟩ hentries, by rw [hreports, hnotices], hstop⟩

/-- The accessors of entries do not depend on the order inside them. -/
theorem map_accessor_same (h : List.Forall₂ (PairRel Entry.Same) l l') (target : Target)
    (locales members : List String) :
    (l.zip members).map (target.accessor locales) = (l'.zip members).map (target.accessor locales) := by
  induction h generalizing members with
  | nil => rfl
  | @cons p q rest rest' hpq _ ih =>
    obtain ⟨hkey, hsame⟩ := hpq
    cases members with
    | nil => rfl
    | cons member members =>
      have hhead : target.accessor locales (p, member) = target.accessor locales (q, member) := by
        unfold Target.accessor
        rw [hkey, hsame.parameters, hsame.row]
      rw [List.zip_cons_cons, List.zip_cons_cons, List.map_cons, List.map_cons, hhead, ih members]

end Entries

/-! ## A catalog -/

namespace Catalog.Same

variable {c c' : Catalog}

/-- The sorted entries of catalogs that are the same are so one by one. -/
theorem sorted (h : c.Same c') :
    List.Forall₂ (PairRel Entry.Same) c.entries.sorted.toList c'.entries.sorted.toList := by
  refine forall₂_of_rel_lookup c.entries.sorted.sorted c'.entries.sorted.sorted fun name => ?_
  show Option.Rel Entry.Same (c.entries.sorted.get? name) (c'.entries.sorted.get? name)
  rw [Fields.get?_sorted, Fields.get?_sorted]
  exact h.entries name

theorem keys (h : c.Same c') : c.entries.keys = c'.entries.keys := map_fst_of_forall₂ h.sorted

/-- **Completing does not depend on the order inside the catalog.** The same gap is left open, the same is
reported, and the catalogs that are left are the same. -/
theorem validate (h : c.Same c') (fallback : Option String) :
    (c.validate fallback).catalog.Same (c'.validate fallback).catalog ∧
      (c.validate fallback).notices = (c'.validate fallback).notices ∧
      (c.validate fallback).gap? = (c'.validate fallback).gap? := by
  obtain ⟨hentries, hnotices, hgap⟩ := visit_same h.sorted c.locales fallback
  have hfallback : c.fallbackNotices fallback = c'.fallbackNotices fallback := by
    cases fallback with
    | none => rfl
    | some f =>
      unfold fallbackNotices
      rw [h.locales]
  refine ⟨⟨h.locales, fun key => ?_⟩, ?_, ?_⟩
  · -- under a key there is what the visit left there
    have hfind : ∀ c : Catalog, (c.validate fallback).catalog.find? key =
        (visit c.locales fallback c.entries.sorted.toList).entries.lookup key := by
      intro c
      rw [← sorted_validate]
      exact (Fields.get?_sorted _ key).symm
    rw [hfind c, hfind c', ← h.locales]
    exact rel_lookup hentries key
  · show c.fallbackNotices fallback ++ (visit c.locales fallback c.entries.sorted.toList).notices =
      c'.fallbackNotices fallback ++ (visit c'.locales fallback c'.entries.sorted.toList).notices
    rw [← h.locales, hfallback, hnotices]
  · show (visit c.locales fallback c.entries.sorted.toList).gap? =
      (visit c'.locales fallback c'.entries.sorted.toList).gap?
    rw [← h.locales, hgap]

theorem firstGap? (h : c.Same c') : c.firstGap? = c'.firstGap? := by
  have hlist : ∀ {l l' : List (String × Entry)}, List.Forall₂ (PairRel Entry.Same) l l' →
      (l.findSome? fun p => p.2.firstGap? c.locales) = l'.findSome? fun p => p.2.firstGap? c.locales := by
    intro l l' hl
    induction hl with
    | nil => rfl
    | cons hpq _ ih => rw [List.findSome?_cons, List.findSome?_cons, hpq.2.firstGap?, ih]
  unfold Catalog.firstGap?
  rw [hlist h.sorted, h.locales]

/-- **A plan does not depend on the order inside the catalog**, whether it fails or not. -/
theorem plan_eq (h : c.Same c') (target : Target) : target.plan c = target.plan c' := by
  have haccessors : (target.planned c).map (target.accessor c.locales) =
      (target.planned c').map (target.accessor c'.locales) := by
    unfold Target.planned
    rw [map_accessor_same h.sorted, h.keys, h.locales]
  rw [Target.plan_eq, Target.plan_eq, h.firstGap?, haccessors]

/-- **Nor does a file.** -/
theorem emit_eq (h : c.Same c') (target : Target) (asked : String) :
    target.emit asked c = target.emit asked c' := by
  unfold Target.emit Catalog.defaultLocale
  rw [h.plan_eq, h.locales]

end Catalog.Same

end Phrasebook
