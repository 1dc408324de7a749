import Mathlib.Data.List.Basic
import Phrasebook.Tree

/-!
# What a put leaves alone

A tree is looked at in two ways: the bytes of the file at a place, and whether a directory is there. A
subtree that is put at a place, with no file on the way to it, changes the files at and below the place
only. It keeps every directory that is not there; directories may only be added, on the way.

## Contents
- `bytesAt?`, `IsDirAt`: the two views
- `get?_append`: a place below a place
- `bytesAt?_put`, `isDirAt_put`: both views after a put
- `bytesAt?_put_file`, `isDirAt_put_file`: both views after a file is put where no directory is
- `put_of_isBlocked`: a file on the way
-/

namespace Phrasebook

/-- A field set to the value that it has is left as it is. -/
theorem Fields.putIn_of_lookup {α : Type} {name : String} {value : α} {l : List (String × α)}
    (h : l.lookup name = some value) : putIn name value l = l := by
  induction l with
  | nil => cases h
  | cons p rest ih =>
    obtain ⟨k, v⟩ := p
    rw [SortedMap.lookup_cons_eq] at h
    by_cases hk : name = k
    · rw [if_pos hk] at h
      rw [putIn, if_pos hk.symm, Option.some.inj h]
    · rw [if_neg hk] at h
      rw [putIn, if_neg (Ne.symm hk), ih h]

namespace Tree

/-! ## Views -/

/-- The bytes of the file at a place. -/
def bytesAt? (place : Place) (t : Tree) : Option ByteArray :=
  match get? place t with
  | some (file bytes) => some bytes
  | _ => none

/-- A directory is at a place. -/
def IsDirAt (place : Place) (t : Tree) : Prop := ∃ entries, get? place t = some (dir entries)

@[simp] theorem get?_nil (t : Tree) : get? [] t = some t := by
  cases t <;> rfl

theorem get?_cons_dir (name : String) (rest : Place) (entries : List (String × Tree)) :
    get? (name :: rest) (dir entries) = (entries.lookup name).bind (get? rest) := rfl

/-- What is at a place below another is found from there. -/
theorem get?_append (place below : Place) (t : Tree) :
    get? (place ++ below) t = (get? place t).bind (get? below) := by
  induction place generalizing t with
  | nil => rw [List.nil_append, get?_nil, Option.bind_some]
  | cons name rest ih =>
    cases t with
    | file bytes => rfl
    | dir entries =>
      rw [List.cons_append, get?_cons_dir, get?_cons_dir]
      cases entries.lookup name with
      | none => rfl
      | some t => exact ih t

theorem bytesAt?_eq_some_iff {place : Place} {t : Tree} {bytes : ByteArray} :
    bytesAt? place t = some bytes ↔ get? place t = some (file bytes) := by
  unfold bytesAt?
  split
  · rename_i b hb
    rw [hb, Option.some.injEq, Option.some.injEq, file.injEq]
  · rename_i hnone
    exact iff_of_false (by simp) (hnone bytes)

theorem bytesAt?_of_get?_eq_none {place : Place} {t : Tree} (h : get? place t = none) :
    bytesAt? place t = none := by
  unfold bytesAt?
  rw [h]

/-- Below a place there is something only when a directory is there. -/
theorem isDirAt_of_below {place below : Place} {t s : Tree} (h : get? (place ++ below) t = some s)
    (hbelow : below ≠ []) : IsDirAt place t := by
  rw [get?_append] at h
  obtain ⟨u, hu, hs⟩ := Option.bind_eq_some_iff.mp h
  cases u with
  | dir entries => exact ⟨entries, hu⟩
  | file bytes =>
    obtain ⟨name, rest, rfl⟩ := List.exists_cons_of_ne_nil hbelow
    cases hs

/-- Below a place without a directory there is nothing. -/
theorem get?_of_not_isDirAt {place q : Place} {t : Tree} (hdir : ¬ IsDirAt place t) (hq : place <+: q)
    (hne : q ≠ place) : get? q t = none := by
  obtain ⟨below, rfl⟩ := hq
  have hbelow : below ≠ [] := fun hnil => hne (by rw [hnil, List.append_nil])
  cases hget : get? (place ++ below) t with
  | none => rfl
  | some s => exact absurd (isDirAt_of_below hget hbelow) hdir

/-- The directory above a directory is one. -/
theorem IsDirAt.dropLast {place : Place} {t : Tree} (h : IsDirAt place t) :
    IsDirAt place.dropLast t := by
  rcases List.eq_nil_or_concat place with rfl | ⟨above, name, rfl⟩
  · exact h
  · obtain ⟨entries, hget⟩ := h
    rw [List.concat_eq_append] at hget ⊢
    rw [List.dropLast_concat]
    exact isDirAt_of_below hget (List.cons_ne_nil name [])

/-- An empty directory holds no files. -/
theorem bytesAt?_dir_nil (place : Place) : bytesAt? place (dir []) = none := by
  cases place <;> rfl

/-- The files below an entry of a directory. -/
theorem bytesAt?_cons_dir (name : String) (rest : Place) (entries : List (String × Tree)) :
    bytesAt? (name :: rest) (dir entries) = bytesAt? rest ((entries.lookup name).getD (dir [])) := by
  cases h : entries.lookup name with
  | none =>
    rw [Option.getD_none, bytesAt?_dir_nil]
    exact bytesAt?_of_get?_eq_none (by rw [get?_cons_dir, h, Option.bind_none])
  | some t =>
    unfold bytesAt?
    rw [get?_cons_dir, h, Option.bind_some, Option.getD_some]

/-! ## A put -/

theorem isBlocked_dir_nil (place : Place) : isBlocked place (dir []) = false := by
  induction place with
  | nil => rfl
  | cons name rest ih => exact ih

/-- There is no file on the way to an entry of a directory. -/
theorem isBlocked_of_isDirAt {above : Place} {t : Tree} (h : IsDirAt above t) (name : String) :
    isBlocked (above ++ [name]) t = false := by
  obtain ⟨entries, hget⟩ := h
  induction above generalizing t with
  | nil =>
    rw [get?_nil] at hget
    rw [Option.some.inj hget]
    rfl
  | cons n rest ih =>
    cases t with
    | file bytes => cases hget
    | dir es =>
      rw [get?_cons_dir] at hget
      obtain ⟨sub, hsub, hget⟩ := Option.bind_eq_some_iff.mp hget
      rw [List.cons_append, isBlocked, hsub, Option.getD_some]
      exact ih hget

/-- A file on the way to a place keeps anything from being put there. -/
theorem put_of_isBlocked (new : Tree) {place : Place} {t : Tree} (h : isBlocked place t = true) :
    put new place t = t := by
  induction place generalizing t with
  | nil => cases h
  | cons name rest ih =>
    cases t with
    | file bytes => rfl
    | dir entries =>
      rw [isBlocked] at h
      rw [put, ih h]
      cases hl : entries.lookup name with
      | none =>
        rw [hl, Option.getD_none, isBlocked_dir_nil] at h
        cases h
      | some sub => rw [Option.getD_some, Fields.putIn_of_lookup hl]

/-- **The files after a put**: at and below the place those of the new subtree, elsewhere the old ones. -/
theorem bytesAt?_put (new : Tree) {place : Place} {t : Tree} (h : isBlocked place t = false)
    (q : Place) :
    bytesAt? q (put new place t) =
      if place <+: q then bytesAt? (q.drop place.length) new else bytesAt? q t := by
  induction place generalizing t q with
  | nil =>
    rw [if_pos (List.nil_prefix), List.length_nil, List.drop_zero]
    cases t <;> rfl
  | cons name rest ih =>
    cases t with
    | file bytes => cases h
    | dir entries =>
      rw [isBlocked] at h
      cases q with
      | nil => rfl
      | cons m q =>
        rw [put, bytesAt?_cons_dir, Fields.lookup_putIn, bytesAt?_cons_dir m q entries]
        simp only [List.cons_prefix_cons, List.length_cons, List.drop_succ_cons]
        by_cases hm : m = name
        · subst hm
          rw [if_pos rfl, Option.getD_some, ih h q]
          simp only [true_and]
        · rw [if_neg hm, if_neg fun hp => hm hp.1.symm]

/-- The files after a file is put where no directory is. -/
theorem bytesAt?_put_file (bytes : ByteArray) {place : Place} {t : Tree} (h : isBlocked place t = false)
    (hdir : ¬ IsDirAt place t) (q : Place) :
    bytesAt? q (put (file bytes) place t) = if q = place then some bytes else bytesAt? q t := by
  rw [bytesAt?_put _ h]
  by_cases hq : q = place
  · rw [if_pos hq, hq, if_pos List.prefix_rfl, List.drop_length]
    rfl
  · rw [if_neg hq]
    by_cases hp : place <+: q
    · rw [if_pos hp, bytesAt?_of_get?_eq_none (get?_of_not_isDirAt hdir hp hq)]
      -- nothing was below the place, and nothing is below a file
      obtain ⟨below, rfl⟩ := hp
      rw [List.drop_left]
      cases below with
      | nil => exact absurd (List.append_nil _) hq
      | cons name rest => rfl
    · rw [if_neg hp]

/-- **A directory is kept by a put** that it is neither at nor below. -/
theorem isDirAt_put (new : Tree) {place q : Place} {t : Tree} (hq : IsDirAt q t)
    (hp : ¬ place <+: q) : IsDirAt q (put new place t) := by
  obtain ⟨es, hget⟩ := hq
  induction place generalizing t q with
  | nil => exact absurd List.nil_prefix hp
  | cons name rest ih =>
    cases t with
    | file bytes => exact ⟨es, hget⟩
    | dir entries =>
      cases q with
      | nil => exact ⟨_, get?_nil _⟩
      | cons m q =>
        rw [List.cons_prefix_cons, not_and] at hp
        rw [get?_cons_dir] at hget
        obtain ⟨sub, hsub, hget⟩ := Option.bind_eq_some_iff.mp hget
        unfold IsDirAt
        rw [put, get?_cons_dir, Fields.lookup_putIn]
        by_cases hm : m = name
        · subst hm
          rw [if_pos rfl, Option.bind_some, hsub, Option.getD_some]
          exact ih (hp rfl) hget
        · rw [if_neg hm, hsub, Option.bind_some]
          exact ⟨es, hget⟩

/-- A file put where no directory is takes no directory away. -/
theorem isDirAt_put_file (bytes : ByteArray) {place q : Place} {t : Tree} (hdir : ¬ IsDirAt place t)
    (hq : IsDirAt q t) : IsDirAt q (put (file bytes) place t) := by
  refine isDirAt_put _ hq fun hp => ?_
  by_cases hne : q = place
  · exact hdir (hne ▸ hq)
  · obtain ⟨entries, hget⟩ := hq
    rw [get?_of_not_isDirAt hdir hp hne] at hget
    cases hget

end Tree

end Phrasebook
