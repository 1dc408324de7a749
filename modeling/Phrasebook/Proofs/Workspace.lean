import Phrasebook.Proofs.Tree
import Phrasebook.Workspace

/-!
# What an operation on files leaves alone

A path leads to a place that its names alone determine, if it leads anywhere. No operation that creates
takes a directory away, so a path that leads to a place goes on leading there. Creating directories
changes no file, whether it succeeds or not; writing a file changes the file at the place of its path
and no other.

## Contents
- `Path.IsFollowable`: what the path itself needs for it
- `placeOf`, `locate_eq_ok_iff`, `placeOf_of_locate`: the place of a path
- `read_eq_ok_iff`, `read_eq_nullInPath_iff`, `read_eq_nameTooLong_iff`, `isFile_iff`, `list_eq_ok`:
  looking, through the views of the tree
- `Keeps`, `SameFiles`: what two workspaces have in common
- `makeDir_spec`, `makeDirs_spec`, `write_spec`: the operations
-/

namespace Phrasebook

/-- A path **can be followed** as far as its own text goes. -/
def Path.IsFollowable (p : Path) : Prop := p.hasNull = false ∧ p.isLong = false

instance (p : Path) : Decidable p.IsFollowable :=
  inferInstanceAs (Decidable (p.hasNull = false ∧ p.isLong = false))

/-- With a path, that of its directory can be followed. -/
theorem Path.IsFollowable.parent {p : Path} (h : p.IsFollowable) (hparts : p.parts ≠ []) :
    p.parent.IsFollowable := by
  obtain ⟨hnull, hlong⟩ := h
  unfold Path.hasNull at hnull
  unfold Path.isLong at hlong
  rw [← List.dropLast_append_getLast hparts] at hnull hlong
  rw [List.any_append, Bool.or_eq_false_iff] at hnull
  rw [decide_eq_false_iff_not, List.foldl_append, List.foldl_cons] at hlong
  refine ⟨hnull.1, decide_eq_false ?_⟩
  unfold Path.parent
  dsimp only [List.foldl_nil] at hlong ⊢
  omega

namespace Workspace

/-! ## Places -/

/-- Where names lead from a place, each into an entry and `..` to the directory above. -/
def resolve (place : Tree.Place) (names : List String) : Tree.Place :=
  names.foldl (fun place name => if name = ".." then place.dropLast else place ++ [name]) place

/-- The place that the names of a path lead to. -/
def placeOf (w : Workspace) (p : Path) : Tree.Place :=
  resolve (if p.root = .relative then w.base else []) p.parts

theorem walk_cons_of_isDirAt {tree : Tree} {place : Tree.Place} (h : tree.IsDirAt place)
    {name : String} (hname : Path.isLongName name = false) (rest : List String) :
    walk tree place (name :: rest) =
      walk tree (if name = ".." then place.dropLast else place ++ [name]) rest := by
  obtain ⟨entries, hget⟩ := h
  rw [walk, hget]
  dsimp only
  rw [hname]
  exact if_neg Bool.false_ne_true

/-- A walk that goes on from a place is in a directory there, and its next name is not too long. -/
theorem of_walk_cons {tree : Tree} {place q : Tree.Place} {name : String} {rest : List String}
    (h : walk tree place (name :: rest) = .ok q) :
    tree.IsDirAt place ∧ Path.isLongName name = false := by
  rw [walk] at h
  split at h
  · rename_i entries hget
    split at h
    · cases h
    · rename_i hname
      exact ⟨⟨entries, hget⟩, Bool.eq_false_iff.mpr hname⟩
  · cases h
  · cases h

/-- A walk that arrives does so where the names lead. -/
theorem resolve_of_walk {tree : Tree} {place q : Tree.Place} {names : List String}
    (h : walk tree place names = .ok q) : q = resolve place names := by
  induction names generalizing place with
  | nil =>
    cases h
    rfl
  | cons name rest ih =>
    obtain ⟨hdir, hname⟩ := of_walk_cons h
    rw [walk_cons_of_isDirAt hdir hname] at h
    exact ih h

/-- A walk along more names goes on from where the first of them lead. -/
theorem walk_append {tree : Tree} {place q : Tree.Place} {names : List String}
    (h : walk tree place names = .ok q) (more : List String) :
    walk tree place (names ++ more) = walk tree q more := by
  induction names generalizing place with
  | nil =>
    cases h
    rfl
  | cons name rest ih =>
    obtain ⟨hdir, hname⟩ := of_walk_cons h
    rw [walk_cons_of_isDirAt hdir hname] at h
    rw [List.cons_append, walk_cons_of_isDirAt hdir hname]
    exact ih h

/-- A walk that arrives has come through a directory just before. -/
theorem walk_concat {tree : Tree} {place q : Tree.Place} {names : List String} {name : String}
    (h : walk tree place (names ++ [name]) = .ok q) :
    ∃ d, walk tree place names = .ok d ∧ tree.IsDirAt d ∧
      q = if name = ".." then d.dropLast else d ++ [name] := by
  induction names generalizing place with
  | nil =>
    obtain ⟨hdir, hname⟩ := of_walk_cons h
    rw [List.nil_append, walk_cons_of_isDirAt hdir hname] at h
    cases h
    exact ⟨place, rfl, hdir, rfl⟩
  | cons n rest ih =>
    obtain ⟨hdir, hname⟩ := of_walk_cons h
    rw [List.cons_append, walk_cons_of_isDirAt hdir hname] at h
    rw [walk_cons_of_isDirAt hdir hname]
    exact ih h

/-- **A path leads to a place** when it can be followed at all and its names lead there. -/
theorem locate_eq_ok_iff {w : Workspace} {p : Path} {place : Tree.Place} :
    w.locate p = .ok place ↔ p.IsFollowable ∧
      walk w.tree (if p.root = .relative then w.base else []) p.parts = .ok place := by
  unfold locate Path.IsFollowable
  cases p.hasNull with
  | true => simp
  | false => cases p.isLong <;> simp

theorem walk_of_locate {w : Workspace} {p : Path} {place : Tree.Place}
    (h : w.locate p = .ok place) :
    walk w.tree (if p.root = .relative then w.base else []) p.parts = .ok place :=
  (locate_eq_ok_iff.mp h).2

/-- **A path leads to its place**, if it leads anywhere. -/
theorem placeOf_of_locate {w : Workspace} {p : Path} {place : Tree.Place}
    (h : w.locate p = .ok place) : place = w.placeOf p :=
  resolve_of_walk (walk_of_locate h)

/-! ## Looking -/

/-- The bytes of the file at a place. -/
def bytesAt? (w : Workspace) (place : Tree.Place) : Option ByteArray := w.tree.bytesAt? place

theorem read_eq_ok_iff {w : Workspace} {p : Path} {bytes : ByteArray} :
    w.read p = .ok bytes ↔
      w.locate p = .ok (w.placeOf p) ∧ w.bytesAt? (w.placeOf p) = some bytes := by
  unfold read node
  constructor
  · intro h
    cases hlocate : w.locate p with
    | error e =>
      rw [hlocate] at h
      cases h
    | ok place =>
      obtain rfl := placeOf_of_locate hlocate
      rw [hlocate] at h
      dsimp only at h
      refine ⟨rfl, Tree.bytesAt?_eq_some_iff.mpr ?_⟩
      cases hget : Tree.get? (w.placeOf p) w.tree with
      | none =>
        rw [hget] at h
        cases h
      | some t =>
        rw [hget] at h
        cases t with
        | dir entries => cases h
        | file b =>
          cases h
          rfl
  · rintro ⟨hlocate, hbytes⟩
    rw [hlocate]
    dsimp only
    rw [Tree.bytesAt?_eq_some_iff.mp hbytes]

/-- A path that leads to a file is not too long. -/
theorem isOverlong_of_read {w : Workspace} {p : Path} {bytes : ByteArray} (h : w.read p = .ok bytes) :
    w.isOverlong p = false := by
  unfold isOverlong
  rw [(read_eq_ok_iff.mp h).1]

theorem isFile_iff {w : Workspace} {p : Path} :
    w.isFile p = true ↔ ∃ bytes, w.read p = .ok bytes := by
  unfold isFile read
  cases w.node p with
  | error e => simp
  | ok t => cases t <;> simp

theorem list_eq_ok {w : Workspace} {p : Path} {names : List String} (h : w.list p = .ok names) :
    w.locate p = .ok (w.placeOf p) ∧
      ∃ entries, Tree.get? (w.placeOf p) w.tree = some (.dir entries) ∧ names = entries.map Prod.fst := by
  unfold list node at h
  cases hlocate : w.locate p with
  | error e =>
    rw [hlocate] at h
    cases h
  | ok place =>
    obtain rfl := placeOf_of_locate hlocate
    rw [hlocate] at h
    dsimp only at h
    refine ⟨rfl, ?_⟩
    cases hget : Tree.get? (w.placeOf p) w.tree with
    | none =>
      rw [hget] at h
      cases h
    | some t =>
      rw [hget] at h
      cases t with
      | file b => cases h
      | dir entries =>
        cases h
        exact ⟨entries, rfl, rfl⟩

theorem list_of_isDirAt {w : Workspace} {p : Path} (hlocate : w.locate p = .ok (w.placeOf p))
    (hdir : w.tree.IsDirAt (w.placeOf p)) : ∃ names, w.list p = .ok names := by
  obtain ⟨entries, hget⟩ := hdir
  unfold list node
  rw [hlocate]
  dsimp only
  rw [hget]
  exact ⟨_, rfl⟩

/-! ## What is left alone -/

/-- A workspace **keeps** another when it has the same working directory and at least the directories of
the other. -/
structure Keeps (w w' : Workspace) : Prop where
  base : w'.base = w.base
  dirs : ∀ place, w.tree.IsDirAt place → w'.tree.IsDirAt place

/-- Two workspaces have the **same files** when the bytes at every place are the same. -/
def SameFiles (w w' : Workspace) : Prop := ∀ place, w'.bytesAt? place = w.bytesAt? place

namespace Keeps

variable {w w' w'' : Workspace}

theorem refl (w : Workspace) : Keeps w w := ⟨rfl, fun _ h => h⟩

theorem trans (h : Keeps w w') (h' : Keeps w' w'') : Keeps w w'' :=
  ⟨h'.base.trans h.base, fun place hdir => h'.dirs place (h.dirs place hdir)⟩

theorem placeOf (h : Keeps w w') (p : Path) : w'.placeOf p = w.placeOf p := by
  unfold Workspace.placeOf
  rw [h.base]

theorem walk (h : Keeps w w') {place q : Tree.Place} {names : List String}
    (hwalk : walk w.tree place names = .ok q) : Workspace.walk w'.tree place names = .ok q := by
  induction names generalizing place with
  | nil => exact hwalk
  | cons name rest ih =>
    obtain ⟨hdir, hname⟩ := of_walk_cons hwalk
    rw [walk_cons_of_isDirAt hdir hname] at hwalk
    rw [walk_cons_of_isDirAt (h.dirs place hdir) hname]
    exact ih hwalk

/-- **A path that leads to a place goes on leading there.** -/
theorem locate (h : Keeps w w') {p : Path} {place : Tree.Place} (hlocate : w.locate p = .ok place) :
    w'.locate p = .ok place := by
  obtain ⟨hfollowable, hwalk⟩ := locate_eq_ok_iff.mp hlocate
  rw [locate_eq_ok_iff, h.base]
  exact ⟨hfollowable, h.walk hwalk⟩

end Keeps

theorem SameFiles.refl (w : Workspace) : SameFiles w w := fun _ => rfl

theorem SameFiles.trans {w w' w'' : Workspace} (h : SameFiles w w') (h' : SameFiles w' w'') :
    SameFiles w w'' :=
  fun place => (h' place).trans (h place)

/-! ## Creating directories -/

/-- A directory put where nothing is changes no file and takes no directory away. -/
theorem put_dir_spec {w : Workspace} {place : Tree.Place} (h : Tree.get? place w.tree = none) :
    Keeps w { w with tree := Tree.put (.dir []) place w.tree } ∧
      SameFiles w { w with tree := Tree.put (.dir []) place w.tree } := by
  -- whatever is at or below the place would need something at it
  have hbelow : ∀ q, place <+: q → Tree.get? q w.tree = none := by
    rintro q ⟨below, rfl⟩
    rw [Tree.get?_append, h, Option.bind_none]
  refine ⟨⟨rfl, fun q hq => Tree.isDirAt_put _ hq fun hp => ?_⟩, fun q => ?_⟩
  · obtain ⟨entries, hget⟩ := hq
    rw [hbelow q hp] at hget
    cases hget
  · unfold bytesAt?
    dsimp only
    cases hblocked : Tree.isBlocked place w.tree with
    | true => rw [Tree.put_of_isBlocked _ hblocked]
    | false =>
      rw [Tree.bytesAt?_put _ hblocked]
      split
      · rename_i hp
        rw [Tree.bytesAt?_dir_nil, Tree.bytesAt?_of_get?_eq_none (hbelow q hp)]
      · rfl

theorem makeDir_spec {w w' : Workspace} {p : Path} (h : w.makeDir p = .ok w') :
    Keeps w w' ∧ SameFiles w w' := by
  unfold makeDir at h
  split at h
  · cases h
  · split at h
    · cases h
    · rename_i hnone
      cases h
      exact put_dir_spec hnone

/-- Creating directories on the way changes no file, also where it fails. -/
theorem makeDirsWithin_spec (fuel : Nat) (w : Workspace) (p : Path) :
    Keeps w (makeDirsWithin fuel w p).1 ∧ SameFiles w (makeDirsWithin fuel w p).1 := by
  induction fuel generalizing p with
  | zero =>
    unfold makeDirsWithin
    split
    · exact makeDir_spec ‹_›
    · exact ⟨.refl w, .refl w⟩
    · exact ⟨.refl w, .refl w⟩
  | succ fuel ih =>
    unfold makeDirsWithin
    split
    · exact makeDir_spec ‹_›
    · dsimp only
      have habove := ih p.parent
      split
      · rename_i heq
        rwa [heq] at habove
      · rename_i w' heq
        rw [heq] at habove
        split
        · rename_i hdir
          obtain ⟨hkeeps, hfiles⟩ := makeDir_spec hdir
          exact ⟨habove.1.trans hkeeps, habove.2.trans hfiles⟩
        · exact habove
    · exact ⟨.refl w, .refl w⟩

/-- **Creating a directory and those above it changes no file**, also where it fails. -/
theorem makeDirs_spec (w : Workspace) (p : Path) :
    Keeps w (w.makeDirs p).1 ∧ SameFiles w (w.makeDirs p).1 :=
  makeDirsWithin_spec p.parts.length w p

/-! ## Writing -/

/-- What the names of a path lead to, when no directory is there, is an entry of a directory. -/
theorem isBlocked_of_locate {w : Workspace} {p : Path} {place : Tree.Place}
    (h : w.locate p = .ok place) (hparts : p.parts ≠ []) (hdir : ¬ w.tree.IsDirAt place) :
    Tree.isBlocked place w.tree = false := by
  have hwalk := walk_of_locate h
  rcases List.eq_nil_or_concat p.parts with hnil | ⟨names, name, hconcat⟩
  · exact absurd hnil hparts
  · rw [hconcat, List.concat_eq_append] at hwalk
    obtain ⟨d, -, hd, rfl⟩ := walk_concat hwalk
    split at hdir
    · exact absurd hd.dropLast hdir
    · rename_i hname
      rw [if_neg hname]
      exact Tree.isBlocked_of_isDirAt hd name

/-- **Writing a file** changes the file at the place of its path, and no other. -/
theorem write_spec {w w' : Workspace} {p : Path} {bytes : ByteArray}
    (h : w.write p bytes = .ok w') (hparts : p.parts ≠ []) :
    Keeps w w' ∧ w.locate p = .ok (w.placeOf p) ∧
      ∀ q, w'.bytesAt? q = if q = w.placeOf p then some bytes else w.bytesAt? q := by
  unfold write at h
  cases hlocate : w.locate p with
  | error e =>
    rw [hlocate] at h
    cases h
  | ok place =>
    rw [hlocate] at h
    dsimp only at h
    have hdir : ¬ w.tree.IsDirAt place := by
      rintro ⟨entries, hget⟩
      rw [hget] at h
      cases h
    have hw' : w' = { w with tree := Tree.put (.file bytes) place w.tree } := by
      split at h
      · cases h
      · cases h
        rfl
    obtain rfl := placeOf_of_locate hlocate
    subst hw'
    refine ⟨⟨rfl, fun q hq => Tree.isDirAt_put_file bytes hdir hq⟩, rfl, fun q => ?_⟩
    exact Tree.bytesAt?_put_file bytes (isBlocked_of_locate hlocate hparts hdir) hdir q

end Workspace

end Phrasebook
