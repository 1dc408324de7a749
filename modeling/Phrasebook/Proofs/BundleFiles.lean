import Phrasebook.Bundle.Load
import Phrasebook.Proofs.Fields
import Phrasebook.Proofs.Workspace

/-!
# Loading depends on the bundle files only

Of a directory, loading looks at the names that end in the suffix of a bundle and lead to a file, and at
the bytes of those files. A workspace that keeps the directories of another one and the files with such
names has the same bundle files, reads the same from them, and so loads the same bundles with the same
notices, whatever else has come into the directory.

## Contents
- `placeOf_child`, `locate_child`, `read_child`: the entries of a directory
- `bundleFiles_eq_ok`, `mem_bundleFiles_iff`: the bundle files of a directory
- `KeepsBundles`: keeping the directories and the bundles of a directory
- `KeepsBundles.bundleFiles`, `KeepsBundles.read`, `KeepsBundles.loadBundles`: what that keeps
-/

namespace Phrasebook

namespace Path

@[simp] theorem name_child (dir : Path) (name : String) : (dir.child name).name = name := by
  unfold Path.name child
  rw [List.getLastD_concat]

theorem suffix_child (dir : Path) (name : String) : (dir.child name).suffix = suffixOf name := by
  rw [suffix, name_child]

/-- The name that leads to the directory above has no suffix. -/
theorem suffixOf_above : suffixOf ".." = "" := rfl

end Path

namespace Workspace

variable {w w' : Workspace} {dir : Path} {name : String} {names : List String} {files : List Path}

/-! ## Entries of a directory -/

theorem placeOf_child (w : Workspace) (dir : Path) (hname : name ≠ "..") :
    w.placeOf (dir.child name) = w.placeOf dir ++ [name] := by
  unfold placeOf resolve Path.child
  rw [List.foldl_append]
  exact if_neg hname

/-- A directory leads on to its entries, if their names can be names at all. -/
theorem locate_child (hlocate : w.locate dir = .ok (w.placeOf dir))
    (hdir : w.tree.IsDirAt (w.placeOf dir)) (hname : name ≠ "..")
    (hshort : Path.isLongName name = false) (hfollowable : (dir.child name).IsFollowable) :
    w.locate (dir.child name) = .ok (w.placeOf (dir.child name)) := by
  rw [placeOf_child w dir hname, locate_eq_ok_iff]
  refine ⟨hfollowable, (walk_append (walk_of_locate hlocate) [name]).trans ?_⟩
  rw [walk_cons_of_isDirAt hdir hshort, if_neg hname]
  rfl

/-- The name of an entry that a directory leads on to is not too long. -/
theorem isLongName_of_locate_child {place : Tree.Place} (hlocate : w.locate dir = .ok (w.placeOf dir))
    (hchild : w.locate (dir.child name) = .ok place) : Path.isLongName name = false := by
  have hwalk : walk w.tree (if dir.root = .relative then w.base else []) (dir.parts ++ [name]) =
      .ok place := walk_of_locate hchild
  rw [walk_append (walk_of_locate hlocate)] at hwalk
  exact (of_walk_cons hwalk).2

/-- What leads to a file in a directory is among the names that the directory lists. -/
theorem mem_list_of_bytesAt? (hlist : w.list dir = .ok names) (hname : name ≠ "..")
    {bytes : ByteArray} (h : w.bytesAt? (w.placeOf (dir.child name)) = some bytes) : name ∈ names := by
  obtain ⟨-, entries, hget, rfl⟩ := list_eq_ok hlist
  rw [placeOf_child w dir hname] at h
  have hfile := Tree.bytesAt?_eq_some_iff.mp h
  rw [Tree.get?_append, hget, Option.bind_some, Tree.get?_cons_dir] at hfile
  obtain ⟨t, hlookup, -⟩ := Option.bind_eq_some_iff.mp hfile
  exact SortedMap.mem_map_fst_iff.mpr (by rw [hlookup]; rfl)

/-! ## Bundle files -/

/-- A name that a bundle file of a directory **can have**. -/
structure IsBundleName (dir : Path) (name : String) : Prop where
  suffix : Path.suffixOf name = bundleSuffix
  short : Path.isLongName name = false
  followable : (dir.child name).IsFollowable

theorem IsBundleName.ne_above (h : IsBundleName dir name) : name ≠ ".." := by
  rintro rfl
  exact absurd (Path.suffixOf_above.symm.trans h.suffix) (by decide)

/-- A bundle file is read from where its name leads. -/
theorem read_child (hlist : w.list dir = .ok names) (hname : IsBundleName dir name) {bytes : ByteArray}
    (h : w.bytesAt? (w.placeOf (dir.child name)) = some bytes) :
    w.read (dir.child name) = .ok bytes := by
  obtain ⟨hlocate, entries, hget, -⟩ := list_eq_ok hlist
  have hdir : w.tree.IsDirAt (w.placeOf dir) := ⟨entries, hget⟩
  exact read_eq_ok_iff.mpr
    ⟨locate_child hlocate hdir hname.ne_above hname.short hname.followable, h⟩

theorem isBundleFile_child_iff (hlist : w.list dir = .ok names) :
    w.isBundleFile (dir.child name) = true ↔
      IsBundleName dir name ∧ (w.bytesAt? (w.placeOf (dir.child name))).isSome := by
  unfold isBundleFile
  rw [Bool.and_eq_true, isFile_iff, decide_eq_true_iff, Path.suffix_child]
  constructor
  · rintro ⟨⟨bytes, hread⟩, hsuffix⟩
    obtain ⟨hchild, hbytes⟩ := read_eq_ok_iff.mp hread
    have hname : IsBundleName dir name :=
      ⟨hsuffix, isLongName_of_locate_child (list_eq_ok hlist).1 hchild, (locate_eq_ok_iff.mp hchild).1⟩
    exact ⟨hname, by rw [hbytes]; rfl⟩
  · rintro ⟨hname, hsome⟩
    obtain ⟨bytes, hbytes⟩ := Option.isSome_iff_exists.mp hsome
    exact ⟨⟨bytes, read_child hlist hname hbytes⟩, hname.suffix⟩

/-- The names of the bundle files of a directory, in order. -/
def bundleNames (w : Workspace) (dir : Path) (names : List String) : List String :=
  (NameSet.ofNames names).toNames.filter fun name => w.isBundleFile (dir.child name)

theorem bundleFiles_eq_ok (hlist : w.list dir = .ok names) :
    w.bundleFiles dir = .ok ((w.bundleNames dir names).map dir.child) := by
  unfold bundleFiles bundleNames
  rw [hlist]
  dsimp only
  rw [List.filter_map]
  rfl

theorem list_of_bundleFiles (h : w.bundleFiles dir = .ok files) : ∃ names, w.list dir = .ok names := by
  unfold bundleFiles at h
  split at h
  · cases h
  · cases h
  · exact ⟨_, ‹_›⟩

theorem mem_bundleNames_iff (hlist : w.list dir = .ok names) :
    name ∈ w.bundleNames dir names ↔
      IsBundleName dir name ∧ (w.bytesAt? (w.placeOf (dir.child name))).isSome := by
  unfold bundleNames
  rw [List.mem_filter, NameSet.mem_ofNames, isBundleFile_child_iff hlist]
  refine ⟨fun h => h.2, fun h => ⟨?_, h⟩⟩
  obtain ⟨bytes, hbytes⟩ := Option.isSome_iff_exists.mp h.2
  exact mem_list_of_bytesAt? hlist h.1.ne_above hbytes

theorem mem_bundleFiles_iff (hlist : w.list dir = .ok names) (hfiles : w.bundleFiles dir = .ok files)
    {p : Path} :
    p ∈ files ↔ ∃ name, IsBundleName dir name ∧
      (w.bytesAt? (w.placeOf (dir.child name))).isSome ∧ p = dir.child name := by
  rw [bundleFiles_eq_ok hlist] at hfiles
  cases hfiles
  rw [List.mem_map]
  constructor
  · rintro ⟨name, hname, rfl⟩
    obtain ⟨hbundle, hsome⟩ := (mem_bundleNames_iff hlist).mp hname
    exact ⟨name, hbundle, hsome, rfl⟩
  · rintro ⟨name, hbundle, hsome, rfl⟩
    exact ⟨name, (mem_bundleNames_iff hlist).mpr ⟨hbundle, hsome⟩, rfl⟩

/-! ## Keeping the bundles -/

/-- A workspace **keeps the bundles** of a directory: it keeps all directories, and what is at each place
that the name of a bundle leads to from that directory. -/
structure KeepsBundles (w w' : Workspace) (dir : Path) : Prop where
  keeps : Keeps w w'
  bytes : ∀ name, IsBundleName dir name →
    w'.bytesAt? (w.placeOf (dir.child name)) = w.bytesAt? (w.placeOf (dir.child name))

namespace KeepsBundles

theorem list (h : KeepsBundles w w' dir) (hlist : w.list dir = .ok names) :
    ∃ names', w'.list dir = .ok names' := by
  obtain ⟨hlocate, entries, hget, -⟩ := list_eq_ok hlist
  refine list_of_isDirAt ?_ ?_
  · rw [h.keeps.placeOf]
    exact h.keeps.locate hlocate
  · rw [h.keeps.placeOf]
    exact h.keeps.dirs _ ⟨entries, hget⟩

/-- **The bundle files are the same.** -/
theorem bundleFiles (h : KeepsBundles w w' dir) (hfiles : w.bundleFiles dir = .ok files) :
    w'.bundleFiles dir = .ok files := by
  obtain ⟨names, hlist⟩ := list_of_bundleFiles hfiles
  obtain ⟨names', hlist'⟩ := h.list hlist
  have hnames : w'.bundleNames dir names' = w.bundleNames dir names := by
    refine SortedMap.eq_of_sorted_of_mem_iff ((NameSet.toNames_sorted _).filter _)
      ((NameSet.toNames_sorted _).filter _) fun name => ?_
    rw [mem_bundleNames_iff hlist, mem_bundleNames_iff hlist', h.keeps.placeOf]
    refine and_congr_right fun hname => ?_
    rw [h.bytes name hname]
  rw [bundleFiles_eq_ok hlist', hnames, ← bundleFiles_eq_ok hlist, hfiles]

/-- **Each bundle file reads the same.** -/
theorem read (h : KeepsBundles w w' dir) (hfiles : w.bundleFiles dir = .ok files) {p : Path}
    (hp : p ∈ files) : w'.read p = w.read p := by
  obtain ⟨names, hlist⟩ := list_of_bundleFiles hfiles
  obtain ⟨names', hlist'⟩ := h.list hlist
  obtain ⟨name, hname, hsome, rfl⟩ := (mem_bundleFiles_iff hlist hfiles).mp hp
  obtain ⟨bytes, hbytes⟩ := Option.isSome_iff_exists.mp hsome
  have hbytes' : w'.bytesAt? (w'.placeOf (dir.child name)) = some bytes := by
    rw [h.keeps.placeOf, h.bytes name hname]
    exact hbytes
  rw [read_child hlist hname hbytes, read_child hlist' hname hbytes']

end KeepsBundles

theorem loadFiles_congr {paths : List Path} (h : ∀ p ∈ paths, w'.read p = w.read p) (acc : Loaded) :
    w'.loadFiles acc paths = w.loadFiles acc paths := by
  induction paths generalizing acc with
  | nil => rfl
  | cons p rest ih =>
    have hp : w'.readLocalized p = w.readLocalized p := by
      unfold readLocalized readBundle
      rw [h p List.mem_cons_self]
    unfold loadFiles
    rw [hp]
    simp only [ih fun q hq => h q (List.mem_cons_of_mem p hq)]

/-- **The same bundles are loaded**, with the same notices. -/
theorem KeepsBundles.loadBundles (h : KeepsBundles w w' dir) (hfiles : w.bundleFiles dir = .ok files) :
    w'.loadBundles dir = w.loadBundles dir := by
  unfold Workspace.loadBundles
  rw [hfiles, h.bundleFiles hfiles]
  unfold Report.ofExcept Report.andThen
  dsimp only
  rw [loadFiles_congr fun p hp => h.read hfiles hp]

end Workspace

end Phrasebook
