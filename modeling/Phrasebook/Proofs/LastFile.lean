import Mathlib.Data.List.Infix
import Phrasebook.Proofs.Fields
import Phrasebook.Proofs.Loading

/-!
# The last file of a locale counts

A directory is loaded file by file, in the order of the files' names, whatever the order in which the
directory lists them. Each file has a locale, and what is known after some files is a matter of these
files alone: the locales stand in the order in which they were first seen, and under each of them is the
bundle of the last file that has it. A later file therefore takes the place of the nearest earlier one of
its locale, and is reported with the name of that one. The first file that has no bundle or no locale ends
the loading with its own fault.

## Contents
- `IsListing`: the bundle files of a directory, in order
- `LocalizedFile`, `Reads`, `Fails`: a file with its locale and bundle, or with its fault
- `LoadedFrom`: what is known after some files; `LoadedFrom.concat`: after one more
- `loadFiles_of_reads`: loading files that can be read
- `loadBundles_of_list`: loading a directory
-/

namespace Phrasebook

/-- Of a list with one more element, the element is kept when it is new. -/
theorem eraseDups_concat (l : List String) (a : String) :
    (l ++ [a]).eraseDups = if a ∈ l then l.eraseDups else l.eraseDups ++ [a] := by
  rw [List.eraseDups_append]
  by_cases ha : a ∈ l
  · simp [List.removeAll, ha]
  · simp [List.removeAll, ha, List.eraseDups_cons]

namespace Workspace

variable {w : Workspace} {dir file : Path} {names : List String} {files : List Path} {fault : Fault}

/-! ## The files of a directory -/

/-- Paths are the **listing** of a directory when they increase by name and are those of its entries that
are files with the suffix of a bundle. -/
structure IsListing (w : Workspace) (dir : Path) (names : List String) (files : List Path) : Prop where
  sorted : (files.map Path.name).Pairwise (· < ·)
  mem : ∀ p, p ∈ files ↔
    ∃ name ∈ names, p = dir.child name ∧ w.isFile p = true ∧ p.suffix = bundleSuffix

theorem isListing_of_bundleFiles (hlist : w.list dir = .ok names)
    (hfiles : w.bundleFiles dir = .ok files) : w.IsListing dir names files := by
  rw [bundleFiles_eq_ok hlist] at hfiles
  cases hfiles
  constructor
  · have hnames : ((w.bundleNames dir names).map dir.child).map Path.name = w.bundleNames dir names := by
      rw [List.map_map]
      simp [Function.comp_def]
    rw [hnames]
    exact (NameSet.toNames_sorted _).filter _
  · intro p
    unfold bundleNames isBundleFile
    simp only [List.mem_map, List.mem_filter, NameSet.mem_ofNames, Bool.and_eq_true,
      decide_eq_true_iff]
    constructor
    · rintro ⟨name, ⟨hname, hfile⟩, rfl⟩
      exact ⟨name, hname, rfl, hfile⟩
    · rintro ⟨name, hname, rfl, hfile⟩
      exact ⟨name, ⟨hname, hfile⟩, rfl⟩

/-- A directory has one listing only: paths of its entries are told apart by their names. -/
theorem IsListing.eq {files' : List Path} (h : w.IsListing dir names files)
    (h' : w.IsListing dir names files') : files = files' := by
  have hmem : ∀ p, p ∈ files ↔ p ∈ files' := fun p => (h.mem p).trans (h'.mem p).symm
  have hnames : files.map Path.name = files'.map Path.name := by
    refine SortedMap.eq_of_sorted_of_mem_iff h.sorted h'.sorted fun name => ?_
    simp only [List.mem_map, hmem]
  have hchild : ∀ {fs : List Path}, w.IsListing dir names fs →
      (fs.map Path.name).map dir.child = fs := by
    intro fs hfs
    rw [List.map_map]
    refine (List.map_congr_left fun p hp => ?_).trans (List.map_id fs)
    obtain ⟨name, -, rfl, -⟩ := (hfs.mem p).mp hp
    exact congrArg dir.child (Path.name_child dir name)
  rw [← hchild h, hnames, hchild h']

/-! ## One file -/

/-- A bundle file with its locale and its bundle. -/
structure LocalizedFile where
  /-- Where the file is. -/
  file : Path
  /-- The locale of the bundle. -/
  locale : String
  /-- The bundle in the file. -/
  bundle : Bundle

/-- A text is **the locale** of the bundle in a file: what the bundle itself names, without the blanks at
its ends, or where it names nothing but blanks the tag in the name of the file. -/
def IsLocaleOf (bundle : Bundle) (file : Path) (locale : String) : Prop :=
  (∃ s, bundle.get? "@@locale" = some (.str s) ∧ Text.isBlankText s = false ∧ locale = Text.strip s) ∨
  (∀ s, bundle.get? "@@locale" = some (.str s) → Text.isBlankText s = true) ∧
    localeOfFileName? file.name = some locale

/-- A file **reads** as a locale and a bundle. -/
structure Reads (w : Workspace) (r : LocalizedFile) : Prop where
  bundle : w.readBundle r.file = .ok r.bundle
  locale : IsLocaleOf r.bundle r.file r.locale

/-- A file **fails** with the fault of reading its bundle, or because the bundle has no locale. -/
def Fails (w : Workspace) (file : Path) (fault : Fault) : Prop :=
  w.readBundle file = .error fault ∨
    ∃ bundle, w.readBundle file = .ok bundle ∧ (∀ locale, ¬ IsLocaleOf bundle file locale) ∧
      fault = .failure (.unknownLocale file.name)

theorem locale?_eq_some_iff {bundle : Bundle} {locale : String} :
    bundle.locale? file = some locale ↔ IsLocaleOf bundle file locale := by
  unfold Bundle.locale? Bundle.declaredLocale? IsLocaleOf
  cases hget : bundle.get? "@@locale" with
  | none => simp
  | some v =>
    cases v with
    | str s =>
      cases hblank : Text.isBlankText s with
      | true => simp [hblank]
      | false =>
        have hstrip : Text.strip s = locale ↔ locale = Text.strip s := eq_comm
        simpa [hblank] using hstrip
    | _ => simp

theorem readLocalized_eq_ok_iff {r : LocalizedFile} :
    w.readLocalized r.file = .ok (r.locale, r.bundle) ↔ w.Reads r := by
  constructor
  · intro h
    unfold readLocalized at h
    split at h
    · cases h
    · rename_i bundle hbundle
      split at h
      · cases h
      · rename_i locale hlocale
        obtain ⟨rfl, rfl⟩ := Prod.mk.inj (Except.ok.inj h)
        exact ⟨hbundle, locale?_eq_some_iff.mp hlocale⟩
  · rintro ⟨hbundle, hlocale⟩
    unfold readLocalized
    rw [hbundle]
    dsimp only
    rw [locale?_eq_some_iff.mpr hlocale]

theorem fails_of_readLocalized (h : w.readLocalized file = .error fault) : w.Fails file fault := by
  unfold readLocalized at h
  split at h
  · rename_i fault' hfault
    cases h
    exact Or.inl hfault
  · rename_i bundle hbundle
    split at h
    · rename_i hnone
      cases h
      refine Or.inr ⟨bundle, hbundle, fun locale hlocale => ?_, rfl⟩
      rw [locale?_eq_some_iff.mpr hlocale] at hnone
      cases hnone
    · cases h

/-- Files that are not all read have a first one that fails. -/
theorem exists_firstFault (h : ¬ ∀ p ∈ files, ∃ r : LocalizedFile, r.file = p ∧ w.Reads r) :
    ∃ file fault, w.FirstFault files file fault := by
  induction files with
  | nil => exact absurd (fun p hp => absurd hp List.not_mem_nil) h
  | cons p rest ih =>
    cases hp : w.readLocalized p with
    | error fault => exact ⟨p, fault, (firstFault_cons_of_error hp).mpr ⟨rfl, rfl⟩⟩
    | ok read =>
      have hread : ∃ r : LocalizedFile, r.file = p ∧ w.Reads r :=
        ⟨⟨p, read.1, read.2⟩, rfl, readLocalized_eq_ok_iff.mp hp⟩
      have hrest : ¬ ∀ q ∈ rest, ∃ r : LocalizedFile, r.file = q ∧ w.Reads r := by
        intro hall
        exact h (List.forall_mem_cons.mpr ⟨hread, hall⟩)
      obtain ⟨file, fault, hfirst⟩ := ih hrest
      exact ⟨file, fault, (firstFault_cons_of_ok hp).mpr hfirst⟩

/-! ## What is known after some files -/

variable {rows earlier : List LocalizedFile} {r : LocalizedFile} {acc : Loaded} {l : String}

/-- The last of some files that has a locale. -/
def lastOf? (rows : List LocalizedFile) (locale : String) : Option LocalizedFile :=
  rows.reverse.find? fun r => r.locale = locale

theorem lastOf?_concat :
    lastOf? (rows ++ [r]) l = if r.locale = l then some r else lastOf? rows l := by
  unfold lastOf?
  rw [List.reverse_append, List.reverse_singleton, List.singleton_append, List.find?_cons]
  by_cases h : r.locale = l
  · simp [h]
  · simp [h]

/-- The last file of a locale is one that no later file has the locale of. -/
theorem lastOf?_eq_some_iff :
    lastOf? rows l = some r ↔ ∃ before after, rows = before ++ r :: after ∧ r.locale = l ∧
      ∀ r' ∈ after, r'.locale ≠ l := by
  unfold lastOf?
  rw [List.find?_eq_some_iff_append]
  simp only [decide_eq_true_iff]
  constructor
  · rintro ⟨hl, after, before, hrows, hafter⟩
    refine ⟨before.reverse, after.reverse, ?_, hl, fun r' hr' => ?_⟩
    · rw [← List.reverse_reverse rows, hrows]
      simp
    · simpa using hafter r' (List.mem_reverse.mp hr')
  · rintro ⟨before, after, rfl, hl, hafter⟩
    refine ⟨hl, after.reverse, before.reverse, by simp, fun r' hr' => ?_⟩
    simpa using hafter r' (List.mem_reverse.mp hr')

/-- What was loaded **comes from** some files: their locales in the order of their first appearance, each
with the bundle and the name of its last file. -/
structure LoadedFrom (rows : List LocalizedFile) (acc : Loaded) : Prop where
  order : acc.bundles.names = (rows.map LocalizedFile.locale).eraseDups
  bundles : ∀ l, acc.bundles.get? l = (lastOf? rows l).map LocalizedFile.bundle
  origins : ∀ l, acc.origins.get? l = (lastOf? rows l).map fun r => r.file.name

theorem loadedFrom_nil : LoadedFrom [] ⟨.empty, .empty⟩ := ⟨rfl, fun _ => rfl, fun _ => rfl⟩

/-- What is kept of the last files of their locales is kept when it is set for one more file. -/
theorem get?_put_of_lastOf? {α : Type} {kept : LocalizedFile → α} {fields : Fields α}
    (h : ∀ l, fields.get? l = (lastOf? rows l).map kept) (r : LocalizedFile) (l : String) :
    (fields.put r.locale (kept r)).get? l = (lastOf? (rows ++ [r]) l).map kept := by
  rw [Fields.get?_put, lastOf?_concat, h]
  by_cases hl : r.locale = l
  · rw [if_pos hl.symm, if_pos hl]
    rfl
  · rw [if_neg (Ne.symm hl), if_neg hl]

/-- **One more file** takes the place of the last one of its locale. -/
theorem LoadedFrom.concat (h : LoadedFrom rows acc) (r : LocalizedFile) :
    LoadedFrom (rows ++ [r]) ⟨acc.bundles.put r.locale r.bundle, acc.origins.put r.locale r.file.name⟩ := by
  refine ⟨?_, get?_put_of_lastOf? h.bundles r, ?_⟩
  · dsimp only
    rw [Fields.names_put, List.map_append, List.map_singleton, eraseDups_concat, h.order]
    simp only [List.mem_eraseDups]
  · exact get?_put_of_lastOf? h.origins r

/-- The notices of a file that is loaded after others: that it takes the place of the nearest one of its
locale, if there is one, and that it was loaded. -/
def fileNotices (earlier : List LocalizedFile) (r : LocalizedFile) : List Notice :=
  ((lastOf? earlier r.locale).map fun e => .overridden r.file.name e.file.name r.locale).toList ++
    [.loaded r.file.name r.locale r.bundle.size]

theorem LoadedFrom.overrideNotices (h : LoadedFrom rows acc) (r : LocalizedFile) :
    Workspace.overrideNotices acc.origins r.file.name r.locale ++
      [.loaded r.file.name r.locale r.bundle.size] = fileNotices rows r := by
  unfold Workspace.overrideNotices fileNotices
  rw [h.origins]
  cases lastOf? rows r.locale with
  | none => rfl
  | some e => rfl

/-- **Loading files that can be read**, after others. -/
theorem loadFiles_of_reads (hreads : ∀ r ∈ rows, w.Reads r) (h : LoadedFrom earlier acc) :
    ∃ acc', (w.loadFiles acc (rows.map LocalizedFile.file)).outcome = .ok acc' ∧
      LoadedFrom (earlier ++ rows) acc' ∧
      (w.loadFiles acc (rows.map LocalizedFile.file)).notices =
        ((rows.inits.map (earlier ++ ·)).zip rows).flatMap fun s => fileNotices s.1 s.2 := by
  -- what was loaded before matters only through the files that it comes from
  induction rows generalizing earlier acc with
  | nil => exact ⟨acc, rfl, by rwa [List.append_nil], rfl⟩
  | cons r rest ih =>
    have hread := readLocalized_eq_ok_iff.mpr (hreads r List.mem_cons_self)
    obtain ⟨acc', houtcome, hfrom, hnotices⟩ :=
      ih (fun r' hr' => hreads r' (List.mem_cons_of_mem r hr')) (h.concat r)
    have hinits : (r :: rest).inits.map (earlier ++ ·) =
        earlier :: rest.inits.map ((earlier ++ [r]) ++ ·) := by
      simp [List.inits, Function.comp_def]
    rw [List.map_cons]
    unfold loadFiles
    rw [hread]
    refine ⟨acc', houtcome, ?_, ?_⟩
    · rwa [List.append_assoc, List.singleton_append] at hfrom
    · rw [hinits, List.zip_cons_cons, List.flatMap_cons]
      show _ ++ (w.loadFiles _ _).notices = _
      rw [hnotices, h.overrideNotices]

/-! ## A directory -/

/-- Bundles **hold the last** of some files: their locales are those of the files, in the order in which
they are first seen, and each has the whole bundle of the last file that has it. -/
structure HoldsLast (rows : List LocalizedFile) (bundles : Bundles) : Prop where
  order : bundles.names = (rows.map LocalizedFile.locale).eraseDups
  last : ∀ l b, bundles.get? l = some b ↔ ∃ before r after, rows = before ++ r :: after ∧
    r.locale = l ∧ r.bundle = b ∧ ∀ r' ∈ after, r'.locale ≠ l

theorem LoadedFrom.holdsLast (h : LoadedFrom rows acc) : HoldsLast rows acc.bundles := by
  refine ⟨h.order, fun l b => ?_⟩
  rw [h.bundles, Option.map_eq_some_iff]
  simp only [lastOf?_eq_some_iff]
  constructor
  · rintro ⟨r, ⟨before, after, hrows, hl, hafter⟩, hb⟩
    exact ⟨before, r, after, hrows, hl, hb, hafter⟩
  · rintro ⟨before, r, after, hrows, hl, hb, hafter⟩
    exact ⟨r, ⟨before, after, hrows, hl, hafter⟩, hb⟩

theorem loadBundles_of_reads (hfiles : w.bundleFiles dir = .ok (rows.map LocalizedFile.file))
    (hreads : ∀ r ∈ rows, w.Reads r) :
    ∃ bundles, (w.loadBundles dir).outcome = .ok bundles ∧ HoldsLast rows bundles ∧
      (w.loadBundles dir).notices = (rows.inits.zip rows).flatMap fun s => fileNotices s.1 s.2 := by
  obtain ⟨acc, houtcome, hfrom, hnotices⟩ := loadFiles_of_reads hreads loadedFrom_nil
  rw [List.map_id'' fun earlier => List.nil_append earlier] at hnotices
  rw [List.nil_append] at hfrom
  unfold loadBundles
  rw [hfiles]
  unfold Report.ofExcept Report.andThen
  dsimp only
  rw [houtcome]
  refine ⟨acc.bundles, rfl, hfrom.holdsLast, ?_⟩
  rw [← hnotices]
  simp [Report.say, Report.done]

/-- **The last file of a locale counts.** A directory has one listing, however it orders its entries. When
each file of it has a bundle and a locale, the bundles are those of the last files of their locales, the
locales in the order in which they are first seen, and each file that is not the first of its locale is
reported once, with the nearest earlier one. Otherwise loading stops with the fault of the first file that
fails. -/
theorem loadBundles_of_list (hlist : w.list dir = .ok names) :
    (∃ files, w.IsListing dir names files) ∧ ∀ files, w.IsListing dir names files →
      (∀ rows : List LocalizedFile, rows.map LocalizedFile.file = files → (∀ r ∈ rows, w.Reads r) →
        ∃ bundles, (w.loadBundles dir).outcome = .ok bundles ∧ HoldsLast rows bundles ∧
          (w.loadBundles dir).notices = (rows.inits.zip rows).flatMap fun s => fileNotices s.1 s.2) ∧
      ((¬ ∀ p ∈ files, ∃ r : LocalizedFile, r.file = p ∧ w.Reads r) →
        ∃ file fault, w.FirstFault files file fault ∧ w.Fails file fault ∧
          (w.loadBundles dir).outcome = .error fault) := by
  have hlisting := isListing_of_bundleFiles hlist (bundleFiles_eq_ok hlist)
  refine ⟨⟨_, hlisting⟩, fun files hfiles => ?_⟩
  have hbundleFiles : w.bundleFiles dir = .ok files := by
    rw [hfiles.eq hlisting]
    exact bundleFiles_eq_ok hlist
  constructor
  · intro rows hrows hreads
    rw [← hrows] at hbundleFiles
    exact loadBundles_of_reads hbundleFiles hreads
  · intro h
    obtain ⟨file, fault, hfirst⟩ := exists_firstFault h
    have houtcome : (w.loadBundles dir).outcome = .error fault :=
      loadBundles_eq_error_iff.mpr (.inr ⟨files, file, hbundleFiles, hfirst⟩)
    have hfails : w.Fails file fault := by
      obtain ⟨before, after, -, -, hfault⟩ := hfirst
      exact fails_of_readLocalized hfault
    exact ⟨file, fault, hfirst, hfails, houtcome⟩

/-- A directory that lists its entries in another order than that of their names: three files have one
locale, two of them by their names and one by its contents. -/
def threeOfOneLocale : Workspace where
  tree := .dir [
    ("c_en.arb", .file "\x7b\"x\": \"3\"\x7d".toUTF8),
    ("notes.txt", .file "".toUTF8),
    ("b.arb", .file "\x7b\"@@locale\": \" en \"\x7d".toUTF8),
    ("a_en.arb", .file "\x7b\"x\": \"1\", \"y\": \"1\"\x7d".toUTF8),
    ("b_de.arb", .file "\x7b\x7d".toUTF8)]
  base := []

/-- The bundle files of that directory in order. -/
def threeListed : List Path :=
  ["a_en.arb", "b.arb", "b_de.arb", "c_en.arb"].map (Path.child (.ofString "."))

/-- What a file reads as, if it does. -/
def rowOf (w : Workspace) (file : Path) : LocalizedFile :=
  match w.readLocalized file with
  | .ok (locale, bundle) => ⟨file, locale, bundle⟩
  | .error _ => ⟨file, "", .empty⟩

theorem reads_rowOf (h : (w.readLocalized file).toOption.isSome = true) : w.Reads (w.rowOf file) := by
  unfold rowOf
  cases hread : w.readLocalized file with
  | error fault =>
    rw [hread] at h
    cases h
  | ok read => exact readLocalized_eq_ok_iff.mp hread

theorem loadBundles_of_list_threeOfOneLocale :
    threeOfOneLocale.list (.ofString ".") =
        .ok ["c_en.arb", "notes.txt", "b.arb", "a_en.arb", "b_de.arb"] ∧
      ∃ bundles, (threeOfOneLocale.loadBundles (.ofString ".")).outcome = .ok bundles ∧
        bundles.names = ["en", "de"] ∧
        (∃ bundle, bundles.get? "en" = some bundle ∧ bundle.text? "x" = some "3" ∧
          bundle.text? "y" = none) ∧
        (threeOfOneLocale.loadBundles (.ofString ".")).notices =
          [.loaded "a_en.arb" "en" 2, .overridden "b.arb" "a_en.arb" "en", .loaded "b.arb" "en" 1,
            .loaded "b_de.arb" "de" 0, .overridden "c_en.arb" "b.arb" "en",
            .loaded "c_en.arb" "en" 1] := by
  have hlist : threeOfOneLocale.list (.ofString ".") =
      .ok ["c_en.arb", "notes.txt", "b.arb", "a_en.arb", "b_de.arb"] := rfl
  have hlisting : threeOfOneLocale.IsListing (.ofString ".") _ threeListed :=
    isListing_of_bundleFiles hlist (by decide +kernel)
  have hall : threeListed.all (fun file => (threeOfOneLocale.readLocalized file).toOption.isSome) =
      true := by
    decide +kernel
  have hreads : ∀ r ∈ threeListed.map threeOfOneLocale.rowOf, threeOfOneLocale.Reads r := by
    intro r hr
    obtain ⟨file, hfile, rfl⟩ := List.mem_map.mp hr
    exact reads_rowOf (List.all_eq_true.mp hall file hfile)
  have hfiles : (threeListed.map threeOfOneLocale.rowOf).map LocalizedFile.file = threeListed := by
    decide +kernel
  obtain ⟨bundles, houtcome, hlast, hnotices⟩ :=
    ((loadBundles_of_list hlist).2 threeListed hlisting).1 _ hfiles hreads
  have horder : ((threeListed.map threeOfOneLocale.rowOf).map LocalizedFile.locale).eraseDups =
      ["en", "de"] := by
    decide +kernel
  refine ⟨hlist, bundles, houtcome, hlast.order.trans horder,
    ⟨(threeOfOneLocale.rowOf (Path.child (.ofString ".") "c_en.arb")).bundle, ?_, by decide +kernel,
      by decide +kernel⟩, hnotices.trans (by decide +kernel)⟩
  refine (hlast.last "en" _).mpr ⟨(threeListed.take 3).map threeOfOneLocale.rowOf, _, [], rfl, ?_, rfl,
    fun r hr => nomatch hr⟩
  decide +kernel

end Workspace

end Phrasebook
