import Phrasebook.Proofs.Recheck

/-!
# Nothing to do

An output is current when its path leads to a file that holds its text. Comparing follows the path as
writing does, so a current output has its directory, and creating that directory leaves the workspace as
it is; so does writing the bytes that are there. A run that finds every output current therefore ends
well in the very workspace that it started from.

## Contents
- `Tree.put_of_get?`: putting what is there
- `mem_stale_iff`: which outputs are stale
- `makeDirs_of_isDirAt`, `write_of_read`, `writeOutputs_of_read`: operations with nothing to do
- `generate_of_stale_eq_nil`: a run with nothing to do
-/

namespace Phrasebook

/-- Putting what is at a place there again changes nothing. -/
theorem Tree.put_of_get? {place : Place} {t new : Tree} (h : get? place t = some new) :
    put new place t = t := by
  induction place generalizing t with
  | nil =>
    rw [get?_nil] at h
    rw [Option.some.inj h]
    cases new <;> rfl
  | cons name rest ih =>
    cases t with
    | file bytes => cases h
    | dir entries =>
      rw [get?_cons_dir] at h
      obtain ⟨sub, hsub, hget⟩ := Option.bind_eq_some_iff.mp h
      rw [put, hsub, Option.getD_some, ih hget, Fields.putIn_of_lookup hsub]

namespace Workspace

variable {w : Workspace} {path : Path} {settings : Settings} {outputs : List Output} {o : Output}

/-! ## Which outputs are stale -/

/-- **An output is stale** when no file is at its path, or one with other bytes than its text has. -/
theorem mem_stale_iff :
    o ∈ w.stale outputs ↔ o ∈ outputs ∧
      (w.isFile o.path = false ∨ ∃ bytes, w.read o.path = .ok bytes ∧ bytes ≠ o.content.toUTF8) := by
  unfold stale
  rw [List.mem_filter, Bool.not_eq_true', ← Bool.not_eq_true, isCurrent_iff]
  refine and_congr_right fun _ => ?_
  cases hread : w.read o.path with
  | error fault =>
    have hfile : w.isFile o.path = false := by
      rw [← Bool.not_eq_true, isFile_iff, hread]
      simp
    simp [hfile]
  | ok bytes =>
    have hfile : w.isFile o.path = true := isFile_iff.mpr ⟨bytes, hread⟩
    simp [hfile]

/-! ## Operations with nothing to do -/

/-- A path that leads somewhere comes through its directory. -/
theorem locate_parent {place : Tree.Place} (h : w.locate path = .ok place) (hparts : path.parts ≠ []) :
    ∃ d, w.locate path.parent = .ok d ∧ w.tree.IsDirAt d := by
  obtain ⟨hfollowable, hwalk⟩ := locate_eq_ok_iff.mp h
  rw [← List.dropLast_append_getLast hparts] at hwalk
  obtain ⟨d, habove, hdir, -⟩ := walk_concat hwalk
  exact ⟨d, locate_eq_ok_iff.mpr ⟨hfollowable.parent hparts, habove⟩, hdir⟩

/-- A directory that is there need not be created. -/
theorem makeDirs_of_isDirAt {place : Tree.Place} (h : w.locate path = .ok place)
    (hdir : w.tree.IsDirAt place) : w.makeDirs path = (w, .ok ()) := by
  obtain ⟨entries, hget⟩ := hdir
  have hexists : w.makeDir path = .error .exists := by
    unfold makeDir
    rw [h]
    dsimp only
    rw [hget]
  have hisDir : w.isDir path = true := by
    unfold isDir node
    rw [h]
    dsimp only
    rw [hget]
  unfold makeDirs makeDirsWithin
  rw [hexists]
  simp [hisDir]

/-- Writing the bytes that a file has changes nothing. -/
theorem write_of_read {bytes : ByteArray} (h : w.read path = .ok bytes) :
    w.write path bytes = .ok w := by
  obtain ⟨hlocate, hbytes⟩ := read_eq_ok_iff.mp h
  have hget : Tree.get? (w.placeOf path) w.tree = some (.file bytes) :=
    Tree.bytesAt?_eq_some_iff.mp hbytes
  unfold write
  rw [hlocate]
  dsimp only
  rw [hget, Tree.put_of_get? hget]

theorem writeOutput_of_read (hparts : o.path.parts ≠ []) (h : w.read o.path = .ok o.content.toUTF8) :
    w.writeOutput o = (w, .ok ()) := by
  obtain ⟨d, habove, hdir⟩ := locate_parent (read_eq_ok_iff.mp h).1 hparts
  unfold writeOutput
  rw [makeDirs_of_isDirAt habove hdir]
  dsimp only
  rw [write_of_read h]

/-- **Writing outputs that are current changes nothing.** -/
theorem writeOutputs_of_read (hparts : ∀ o ∈ outputs, o.path.parts ≠ [])
    (h : ∀ o ∈ outputs, w.read o.path = .ok o.content.toUTF8) :
    (w.writeOutputs outputs).1 = w ∧ (w.writeOutputs outputs).2.outcome = .ok () := by
  induction outputs with
  | nil => exact ⟨rfl, rfl⟩
  | cons o rest ih =>
    have hstep := writeOutput_of_read (hparts o List.mem_cons_self) (h o List.mem_cons_self)
    rw [writeOutputs_cons_of_ok hstep]
    exact ih (fun o' ho' => hparts o' (List.mem_cons_of_mem o ho'))
      fun o' ho' => h o' (List.mem_cons_of_mem o ho')

/-! ## A run with nothing to do -/

/-- **A clean comparison means nothing to do.** When the outputs of a compiled catalog are all current, a
run ends well and leaves the workspace as it was. An output is stale exactly when no file is at its path
or the bytes of the file are not those of its text. -/
theorem generate_of_stale_eq_nil (ha : settings.Accepted) :
    (∀ c outputs, (w.compile settings).outcome = .ok c → render settings c = .ok outputs →
      w.stale outputs = [] →
      (w.generate settings).2.outcome = .ok ⟨c, outputs⟩ ∧ (w.generate settings).1 = w) ∧
    ∀ (outputs : List Output) (o : Output), o ∈ w.stale outputs ↔ o ∈ outputs ∧
      (w.isFile o.path = false ∨ ∃ bytes, w.read o.path = .ok bytes ∧ bytes ≠ o.content.toUTF8) := by
  refine ⟨fun c outputs hcompile hrender hstale => ?_, fun outputs o => mem_stale_iff⟩
  have hprepare : (w.prepare settings).outcome = .ok ⟨c, outputs⟩ :=
    prepare_eq_ok_iff.mpr ⟨hcompile, hrender⟩
  obtain ⟨hworkspace, houtcome⟩ := generate_of_prepare_ok hprepare
  obtain ⟨hsame, hok⟩ :=
    writeOutputs_of_read (parts_of_prepare ha hprepare) (stale_eq_nil_iff.mp hstale)
  rw [houtcome, hworkspace, hok]
  exact ⟨rfl, hsame⟩

/-- What a run leaves of a directory with one bundle. -/
def generatedOnce : Workspace := ((oneBundle []).generate {}).1

theorem stale_generatedOnce :
    ∃ p, (generatedOnce.prepare {}).outcome = .ok p ∧ generatedOnce.stale p.outputs = [] := by
  obtain ⟨p, hp⟩ : ∃ p, ((oneBundle []).generate {}).2.outcome = .ok p := ⟨_, rfl⟩
  obtain ⟨hprepare, hwrote⟩ := generate_of_ok accepted_default hp
  have hrender := (prepare_eq_ok_iff.mp hprepare).2
  have hkeeps := hwrote.keepsBundles (map_path_of_render hrender) outputsApart_oneBundle
  refine ⟨p, ?_, stale_eq_nil_iff.mpr fun o ho => ?_⟩
  · exact (congrArg Report.outcome (hkeeps.prepare hprepare)).trans hprepare
  · exact hwrote.read_output ho fun o' ho' hplace =>
      eq_of_placeOf hrender outputsApart_oneBundle.distinct ho ho' hplace

theorem generate_of_stale_eq_nil_generatedOnce :
    Settings.Accepted {} ∧ ∃ c outputs, (generatedOnce.compile {}).outcome = .ok c ∧
      render {} c = .ok outputs ∧ generatedOnce.stale outputs = [] ∧
      (generatedOnce.generate {}).1 = generatedOnce ∧
      ∀ o ∈ outputs, ¬ (generatedOnce.isFile o.path = false ∨
        ∃ bytes, generatedOnce.read o.path = .ok bytes ∧ bytes ≠ o.content.toUTF8) := by
  obtain ⟨p, hprepare, hstale⟩ := stale_generatedOnce
  obtain ⟨hcompile, hrender⟩ := prepare_eq_ok_iff.mp hprepare
  have hnothing := generate_of_stale_eq_nil (w := generatedOnce) accepted_default
  refine ⟨accepted_default, p.catalog, p.outputs, hcompile, hrender, hstale,
    (hnothing.1 _ _ hcompile hrender hstale).2, fun o ho hdiffers => ?_⟩
  have hmem := (hnothing.2 p.outputs o).mpr ⟨ho, hdiffers⟩
  rw [hstale] at hmem
  exact absurd hmem List.not_mem_nil

end Workspace

end Phrasebook
