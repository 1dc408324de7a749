import Phrasebook.Proofs.Arguments
import Phrasebook.Proofs.Recheck

/-!
# What a run does with files

A run that has read its arguments takes one of six courses, and on the last two only does it write. It
gets there when every argument has a meaning, no comparison was asked for, and both outputs are
prepared; then it ends well with all outputs written, or the file system stops it, which is no way to
end with the exit code of a failure. So a run that compares and a run that reports a failure change
nothing, and a run that ends well changes no file but those of its outputs.

## Contents
- `Course`, `course_run`: the courses of a run
- `workspace_of_check`, `workspace_of_exit_one`: runs that write nothing
- `bytesAt?_of_exit_zero`: a run that ends well
- `files_of_run`: the files after a run of the command line
-/

namespace Phrasebook

namespace Workspace

theorem accepted_of_loadSettings {w : Workspace} {file : Option Path}
    {overrides : List (String × Settings.Value)} {settings : Settings}
    (h : w.loadSettings file overrides = .ok settings) : settings.Accepted := by
  unfold loadSettings at h
  dsimp only at h
  split at h
  · cases h
  · rename_i values hvalues
    refine ⟨Settings.withOverrides values overrides, ?_⟩
    cases hof : Settings.ofValues (Settings.withOverrides values overrides) with
    | error failure =>
      rw [hof] at h
      cases h
    | ok settings' =>
      rw [hof] at h
      cases h
      rfl

end Workspace

namespace CommandLine

open Workspace (oneBundle)

@[simp] theorem workspace_stopped (w : Workspace) (fault : Fault) :
    (stopped w fault).workspace = w := by
  cases fault <;> rfl

namespace Arguments

variable {a : Arguments} {w : Workspace} {settings : Settings} {r : Run}

/-- The settings that arguments ask for are accepted. -/
theorem accepted_of_loadSettings (h : a.loadSettings w = .ok settings) : settings.Accepted := by
  unfold loadSettings at h
  split at h
  · exact Workspace.accepted_of_loadSettings h
  · exact Workspace.accepted_of_loadSettings h
  · cases h

theorem workspace_compare (w : Workspace) (outputs : List Output) :
    (compare w outputs).workspace = w := by
  unfold compare
  split <;> rfl

/-! ## Courses -/

/-- The lines logged while outputs are prepared. -/
def prepareLines (a : Arguments) (w : Workspace) (settings : Settings) : List String :=
  logLines a.verbose (w.prepare settings).notices

/-- The **courses** that a run takes. -/
inductive Course (a : Arguments) (w : Workspace) : Run → Prop where
  /-- An argument without meaning is reported before any file is looked at. -/
  | unknown {name : String} {rest : List String} (hunknown : a.unknown = name :: rest) :
      Course a w { failed w (.unknownParameter name) with out := helpLines }
  /-- There are no settings. -/
  | unsettled {fault : Fault} (hunknown : a.unknown = []) (hsettings : a.loadSettings w = .error fault) :
      Course a w (stopped w fault)
  /-- The outputs cannot be prepared. -/
  | unprepared {settings : Settings} {fault : Fault} (hunknown : a.unknown = [])
      (hsettings : a.loadSettings w = .ok settings)
      (hprepare : (w.prepare settings).outcome = .error fault) :
      Course a w ((stopped w fault).afterLines (a.prepareLines w settings))
  /-- The outputs are compared. -/
  | compared {settings : Settings} {p : Prepared} (hunknown : a.unknown = [])
      (hsettings : a.loadSettings w = .ok settings) (hprepare : (w.prepare settings).outcome = .ok p)
      (hcheck : a.check = true) :
      Course a w ((compare w p.outputs).afterLines (a.prepareLines w settings))
  /-- The outputs are written. -/
  | written {settings : Settings} {p : Prepared} {w' : Workspace} {lines : List String}
      (hunknown : a.unknown = []) (hsettings : a.loadSettings w = .ok settings)
      (hprepare : (w.prepare settings).outcome = .ok p) (hcheck : a.check = false)
      (hwrote : w.Wrote w' p.outputs) :
      Course a w ((Run.afterLines lines { exit := .ok 0, out := summary p, workspace := w' }).afterLines
        (a.prepareLines w settings))
  /-- The file system refuses a write. -/
  | unwritten {settings : Settings} {p : Prepared} {w' : Workspace} {lines : List String}
      {written rest : List Output} {refused : Output} {diskFault : DiskFault}
      (hunknown : a.unknown = []) (hsettings : a.loadSettings w = .ok settings)
      (hprepare : (w.prepare settings).outcome = .ok p) (hcheck : a.check = false)
      (houtputs : p.outputs = written ++ refused :: rest)
      (hstopped : w.StoppedAt w' written refused (.crash (.disk diskFault))) :
      Course a w (((stopped w' (.crash (.disk diskFault))).afterLines lines).afterLines
        (a.prepareLines w settings))

/-- **A run takes one of the courses.** -/
theorem course_run (a : Arguments) (w : Workspace) : a.Course w (a.run w) := by
  unfold run
  cases hunknown : a.unknown with
  | cons name rest => exact .unknown hunknown
  | nil =>
    cases hsettings : a.loadSettings w with
    | error fault => exact .unsettled hunknown hsettings
    | ok settings =>
      dsimp only [runWith]
      cases hprepare : (w.prepare settings).outcome with
      | error fault => exact .unprepared hunknown hsettings hprepare
      | ok p =>
        cases hcheck : a.check with
        | true => exact .compared hunknown hsettings hprepare hcheck
        | false =>
          -- accepted settings give the outputs names, so a write can only fail on the disk
          have hparts := Workspace.parts_of_prepare (accepted_of_loadSettings hsettings) hprepare
          dsimp only [publish]
          rcases Workspace.writeOutputs_spec w hparts with
            ⟨hok, hwrote⟩ | ⟨written, refused, rest, fault, houtputs, herror, hstopped⟩
          · simp only [hok]
            exact .written hunknown hsettings hprepare hcheck hwrote
          · have hfault := hstopped
            obtain ⟨-, diskFault, -, -, rfl⟩ := hfault
            simp only [herror]
            exact .unwritten hunknown hsettings hprepare hcheck houtputs hstopped

/-! ## Runs that write nothing -/

theorem workspace_of_check (hcheck : a.check = true ∨ a.unknown ≠ []) : (a.run w).workspace = w := by
  have hcourse := a.course_run w
  generalize a.run w = r at hcourse
  cases hcourse with
  | unknown hunknown => rfl
  | unsettled hunknown hsettings => exact workspace_stopped w _
  | unprepared hunknown hsettings hprepare => exact workspace_stopped w _
  | compared hunknown hsettings hprepare hcheck' => exact workspace_compare w _
  | written hunknown hsettings hprepare hcheck' hwrote => simp [hunknown, hcheck'] at hcheck
  | unwritten hunknown hsettings hprepare hcheck' houtputs hstopped =>
    simp [hunknown, hcheck'] at hcheck

/-- A run that was to write ends well or with a fault of the file system. -/
theorem workspace_of_exit_one (hexit : (a.run w).exit = .ok 1) : (a.run w).workspace = w := by
  have hcourse := a.course_run w
  generalize a.run w = r at hcourse hexit
  cases hcourse with
  | unknown hunknown => rfl
  | unsettled hunknown hsettings => exact workspace_stopped w _
  | unprepared hunknown hsettings hprepare => exact workspace_stopped w _
  | compared hunknown hsettings hprepare hcheck => exact workspace_compare w _
  | written hunknown hsettings hprepare hcheck hwrote => cases hexit
  | unwritten hunknown hsettings hprepare hcheck houtputs hstopped => cases hexit

/-! ## Runs that end well -/

theorem exit_stopped_ne_zero (w : Workspace) (fault : Fault) : (stopped w fault).exit ≠ .ok 0 := by
  cases fault <;> exact fun h => nomatch h

/-- **A run that ends well** has settings, and changes no file but those of the outputs that they name. -/
theorem bytesAt?_of_exit_zero (hexit : (a.run w).exit = .ok 0) :
    ∃ settings, a.loadSettings w = .ok settings ∧
      ∀ place, (∀ out ∈ settings.outs, w.placeOf out ≠ place) →
        (a.run w).workspace.bytesAt? place = w.bytesAt? place := by
  have hcourse := a.course_run w
  generalize a.run w = r at hcourse hexit
  cases hcourse with
  | unknown hunknown => cases hexit
  | unsettled hunknown hsettings => exact absurd hexit (exit_stopped_ne_zero w _)
  | unprepared hunknown hsettings hprepare => exact absurd hexit (exit_stopped_ne_zero w _)
  | @compared settings p hunknown hsettings hprepare hcheck =>
    refine ⟨settings, hsettings, fun place hplace => ?_⟩
    show (compare w p.outputs).workspace.bytesAt? place = w.bytesAt? place
    rw [workspace_compare]
  | @written settings p w' lines hunknown hsettings hprepare hcheck hwrote =>
    refine ⟨settings, hsettings, fun place hplace => ?_⟩
    have houts := map_path_of_render (Workspace.prepare_eq_ok_iff.mp hprepare).2
    show w'.bytesAt? place = w.bytesAt? place
    exact hwrote.bytesAt?_elsewhere fun o ho => hplace o.path (houts ▸ List.mem_map_of_mem ho)
  | unwritten hunknown hsettings hprepare hcheck houtputs hstopped => cases hexit

/-- A run with an argument without meaning looks at no file. -/
theorem run_of_unknown {name : String} {rest : List String} (h : a.unknown = name :: rest)
    (w : Workspace) : a.run w = { failed w (.unknownParameter name) with out := helpLines } := by
  unfold run
  rw [h]

end Arguments

/-! ## The command line -/

theorem run_of_read {argv : List String} {a : Arguments} (h : Arguments.read argv = .arguments a)
    (version : String) (w : Workspace) : run version w argv = a.run w := by
  unfold run
  rw [h]

/-- A command line that is not read to its end is answered at once. -/
theorem workspace_of_not_read {argv : List String} (h : ∀ a, Arguments.read argv ≠ .arguments a)
    (version : String) (w : Workspace) : (run version w argv).workspace = w := by
  unfold run
  cases hread : Arguments.read argv with
  | arguments a => exact absurd hread (h a)
  | help => rfl
  | version => rfl
  | misuse misuse => rfl

/-- **What a run does with files.** A run that was given the flag for comparing, a run that reports a
failure and a run that ends while its arguments are read leave the workspace as it was. A run that ends
well changes no file but those at the places of its outputs. A run with an unrecognised argument names
the first one and prints the same for all workspaces. -/
theorem files_of_run (version : String) (w : Workspace) (argv : List String) :
    ("--check" ∈ argv → (run version w argv).workspace = w) ∧
    ((run version w argv).exit = .ok 1 → (run version w argv).workspace = w) ∧
    ((∀ a, Arguments.read argv ≠ .arguments a) → (run version w argv).workspace = w) ∧
    (∀ a, Arguments.read argv = .arguments a → (run version w argv).exit = .ok 0 →
      ∃ settings, a.loadSettings w = .ok settings ∧
        ∀ place, (∀ out ∈ settings.outs, w.placeOf out ≠ place) →
          (run version w argv).workspace.bytesAt? place = w.bytesAt? place) ∧
    ∀ a, Arguments.read argv = .arguments a → ¬ Recognised argv →
      ∃ name, FirstUnrecognised argv name ∧ (run version w argv).exit = .ok 1 ∧
        (run version w argv).err = ["[error] Unknown parameter: " ++ name] ∧
        ∀ w', (run version w' argv).out = (run version w argv).out ∧
          (run version w' argv).err = (run version w argv).err := by
  by_cases hread : ∃ a, Arguments.read argv = .arguments a
  · obtain ⟨a, hread⟩ := hread
    have hrun := run_of_read hread version
    rw [hrun w]
    refine ⟨fun hcheck => ?_, fun hexit => ?_, fun hnone => absurd hread (hnone a),
      fun a' ha' hexit => ?_, fun a' ha' hargv => ?_⟩
    · exact Arguments.workspace_of_check (Arguments.check_or_unknown hread hcheck)
    · exact Arguments.workspace_of_exit_one hexit
    · obtain rfl := Reading.arguments.inj (hread.symm.trans ha')
      exact Arguments.bytesAt?_of_exit_zero hexit
    · obtain ⟨name, more, hfirst, hunknown⟩ := Arguments.unknown_of_not_recognised hread hargv
      have hall := Arguments.run_of_unknown hunknown
      refine ⟨name, hfirst, ?_, ?_, fun w' => ?_⟩
      · rw [hall w]
        rfl
      · rw [hall w]
        show ["[error] " ++ ("Unknown parameter: " ++ name)] = ["[error] Unknown parameter: " ++ name]
        rw [← String.append_assoc]
        rfl
      · rw [hrun w', hall w', hall w]
        exact ⟨rfl, rfl⟩
  · have hnone : ∀ a, Arguments.read argv ≠ .arguments a := fun a ha => hread ⟨a, ha⟩
    have hsame := workspace_of_not_read hnone version w
    exact ⟨fun _ => hsame, fun _ => hsame, fun _ => hsame, fun a ha => absurd ha (hnone a),
      fun a ha => absurd ha (hnone a)⟩

/-- An option with its value, and an argument that looks like an option and is none. -/
theorem not_recognised_unread : ¬ Recognised ["-c", "absent.yaml", "--js-out"] := by
  have hconfig : Arg.classify "-c" = .option (.valued .config) true none := by decide +kernel
  have hlast : Arg.classify "--js-out" = .unknown "--js-out" := by decide +kernel
  have hclosed : AwaitsValue "-c" := ⟨_, _, _, _, _, hconfig, rfl⟩
  intro h
  cases h with
  | option hs hopen hrest => exact hopen hclosed
  | value hs hvalue hrest =>
    cases hrest with
    | option hs hopen hrest =>
      obtain ⟨o, isShort, joined, hs⟩ := hs
      rw [hlast] at hs
      cases hs

theorem files_of_run_oneBundle :
    (run "0.1.0" (oneBundle []) ["--check"]).workspace = oneBundle [] ∧
    (run "0.1.0" (oneBundle []) []).workspace.bytesAt? ["lib", "l10n", "app_en.arb"] =
      (oneBundle []).bytesAt? ["lib", "l10n", "app_en.arb"] ∧
    ∃ name, FirstUnrecognised ["-c", "absent.yaml", "--js-out"] name ∧
      (run "0.1.0" (oneBundle []) ["-c", "absent.yaml", "--js-out"]).err =
        ["[error] Unknown parameter: " ++ name] := by
  obtain ⟨hcheck, -⟩ := files_of_run "0.1.0" (oneBundle []) ["--check"]
  obtain ⟨-, -, -, hwritten, -⟩ := files_of_run "0.1.0" (oneBundle []) []
  obtain ⟨-, -, -, -, hunknown⟩ := files_of_run "0.1.0" (oneBundle []) ["-c", "absent.yaml", "--js-out"]
  refine ⟨hcheck List.mem_cons_self, ?_, ?_⟩
  · have hexit : (run "0.1.0" (oneBundle []) []).exit = .ok 0 := by decide +kernel
    obtain ⟨settings, hsettings, hfiles⟩ := hwritten {} rfl hexit
    have hdefault : Arguments.loadSettings {} (oneBundle []) = .ok {} := by decide +kernel
    obtain rfl := Except.ok.inj (hdefault.symm.trans hsettings)
    refine hfiles _ fun out hout => ?_
    rcases List.mem_pair.mp hout with rfl | rfl <;> decide
  · have hread : Arguments.read ["-c", "absent.yaml", "--js-out"] =
        .arguments { config := some (.text "absent.yaml"), unknown := ["--js-out"] } := by decide +kernel
    obtain ⟨name, hfirst, -, herr, -⟩ := hunknown _ hread not_recognised_unread
    exact ⟨name, hfirst, herr⟩

end CommandLine

end Phrasebook
