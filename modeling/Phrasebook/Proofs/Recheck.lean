import Phrasebook.CommandLine.Run
import Phrasebook.Proofs.BundleFiles
import Phrasebook.Proofs.Generate
import Phrasebook.Proofs.Lines

/-!
# Checking after generating

A run that succeeds has written both outputs and no other file. When the outputs belong at different
places, and at none that a bundle file of the directory can have, everything that the run has read is
still there: what is prepared again is the same, each output holds its text, and checking finds nothing
stale. Nothing keeps an output away from the bundles, though. An output at the place of a bundle takes
the place of the bundle, and as no generated text is JSON, nothing can be prepared after it.

## Contents
- `OutputsApart`, `ConfigApart`: outputs that take the place of nothing that is read
- `KeepsBundles.prepare`, `loadSettings_of_read`, `run_check`: what a check does again
- `InPlace`, `check_after_generate`: checking is clean
- `prepare_of_output_on_bundle`: an output in the place of a bundle
-/

namespace Phrasebook

/-- The paths of the outputs. -/
def Settings.outs (settings : Settings) : List Path := [settings.dartOut, settings.typeScriptOut]

/-- What is prepared belongs at the paths of the outputs. -/
theorem map_path_of_render {settings : Settings} {c : Catalog} {outputs : List Output}
    (h : render settings c = .ok outputs) : outputs.map Output.path = settings.outs := by
  obtain ⟨dart, typeScript, -, -, rfl⟩ := render_eq_ok h
  rfl

/-- Every generated text starts with a comment. -/
theorem Target.head?_of_emit {target : Target} {asked text : String} {c : Catalog}
    (h : target.emit asked c = .ok text) : text.toList.head? = some '/' := by
  obtain ⟨accessors, -, rfl⟩ := emit_eq_ok_iff.mp h
  unfold Source.text
  rw [String.toList_ofList]
  cases target <;> rfl

/-- No JSON text starts with a slash. -/
theorem Json.read_of_head?_slash (limit : Option Nat) {text : String}
    (h : text.toList.head? = some '/') : Json.read limit text = .error .malformed := by
  obtain ⟨rest, htext⟩ := List.head?_eq_some_iff.mp h
  unfold Json.read
  rw [htext]
  rfl

namespace Workspace

variable {w w' : Workspace} {settings : Settings} {outputs : List Output} {p : Prepared}

/-! ## Preparing again -/

/-- Outputs at different places are told apart by their places. -/
theorem eq_of_placeOf {c : Catalog} (h : render settings c = .ok outputs)
    (hdistinct : w.placeOf settings.dartOut ≠ w.placeOf settings.typeScriptOut) {o o' : Output}
    (ho : o ∈ outputs) (ho' : o' ∈ outputs) (hplace : w.placeOf o'.path = w.placeOf o.path) :
    o' = o := by
  obtain ⟨dart, typeScript, -, -, rfl⟩ := render_eq_ok h
  rcases List.mem_pair.mp ho with rfl | rfl <;> rcases List.mem_pair.mp ho' with rfl | rfl
  · rfl
  · exact absurd hplace.symm hdistinct
  · exact absurd hplace hdistinct
  · rfl

/-- The outputs of settings belong **apart**: at different places, and at none of a bundle file. -/
structure OutputsApart (w : Workspace) (settings : Settings) : Prop where
  distinct : w.placeOf settings.dartOut ≠ w.placeOf settings.typeScriptOut
  bundles : ∀ out ∈ settings.outs, ∀ name, IsBundleName settings.bundleDir name →
    w.placeOf out ≠ w.placeOf (settings.bundleDir.child name)

theorem Wrote.keepsBundles (h : Wrote w w' outputs) (houts : outputs.map Output.path = settings.outs)
    (hapart : w.OutputsApart settings) : KeepsBundles w w' settings.bundleDir where
  keeps := h.keeps
  bytes name hname := h.bytesAt?_elsewhere fun o ho =>
    hapart.bundles o.path (houts ▸ List.mem_map_of_mem ho) name hname

theorem bundleFiles_of_prepare (h : (w.prepare settings).outcome = .ok p) :
    ∃ files, w.bundleFiles settings.bundleDir = .ok files := by
  obtain ⟨bundles, hbundles, -⟩ := Report.andThen_eq_ok_iff.mp (prepare_eq_ok_iff.mp h).1
  obtain ⟨files, hfiles, -⟩ := Report.andThen_eq_ok_iff.mp hbundles
  exact ⟨files, hfiles⟩

/-- **What is prepared depends on the bundles only.** -/
theorem KeepsBundles.prepare (h : KeepsBundles w w' settings.bundleDir)
    (hok : (w.prepare settings).outcome = .ok p) : w'.prepare settings = w.prepare settings := by
  obtain ⟨files, hfiles⟩ := bundleFiles_of_prepare hok
  have hload : w'.loadBundles settings.bundleDir = w.loadBundles settings.bundleDir :=
    h.loadBundles hfiles
  unfold Workspace.prepare compile
  rw [hload]

theorem isCurrent_iff {o : Output} : w.isCurrent o = true ↔ w.read o.path = .ok o.content.toUTF8 := by
  unfold isCurrent
  cases w.read o.path with
  | error fault => simp
  | ok bytes =>
    rw [decide_eq_true_iff, Except.ok.injEq]
    exact ByteArray.ext_iff.symm

theorem stale_eq_nil_iff :
    w.stale outputs = [] ↔ ∀ o ∈ outputs, w.read o.path = .ok o.content.toUTF8 := by
  unfold stale
  simp only [List.filter_eq_nil_iff, Bool.not_eq_true', Bool.not_eq_false, isCurrent_iff]

/-- Outputs that are all there can be looked for. -/
theorem findStale_of_stale_eq_nil (h : w.stale outputs = []) : w.findStale outputs = .ok [] := by
  have hshort : (outputs.any fun o => w.isOverlong o.path) = false := by
    rw [List.any_eq_false]
    intro o ho
    rw [isOverlong_of_read (stale_eq_nil_iff.mp h o ho)]
    exact Bool.false_ne_true
  unfold findStale
  rw [hshort, h]
  exact if_neg Bool.false_ne_true

/-! ## Checking -/

theorem loadSettings_congr {path : Path} (h : w'.read path = w.read path)
    (overrides : List (String × Settings.Value)) :
    w'.loadSettings (some path) overrides = w.loadSettings (some path) overrides := by
  unfold loadSettings readValues
  dsimp only
  rw [h]

theorem read_of_loadSettings {path : Path} {overrides : List (String × Settings.Value)}
    (h : w.loadSettings (some path) overrides = .ok settings) : ∃ bytes, w.read path = .ok bytes := by
  cases hread : w.read path with
  | error fault =>
    unfold loadSettings readValues at h
    dsimp only at h
    rw [hread] at h
    cases fault <;> cases h
  | ok bytes => exact ⟨bytes, rfl⟩

end Workspace

namespace CommandLine.Arguments

open Workspace

variable {w w' : Workspace} {a : Arguments} {settings : Settings} {p : Prepared}

/-- The settings file that arguments name, if any, is at the place of no output. -/
def ConfigApart (a : Arguments) (w : Workspace) (settings : Settings) : Prop :=
  ∀ s, a.config = some (.text s) → ∀ out ∈ settings.outs, w.placeOf out ≠ w.placeOf (.ofString s)

/-- Settings depend on the settings file only. -/
theorem loadSettings_of_read (h : a.loadSettings w = .ok settings)
    (hread : ∀ s, a.config = some (.text s) → ∀ bytes, w.read (.ofString s) = .ok bytes →
      w'.read (.ofString s) = .ok bytes) : a.loadSettings w' = .ok settings := by
  unfold loadSettings at h ⊢
  cases hconfig : a.config with
  | none =>
    rw [hconfig] at h
    exact h
  | some given =>
    rw [hconfig] at h
    cases given with
    | nothing => cases h
    | text s =>
      obtain ⟨bytes, hbytes⟩ := read_of_loadSettings h
      have hsame : w'.read (.ofString s) = w.read (.ofString s) :=
        (hread s hconfig bytes hbytes).trans hbytes.symm
      exact (loadSettings_congr hsame a.overrides).trans h

/-- Checking outputs that are all there ends well and changes nothing. -/
theorem run_check (hcheck : a.check = true) (hunknown : a.unknown = [])
    (hsettings : a.loadSettings w = .ok settings) (hprepare : (w.prepare settings).outcome = .ok p)
    (hstale : w.stale p.outputs = []) : (a.run w).exit = .ok 0 ∧ (a.run w).workspace = w := by
  have hrun : a.run w = (compare w p.outputs).afterLines
      (logLines a.verbose (w.prepare settings).notices) := by
    unfold run
    rw [hunknown]
    dsimp only
    rw [hsettings]
    dsimp only [runWith]
    rw [hprepare]
    dsimp only
    rw [if_pos hcheck]
  have hcompare : (compare w p.outputs).exit = .ok 0 ∧ (compare w p.outputs).workspace = w := by
    unfold compare
    rw [findStale_of_stale_eq_nil hstale]
    exact ⟨rfl, rfl⟩
  rw [hrun]
  exact hcompare

end CommandLine.Arguments

namespace Workspace

variable {w w' : Workspace} {settings : Settings} {outputs : List Output} {p : Prepared}

/-- What was prepared is **in place**: preparing it again gives the same and nothing is stale; the
outputs hold their texts and the bundles are those that were there; and a command line that asks for the
same settings and only checks ends well and writes nothing. -/
structure InPlace (w w' : Workspace) (settings : Settings) (p : Prepared) : Prop where
  prepare : w'.prepare settings = w.prepare settings ∧ (w'.prepare settings).outcome = .ok p
  stale : w'.stale p.outputs = []
  outputs : ∀ o ∈ p.outputs, w'.read o.path = .ok o.content.toUTF8
  bundles : ∃ files, w.bundleFiles settings.bundleDir = .ok files ∧
    w'.bundleFiles settings.bundleDir = .ok files ∧ ∀ file ∈ files, w'.read file = w.read file
  check : ∀ version argv a, CommandLine.Arguments.read argv = .arguments a → a.check = true →
    a.unknown = [] → a.loadSettings w = .ok settings → a.ConfigApart w settings →
    (CommandLine.run version w' argv).exit = .ok 0 ∧ (CommandLine.run version w' argv).workspace = w'

/-- **Checking after a run that succeeds is clean**, when the outputs belong at different places and at
none of a bundle file. -/
theorem check_after_generate (ha : settings.Accepted) (hapart : w.OutputsApart settings)
    (h : (w.generate settings).2.outcome = .ok p) : InPlace w (w.generate settings).1 settings p := by
  obtain ⟨hprepare, hwrote⟩ := generate_of_ok ha h
  have hrender := (prepare_eq_ok_iff.mp hprepare).2
  have houts : p.outputs.map Output.path = settings.outs := map_path_of_render hrender
  have hkeeps := hwrote.keepsBundles houts hapart
  have hagain := hkeeps.prepare hprepare
  have houtcome : ((w.generate settings).1.prepare settings).outcome = .ok p := by
    rw [hagain, hprepare]
  have houtputs : ∀ o ∈ p.outputs, (w.generate settings).1.read o.path = .ok o.content.toUTF8 :=
    fun o ho => hwrote.read_output ho fun o' ho' hplace =>
      eq_of_placeOf hrender hapart.distinct ho ho' hplace
  have hstale := stale_eq_nil_iff.mpr houtputs
  obtain ⟨files, hfiles⟩ := bundleFiles_of_prepare hprepare
  refine ⟨⟨hagain, houtcome⟩, hstale, houtputs,
    ⟨files, hfiles, hkeeps.bundleFiles hfiles, fun file hfile => hkeeps.read hfiles hfile⟩, ?_⟩
  intro version argv a hargv hcheck hunknown hsettings hconfig
  have hsettings' : a.loadSettings (w.generate settings).1 = .ok settings := by
    refine CommandLine.Arguments.loadSettings_of_read hsettings fun s hs bytes hbytes => ?_
    refine hwrote.read_elsewhere hbytes fun o ho => ?_
    exact hconfig s hs o.path (houts ▸ List.mem_map_of_mem ho)
  unfold CommandLine.run
  rw [hargv]
  exact CommandLine.Arguments.run_check hcheck hunknown hsettings' houtcome hstale

theorem outputsApart_oneBundle : (oneBundle []).OutputsApart {} where
  distinct := by decide
  bundles out hout name hname heq := by
    have hdir : (oneBundle []).placeOf ({} : Settings).bundleDir = ["lib", "l10n"] := by decide
    rw [placeOf_child _ _ hname.ne_above, hdir] at heq
    rcases List.mem_pair.mp hout with rfl | rfl
    · have hdart : (oneBundle []).placeOf ({} : Settings).dartOut =
          ["lib", "generated", "l10n.g.dart"] := by decide
      simp [hdart] at heq
    · have htypeScript : (oneBundle []).placeOf ({} : Settings).typeScriptOut =
          ["web", "generated", "l10n.ts"] := by decide
      simp [htypeScript] at heq

theorem check_after_generate_oneBundle :
    Settings.Accepted {} ∧ (oneBundle []).OutputsApart {} ∧
      ∃ p, ((oneBundle []).generate {}).2.outcome = .ok p ∧
        InPlace (oneBundle []) ((oneBundle []).generate {}).1 {} p ∧
        (CommandLine.run "0.1.0" ((oneBundle []).generate {}).1 ["--check"]).exit = .ok 0 := by
  obtain ⟨p, hp⟩ : ∃ p, ((oneBundle []).generate {}).2.outcome = .ok p := ⟨_, rfl⟩
  have hplace := check_after_generate accepted_default outputsApart_oneBundle hp
  have hargv : CommandLine.Arguments.read ["--check"] = .arguments { check := true } := by decide +kernel
  have hsettings : CommandLine.Arguments.loadSettings { check := true } (oneBundle []) = .ok {} := by
    decide +kernel
  have hcheck := hplace.check "0.1.0" _ _ hargv rfl rfl hsettings fun s hs => nomatch hs
  exact ⟨accepted_default, outputsApart_oneBundle, p, hp, hplace, hcheck.1⟩

/-! ## An output in the place of a bundle -/

theorem loadFiles_error {files : List Path} {path : Path} {fault : Fault} (hpath : path ∈ files)
    (h : w.readLocalized path = .error fault) (acc : Loaded) :
    ∃ fault', (w.loadFiles acc files).outcome = .error fault' := by
  induction files generalizing acc with
  | nil => exact absurd hpath List.not_mem_nil
  | cons first rest ih =>
    unfold loadFiles
    split
    · exact ⟨_, rfl⟩
    · rename_i locale bundle hfirst
      rcases List.mem_cons.mp hpath with rfl | hrest
      · rw [h] at hfirst
        cases hfirst
      · exact ih hrest _

theorem head?_of_render {c : Catalog} (h : render settings c = .ok outputs) {o : Output}
    (ho : o ∈ outputs) : o.content.toList.head? = some '/' := by
  obtain ⟨dart, typeScript, hdart, htypeScript, rfl⟩ := render_eq_ok h
  rcases List.mem_pair.mp ho with rfl | rfl
  · exact Target.head?_of_emit hdart
  · exact Target.head?_of_emit htypeScript

/-- A file that holds generated text is no bundle. -/
theorem readBundle_of_output {path : Path} {text : String} (hread : w.read path = .ok text.toUTF8)
    (htext : text.toList.head? = some '/') :
    w.readBundle path = .error (.failure (.bundleNotJson path.name)) := by
  unfold readBundle
  rw [hread]
  dsimp only
  rw [Text.fromUTF8?_toUTF8]
  dsimp only
  rw [Json.read_of_head?_slash _ htext]
  rfl

/-- A directory with generated text at the place of a bundle file is not loaded. -/
theorem loadBundles_of_output {dir : Path} {name : String} (hname : IsBundleName dir name)
    {text : String} (hbytes : w.bytesAt? (w.placeOf (dir.child name)) = some text.toUTF8)
    (htext : text.toList.head? = some '/') : ∃ fault, (w.loadBundles dir).outcome = .error fault := by
  cases hfiles : w.bundleFiles dir with
  | error fault =>
    unfold loadBundles
    rw [hfiles]
    exact ⟨fault, rfl⟩
  | ok files =>
    obtain ⟨names, hlist⟩ := list_of_bundleFiles hfiles
    have hmem : dir.child name ∈ files :=
      (mem_bundleFiles_iff hlist hfiles).mpr ⟨name, hname, by rw [hbytes]; rfl, rfl⟩
    have hunread : w.readLocalized (dir.child name) =
        .error (.failure (.bundleNotJson (dir.child name).name)) := by
      unfold readLocalized
      rw [readBundle_of_output (read_child hlist hname hbytes) htext]
    obtain ⟨fault, hfault⟩ := loadFiles_error hmem hunread ⟨.empty, .empty⟩
    refine ⟨fault, ?_⟩
    unfold loadBundles
    rw [hfiles]
    unfold Report.ofExcept Report.andThen
    dsimp only
    rw [hfault]
    rfl

/-- **An output in the place of a bundle** keeps anything from being prepared after the run. -/
theorem prepare_of_output_on_bundle (ha : settings.Accepted)
    (h : (w.generate settings).2.outcome = .ok p) {out : Path} (hout : out ∈ settings.outs)
    {name : String} (hname : IsBundleName settings.bundleDir name)
    (hplace : w.placeOf out = w.placeOf (settings.bundleDir.child name)) :
    ∃ fault, ((w.generate settings).1.prepare settings).outcome = .error fault := by
  obtain ⟨hprepare, hwrote⟩ := generate_of_ok ha h
  have hrender := (prepare_eq_ok_iff.mp hprepare).2
  -- the text at the place is that of the output, or of the other one if it belongs there too
  obtain ⟨o, ho, hbytes⟩ : ∃ o ∈ p.outputs, (w.generate settings).1.bytesAt?
      ((w.generate settings).1.placeOf (settings.bundleDir.child name)) = some o.content.toUTF8 := by
    rw [hwrote.keeps.placeOf, hwrote.files]
    rcases overwritten_cases w p.outputs (w.placeOf (settings.bundleDir.child name)) with
      ⟨o, ho, -, hbytes⟩ | ⟨hnone, -⟩
    · exact ⟨o, ho, hbytes⟩
    · rw [← map_path_of_render hrender] at hout
      obtain ⟨o, ho, rfl⟩ := List.mem_map.mp hout
      exact absurd hplace (hnone o ho)
  obtain ⟨fault, hfault⟩ := loadBundles_of_output hname hbytes (head?_of_render hrender ho)
  refine ⟨fault, ?_⟩
  unfold prepare compile Report.andThen
  rw [hfault]

/-- The Dart library belongs where a bundle is. -/
def onBundle : Settings := { dartOut := .ofString "lib/l10n/app_en.arb" }

theorem check_after_generate_onBundle :
    onBundle.Accepted ∧ (∃ p, ((oneBundle []).generate onBundle).2.outcome = .ok p) ∧
      ∃ fault, (((oneBundle []).generate onBundle).1.prepare onBundle).outcome = .error fault := by
  have haccepted : onBundle.Accepted := ⟨[(.text "dart_out", .text "lib/l10n/app_en.arb")], rfl⟩
  obtain ⟨p, hp⟩ : ∃ p, ((oneBundle []).generate onBundle).2.outcome = .ok p := ⟨_, rfl⟩
  have hname : IsBundleName onBundle.bundleDir "app_en.arb" := ⟨by decide, by decide, by decide⟩
  have hplace : (oneBundle []).placeOf onBundle.dartOut =
      (oneBundle []).placeOf (onBundle.bundleDir.child "app_en.arb") := by decide
  exact ⟨haccepted, ⟨p, hp⟩,
    prepare_of_output_on_bundle haccepted hp List.mem_cons_self hname hplace⟩

end Workspace

end Phrasebook
