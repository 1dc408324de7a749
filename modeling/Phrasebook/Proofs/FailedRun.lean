import Phrasebook.Proofs.Generate

/-!
# What a failed run leaves

Both texts are rendered before the first file is written, so a run that fails before that leaves every
file as it was. Nothing undoes a write, though: when the TypeScript module cannot be written, the Dart
library has been. And a file is emptied before its text is written, so that a text without an encoding
leaves an empty file.

There are such texts because JSON can spell half of a surrogate pair, and what is rendered from such a
string is no text. The catalog of such bundles is not followed here. It is left open whether rendering comes
to an end, and which of the two files can be encoded; what a failed run leaves is the same all the same.

## Contents
- `Draft`, `writeDraft`, `writeDrafts`: files whose text may have no encoding
- `writeDrafts_outputs`: files whose text has one are written as outputs are
- `MayRender`, `MayGenerate`, `mayGenerate_iff`: what a run may come to
- `FailsLeaving`, `files_of_failed_generate`: the ways to fail, and the files that each of them leaves
-/

namespace Phrasebook

/-- A file to be written. The text is missing when it has no encoding. -/
structure Draft where
  /-- Where the file belongs. -/
  path : Path
  /-- Its text, if it has an encoding. -/
  text? : Option String

/-- What a draft leaves in its file: its text, or nothing. -/
def Draft.output (d : Draft) : Output := ⟨d.path, d.text?.getD ""⟩

/-- An output as a draft. -/
def Output.draft (o : Output) : Draft := ⟨o.path, some o.content⟩

namespace Workspace

variable {w w' : Workspace} {settings : Settings} {fault : Fault}

/-! ## Writing drafts -/

/-- Writes a draft. The file is opened, and so emptied, before the text is encoded. -/
def writeDraft (w : Workspace) (d : Draft) : Workspace × Except Fault Unit :=
  match w.writeOutput d.output with
  | (w', .error fault) => (w', .error (.crash (.disk fault)))
  | (w', .ok ()) => (w', if d.text?.isSome then .ok () else .error (.crash .notEncodable))

/-- Writes drafts in order, up to the first that cannot be written. -/
def writeDrafts (w : Workspace) : List Draft → Workspace × Except Fault Unit
  | [] => (w, .ok ())
  | d :: rest =>
    match w.writeDraft d with
    | (w', .error fault) => (w', .error fault)
    | (w', .ok ()) => w'.writeDrafts rest

/-- **Drafts with a text are written as outputs are.** -/
theorem writeDrafts_outputs (w : Workspace) (outputs : List Output) :
    w.writeDrafts (outputs.map Output.draft) =
      ((w.writeOutputs outputs).1, (w.writeOutputs outputs).2.outcome) := by
  induction outputs generalizing w with
  | nil => rfl
  | cons o rest ih =>
    have hdraft : o.draft.output = o := rfl
    rw [List.map_cons]
    unfold writeDrafts writeDraft
    rw [hdraft]
    rcases hwrite : w.writeOutput o with ⟨w₁, diskFault | ⟨⟩⟩
    · rw [writeOutputs_cons_of_error hwrite]
      rfl
    · rw [writeOutputs_cons_of_ok hwrite]
      exact ih w₁

/-- One draft is written, or the file system refuses it, or it leaves an empty file. -/
theorem writeDraft_cases {d : Draft} {outcome : Except Fault Unit} (hparts : d.path.parts ≠ [])
    (h : w.writeDraft d = (w', outcome)) :
    (∃ text, d.text? = some text ∧ outcome = .ok () ∧ Wrote w w' [⟨d.path, text⟩]) ∨
    (∃ diskFault, outcome = .error (.crash (.disk diskFault)) ∧
      w.writeOutput d.output = (w', .error diskFault) ∧ Wrote w w' []) ∨
    (d.text? = none ∧ outcome = .error (.crash .notEncodable) ∧ Wrote w w' [⟨d.path, ""⟩]) := by
  have hstep := writeOutput_spec w (o := d.output) hparts
  unfold writeDraft at h
  rcases hwrite : w.writeOutput d.output with ⟨w₁, diskFault | ⟨⟩⟩
  · rw [hwrite] at h hstep
    cases h
    rcases hstep with ⟨hok, -⟩ | ⟨-, -, hnothing⟩
    · cases hok
    · exact .inr (.inl ⟨diskFault, rfl, rfl, hnothing⟩)
  · rw [hwrite] at h hstep
    cases h
    have hwrote : Wrote w w' [d.output] := by
      rcases hstep with ⟨-, hwrote⟩ | ⟨fault, hfault, -⟩
      · exact hwrote
      · cases hfault
    unfold Draft.output at hwrote
    cases htext : d.text? with
    | some text =>
      rw [htext] at hwrote
      exact .inl ⟨text, rfl, rfl, hwrote⟩
    | none =>
      rw [htext] at hwrote
      exact .inr (.inr ⟨rfl, rfl, hwrote⟩)

/-! ## What a run may come to -/

/-- What compiling and rendering **may come to**: what is prepared, when the strings of the bundles are
texts; otherwise any fault, or any two drafts at the places of the outputs. -/
inductive MayRender (w : Workspace) (settings : Settings) : Except Fault (List Draft) → Prop where
  | texts (htexts : (w.prepare settings).outcome ≠ .error (.crash .loneSurrogate)) :
      MayRender w settings ((w.prepare settings).outcome.map fun p => p.outputs.map Output.draft)
  | stopped (hlone : (w.prepare settings).outcome = .error (.crash .loneSurrogate)) (fault : Fault) :
      MayRender w settings (.error fault)
  | rendered (hlone : (w.prepare settings).outcome = .error (.crash .loneSurrogate))
      (dart? typeScript? : Option String) :
      MayRender w settings (.ok [⟨settings.dartOut, dart?⟩, ⟨settings.typeScriptOut, typeScript?⟩])

/-- Writes what was rendered, if rendering came to an end. -/
def finish (w : Workspace) : Except Fault (List Draft) → Workspace × Except Fault Unit
  | .error fault => (w, .error fault)
  | .ok drafts => w.writeDrafts drafts

/-- A run **may generate**: it renders, and writes what it has rendered. -/
def MayGenerate (w : Workspace) (settings : Settings) (result : Workspace × Except Fault Unit) : Prop :=
  ∃ rendered, w.MayRender settings rendered ∧ result = w.finish rendered

theorem finish_prepare (w : Workspace) (settings : Settings) :
    w.finish ((w.prepare settings).outcome.map fun p => p.outputs.map Output.draft) =
      ((w.generate settings).1, (w.generate settings).2.outcome.map fun _ => ()) := by
  cases hprepare : (w.prepare settings).outcome with
  | error fault =>
    rw [generate_of_prepare_error hprepare, hprepare]
    rfl
  | ok p =>
    obtain ⟨hworkspace, houtcome⟩ := generate_of_prepare_ok hprepare
    rw [hworkspace, houtcome]
    refine (writeDrafts_outputs w p.outputs).trans ?_
    cases (w.writeOutputs p.outputs).2.outcome <;> rfl

/-- **Where all strings are texts**, a run comes to what it generates, and to nothing else. -/
theorem mayGenerate_iff (htexts : (w.prepare settings).outcome ≠ .error (.crash .loneSurrogate))
    {result : Workspace × Except Fault Unit} :
    w.MayGenerate settings result ↔
      result = ((w.generate settings).1, (w.generate settings).2.outcome.map fun _ => ()) := by
  rw [← finish_prepare]
  constructor
  · rintro ⟨rendered, hrender, rfl⟩
    cases hrender with
    | texts htexts => rfl
    | stopped hlone fault => exact absurd hlone htexts
    | rendered hlone dart? typeScript? => exact absurd hlone htexts
  · intro h
    exact ⟨_, .texts htexts, h⟩

/-- Whatever is rendered, it is two drafts at the places of the outputs. -/
theorem MayRender.drafts {drafts : List Draft} (h : w.MayRender settings (.ok drafts)) :
    ∃ dart? typeScript?,
      drafts = [⟨settings.dartOut, dart?⟩, ⟨settings.typeScriptOut, typeScript?⟩] := by
  generalize hrendered : Except.ok drafts = rendered at h
  cases h with
  | texts htexts =>
    cases hprepare : (w.prepare settings).outcome with
    | error fault =>
      rw [hprepare] at hrendered
      cases hrendered
    | ok p =>
      obtain ⟨dart, typeScript, -, -, houtputs⟩ := render_eq_ok (prepare_eq_ok_iff.mp hprepare).2
      rw [hprepare] at hrendered
      obtain rfl : drafts = p.outputs.map Output.draft := Except.ok.inj hrendered
      rw [houtputs]
      exact ⟨some dart, some typeScript, rfl⟩
  | stopped hlone fault => cases hrendered
  | rendered hlone dart? typeScript? =>
    cases hrendered
    exact ⟨dart?, typeScript?, rfl⟩

/-! ## Runs that fail -/

/-- The ways in which a run **fails**, and the files that each of them leaves. -/
inductive FailsLeaving (w : Workspace) (settings : Settings) : Workspace → Fault → Prop where
  /-- Nothing is rendered, and nothing has changed. -/
  | unrendered {fault : Fault} (hrender : w.MayRender settings (.error fault)) :
      FailsLeaving w settings w fault
  /-- The file system refuses the Dart library. The files are as before. -/
  | dartRefused {w' : Workspace} {fault : Fault} {dart? typeScript? : Option String}
      (hrender : w.MayRender settings
        (.ok [⟨settings.dartOut, dart?⟩, ⟨settings.typeScriptOut, typeScript?⟩]))
      (hstopped : StoppedAt w w' [] (Draft.output ⟨settings.dartOut, dart?⟩) fault)
      (hfiles : SameFiles w w') : FailsLeaving w settings w' fault
  /-- The Dart library has no encoding. Its file is empty, and no other has changed. -/
  | dartUnencoded {w' : Workspace} {typeScript? : Option String}
      (hrender : w.MayRender settings
        (.ok [⟨settings.dartOut, none⟩, ⟨settings.typeScriptOut, typeScript?⟩]))
      (hfiles : ∀ place, w'.bytesAt? place =
        if place = w.placeOf settings.dartOut then some "".toUTF8 else w.bytesAt? place) :
      FailsLeaving w settings w' (.crash .notEncodable)
  /-- The file system refuses the TypeScript module. The Dart library is there, and no other file has
  changed. -/
  | typeScriptRefused {w' : Workspace} {fault : Fault} {dart : String} {typeScript? : Option String}
      (hrender : w.MayRender settings
        (.ok [⟨settings.dartOut, some dart⟩, ⟨settings.typeScriptOut, typeScript?⟩]))
      (hstopped : StoppedAt w w' [⟨settings.dartOut, dart⟩]
        (Draft.output ⟨settings.typeScriptOut, typeScript?⟩) fault)
      (hfiles : ∀ place, w'.bytesAt? place =
        if place = w.placeOf settings.dartOut then some dart.toUTF8 else w.bytesAt? place) :
      FailsLeaving w settings w' fault
  /-- The TypeScript module has no encoding. Its file is empty, the Dart library is there, unless both
  belong at one place, and no other file has changed. -/
  | typeScriptUnencoded {w' : Workspace} {dart : String}
      (hrender : w.MayRender settings
        (.ok [⟨settings.dartOut, some dart⟩, ⟨settings.typeScriptOut, none⟩]))
      (hfiles : ∀ place, w'.bytesAt? place =
        if place = w.placeOf settings.typeScriptOut then some "".toUTF8
        else if place = w.placeOf settings.dartOut then some dart.toUTF8 else w.bytesAt? place) :
      FailsLeaving w settings w' (.crash .notEncodable)

/-- Two drafts are written one after the other, and the first that fails ends the run. -/
theorem failsLeaving_of_writeDrafts (ha : settings.Accepted) {dart? typeScript? : Option String}
    (hrender : w.MayRender settings
      (.ok [⟨settings.dartOut, dart?⟩, ⟨settings.typeScriptOut, typeScript?⟩]))
    (h : w.writeDrafts [⟨settings.dartOut, dart?⟩, ⟨settings.typeScriptOut, typeScript?⟩] =
      (w', .error fault)) : w.FailsLeaving settings w' fault := by
  rcases hfirst : w.writeDraft ⟨settings.dartOut, dart?⟩ with ⟨w₁, outcome⟩
  simp only [writeDrafts, hfirst] at h
  rcases writeDraft_cases ha.dartOut_parts hfirst with
    ⟨dart, rfl, rfl, hwrote⟩ | ⟨diskFault, rfl, hrefused, hnothing⟩ | ⟨rfl, rfl, hwrote⟩
  · -- the Dart library is written, so it is the TypeScript module that fails
    rcases hsecond : w₁.writeDraft ⟨settings.typeScriptOut, typeScript?⟩ with ⟨w₂, outcome⟩
    simp only [hsecond] at h
    rcases writeDraft_cases ha.typeScriptOut_parts hsecond with
      ⟨typeScript, rfl, rfl, -⟩ | ⟨diskFault, rfl, hrefused, hnothing⟩ | ⟨rfl, rfl, hwrote'⟩
    · cases h
    · cases h
      have hstopped : StoppedAt w w' [⟨settings.dartOut, dart⟩]
          (Draft.output ⟨settings.typeScriptOut, typeScript?⟩) (.crash (.disk diskFault)) :=
        ⟨w₁, diskFault, hwrote, hrefused, rfl⟩
      exact .typeScriptRefused hrender hstopped (hwrote.append hnothing).files
    · cases h
      exact .typeScriptUnencoded hrender (hwrote.append hwrote').files
  · cases h
    exact .dartRefused hrender ⟨w, diskFault, .nil (.refl w) (.refl w), hrefused, rfl⟩ hnothing.sameFiles
  · cases h
    exact .dartUnencoded hrender hwrote.files

/-- **A run that fails** leaves every file as it was, with two exceptions: the Dart library is written when
the run stops at the TypeScript module, and the file of a text without an encoding is empty. Where all
strings are texts there is no such text, and what a run may come to is what it generates. -/
theorem files_of_failed_generate {w : Workspace} {settings : Settings} (ha : settings.Accepted) :
    ((w.prepare settings).outcome ≠ .error (.crash .loneSurrogate) → ∀ result,
      w.MayGenerate settings result ↔
        result = ((w.generate settings).1, (w.generate settings).2.outcome.map fun _ => ())) ∧
    ∀ w' fault, w.MayGenerate settings (w', .error fault) → w.FailsLeaving settings w' fault := by
  refine ⟨fun htexts result => mayGenerate_iff htexts, fun w' fault h => ?_⟩
  obtain ⟨rendered, hrender, hresult⟩ := h
  cases rendered with
  | error fault' =>
    cases hresult
    exact .unrendered hrender
  | ok drafts =>
    obtain ⟨dart?, typeScript?, rfl⟩ := hrender.drafts
    exact failsLeaving_of_writeDrafts ha hrender hresult.symm

/-- A directory is at the place of the TypeScript module. -/
def blocked : Workspace := oneBundle [("web", .dir [("generated", .dir [("l10n.ts", .dir [])])])]

theorem error_generate_blocked :
    (blocked.generate {}).2.outcome = .error (.crash (.disk .isDirectory)) := by rfl

/-- The Dart library was not there before, and it is there afterwards. -/
theorem not_sameFiles_blocked : ¬ SameFiles blocked (blocked.generate {}).1 := by
  intro h
  have hsome : ((blocked.generate {}).1.bytesAt? ["lib", "generated", "l10n.g.dart"]).isSome = true := by
    decide +kernel
  rw [h] at hsome
  cases hsome

theorem failed_generate_changes_file :
    Settings.Accepted {} ∧ (blocked.generate {}).2.outcome = .error (.crash (.disk .isDirectory)) ∧
      ¬ SameFiles blocked (blocked.generate {}).1 :=
  ⟨accepted_default, error_generate_blocked, not_sameFiles_blocked⟩

/-- A directory with one bundle, in which the text of a key is half of a surrogate pair. -/
def halfPair : Workspace where
  tree := .dir [("lib", .dir [("l10n", .dir
    [("app_en.arb", .file "\x7b\"a\": \"\\ud800\"\x7d".toUTF8)])])]
  base := []

/-- The fault of an outcome, if it is one. -/
def fault? {α : Type} : Except Fault α → Option Fault
  | .error fault => some fault
  | .ok _ => none

theorem eq_error_of_fault? {α : Type} {outcome : Except Fault α} (h : fault? outcome = some fault) :
    outcome = .error fault := by
  cases outcome with
  | error fault' => rw [Option.some.inj h]
  | ok a => cases h

theorem outcome_prepare_halfPair :
    (halfPair.prepare {}).outcome = .error (.crash .loneSurrogate) :=
  eq_error_of_fault? (by decide +kernel)

/-- Two drafts without an encoding, at the places of the outputs. -/
def unencoded : List Draft := [⟨({} : Settings).dartOut, none⟩, ⟨({} : Settings).typeScriptOut, none⟩]

theorem outcome_writeDrafts_halfPair :
    (halfPair.writeDrafts unencoded).2 = .error (.crash .notEncodable) := by decide +kernel

theorem files_of_failed_generate_blocked :
    Settings.Accepted {} ∧ (blocked.generate {}).2.outcome = .error (.crash (.disk .isDirectory)) ∧
      (∃ dart : String, ∀ place, (blocked.generate {}).1.bytesAt? place =
        if place = ["lib", "generated", "l10n.g.dart"] then some dart.toUTF8
        else blocked.bytesAt? place) ∧
      halfPair.MayGenerate {} ((halfPair.writeDrafts unencoded).1, .error (.crash .notEncodable)) ∧
        halfPair.FailsLeaving {} (halfPair.writeDrafts unencoded).1 (.crash .notEncodable) := by
  obtain ⟨htexts, hfails⟩ := files_of_failed_generate (w := blocked) accepted_default
  obtain ⟨-, hfails'⟩ := files_of_failed_generate (w := halfPair) accepted_default
  have hmay' : halfPair.MayGenerate {}
      ((halfPair.writeDrafts unencoded).1, .error (.crash .notEncodable)) :=
    ⟨.ok unencoded, .rendered outcome_prepare_halfPair none none,
      Prod.ext rfl outcome_writeDrafts_halfPair.symm⟩
  refine ⟨accepted_default, error_generate_blocked, ?_, hmay', hfails' _ _ hmay'⟩
  have hprepare : (blocked.prepare {}).outcome ≠ .error (.crash .loneSurrogate) := by
    intro heq
    have herror := error_generate_blocked
    rw [generate_of_prepare_error heq, heq] at herror
    cases herror
  have hmay : blocked.MayGenerate {}
      ((blocked.generate {}).1, .error (.crash (.disk .isDirectory))) :=
    (htexts hprepare _).mpr (by rw [error_generate_blocked]; rfl)
  have hleaving := hfails _ _ hmay
  have hchanged := not_sameFiles_blocked
  generalize (blocked.generate {}).1 = w' at hleaving hchanged ⊢
  cases hleaving with
  | unrendered hrender => exact absurd (SameFiles.refl blocked) hchanged
  | dartRefused hrender hstopped hfiles => exact absurd hfiles hchanged
  | @typeScriptRefused _ _ dart _ hrender hstopped hfiles => exact ⟨dart, hfiles⟩

end Workspace

end Phrasebook
