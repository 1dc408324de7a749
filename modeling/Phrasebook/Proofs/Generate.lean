import Mathlib.Data.List.Induction
import Phrasebook.Output
import Phrasebook.Proofs.Values
import Phrasebook.Proofs.Workspace

/-!
# Writing the outputs

The outputs are written one after the other, and nothing undoes a write. A run that stops at an output
that cannot be written has therefore changed the files of the outputs before it, and no others; the
directories that it created stay. A run that succeeds has written both.

## Contents
- `Settings.Accepted`: the settings that values can give
- `overwritten`, `overwritten_cases`, `Wrote`: the files after some outputs were written
- `writeOutput_spec`, `writeOutputs_spec`: one write, and all of them
- `generate_of_prepare_ok`, `generate_of_ok`: a run that succeeds
-/

namespace Phrasebook

/-! ## Settings -/

namespace Settings

/-- Settings that values give without being refused. -/
def Accepted (settings : Settings) : Prop := ∃ values, ofValues values = .ok settings

theorem parts_of_readOutput {setting : Setting} {default p : Path} {given : Option Value}
    (h : readOutput setting default given = .ok p) : p.parts ≠ [] := by
  unfold readOutput at h
  split at h
  · cases h
  · split at h
    · cases h
    · rename_i hname
      cases h
      intro hnil
      exact hname (by rw [Path.name, hnil]; rfl)

namespace Accepted

variable {settings : Settings}

/-- Each output of accepted settings has a name. -/
theorem dartOut_parts (h : settings.Accepted) : settings.dartOut.parts ≠ [] := by
  obtain ⟨values, hvalues⟩ := h
  exact parts_of_readOutput (ofValues_eq_ok_iff.mp hvalues).dartOut

theorem typeScriptOut_parts (h : settings.Accepted) : settings.typeScriptOut.parts ≠ [] := by
  obtain ⟨values, hvalues⟩ := h
  exact parts_of_readOutput (ofValues_eq_ok_iff.mp hvalues).typeScriptOut

end Accepted

end Settings

namespace Workspace

/-! ## Written outputs -/

/-- The bytes at a place after outputs were written: those of the last output that belongs there, or
else the ones that were there. -/
def overwritten (w : Workspace) (outputs : List Output) (place : Tree.Place) : Option ByteArray :=
  outputs.foldl (fun bytes o => if place = w.placeOf o.path then some o.content.toUTF8 else bytes)
    (w.bytesAt? place)

theorem overwritten_concat (w : Workspace) (outputs : List Output) (o : Output) (place : Tree.Place) :
    w.overwritten (outputs ++ [o]) place =
      if place = w.placeOf o.path then some o.content.toUTF8 else w.overwritten outputs place := by
  unfold overwritten
  rw [List.foldl_append, List.foldl_cons, List.foldl_nil]

/-- At a place is the text of an output that belongs there, if there is one, or else what was there. -/
theorem overwritten_cases (w : Workspace) (outputs : List Output) (place : Tree.Place) :
    (∃ o ∈ outputs, w.placeOf o.path = place ∧ w.overwritten outputs place = some o.content.toUTF8) ∨
      ((∀ o ∈ outputs, w.placeOf o.path ≠ place) ∧ w.overwritten outputs place = w.bytesAt? place) := by
  -- from the back, because the last output at a place is the one that stays
  induction outputs using List.reverseRecOn with
  | nil => exact .inr ⟨fun o ho => absurd ho List.not_mem_nil, rfl⟩
  | append_singleton outputs o ih =>
    rw [overwritten_concat]
    by_cases ho : place = w.placeOf o.path
    · rw [if_pos ho]
      exact .inl ⟨o, List.mem_concat_self, ho.symm, rfl⟩
    · rw [if_neg ho]
      rcases ih with ⟨o', ho', hplace, hbytes⟩ | ⟨helsewhere, hbytes⟩
      · exact .inl ⟨o', List.mem_append_left _ ho', hplace, hbytes⟩
      · refine .inr ⟨fun o' ho' => ?_, hbytes⟩
        rcases List.mem_append.mp ho' with ho' | ho'
        · exact helsewhere o' ho'
        · rw [List.mem_singleton.mp ho']
          exact fun heq => ho heq.symm

/-- Outputs **were written**, and no other file was touched. -/
structure Wrote (w w' : Workspace) (written : List Output) : Prop where
  keeps : Keeps w w'
  located : ∀ o ∈ written, w'.locate o.path = .ok (w.placeOf o.path)
  files : ∀ place, w'.bytesAt? place = w.overwritten written place

namespace Wrote

variable {w w' w'' : Workspace} {written : List Output}

theorem nil (hkeeps : Keeps w w') (hfiles : SameFiles w w') : Wrote w w' [] :=
  ⟨hkeeps, fun _ h => absurd h List.not_mem_nil, hfiles⟩

theorem sameFiles (h : Wrote w w' []) : SameFiles w w' := h.files

theorem append {written' : List Output} (h : Wrote w w' written)
    (h' : Wrote w' w'' written') : Wrote w w'' (written ++ written') where
  keeps := h.keeps.trans h'.keeps
  located o ho := by
    rcases List.mem_append.mp ho with ho | ho
    · exact h'.keeps.locate (h.located o ho)
    · rw [h'.located o ho, h.keeps.placeOf]
  files place := by
    rw [h'.files place]
    unfold overwritten
    rw [List.foldl_append, h.files place]
    simp only [h.keeps.placeOf]
    rfl

/-- An output that alone belongs at its place holds its text. -/
theorem read_output (h : Wrote w w' written) {o : Output} (ho : o ∈ written)
    (halone : ∀ o' ∈ written, w.placeOf o'.path = w.placeOf o.path → o' = o) :
    w'.read o.path = .ok o.content.toUTF8 := by
  rw [read_eq_ok_iff, h.keeps.placeOf, h.files]
  refine ⟨h.located o ho, ?_⟩
  rcases overwritten_cases w written (w.placeOf o.path) with ⟨o', ho', hplace, hbytes⟩ | ⟨hnone, -⟩
  · rw [hbytes, halone o' ho' hplace]
  · exact absurd rfl (hnone o ho)

theorem bytesAt?_elsewhere (h : Wrote w w' written) {place : Tree.Place}
    (helsewhere : ∀ o ∈ written, w.placeOf o.path ≠ place) : w'.bytesAt? place = w.bytesAt? place := by
  rw [h.files]
  rcases overwritten_cases w written place with ⟨o, ho, hplace, -⟩ | ⟨-, hbytes⟩
  · exact absurd hplace (helsewhere o ho)
  · exact hbytes

/-- A file where no output belongs reads the same. -/
theorem read_elsewhere (h : Wrote w w' written) {path : Path} {bytes : ByteArray}
    (hread : w.read path = .ok bytes)
    (helsewhere : ∀ o ∈ written, w.placeOf o.path ≠ w.placeOf path) : w'.read path = .ok bytes := by
  obtain ⟨hlocate, hbytes⟩ := read_eq_ok_iff.mp hread
  rw [read_eq_ok_iff, h.keeps.placeOf, h.bytesAt?_elsewhere helsewhere]
  exact ⟨h.keeps.locate hlocate, hbytes⟩

end Wrote

/-- **One write.** An output is written, or the files are as before. -/
theorem writeOutput_spec (w : Workspace) {o : Output} (hparts : o.path.parts ≠ []) :
    ((w.writeOutput o).2 = .ok () ∧ Wrote w (w.writeOutput o).1 [o]) ∨
      ∃ fault, (w.writeOutput o).2 = .error fault ∧ Wrote w (w.writeOutput o).1 [] := by
  have habove := makeDirs_spec w o.path.parent
  unfold writeOutput
  split
  · rename_i w₁ fault hdirs
    rw [hdirs] at habove
    exact .inr ⟨fault, rfl, .nil habove.1 habove.2⟩
  · rename_i w₁ hdirs
    rw [hdirs] at habove
    split
    · rename_i fault hwrite
      exact .inr ⟨fault, rfl, .nil habove.1 habove.2⟩
    · rename_i w₂ hwrite
      obtain ⟨hkeeps, hlocate, hfiles⟩ := write_spec hwrite hparts
      refine .inl ⟨rfl, habove.1.trans hkeeps, fun o' ho' => ?_, fun place => ?_⟩
      · rw [List.mem_singleton.mp ho', ← habove.1.placeOf]
        exact hkeeps.locate hlocate
      · rw [hfiles place, habove.1.placeOf, habove.2 place]
        rfl

/-- A run **stopped at** an output that could not be written, after others were. -/
def StoppedAt (w w' : Workspace) (written : List Output) (failed : Output) (fault : Fault) : Prop :=
  ∃ w₁ diskFault, Wrote w w₁ written ∧ w₁.writeOutput failed = (w', .error diskFault) ∧
    fault = .crash (.disk diskFault)

theorem writeOutputs_cons_of_error {w w' : Workspace} {o : Output} {fault : DiskFault}
    (h : w.writeOutput o = (w', .error fault)) (rest : List Output) :
    w.writeOutputs (o :: rest) = (w', .stop (.crash (.disk fault))) := by
  rw [writeOutputs, h]

theorem writeOutputs_cons_of_ok {w w' : Workspace} {o : Output}
    (h : w.writeOutput o = (w', .ok ())) (rest : List Output) :
    w.writeOutputs (o :: rest) =
      ((w'.writeOutputs rest).1, (w'.writeOutputs rest).2.say [.wrote o.path]) := by
  rw [writeOutputs, h]

/-- **All writes.** Either every output is written, or the run stops at one of them, and then just
those before it are. -/
theorem writeOutputs_spec (w : Workspace) {outputs : List Output}
    (hparts : ∀ o ∈ outputs, o.path.parts ≠ []) :
    ((w.writeOutputs outputs).2.outcome = .ok () ∧ Wrote w (w.writeOutputs outputs).1 outputs) ∨
      ∃ written failed rest fault, outputs = written ++ failed :: rest ∧
        (w.writeOutputs outputs).2.outcome = .error fault ∧
        StoppedAt w (w.writeOutputs outputs).1 written failed fault := by
  induction outputs generalizing w with
  | nil => exact .inl ⟨rfl, .nil (.refl w) (.refl w)⟩
  | cons o rest ih =>
    have hstep := writeOutput_spec w (hparts o List.mem_cons_self)
    rcases hwrite : w.writeOutput o with ⟨w₁, diskFault | ⟨⟩⟩
    · rw [writeOutputs_cons_of_error hwrite]
      exact .inr ⟨[], o, rest, _, rfl, rfl, w, diskFault, .nil (.refl w) (.refl w), hwrite, rfl⟩
    · rw [hwrite] at hstep
      have hwrote : Wrote w w₁ [o] := by
        rcases hstep with ⟨-, hwrote⟩ | ⟨fault, hfault, -⟩
        · exact hwrote
        · cases hfault
      rw [writeOutputs_cons_of_ok hwrite]
      rcases ih w₁ fun o' ho' => hparts o' (List.mem_cons_of_mem o ho') with
        ⟨hok, hrest⟩ | ⟨written, failed, rest', fault, rfl, herror, w₂, diskFault, hrest, hfailed⟩
      · exact .inl ⟨hok, hwrote.append hrest⟩
      · exact .inr ⟨o :: written, failed, rest', fault, rfl, herror, w₂, diskFault,
          hwrote.append hrest, hfailed⟩

/-! ## Whole runs -/

end Workspace

theorem renderTarget_eq_ok_iff {target : Target} {settings : Settings} {c : Catalog} {text : String} :
    renderTarget target settings c = .ok text ↔ target.emit settings.defaultLocale c = .ok text := by
  unfold renderTarget
  cases target.emit settings.defaultLocale c <;> simp [Except.mapError]

/-- The outputs are the texts of both targets, the Dart library before the TypeScript module. -/
theorem render_eq_ok {settings : Settings} {c : Catalog} {outputs : List Output}
    (h : render settings c = .ok outputs) :
    ∃ dart typeScript, Target.dart.emit settings.defaultLocale c = .ok dart ∧
      Target.typeScript.emit settings.defaultLocale c = .ok typeScript ∧
      outputs = [⟨settings.dartOut, dart⟩, ⟨settings.typeScriptOut, typeScript⟩] := by
  unfold render at h
  split at h
  · cases h
  · rename_i dart hdart
    cases htypeScript : renderTarget .typeScript settings c with
    | error fault =>
      rw [htypeScript] at h
      cases h
    | ok typeScript =>
      rw [htypeScript] at h
      cases h
      exact ⟨dart, typeScript, renderTarget_eq_ok_iff.mp hdart,
        renderTarget_eq_ok_iff.mp htypeScript, rfl⟩

namespace Workspace

theorem prepare_eq_ok_iff {w : Workspace} {settings : Settings} {p : Prepared} :
    (w.prepare settings).outcome = .ok p ↔
      (w.compile settings).outcome = .ok p.catalog ∧ render settings p.catalog = .ok p.outputs := by
  unfold prepare
  rw [Report.andThen_eq_ok_iff]
  constructor
  · rintro ⟨c, hc, hp⟩
    cases hrender : render settings c with
    | error fault =>
      rw [hrender] at hp
      cases hp
    | ok outputs =>
      rw [hrender] at hp
      cases hp
      exact ⟨hc, hrender⟩
  · rintro ⟨hc, hrender⟩
    refine ⟨p.catalog, hc, ?_⟩
    rw [hrender]
    rfl

theorem parts_of_prepare {w : Workspace} {settings : Settings} {p : Prepared}
    (ha : settings.Accepted) (h : (w.prepare settings).outcome = .ok p) :
    ∀ o ∈ p.outputs, o.path.parts ≠ [] := by
  obtain ⟨dart, typeScript, -, -, houtputs⟩ := render_eq_ok (prepare_eq_ok_iff.mp h).2
  rw [houtputs]
  intro o ho
  rcases List.mem_pair.mp ho with rfl | rfl
  · exact ha.dartOut_parts
  · exact ha.typeScriptOut_parts

theorem generate_of_prepare_ok {w : Workspace} {settings : Settings} {p : Prepared}
    (h : (w.prepare settings).outcome = .ok p) :
    (w.generate settings).1 = (w.writeOutputs p.outputs).1 ∧
      (w.generate settings).2.outcome = (w.writeOutputs p.outputs).2.outcome.map fun _ => p := by
  unfold generate
  dsimp only
  rw [h]
  refine ⟨rfl, ?_⟩
  dsimp only [Report.andThen, Report.say]
  cases (w.writeOutputs p.outputs).2.outcome <;> rfl

theorem generate_of_prepare_error {w : Workspace} {settings : Settings} {fault : Fault}
    (h : (w.prepare settings).outcome = .error fault) :
    w.generate settings = (w, w.prepare settings) := by
  unfold generate
  dsimp only
  rw [h]

/-- **A run that succeeds** has prepared both outputs and has written them. -/
theorem generate_of_ok {w : Workspace} {settings : Settings} {p : Prepared} (ha : settings.Accepted)
    (h : (w.generate settings).2.outcome = .ok p) :
    (w.prepare settings).outcome = .ok p ∧ Wrote w (w.generate settings).1 p.outputs := by
  cases hprepare : (w.prepare settings).outcome with
  | error fault =>
    rw [generate_of_prepare_error hprepare, hprepare] at h
    cases h
  | ok p' =>
    obtain ⟨hworkspace, houtcome⟩ := generate_of_prepare_ok hprepare
    rw [houtcome] at h
    rw [hworkspace]
    rcases writeOutputs_spec w (parts_of_prepare ha hprepare) with
      ⟨hok, hwrote⟩ | ⟨-, -, -, fault, -, herror, -⟩
    · rw [hok] at h
      cases h
      exact ⟨rfl, hwrote⟩
    · rw [herror] at h
      cases h

/-- A directory with one bundle, which has no texts, and what is beside it. -/
def oneBundle (beside : List (String × Tree)) : Workspace where
  tree := .dir (("lib", .dir [("l10n", .dir [("app_en.arb", .file "\x7b\x7d".toUTF8)])]) :: beside)
  base := []

theorem accepted_default : Settings.Accepted {} := ⟨[], rfl⟩

end Workspace

end Phrasebook
