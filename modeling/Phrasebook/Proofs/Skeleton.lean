import Phrasebook.Proofs.Lines

/-!
# The skeleton of generated code

What is left of a text when its string literals are emptied. A reader that only knows quotes and
backslashes is back in code behind every piece that is written, so the skeleton of a file is made piece
by piece; and a literal leaves its two quotes there, whatever it holds. Two catalogs with the same
names and as many locales therefore have one skeleton.

## Contents
- `Place`, `skeleton`: the reader, and what it leaves of a text
- `Place.skeleton_quoteChars`: what is left of a literal
- `Piece.IsClosed`, `skeleton_text`: the skeleton of a file, piece by piece
- `Accessor.outline`: what of an accessor stands in code
- `Target.emit_same_skeleton`: catalogs with the same names have the same skeleton
-/

namespace Phrasebook

/-! ## The reader -/

/-- Where a reader of quotes and backslashes stands. -/
inductive Place where
  /-- Outside of all literals. -/
  | code
  /-- In a literal. -/
  | literal
  /-- In a literal, right after a backslash. -/
  | escape
  deriving DecidableEq, Repr

namespace Place

/-- Where a character leads. -/
def step : Place → Char → Place
  | code, c => if c = '\'' then literal else code
  | literal, c => if c = '\'' then code else if c = '\\' then escape else literal
  | escape, _ => literal

/-- Where characters lead. -/
def after (place : Place) (cs : List Char) : Place := cs.foldl step place

/-- Whether a character is left where literals are emptied. -/
def shows : Place → Char → Bool
  | code, _ => true
  | literal, c => c = '\''
  | escape, _ => false

/-- What is left of characters where literals are emptied. -/
def skeleton : Place → List Char → List Char
  | _, [] => []
  | place, c :: cs =>
    if place.shows c then c :: (place.step c).skeleton cs else (place.step c).skeleton cs

theorem after_append (place : Place) (cs ds : List Char) :
    place.after (cs ++ ds) = (place.after cs).after ds :=
  List.foldl_append

theorem skeleton_append (place : Place) (cs ds : List Char) :
    place.skeleton (cs ++ ds) = place.skeleton cs ++ (place.after cs).skeleton ds := by
  induction cs generalizing place with
  | nil => rfl
  | cons c cs ih =>
    simp only [List.cons_append, skeleton, ih]
    split
    · rfl
    · rfl

/-! ## Literals and code without quotes -/

variable {target : Target}

theorem literal_plain {cs : List Char} (h : ∀ c ∈ cs, target.IsPlain c) :
    literal.after cs = literal ∧ literal.skeleton cs = [] := by
  induction cs with
  | nil => exact ⟨rfl, rfl⟩
  | cons c cs ih =>
    obtain ⟨hquote, hbackslash, -⟩ := h c List.mem_cons_self
    have hstep : literal.step c = literal := by simp [step, hquote, hbackslash]
    have hrest := ih fun d hd => h d (List.mem_cons_of_mem c hd)
    simpa [after, skeleton, shows, hquote, hstep] using hrest

/-- An escaped character leaves the reader in the literal, and nothing is left of it. -/
theorem literal_escapeChar (target : Target) (c : Char) :
    literal.after (target.escapeChar c) = literal ∧ literal.skeleton (target.escapeChar c) = [] := by
  rcases target.escapeChar_cases c with ⟨heq, hplain⟩ | ⟨d, es, heq, -, hplain, -⟩
  · rw [heq]
    exact literal_plain (List.forall_mem_singleton.mpr hplain)
  · rw [heq]
    -- the backslash and the character after it lead back into the literal, without a trace
    have hrest := literal_plain hplain
    exact hrest

theorem literal_escapeChars (target : Target) (cs : List Char) :
    literal.after (target.escapeChars cs) = literal ∧ literal.skeleton (target.escapeChars cs) = [] := by
  induction cs with
  | nil => exact ⟨rfl, rfl⟩
  | cons c cs ih =>
    obtain ⟨hafter, hskeleton⟩ := literal_escapeChar target c
    unfold Target.escapeChars at ih ⊢
    rw [List.flatMap_cons, after_append, skeleton_append, hafter, hskeleton]
    exact ih

/-- **A literal is closed**, and its quotes are all that is left of it. -/
theorem skeleton_quoteChars (target : Target) (cs : List Char) :
    code.after (target.quoteChars cs) = code ∧ code.skeleton (target.quoteChars cs) = ['\'', '\''] := by
  obtain ⟨hafter, hskeleton⟩ := literal_escapeChars target cs
  have hafter' : code.after (target.quoteChars cs) =
      (literal.after (target.escapeChars cs)).after ['\''] := after_append literal _ _
  have hskeleton' : code.skeleton (target.quoteChars cs) =
      '\'' :: literal.skeleton (target.escapeChars cs ++ ['\'']) := rfl
  -- between the quotes the reader never leaves the literal, so the last one closes it
  rw [hafter', hskeleton', skeleton_append, hafter, hskeleton]
  exact ⟨rfl, rfl⟩

theorem after_unquoted {cs : List Char} (h : ∀ c ∈ cs, c ≠ '\'') : code.after cs = code := by
  induction cs with
  | nil => rfl
  | cons c cs ih =>
    have hstep : code.step c = code := if_neg (h c List.mem_cons_self)
    unfold after at ih ⊢
    rw [List.foldl_cons, hstep]
    exact ih fun d hd => h d (List.mem_cons_of_mem c hd)

end Place

/-- **The skeleton** of a text: the text with every literal, from a quote to the next one that no
backslash escapes, replaced by an empty one. -/
def skeleton (text : String) : String := String.ofList (Place.code.skeleton text.toList)

/-! ## Lines, piece by piece -/

namespace Source

variable {target : Target}

/-- A piece is **closed** when a reader that starts in code is back in code behind it; a literal always
is. -/
def Piece.IsClosed : Piece → Prop
  | .code s => Place.code.after s.toList = .code
  | .literal _ => True

/-- What a piece leaves in a skeleton. -/
def Piece.bones : Piece → List Char
  | .code s => Place.code.skeleton s.toList
  | .literal _ => ['\'', '\'']

/-- What a line leaves in a skeleton. -/
def lineBones (line : Line) : List Char := line.flatMap Piece.bones

theorem Piece.IsBare.isClosed {piece : Piece} (h : piece.IsBare) : piece.IsClosed := by
  cases piece with
  | code s => exact Place.after_unquoted fun c hc => (h c hc).1
  | literal s => trivial

theorem isClosed_ofList {cs : List Char} (h : Place.code.after cs = .code) :
    (Piece.code (String.ofList cs)).IsClosed := by
  unfold Piece.IsClosed
  simp only [String.toList_ofList]
  exact h

theorem isClosed_append {s t : String} (hs : (Piece.code s).IsClosed) :
    (Piece.code (s ++ t)).IsClosed ↔ (Piece.code t).IsClosed := by
  have hs' : Place.code.after s.toList = .code := hs
  simp only [Piece.IsClosed, String.toList_append, Place.after_append, hs']

theorem skeleton_piece (target : Target) {piece : Piece} (h : piece.IsClosed) :
    Place.code.after (piece.chars target) = .code ∧
      Place.code.skeleton (piece.chars target) = piece.bones := by
  cases piece with
  | code s => exact ⟨h, rfl⟩
  | literal s => exact Place.skeleton_quoteChars target s.toList

/-- **The skeleton of a line** is made piece by piece, and the reader is back in code at its end. -/
theorem skeleton_line (target : Target) {line : Line} (h : ∀ piece ∈ line, piece.IsClosed) :
    Place.code.after (lineBody target line) = .code ∧
      Place.code.skeleton (lineBody target line) = lineBones line := by
  induction line with
  | nil => exact ⟨rfl, rfl⟩
  | cons piece rest ih =>
    obtain ⟨hafter, hskeleton⟩ := skeleton_piece target (h piece List.mem_cons_self)
    obtain ⟨hafter', hskeleton'⟩ := ih fun p hp => h p (List.mem_cons_of_mem piece hp)
    rw [lineBody_cons, Place.after_append, Place.skeleton_append, hafter, hskeleton, hafter',
      hskeleton']
    exact ⟨rfl, rfl⟩

theorem skeleton_text (target : Target) {lines : List Line}
    (h : ∀ line ∈ lines, ∀ piece ∈ line, piece.IsClosed) :
    Place.code.skeleton (lines.flatMap (lineChars target)) =
      lines.flatMap fun line => lineBones line ++ ['\n'] := by
  induction lines with
  | nil => rfl
  | cons line rest ih =>
    obtain ⟨hafter, hskeleton⟩ := skeleton_line target (h line List.mem_cons_self)
    rw [List.flatMap_cons, List.flatMap_cons, Place.skeleton_append,
      ← ih fun l hl => h l (List.mem_cons_of_mem line hl), lineChars_eq, Place.skeleton_append,
      Place.after_append, hafter, hskeleton]
    rfl

end Source

open Source

namespace Target

theorem isClosed_helperLines (target : Target) :
    ∀ line ∈ target.helperLines, ∀ piece ∈ line, piece.IsClosed := by
  cases target with
  | dart =>
    refine forall_mem_codeLines ?_
    simp only [List.forall_mem_cons]
    and_intros
    all_goals first
      | exact isClosed_ofList (by decide +kernel)
      | exact List.forall_mem_nil _
  | typeScript =>
    refine forall_mem_codeLines ?_
    simp (disch := exact isClosed_ofList (by decide +kernel)) only [List.forall_mem_cons,
      isClosed_append]
    and_intros
    all_goals first
      | exact isClosed_ofList (by decide +kernel)
      | exact List.forall_mem_nil _

theorem isClosed_lines (target : Target) (locales : List String) (defaultLocale : String)
    {accessors : List Accessor} (hnamed : ∀ a ∈ accessors, a.IsNamed) :
    ∀ line ∈ target.lines locales defaultLocale accessors, ∀ piece ∈ line, piece.IsClosed := by
  intro line hline piece hpiece
  rcases isBare_or_mem_helperLines hnamed hline with hbare | hhelper
  · exact (hbare piece hpiece).isClosed
  · exact target.isClosed_helperLines line hhelper piece hpiece

end Target

/-! ## What stands in code -/

/-- What of a parameter stands in code: its identifier and, in TypeScript, whether that alone binds
it. -/
def Parameter.outline (target : Target) (p : Parameter) : String × Bool :=
  (p.identifier, target = .typeScript && p.identifier = p.name)

/-- What of an accessor stands in code: its member, and that of its parameters. -/
def Accessor.outline (target : Target) (a : Accessor) : String × List (String × Bool) :=
  (a.member, a.parameters.map (Parameter.outline target))

/-- What determines one map of a list determines every map that factors through it. -/
theorem map_eq_of_map_eq {α β γ : Type} {f : α → β} {g : α → γ} (h : ∀ x y, f x = f y → g x = g y)
    {xs ys : List α} (heq : xs.map f = ys.map f) : xs.map g = ys.map g := by
  induction xs generalizing ys with
  | nil =>
    rw [List.map_nil, eq_comm, List.map_eq_nil_iff] at heq
    rw [heq]
  | cons x xs ih =>
    cases ys with
    | nil => simp at heq
    | cons y ys =>
      obtain ⟨hhead, htail⟩ := List.cons.inj heq
      rw [List.map_cons, List.map_cons, h x y hhead, ih htail]

/-- Of a map that is constant only the length of a list matters. -/
theorem map_eq_of_length_eq {α β : Type} {f : α → β} (h : ∀ x y, f x = f y) {xs ys : List α}
    (heq : xs.length = ys.length) : xs.map f = ys.map f := by
  refine map_eq_of_map_eq (f := fun _ => ()) (fun x y _ => h x y) ?_
  rw [List.map_const', List.map_const', heq]

namespace Source

theorem lineBones_append (line line' : Line) :
    lineBones (line ++ line') = lineBones line ++ lineBones line' := List.flatMap_append

theorem lineBones_cons (piece : Piece) (line : Line) :
    lineBones (piece :: line) = piece.bones ++ lineBones line := rfl

/-- What lists leave is determined by what their groups leave. -/
theorem lineBones_listed {separator : String} {groups groups' : List (List Piece)}
    (h : groups.map lineBones = groups'.map lineBones) :
    lineBones (listed separator groups) = lineBones (listed separator groups') := by
  fun_induction listed separator groups generalizing groups' with
  | case1 =>
    rw [List.map_nil, eq_comm, List.map_eq_nil_iff] at h
    rw [h]
    rfl
  | case2 group =>
    obtain ⟨group', rfl, heq⟩ := List.map_eq_singleton_iff.mp h.symm
    exact heq.symm
  | case3 group rest hrest ih =>
    cases groups' with
    | nil => simp at h
    | cons group' rest' =>
      obtain ⟨hhead, htail⟩ := List.cons.inj h
      -- the other list goes on as well, so both have a separator here
      have hne : rest' ≠ [] := by
        rintro rfl
        exact hrest (List.map_eq_nil_iff.mp htail)
      rw [listed_cons hne, lineBones_append, lineBones_append, lineBones_cons,
        lineBones_cons, hhead, ih htail]

end Source

/-! ## The lines of the targets -/

theorem parameters_isEmpty_of_outline {target : Target} {a b : Accessor}
    (h : a.outline target = b.outline target) : a.parameters.isEmpty = b.parameters.isEmpty := by
  have hempty := congrArg List.isEmpty (Prod.mk.inj h).2
  rw [List.isEmpty_map, List.isEmpty_map] at hempty
  exact hempty

/-- What a list of parameters leaves is determined by their outlines. -/
theorem lineBones_parameters {target : Target} {a b : Accessor} {f : Parameter → List Piece}
    (separator : String) (h : a.outline target = b.outline target)
    (hf : ∀ p q, p.outline target = q.outline target → lineBones (f p) = lineBones (f q)) :
    lineBones (listed separator (a.parameters.map f)) =
      lineBones (listed separator (b.parameters.map f)) := by
  refine lineBones_listed ?_
  rw [List.map_map, List.map_map]
  exact map_eq_of_map_eq hf (Prod.mk.inj h).2

theorem Dart.lineBones_accessorLines {a b : Accessor} (h : a.outline .dart = b.outline .dart) :
    (accessorLines a).map lineBones = (accessorLines b).map lineBones := by
  have hmember : a.member = b.member := (Prod.mk.inj h).1
  have hrequired := lineBones_parameters
    (f := fun p => [.code ("required Object? " ++ p.identifier)]) ", " h
    fun p q hpq => by rw [(Prod.mk.inj hpq).1]
  have hbindings := lineBones_parameters
    (f := fun p => [.literal p.name, .code (": " ++ p.identifier)]) ", " h fun p q hpq => by
      rw [(Prod.mk.inj hpq).1]
      rfl
  unfold accessorLines
  rw [hmember, parameters_isEmpty_of_outline h]
  split
  · rfl
  · simp only [List.map_cons, List.cons_append, lineBones_cons, lineBones_append, hrequired, hbindings]
    rfl

theorem TypeScript.lineBones_binding {p q : Parameter}
    (h : p.outline .typeScript = q.outline .typeScript) :
    lineBones (binding p) = lineBones (binding q) := by
  obtain ⟨hidentifier, hbare⟩ := Prod.mk.inj h
  simp only [decide_true, Bool.true_and, decide_eq_decide] at hbare
  unfold binding
  -- both are bound by one name, or both by a literal and a name
  by_cases hp : p.identifier = p.name
  · rw [if_pos hp, if_pos (hbare.mp hp), hidentifier]
  · rw [if_neg hp, if_neg (mt hbare.mpr hp), hidentifier]
    rfl

theorem TypeScript.lineBones_accessorLines {a b : Accessor}
    (h : a.outline .typeScript = b.outline .typeScript) :
    (accessorLines a).map lineBones = (accessorLines b).map lineBones := by
  have hmember : a.member = b.member := (Prod.mk.inj h).1
  have hbindings := lineBones_parameters ", " h fun p q => lineBones_binding
  have htypes := lineBones_parameters
    (f := fun p => [.literal p.name, .code ": unknown"]) "; " h fun p q _ => rfl
  unfold accessorLines
  rw [hmember, parameters_isEmpty_of_outline h]
  split
  · rfl
  · simp only [List.map_cons, List.cons_append, lineBones_cons, lineBones_append, hbindings, htypes]
    rfl

/-- A row leaves the same, whatever it holds. -/
theorem lineBones_keyLines {a b : Accessor} (h : a.rows.length = b.rows.length) :
    (Dart.keyLines a).map lineBones = (Dart.keyLines b).map lineBones := by
  have hrows : a.rows.map (lineBones ∘ Dart.rowLine) = b.rows.map (lineBones ∘ Dart.rowLine) :=
    map_eq_of_length_eq (fun _ _ => rfl) h
  simp only [Dart.keyLines, List.map_cons, List.map_append, List.map_map, List.cons_append, hrows]
  rfl

theorem lineBones_localeList {locales locales' : List String} (h : locales.length = locales'.length) :
    lineBones (Dart.localeList locales) = lineBones (Dart.localeList locales') := by
  refine lineBones_listed ?_
  rw [List.map_map, List.map_map]
  exact map_eq_of_length_eq (fun _ _ => rfl) h

theorem TypeScript.lineBones_unionLines {keys keys' : List String} (h : keys.length = keys'.length) :
    (unionLines keys).map lineBones = (unionLines keys').map lineBones := by
  match keys, keys', h with
  | [], [], _ => rfl
  | [_], [_], _ => rfl
  | k₁ :: k₂ :: ks, l₁ :: l₂ :: ls, h =>
    simp only [unionLines, List.cons_append, List.map_append, List.map_map, List.map_cons]
    have hkeys := map_eq_of_length_eq
      (f := lineBones ∘ fun key => [.code "  | ", .literal key]) (fun _ _ => rfl)
      (Nat.succ.inj (Nat.succ.inj h))
    rw [hkeys]
    rfl

/-! ## The file -/

section File

variable {target : Target} {accessors accessors' : List Accessor}

/-- What the lines of accessors leave, when what determines it is the same. -/
theorem lineBones_flatMap {γ : Type} {f : Accessor → List Line} {g : Accessor → γ}
    (hf : ∀ a b, g a = g b → (f a).map lineBones = (f b).map lineBones)
    (h : accessors.map g = accessors'.map g) :
    (accessors.flatMap f).map lineBones = (accessors'.flatMap f).map lineBones := by
  rw [List.map_flatMap, List.map_flatMap, List.flatMap_def, List.flatMap_def, map_eq_of_map_eq hf h]

/-- **What the lines of a file leave** is determined by the number of locales and by what of the
accessors stands in code. -/
theorem lineBones_lines {locales locales' : List String} (defaultLocale defaultLocale' : String)
    (hlocales : locales.length = locales'.length)
    (houtline : accessors.map (Accessor.outline target) = accessors'.map (Accessor.outline target))
    (hrows : accessors.map (fun a => a.rows.length) = accessors'.map (fun a => a.rows.length)) :
    (target.lines locales defaultLocale accessors).map lineBones =
      (target.lines locales' defaultLocale' accessors').map lineBones := by
  have hlist := lineBones_localeList hlocales
  have htable := lineBones_flatMap (fun a b => lineBones_keyLines) hrows
  cases target with
  | dart =>
    have hhead : (Dart.headLines locales defaultLocale).map lineBones =
        (Dart.headLines locales' defaultLocale').map lineBones := by
      simp only [Dart.headLines, List.map_cons, List.cons_append, lineBones_cons, lineBones_append,
        hlist]
      rfl
    have hmembers := lineBones_flatMap (fun a b => Dart.lineBones_accessorLines) houtline
    simp only [Target.lines, Dart.lines, Dart.tableLines, List.map_append, List.map_cons, hhead, htable,
      hmembers]
  | typeScript =>
    have hlist' : lineBones (TypeScript.localeList locales) =
        lineBones (TypeScript.localeList locales') := hlist
    have hhead : (TypeScript.headLines locales defaultLocale).map lineBones =
        (TypeScript.headLines locales' defaultLocale').map lineBones := by
      simp only [TypeScript.headLines, List.map_cons, List.cons_append, lineBones_cons,
        lineBones_append, hlist']
      rfl
    have hunion : (TypeScript.unionLines (accessors.map Accessor.key)).map lineBones =
        (TypeScript.unionLines (accessors'.map Accessor.key)).map lineBones := by
      refine TypeScript.lineBones_unionLines ?_
      have hlength := congrArg List.length houtline
      rw [List.length_map, List.length_map] at hlength ⊢
      exact hlength
    have htable' : (accessors.flatMap TypeScript.keyLines).map lineBones =
        (accessors'.flatMap TypeScript.keyLines).map lineBones := htable
    have hmembers := lineBones_flatMap (fun a b => TypeScript.lineBones_accessorLines) houtline
    simp only [Target.lines, TypeScript.lines, TypeScript.tableLines, List.map_append, List.map_cons,
      hhead, hunion, htable', hmembers]

end File

namespace Target

variable {target : Target}

/-- Every accessor of a plan has a row for each locale. -/
theorem rows_length_plan {c : Catalog} {accessors : List Accessor} (h : target.plan c = .ok accessors) :
    accessors.map (fun a => a.rows.length) = List.replicate accessors.length c.locales.length := by
  rw [← List.map_const']
  refine List.map_congr_left fun a ha => ?_
  obtain ⟨e, -, -, -, hrows⟩ := mem_plan h ha
  rw [hrows, List.length_map]

/-- The skeleton of a file and of each of its lines. -/
theorem skeleton_lines (target : Target) (locales : List String) (defaultLocale : String)
    {accessors : List Accessor} (hnamed : ∀ a ∈ accessors, a.IsNamed) :
    skeleton (text target (target.lines locales defaultLocale accessors)) =
        String.ofList (((target.lines locales defaultLocale accessors).map lineBones).flatMap
          (· ++ ['\n'])) ∧
      (target.codeLines (text target (target.lines locales defaultLocale accessors))).map
          Place.code.skeleton =
        (target.lines locales defaultLocale accessors).map lineBones ++ [[]] := by
  have hclosed := isClosed_lines target locales defaultLocale hnamed
  constructor
  · unfold skeleton text
    rw [String.toList_ofList, skeleton_text target hclosed, List.flatMap_map]
  · rw [target.codeLines_lines locales defaultLocale hnamed, List.map_append, List.map_map]
    refine congrArg (· ++ [[]]) (List.map_congr_left fun line hline => ?_)
    exact (skeleton_line target (hclosed line hline)).2

/-- **No text, key or locale reaches the code.** Two catalogs with as many locales, whose accessors
have the same members and the same parameters, are written as files with the same skeleton, however
their keys, locales, texts and placeholders differ; and the files agree line by line, so that nothing
adds, removes or splits a line of code. -/
theorem emit_same_skeleton {c c' : Catalog} {asked asked' file file' : String}
    {accessors accessors' : List Accessor}
    (h : target.emit asked c = .ok file) (h' : target.emit asked' c' = .ok file')
    (hplan : target.plan c = .ok accessors) (hplan' : target.plan c' = .ok accessors')
    (hlocales : c.locales.length = c'.locales.length)
    (houtline : accessors.map (Accessor.outline target) = accessors'.map (Accessor.outline target)) :
    skeleton file = skeleton file' ∧
      (target.codeLines file).map Place.code.skeleton =
        (target.codeLines file').map Place.code.skeleton := by
  -- a catalog has one plan, which its file was made from
  obtain ⟨planned, hplanned, rfl⟩ := emit_eq_ok_iff.mp h
  obtain ⟨planned', hplanned', rfl⟩ := emit_eq_ok_iff.mp h'
  obtain rfl : accessors = planned := Except.ok.inj (hplan.symm.trans hplanned)
  obtain rfl : accessors' = planned' := Except.ok.inj (hplan'.symm.trans hplanned')
  have hlength := congrArg List.length houtline
  rw [List.length_map, List.length_map] at hlength
  -- the number of locales stands in the code as the number of rows of every key
  have hrows : accessors.map (fun a => a.rows.length) = accessors'.map (fun a => a.rows.length) := by
    rw [rows_length_plan hplan, rows_length_plan hplan', hlength, hlocales]
  have hbones := lineBones_lines (c.defaultLocale asked) (c'.defaultLocale asked') hlocales houtline
    hrows
  obtain ⟨hskeleton, hlines⟩ := skeleton_lines target c.locales (c.defaultLocale asked)
    (isNamed_plan hplan)
  obtain ⟨hskeleton', hlines'⟩ := skeleton_lines target c'.locales (c'.defaultLocale asked')
    (isNamed_plan hplan')
  rw [hskeleton, hskeleton', hlines, hlines', hbones]
  exact ⟨rfl, rfl⟩

/-- A catalog with nothing that code could be made of. -/
def harmless : Catalog :=
  (Catalog.ofLocales ["en"]).update "a.b" fun e => (e.setText "en" "Hello").declare ["x."]

/-- A catalog with quotes, backslashes, line ends and comments wherever a text may stand. -/
def hostile : Catalog :=
  (Catalog.ofLocales ["\\'"]).update "a'b" fun e => (e.setText "\\'" "');\n// \\").declare ["x'"]

theorem emit_same_skeleton_hostile :
    ∃ file file', typeScript.emit "en" harmless = .ok file ∧ typeScript.emit "'" hostile = .ok file' ∧
      skeleton file = skeleton file' ∧
      (typeScript.codeLines file).map Place.code.skeleton =
        (typeScript.codeLines file').map Place.code.skeleton := by
  obtain ⟨accessors, hplan⟩ : ∃ accessors, typeScript.plan harmless = .ok accessors := ⟨_, rfl⟩
  obtain ⟨accessors', hplan'⟩ : ∃ accessors, typeScript.plan hostile = .ok accessors := ⟨_, rfl⟩
  have houtline : (typeScript.plan harmless).map (List.map (Accessor.outline typeScript)) =
      (typeScript.plan hostile).map (List.map (Accessor.outline typeScript)) := by decide +kernel
  rw [hplan, hplan'] at houtline
  have hemit : typeScript.emit "en" harmless = .ok _ := emit_eq_ok_iff.mpr ⟨accessors, hplan, rfl⟩
  have hemit' : typeScript.emit "'" hostile = .ok _ := emit_eq_ok_iff.mpr ⟨accessors', hplan', rfl⟩
  exact ⟨_, _, hemit, hemit',
    emit_same_skeleton hemit hemit' hplan hplan' rfl (Except.ok.inj houtline)⟩

end Target

end Phrasebook
