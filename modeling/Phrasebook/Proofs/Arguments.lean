import Phrasebook.CommandLine.Arguments

/-!
# Arguments that are read

A command line that is read to its end falls into options, some with a value behind them, and arguments
that are neither. These are collected in order and nothing takes one back, so the first one collected is
the first of the command line; and no flag that was raised is lowered. The name of a flag is therefore
never overlooked: it raises the flag, unless it stands behind the mark that ends options, and then the
mark was collected.

## Contents
- `Arguments.Reads`: what reading to the end does, argument by argument
- `IsOption`, `AwaitsValue`, `Recognised`, `FirstUnrecognised`: command lines by the looks of their arguments
- `CollectsFirst`, `collectsFirst`: what is collected first
- `check_or_unknown`: the name of the flag that asks for a comparison
-/

namespace Phrasebook.CommandLine

/-- An argument that is no option, as it was written. -/
def Arg.leftover? : Arg → Option String
  | .positional s | .unknown s => some s
  | .marker => some "--"
  | .option .. => none

/-! ## Reading to the end -/

namespace Arguments

/-- Classed arguments **are read** to the end, on top of what was read before. -/
inductive Reads : Arguments → List Arg → Arguments → Prop where
  | done {a : Arguments} : Reads a [] a
  /-- An argument that is no option is collected. -/
  | leftover {a a' : Arguments} {x : Arg} {s : String} {rest : List Arg} (hx : x.leftover? = some s)
      (hrest : Reads (a.collect s) rest a') : Reads a (x :: rest) a'
  /-- Flags are raised. -/
  | flags {a a₁ a' : Arguments} {o : Opt} {isShort : Bool} {joined : Option String} {flags : List Flag}
      {rest : List Arg} (hparts : parts o isShort joined = .ok (flags, .flag))
      (hraise : a.raise flags = .ok a₁) (hrest : Reads a₁ rest a') :
      Reads a (.option o isShort joined :: rest) a'
  /-- An option takes the value that is joined to it. -/
  | joined {a a₁ a' : Arguments} {o : Opt} {isShort : Bool} {joined : Option String}
      {flags : List Flag} {v : Valued} {s : String} {rest : List Arg}
      (hparts : parts o isShort joined = .ok (flags, .joined v s))
      (hraise : a.raise flags = .ok a₁) (hrest : Reads (a₁.give v (.ofText s)) rest a') :
      Reads a (.option o isShort joined :: rest) a'
  /-- An option takes the argument behind it. -/
  | value {a a₁ a' : Arguments} {o : Opt} {isShort : Bool} {joined : Option String}
      {flags : List Flag} {v : Valued} {s : String} {rest : List Arg}
      (hparts : parts o isShort joined = .ok (flags, .open v))
      (hraise : a.raise flags = .ok a₁) (hrest : Reads (a₁.give v (.ofText s)) rest a') :
      Reads a (.option o isShort joined :: .positional s :: rest) a'

/-- What raising flags changes: those that ask for a comparison or for progress. -/
theorem raise_eq_ok {a a₁ : Arguments} {flags : List Flag} (h : a.raise flags = .ok a₁) :
    a₁.unknown = a.unknown ∧ (a.check = true ∨ .check ∈ flags → a₁.check = true) := by
  induction flags generalizing a with
  | nil =>
    cases h
    exact ⟨rfl, fun hcheck => hcheck.resolve_right List.not_mem_nil⟩
  | cons flag rest ih =>
    cases flag with
    | help => cases h
    | version => cases h
    | check =>
      obtain ⟨hunknown, hcheck⟩ := ih h
      exact ⟨hunknown, fun _ => hcheck (.inl rfl)⟩
    | verbose =>
      obtain ⟨hunknown, hcheck⟩ := ih h
      refine ⟨hunknown, fun hmem => hcheck ?_⟩
      simpa using hmem

/-- A flag that is answered at once ends the reading. -/
theorem raise_ne_arguments (a a' : Arguments) (flags : List Flag) :
    a.raise flags ≠ .error (.arguments a') := by
  induction flags generalizing a with
  | nil => intro h; cases h
  | cons flag rest ih =>
    intro h
    cases flag with
    | help => cases h
    | version => cases h
    | check => exact ih _ h
    | verbose => exact ih _ h

@[simp] theorem unknown_give (a : Arguments) (v : Valued) (given : Given) :
    (a.give v given).unknown = a.unknown := by
  cases v <;> rfl

@[simp] theorem check_give (a : Arguments) (v : Valued) (given : Given) :
    (a.give v given).check = a.check := by
  cases v <;> rfl

theorem reads_of_readArgs {a a' : Arguments} {args : List Arg} (h : a.readArgs args = .arguments a') :
    Reads a args a' := by
  fun_induction readArgs a args with
  | case1 a =>
    cases h
    exact .done
  | case2 a s rest ih => exact .leftover rfl (ih h)
  | case3 a rest ih => exact .leftover rfl (ih h)
  | case4 a s rest ih => exact .leftover rfl (ih h)
  | case5 => cases h
  | case6 a o isShort joined rest flags hparts reading hraise =>
    exact absurd (h ▸ hraise) (raise_ne_arguments a a' flags)
  | case7 a o isShort joined rest flags hparts a₁ hraise ih => exact .flags hparts hraise (ih h)
  | case8 a o isShort joined rest flags v s hparts reading hraise =>
    exact absurd (h ▸ hraise) (raise_ne_arguments a a' flags)
  | case9 a o isShort joined rest flags v s hparts a₁ hraise ih =>
    exact .joined hparts hraise (ih h)
  | case10 a o isShort joined flags v hparts s rest reading hraise =>
    exact absurd (h ▸ hraise) (raise_ne_arguments a a' flags)
  | case11 a o isShort joined flags v hparts s rest a₁ hraise ih =>
    exact .value hparts hraise (ih h)
  | case12 => cases h

namespace Reads

variable {a a' : Arguments} {args : List Arg}

/-- What was collected stays, and what is collected later comes behind it. -/
theorem unknown_prefix (h : Reads a args a') : a.unknown <+: a'.unknown := by
  induction h with
  | done => exact List.prefix_rfl
  | leftover hx hrest ih => exact (List.prefix_append _ _).trans ih
  | flags hparts hraise hrest ih => exact (raise_eq_ok hraise).1 ▸ ih
  | joined hparts hraise hrest ih =>
    rw [unknown_give, (raise_eq_ok hraise).1] at ih
    exact ih
  | value hparts hraise hrest ih =>
    rw [unknown_give, (raise_eq_ok hraise).1] at ih
    exact ih

/-- The flag that asks for a comparison is not lowered. -/
theorem check_of_check (h : Reads a args a') (hcheck : a.check = true) : a'.check = true := by
  induction h with
  | done => exact hcheck
  | leftover hx hrest ih => exact ih hcheck
  | flags hparts hraise hrest ih => exact ih ((raise_eq_ok hraise).2 (.inl hcheck))
  | joined hparts hraise hrest ih =>
    exact ih ((check_give ..).trans ((raise_eq_ok hraise).2 (.inl hcheck)))
  | value hparts hraise hrest ih =>
    exact ih ((check_give ..).trans ((raise_eq_ok hraise).2 (.inl hcheck)))

/-- The mark that ends options is collected: it is never the value of one. -/
theorem unknown_ne_nil_of_marker (h : Reads a args a') (hmarker : .marker ∈ args) :
    a'.unknown ≠ [] := by
  induction h with
  | done => exact absurd hmarker List.not_mem_nil
  | @leftover a a' x s rest hx hrest ih =>
    intro hnil
    have hprefix := hrest.unknown_prefix
    rw [hnil, List.prefix_nil] at hprefix
    exact List.append_ne_nil_of_right_ne_nil _ (List.cons_ne_nil s []) hprefix
  | flags hparts hraise hrest ih => exact ih (by simpa using hmarker)
  | joined hparts hraise hrest ih => exact ih (by simpa using hmarker)
  | value hparts hraise hrest ih => exact ih (by simpa using hmarker)

/-- The flag that asks for a comparison is raised where it stands alone. -/
theorem check_of_flag (h : Reads a args a') {isShort : Bool}
    (hflag : .option (.flag .check) isShort none ∈ args) : a'.check = true := by
  induction h with
  | done => exact absurd hflag List.not_mem_nil
  | leftover hx hrest ih =>
    rcases List.mem_cons.mp hflag with rfl | hflag
    · cases hx
    · exact ih hflag
  | flags hparts hraise hrest ih =>
    rcases List.mem_cons.mp hflag with heq | hflag
    · cases heq
      cases hparts
      exact hrest.check_of_check ((raise_eq_ok hraise).2 (.inr List.mem_cons_self))
    · exact ih hflag
  | joined hparts hraise hrest ih =>
    rcases List.mem_cons.mp hflag with heq | hflag
    · cases heq
      cases hparts
    · exact ih hflag
  | value hparts hraise hrest ih =>
    rcases List.mem_cons.mp hflag with heq | hflag
    · cases heq
      cases hparts
    · rcases List.mem_cons.mp hflag with heq | hflag
      · cases heq
      · exact ih hflag

end Reads

end Arguments

/-! ## The name of a flag -/

/-- The name of the flag that asks for a comparison is classed as that flag, unless it stands behind the
mark that ends options. -/
theorem Arg.mem_classifyAll_check {argv : List String} (h : "--check" ∈ argv) :
    .marker ∈ Arg.classifyAll argv ∨
      .option (.flag .check) false none ∈ Arg.classifyAll argv := by
  induction argv with
  | nil => exact absurd h List.not_mem_nil
  | cons s rest ih =>
    rw [Arg.classifyAll]
    by_cases hs : s = "--"
    · rw [if_pos hs]
      exact .inl List.mem_cons_self
    · rw [if_neg hs]
      rcases List.mem_cons.mp h with rfl | hrest
      · have hclass : Arg.classify "--check" = .option (.flag .check) false none := by decide +kernel
        rw [hclass]
        exact .inr List.mem_cons_self
      · exact (ih hrest).imp (List.mem_cons_of_mem _) (List.mem_cons_of_mem _)

/-- **The name of the flag is never overlooked**: a comparison is asked for, or something was collected. -/
theorem Arguments.check_or_unknown {argv : List String} {a : Arguments}
    (h : Arguments.read argv = .arguments a) (hcheck : "--check" ∈ argv) :
    a.check = true ∨ a.unknown ≠ [] := by
  have hreads := reads_of_readArgs h
  rcases Arg.mem_classifyAll_check hcheck with hmarker | hflag
  · exact .inr (hreads.unknown_ne_nil_of_marker hmarker)
  · exact .inl (hreads.check_of_flag hflag)

/-! ## What is collected first -/

/-- An argument with the looks of an option. -/
def IsOption (s : String) : Prop := ∃ o isShort joined, Arg.classify s = .option o isShort joined

/-- An option that takes the argument behind it as its value. -/
def AwaitsValue (s : String) : Prop :=
  ∃ o isShort joined flags v, Arg.classify s = .option o isShort joined ∧
    Arguments.parts o isShort joined = .ok (flags, .open v)

/-- A command line of options alone, each with the value that it takes. -/
inductive Recognised : List String → Prop where
  | nil : Recognised []
  | option {s : String} {rest : List String} (hs : IsOption s) (hclosed : ¬ AwaitsValue s)
      (hrest : Recognised rest) : Recognised (s :: rest)
  | value {s value : String} {rest : List String} (hs : AwaitsValue s)
      (hvalue : Arg.classify value = .positional value) (hrest : Recognised rest) :
      Recognised (s :: value :: rest)

/-- The **first unrecognised** argument of a command line: all before it are options with their values,
and it is no option itself. -/
def FirstUnrecognised (argv : List String) (s : String) : Prop :=
  ∃ before after, argv = before ++ s :: after ∧ Recognised before ∧ ¬ IsOption s

/-- What is collected of a command line, behind what was collected before, **starts with** its first
unrecognised argument; it is nothing where all arguments are recognised. -/
def CollectsFirst (argv before after : List String) : Prop :=
  (Recognised argv ∧ after = before) ∨
    ∃ s more, FirstUnrecognised argv s ∧ after = before ++ s :: more

theorem CollectsFirst.cons {argv before after : List String} {s : String} (hs : IsOption s)
    (hclosed : ¬ AwaitsValue s) (h : CollectsFirst argv before after) :
    CollectsFirst (s :: argv) before after := by
  rcases h with ⟨hrec, hsame⟩ | ⟨first, more, ⟨front, back, rfl, hfront, hfirst⟩, hafter⟩
  · exact .inl ⟨.option hs hclosed hrec, hsame⟩
  · exact .inr ⟨first, more, ⟨s :: front, back, rfl, .option hs hclosed hfront, hfirst⟩, hafter⟩

theorem CollectsFirst.cons_value {argv before after : List String} {s value : String}
    (hs : AwaitsValue s) (hvalue : Arg.classify value = .positional value)
    (h : CollectsFirst argv before after) : CollectsFirst (s :: value :: argv) before after := by
  rcases h with ⟨hrec, hsame⟩ | ⟨first, more, ⟨front, back, rfl, hfront, hfirst⟩, hafter⟩
  · exact .inl ⟨.value hs hvalue hrec, hsame⟩
  · exact .inr ⟨first, more, ⟨s :: value :: front, back, rfl, .value hs hvalue hfront, hfirst⟩, hafter⟩

/-- An argument keeps its text when it is collected. -/
theorem Arg.leftover?_classify {s t : String} (h : (Arg.classify s).leftover? = some t) : t = s := by
  unfold Arg.classify at h
  split at h
  · exact (Option.some.inj h).symm
  · split at h
    · cases h
    · split at h
      · exact (Option.some.inj h).symm
      · unfold Arg.classifyJoined at h
        dsimp only at h
        split at h
        · cases h
        · split at h
          · cases h
          · split at h
            · exact (Option.some.inj h).symm
            · exact (Option.some.inj h).symm

/-- The first class of a command line is that of its first argument, or the mark that ends options. -/
theorem Arg.classifyAll_eq_cons {argv : List String} {x : Arg} {rest : List Arg}
    (h : Arg.classifyAll argv = x :: rest) :
    ∃ s argv', argv = s :: argv' ∧
      ((s = "--" ∧ x = .marker) ∨ (x = Arg.classify s ∧ rest = Arg.classifyAll argv')) := by
  cases argv with
  | nil => cases h
  | cons s argv' =>
    refine ⟨s, argv', rfl, ?_⟩
    rw [Arg.classifyAll] at h
    by_cases hs : s = "--"
    · rw [if_pos hs] at h
      exact .inl ⟨hs, (List.cons.inj h).1.symm⟩
    · rw [if_neg hs] at h
      exact .inr ⟨(List.cons.inj h).1.symm, (List.cons.inj h).2.symm⟩

theorem not_isOption_marker : ¬ IsOption "--" := by
  have hclass : Arg.classify "--" = .unknown "--" := by decide +kernel
  rintro ⟨o, isShort, joined, h⟩
  rw [hclass] at h
  cases h

/-- An argument that is collected is no option, and it is collected as it was written. -/
theorem not_isOption_of_leftover? {argv : List String} {x : Arg} {s : String} {rest : List Arg}
    (hargs : Arg.classifyAll argv = x :: rest) (hx : x.leftover? = some s) :
    ∃ argv', argv = s :: argv' ∧ ¬ IsOption s := by
  obtain ⟨s', argv', rfl, ⟨rfl, rfl⟩ | ⟨rfl, -⟩⟩ := Arg.classifyAll_eq_cons hargs
  · cases hx
    exact ⟨argv', rfl, not_isOption_marker⟩
  · obtain rfl := Arg.leftover?_classify hx
    refine ⟨argv', rfl, ?_⟩
    rintro ⟨o, isShort, joined, hoption⟩
    rw [hoption] at hx
    cases hx

/-- An option of a command line stands at its front. -/
theorem classify_of_option {argv : List String} {o : Opt} {isShort : Bool} {joined : Option String}
    {rest : List Arg} (hargs : Arg.classifyAll argv = .option o isShort joined :: rest) :
    ∃ s argv', argv = s :: argv' ∧ Arg.classify s = .option o isShort joined ∧
      Arg.classifyAll argv' = rest := by
  obtain ⟨s, argv', rfl, ⟨-, hmarker⟩ | ⟨hs, hrest⟩⟩ := Arg.classifyAll_eq_cons hargs
  · cases hmarker
  · exact ⟨s, argv', rfl, hs.symm, hrest.symm⟩

theorem not_awaitsValue {s : String} {o : Opt} {isShort : Bool} {joined : Option String}
    {flags : List Flag} {last : Arguments.Last} (hs : Arg.classify s = .option o isShort joined)
    (hparts : Arguments.parts o isShort joined = .ok (flags, last)) (hlast : ∀ v, last ≠ .open v) :
    ¬ AwaitsValue s := by
  rintro ⟨o', isShort', joined', flags', v, hs', hparts'⟩
  rw [hs] at hs'
  cases hs'
  rw [hparts] at hparts'
  cases hparts'
  exact hlast v rfl

namespace Arguments

/-- **What is collected first** is the first unrecognised argument. -/
theorem Reads.collectsFirst {a a' : Arguments} {args : List Arg} {argv : List String}
    (h : Reads a args a') (hargs : Arg.classifyAll argv = args) :
    CollectsFirst argv a.unknown a'.unknown := by
  induction h generalizing argv with
  | done =>
    cases argv with
    | nil => exact .inl ⟨.nil, rfl⟩
    | cons s argv' =>
      rw [Arg.classifyAll] at hargs
      split at hargs <;> cases hargs
  | leftover hx hrest ih =>
    obtain ⟨argv', rfl, hs⟩ := not_isOption_of_leftover? hargs hx
    obtain ⟨more, hmore⟩ := hrest.unknown_prefix
    -- what was collected later comes behind this argument, so it stays the first
    refine .inr ⟨_, more, ⟨[], argv', rfl, .nil, hs⟩, ?_⟩
    rw [← hmore]
    exact List.append_assoc ..
  | flags hparts hraise hrest ih =>
    obtain ⟨s, argv', rfl, hs, hargs'⟩ := classify_of_option hargs
    rw [← (raise_eq_ok hraise).1]
    exact (ih hargs').cons ⟨_, _, _, hs⟩ (not_awaitsValue hs hparts fun v hv => nomatch hv)
  | joined hparts hraise hrest ih =>
    obtain ⟨s, argv', rfl, hs, hargs'⟩ := classify_of_option hargs
    rw [unknown_give, (raise_eq_ok hraise).1] at ih
    exact (ih hargs').cons ⟨_, _, _, hs⟩ (not_awaitsValue hs hparts fun v hv => nomatch hv)
  | value hparts hraise hrest ih =>
    obtain ⟨s, argv₁, rfl, hs, hargs₁⟩ := classify_of_option hargs
    -- the mark that ends options is classed apart, so what is taken as a value is not behind it
    obtain ⟨value, argv', rfl, ⟨-, hmarker⟩ | ⟨hvalue, hargs'⟩⟩ := Arg.classifyAll_eq_cons hargs₁
    · cases hmarker
    · have hplain : Arg.classify value = .positional value := by
        have htext : (Arg.classify value).leftover? = some _ := congrArg Arg.leftover? hvalue.symm
        rw [← hvalue, Arg.leftover?_classify htext]
      rw [unknown_give, (raise_eq_ok hraise).1] at ih
      exact (ih hargs'.symm).cons_value ⟨_, _, _, _, _, hs, hparts⟩ hplain

/-- **A command line that is not recognised** has its first unrecognised argument collected first. -/
theorem unknown_of_not_recognised {argv : List String} {a : Arguments}
    (h : Arguments.read argv = .arguments a) (hargv : ¬ Recognised argv) :
    ∃ s more, FirstUnrecognised argv s ∧ a.unknown = s :: more := by
  rcases (reads_of_readArgs h).collectsFirst rfl with ⟨hrec, -⟩ | ⟨s, more, hfirst, hunknown⟩
  · exact absurd hrec hargv
  · exact ⟨s, more, hfirst, hunknown⟩

end Arguments

end Phrasebook.CommandLine
