import Mathlib.Data.List.Forall2
import Phrasebook.Proofs.Contribution
import Phrasebook.Target.Emit

/-!
# The order of the input

Bundles that are equal as maps are filed in different orders: entries, texts and placeholders come up in the
order in which the fields are listed. What is read off a bundle is a lookup, or the set of names of an object
that declares placeholders; so the two catalogs hold the same, each in its own order, and what comes after
cannot tell them apart.

## Contents
- `Json.Same`, `Bundle.Same`, `Bundles.Same`: equal as maps
- `ofBundles_same_of_same`: the catalogs of the bundles
- `Bundles.source`, `source_congr`: the stages from bundles to a generated text
- `source_eq_of_same`: the same text or the same error, and the same notices
-/

namespace Phrasebook

/-! ## Equality as maps -/

/-- Two values are the **same** as data: the fields of an object, at any depth, may be listed in another
order. -/
inductive Json.Same : Json → Json → Prop where
  | refl (v : Json) : Same v v
  | arr {items items' : List Json} (h : List.Forall₂ Same items items') :
      Same (.arr items) (.arr items')
  | obj {fields fields' : List (String × Json)}
      (h : ∀ name, Option.Rel Same (fields.lookup name) (fields'.lookup name)) :
      Same (.obj fields) (.obj fields')

/-- Two bundles are the same when they have the same fields. -/
def Bundle.Same (b b' : Bundle) : Prop := ∀ name, Option.Rel Json.Same (b.get? name) (b'.get? name)

/-- Two maps of bundles are the same when they have the same bundles for the same locales. -/
def Bundles.Same (b b' : Bundles) : Prop := ∀ l, Option.Rel Bundle.Same (b.get? l) (b'.get? l)

section Reordering

variable {α : Type} {R : α → α → Prop}

theorem lookup_perm {l l' : List (String × α)} (h : l.Perm l') (hnodup : (l.map Prod.fst).Nodup)
    (name : String) : l.lookup name = l'.lookup name := by
  have hnodup' : (l'.map Prod.fst).Nodup := (h.map Prod.fst).nodup_iff.mp hnodup
  cases hl : l.lookup name with
  | some v =>
    have hmem : (name, v) ∈ l' := h.subset (SortedMap.mem_of_lookup hl)
    exact (SortedMap.lookup_of_mem hnodup' hmem).symm
  | none =>
    cases hl' : l'.lookup name with
    | none => rfl
    | some v =>
      have hmem : (name, v) ∈ l := h.symm.subset (SortedMap.mem_of_lookup hl')
      rw [SortedMap.lookup_of_mem hnodup hmem] at hl
      cases hl

/-- Fields listed in another order, with related values, are related as maps. -/
theorem Fields.rel_of_perm {f f' : Fields α} {l : List (String × α)} (hperm : f.toList.Perm l)
    (h : List.Forall₂ (PairRel R) l f'.toList) (name : String) :
    Option.Rel R (f.get? name) (f'.get? name) := by
  unfold Fields.get?
  rw [lookup_perm hperm f.nodup]
  exact rel_lookup h name

end Reordering

/-! ## What is read off a value -/

namespace Json.Same

variable {v v' : Json}

theorem text? (h : Same v v') : v.text? = v'.text? := by
  cases h <;> rfl

theorem field? (h : Same v v') (name : String) : Option.Rel Same (v.field? name) (v'.field? name) := by
  cases h with
  | refl =>
    generalize v.field? name = found
    cases found with
    | none => exact .none
    | some w => exact .some (.refl w)
  | arr => exact .none
  | obj hrel => exact hrel name

/-- Objects that are the same have the same names of fields. -/
theorem mem_fieldNames (h : Same v v') (n : String) :
    n ∈ (v.fields?.map (·.map Prod.fst)).getD [] ↔
      n ∈ (v'.fields?.map (·.map Prod.fst)).getD [] := by
  cases h with
  | refl => exact Iff.rfl
  | arr => exact Iff.rfl
  | obj hrel =>
    simp only [fields?, Option.map_some, Option.getD_some, SortedMap.mem_map_fst_iff]
    rcases rel_cases (hrel n) with ⟨hl, hl'⟩ | ⟨w, w', hl, hl', -⟩
    · rw [hl, hl']
    · rw [hl, hl', Option.isSome_some, Option.isSome_some]

/-- Metadata that is the same declares the same names. -/
theorem mem_declaredNames (h : Same v v') (n : String) :
    n ∈ (Catalog.declaredNames v).getD [] ↔ n ∈ (Catalog.declaredNames v').getD [] := by
  unfold Catalog.declaredNames
  rcases rel_cases (h.field? "placeholders") with ⟨hf, hf'⟩ | ⟨w, w', hf, hf', hw⟩
  · rw [hf, hf']
  · rw [hf, hf', Option.bind_some, Option.bind_some]
    exact hw.mem_fieldNames n

end Json.Same

namespace Bundle.Same

variable {b b' : Bundle}

theorem text? (h : b.Same b') (name : String) : b.text? name = b'.text? name := by
  unfold Bundle.text?
  rcases rel_cases (h name) with ⟨hv, hv'⟩ | ⟨v, v', hv, hv', hsame⟩
  · rw [hv, hv']
  · rw [hv, hv', Option.bind_some, Option.bind_some, hsame.text?]

theorem mem_declared (h : b.Same b') (key n : String) :
    n ∈ b.declared key ↔ n ∈ b'.declared key := by
  unfold Bundle.declared
  by_cases hk : FieldName.IsKeyName key
  · rw [if_pos hk, if_pos hk]
    rcases rel_cases (h (FieldName.ofMetadata key)) with ⟨hv, hv'⟩ | ⟨v, v', hv, hv', hsame⟩
    · rw [hv, hv']
    · rw [hv, hv', Option.bind_some, Option.bind_some]
      exact hsame.mem_declaredNames n
  · rw [if_neg hk, if_neg hk]

end Bundle.Same

namespace Bundles.Same

variable {b b' : Bundles}

theorem text? (h : b.Same b') (l name : String) : b.text? l name = b'.text? l name := by
  unfold Bundles.text?
  rcases rel_cases (h l) with ⟨hb, hb'⟩ | ⟨v, v', hb, hb', hsame⟩
  · rw [hb, hb']
  · rw [hb, hb', Option.bind_some, Option.bind_some, hsame.text? name]

theorem locales (h : b.Same b') : b.locales = b'.locales := by
  refine locales_eq fun l => ?_
  rcases rel_cases (h l) with ⟨hb, hb'⟩ | ⟨v, v', hb, hb', -⟩
  · rw [hb, hb']
  · rw [hb, hb', Option.isSome_some, Option.isSome_some]

/-- Some bundle declares a name for a key in both or in neither. -/
theorem exists_declared (h : b.Same b') (key n : String) :
    (∃ l bundle, b.get? l = some bundle ∧ n ∈ bundle.declared key) ↔
      ∃ l bundle, b'.get? l = some bundle ∧ n ∈ bundle.declared key := by
  refine exists_congr fun l => ?_
  rcases rel_cases (h l) with ⟨hb, hb'⟩ | ⟨v, v', hb, hb', hsame⟩
  · rw [hb, hb']
  · simp [hb, hb', hsame.mem_declared key n]

end Bundles.Same

/-! ## The catalog -/

namespace Catalog

variable {b b' : Bundles}

/-- **Bundles that are equal as maps have the same catalog**, but for the order inside it. -/
theorem ofBundles_same_of_same (h : b.Same b') : (ofBundles b).Same (ofBundles b') := by
  apply ofBundles_same h.locales
  · intro key _ l
    exact h.text? l key
  · intro key _ name
    exact h.exists_declared key name

end Catalog

/-! ## The generated text -/

namespace Bundles

/-- The generated text of a target for bundles: their catalog is built, completed and written. -/
def source (bundles : Bundles) (fallback : Option String) (target : Target) (asked : String) :
    Report String :=
  ((Catalog.ofBundles bundles).validate fallback).report.andThen fun c =>
    .ofExcept ((target.emit asked c).mapError fun l => .crash (.noText l))

/-- The stages come to a text or to a missing text, and to nothing else. -/
theorem source_outcome (bundles : Bundles) (fallback : Option String) (target : Target)
    (asked : String) :
    (∃ text, (bundles.source fallback target asked).outcome = .ok text) ∨
      ∃ key locale,
        (bundles.source fallback target asked).outcome = .error (.failure (.missingText key locale)) := by
  unfold source Validation.report
  cases hgap : ((Catalog.ofBundles bundles).validate fallback).gap? with
  | some gap => exact Or.inr ⟨gap.key, gap.locale, rfl⟩
  | none =>
    -- a completed catalog can be planned, so writing it does not fail
    obtain ⟨accessors, hplan⟩ := plan_ofBundles target hgap
    left
    dsimp only [Report.andThen]
    unfold Target.emit
    rw [hplan]
    exact ⟨_, rfl⟩

/-- The stages after the catalog cannot tell in which order it was filled. -/
theorem source_congr {b b' : Bundles} (h : (Catalog.ofBundles b).Same (Catalog.ofBundles b'))
    (fallback : Option String) (target : Target) (asked : String) :
    b.source fallback target asked = b'.source fallback target asked := by
  obtain ⟨hcatalog, hnotices, hgap⟩ := h.validate fallback
  unfold source Validation.report
  rw [hnotices, hgap]
  cases ((Catalog.ofBundles b').validate fallback).gap? with
  | some gap => rfl
  | none =>
    dsimp only [Report.andThen]
    rw [hcatalog.emit_eq]

/-- **The order of the input never matters.** For bundles that are equal as maps the stages come to the
same text, or to the same key and locale without a text, and they report the same on the way. -/
theorem source_eq_of_same {b b' : Bundles} (h : b.Same b') (fallback : Option String)
    (target : Target) (asked : String) :
    (b.source fallback target asked).notices = (b'.source fallback target asked).notices ∧
    ((∃ text, (b.source fallback target asked).outcome = .ok text ∧
        (b'.source fallback target asked).outcome = .ok text) ∨
      ∃ key locale,
        (b.source fallback target asked).outcome = .error (.failure (.missingText key locale)) ∧
        (b'.source fallback target asked).outcome = .error (.failure (.missingText key locale))) := by
  rw [← source_congr (Catalog.ofBundles_same_of_same h)]
  refine ⟨rfl, ?_⟩
  rcases source_outcome b fallback target asked with ⟨text, htext⟩ | ⟨key, locale, hgap⟩
  · exact Or.inl ⟨text, htext, htext⟩
  · exact Or.inr ⟨key, locale, hgap, hgap⟩

/-- A bundle that declares the placeholders of a key, with its fields. -/
def declaring (placeholders : Json) : List (String × Json) :=
  [("a", .str "\x7bx\x7d \x7by\x7d"), ("b", .str "B"), ("c", .str "C"),
    ("@a", .obj [("placeholders", placeholders)])]

/-- Two locales, one of which lacks a text. -/
def listed : Bundles :=
  .ofList [("en", .ofList (declaring (.obj [("x", .obj []), ("z", .null)]))),
    ("de", .ofList [("a", .str "A")])]

/-- The same two locales, with every list in another order. -/
def relisted : Bundles :=
  .ofList [("de", .ofList [("a", .str "A")]),
    ("en", .ofList (declaring (.obj [("z", .null), ("x", .obj [])])).reverse)]

theorem declaring_same :
    Bundle.Same (.ofList (declaring (.obj [("x", .obj []), ("z", .null)])))
      (.ofList (declaring (.obj [("z", .null), ("x", .obj [])])).reverse) := by
  have hplaceholders : Json.Same (.obj [("x", .obj []), ("z", .null)])
      (.obj [("z", .null), ("x", .obj [])]) := by
    refine .obj fun name => ?_
    rw [lookup_perm (List.Perm.swap _ _ []) (by decide)]
    exact rel_lookup (.cons ⟨rfl, .refl _⟩ (.cons ⟨rfl, .refl _⟩ .nil)) name
  have hmetadata : List.Forall₂ (PairRel Json.Same)
      [("placeholders", .obj [("x", .obj []), ("z", .null)])]
      [("placeholders", .obj [("z", .null), ("x", .obj [])])] := .cons ⟨rfl, hplaceholders⟩ .nil
  exact Fields.rel_of_perm (List.reverse_perm _).symm
    (.cons ⟨rfl, .obj (rel_lookup hmetadata)⟩
      (.cons ⟨rfl, .refl _⟩ (.cons ⟨rfl, .refl _⟩ (.cons ⟨rfl, .refl _⟩ .nil))))

theorem listed_same : listed.Same relisted :=
  Fields.rel_of_perm (List.Perm.swap _ _ [])
    (.cons ⟨rfl, fun name => rel_lookup (.cons ⟨rfl, .refl _⟩ .nil) name⟩
      (.cons ⟨rfl, declaring_same⟩ .nil))

theorem source_eq_of_same_listed :
    listed.Same relisted ∧ listed.names ≠ relisted.names ∧
    (Catalog.ofBundles listed).entries.names = ["a", "b", "c"] ∧
    (Catalog.ofBundles relisted).entries.names = ["a", "c", "b"] ∧
    (listed.source (some "en") .dart "en").notices =
      [.mismatch "a" ["x", "z"] ["x", "y"], .filled "de" "b" "en", .filled "de" "c" "en"] ∧
    (listed.source (some "en") .dart "en").notices =
      (relisted.source (some "en") .dart "en").notices ∧
    (listed.source none .dart "en").outcome = .error (.failure (.missingText "b" "de")) ∧
    (relisted.source none .dart "en").outcome = .error (.failure (.missingText "b" "de")) := by
  obtain ⟨hnotices, -⟩ := source_eq_of_same listed_same (some "en") .dart "en"
  obtain ⟨-, houtcome⟩ := source_eq_of_same listed_same none .dart "en"
  have hgap : (listed.source none .dart "en").outcome =
      .error (.failure (.missingText "b" "de")) := rfl
  refine ⟨listed_same, by decide, rfl, rfl, by decide +kernel, hnotices, hgap, ?_⟩
  rcases houtcome with ⟨text, htext, -⟩ | ⟨key, locale, hfault, hfault'⟩
  · rw [hgap] at htext
    cases htext
  · rw [hgap] at hfault
    cases hfault
    exact hfault'

end Bundles

end Phrasebook
