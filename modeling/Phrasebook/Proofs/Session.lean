import Mathlib.Data.List.Induction
import Phrasebook.Proofs.Validation

/-!
# Sessions

What any number of requests, failed ones among them, leave in a catalog that had no entries. A request
that names a key touches the entry of that key alone, and only completing touches others; it alters no
text, adds one only where the fallback locale has it, and gives placeholders only to an entry that has
none. No request changes the key that an entry carries, so the name under which it is filed and the key
that is printed with it are one. The catalog can be read off its history: under a key and a locale there
is the text that was written there last, unless none was or it was taken away, and a completion has copied
one since.

## Contents
- `Operation.key?`, `Operation.addedLocale?`, `Operation.write?`: what a request names and writes
- `Notice.key?`, `key?_of_mem_notices_validate`: what is reported while a catalog is completed
- `step_cases`: what one request does to the entries
- `Keyed.step`, `isSome_find?_step`, `placeholders_step`, `text?_step_of_write?`, `text?_step_cases`: one
  request, seen from a key and a locale
- `keyed_steps`, `locales_steps`, `isSome_find?_steps`, `placeholders_steps`: all requests
- `lastWrite?`, `WasCopied`, `text?_steps`: where a text comes from
- `step_entry_of_find?`, `text?_of_mem_plan`, `find?_of_outcome_validate`: what is answered is what is stored
- `session_history`: the law for all requests together
-/

namespace Phrasebook

/-! ## What a request names -/

namespace Operation

/-- The key that a request names. -/
def key? : Operation → Option String
  | entry key | setText key _ _ | unsetText key _ | declare key _ | textFor key _ => some key
  | addLocale _ | validate _ | plan _ _ | emit _ _ => none

/-- The locale that a request adds. -/
def addedLocale? : Operation → Option String
  | addLocale locale => some locale
  | _ => none

/-- What a request writes for a key and a locale, if it writes there: a text, or that there is none. -/
def write? (request : Operation) (key locale : String) : Option (Option String) :=
  match request with
  | setText k l text => if k = key ∧ l = locale then some (some text) else none
  | unsetText k l => if k = key ∧ l = locale then some none else none
  | _ => none

/-- What a request does to the entry of the key that it names. -/
def edit : Operation → Entry → Entry
  | setText _ locale text, e => e.setText locale text
  | unsetText _ locale, e => e.unsetText locale
  | declare _ names, e => e.declare names
  | _, e => e

variable {request : Operation} {key l : String} {e : Entry}

/-- A request writes for the key that it names. -/
theorem key?_of_write? {written : Option String} (h : request.write? key l = some written) :
    request.key? = some key := by
  cases request <;> simp_all [write?, key?]

/-- **What an edit does to the texts** is what the request writes. -/
theorem get?_edit (h : request.key? = some key) (e : Entry) (l : String) :
    (request.edit e).texts.get? l = (request.write? key l).getD (e.texts.get? l) := by
  cases request with
  | setText k l' text =>
    obtain rfl := Option.some.inj h
    have hget : (e.setText l' text).texts.get? l = if l = l' then some text else e.texts.get? l :=
      Entry.get?_setText ..
    by_cases hl : l = l'
    · subst hl
      simp [edit, write?, hget]
    · simp [edit, write?, hget, hl, Ne.symm hl]
  | unsetText k l' =>
    obtain rfl := Option.some.inj h
    have hget : (e.unsetText l').texts.get? l = if l = l' then none else e.texts.get? l :=
      Entry.get?_unsetText ..
    by_cases hl : l = l'
    · subst hl
      simp [edit, write?, hget]
    · simp [edit, write?, hget, hl, Ne.symm hl]
  | _ => rfl

/-- An edit takes no placeholder away. -/
theorem placeholders_edit {name : String} (h : name ∈ e.placeholders.toNames) :
    name ∈ (request.edit e).placeholders.toNames := by
  cases request with
  | declare k names => exact NameSet.mem_addAll.mpr (Or.inr h)
  | _ => exact h

/-- An edit does not change the key of an entry. -/
theorem key_edit (request : Operation) (e : Entry) : (request.edit e).key = e.key := by
  cases request <;> rfl

end Operation

/-! ## What is reported while a catalog is completed -/

/-- The key that a notice of a visit names. -/
def Notice.key? : Notice → Option String
  | filled _ key _ | mismatch key _ _ => some key
  | loaded .. | overridden .. | built .. | unknownFallback .. | wrote .. | notInstalled .. => none

theorem Entry.key?_of_mem_fill {key source text : String} {locales : List String} {e : Entry}
    {notice : Notice} (h : notice ∈ (fill key source text locales e).2) : notice.key? = some key := by
  induction locales generalizing e with
  | nil => cases h
  | cons locale rest ih =>
    unfold fill at h
    split at h
    · exact ih h
    · rcases List.mem_cons.mp h with rfl | hrest
      · rfl
      · exact ih hrest

theorem Entry.key?_of_mem_notices {e : Entry} {key : String} {locales : List String}
    {fallback : Option String} {notice : Notice} (h : notice ∈ e.notices key locales fallback) :
    notice.key? = some key := by
  unfold notices at h
  split at h
  · cases h
  · rcases List.mem_append.mp h with hfilled | hsettled
    · rw [complete_eq] at hfilled
      split at hfilled
      · cases hfilled
      · exact key?_of_mem_fill hfilled
    · unfold settle at hsettled
      split at hsettled
      · cases hsettled
      · split at hsettled
        · cases hsettled
        · rw [List.mem_singleton] at hsettled
          rw [hsettled]
          rfl

/-- A visit reports of the keys that it visits. -/
theorem key?_of_mem_notices_visit {locales : List String} {fallback : Option String}
    {l : List (String × Entry)} {notice : Notice} (h : notice ∈ (visit locales fallback l).notices) :
    ∃ p ∈ l, notice.key? = some p.1 := by
  induction l with
  | nil => cases h
  | cons p rest ih =>
    obtain ⟨key, e⟩ := p
    cases hgap : (e.complete key fallback locales).gap? with
    | some l =>
      rw [visit_cons_of_gap? hgap] at h
      cases h
    | none =>
      rw [visit_cons_of_complete hgap] at h
      rcases List.mem_append.mp h with hhead | hrest
      · exact ⟨(key, e), List.mem_cons_self, Entry.key?_of_mem_notices hhead⟩
      · obtain ⟨q, hq, hkey⟩ := ih hrest
        exact ⟨q, List.mem_cons_of_mem _ hq, hkey⟩

namespace Catalog

/-- What is reported while a catalog is completed names keys of the catalog only. -/
theorem key?_of_mem_notices_validate {c : Catalog} {fallback : Option String} {notice : Notice}
    {key : String} (h : notice ∈ (c.validate fallback).notices) (hkey : notice.key? = some key) :
    ∃ e, c.find? key = some e := by
  rcases List.mem_append.mp h with hfallback | hvisit
  · unfold fallbackNotices at hfallback
    split at hfallback
    · cases hfallback
    · split at hfallback
      · cases hfallback
      · rw [List.mem_singleton] at hfallback
        rw [hfallback] at hkey
        cases hkey
  · obtain ⟨⟨k, e⟩, hmem, hnamed⟩ := key?_of_mem_notices_visit hvisit
    obtain rfl : k = key := Option.some.inj (hnamed.symm.trans hkey)
    exact ⟨e, Fields.mem_sorted.mp hmem⟩

/-! ## One request -/

section Step

variable {c : Catalog} {request : Operation} {key l : String} {e : Entry}

/-- **What a request does to the entries.** It completes the catalog, or it edits the entry of the key
that it names and no other. -/
theorem step_cases (c : Catalog) (request : Operation) :
    (∃ fallback, request = .validate fallback) ∨
      ∀ key, (c.step request).1.find? key =
        if request.key? = some key then some (request.edit ((c.find? key).getD (.empty key)))
        else c.find? key := by
  have hupdate : ∀ (k key : String) (f : Entry → Entry), (c.update k f).find? key =
      if some k = some key then some (f ((c.find? key).getD (.empty key))) else c.find? key := by
    intro k key f
    rw [find?_update]
    by_cases hk : key = k
    · subst hk
      simp
    · simp [hk, Ne.symm hk]
  cases request with
  | validate fallback => exact Or.inl ⟨fallback, rfl⟩
  | entry k => exact Or.inr fun key => hupdate k key id
  | setText k l text => exact Or.inr fun key => hupdate k key (·.setText l text)
  | unsetText k l => exact Or.inr fun key => hupdate k key (·.unsetText l)
  | declare k names => exact Or.inr fun key => hupdate k key (·.declare names)
  | textFor k l => exact Or.inr fun key => hupdate k key id
  | addLocale l => exact Or.inr fun key => rfl
  | plan target asked => exact Or.inr fun key => rfl
  | emit target asked => exact Or.inr fun key => rfl

theorem locales_step (c : Catalog) (request : Operation) :
    (c.step request).1.locales = c.locales ++ request.addedLocale?.toList := by
  cases request with
  | addLocale l => rfl
  | _ => exact (List.append_nil _).symm

theorem isSome_find?_validate {fallback : Option String} :
    ((c.validate fallback).catalog.find? key).isSome ↔ (c.find? key).isSome := by
  unfold find?
  rw [← Fields.mem_keys, ← Fields.mem_keys, keys_validate]

/-- Completing a catalog does not change the key of an entry. -/
theorem Keyed.validate (h : c.Keyed) (fallback : Option String) :
    (c.validate fallback).catalog.Keyed := by
  intro key e he
  rw [find?_validate_eq] at he
  obtain ⟨e₀, he₀, rfl⟩ := Option.map_eq_some_iff.mp he
  split
  · rw [Entry.key_completed]
    exact h key e₀ he₀
  · exact h key e₀ he₀

/-- **A request leaves every entry under its own key.** -/
theorem Keyed.step (h : c.Keyed) (request : Operation) : (c.step request).1.Keyed := by
  obtain ⟨fallback, rfl⟩ | hfind := step_cases c request
  · exact h.validate fallback
  · intro key e he
    rw [hfind] at he
    by_cases hk : request.key? = some key
    · rw [if_pos hk] at he
      obtain rfl := Option.some.inj he
      rw [Operation.key_edit, h.key_getD]
    · rw [if_neg hk] at he
      exact h key e he

/-- A request leaves an entry for the key that it names, and for those that had one. -/
theorem isSome_find?_step :
    ((c.step request).1.find? key).isSome ↔ (c.find? key).isSome ∨ request.key? = some key := by
  obtain ⟨fallback, rfl⟩ | hfind := step_cases c request
  · show ((c.validate fallback).catalog.find? key).isSome ↔ _
    rw [isSome_find?_validate]
    simp [Operation.key?]
  · rw [hfind]
    by_cases hk : request.key? = some key
    · simp [hk]
    · simp [hk]

/-- **An entry stays**, with all its placeholders. -/
theorem placeholders_step (he : c.find? key = some e) :
    ∃ e', (c.step request).1.find? key = some e' ∧
      ∀ name ∈ e.placeholders.toNames, name ∈ e'.placeholders.toNames := by
  obtain ⟨fallback, rfl⟩ | hfind := step_cases c request
  · obtain ⟨e', he', -⟩ := find?_validate_cases fallback he
    refine ⟨e', he', ?_⟩
    intro name hname
    rw [placeholders_validate he he' (List.ne_nil_of_mem hname)]
    exact hname
  · rw [hfind, he]
    by_cases hk : request.key? = some key
    · rw [if_pos hk]
      exact ⟨_, rfl, fun name hname => Operation.placeholders_edit hname⟩
    · rw [if_neg hk]
      exact ⟨e, rfl, fun name hname => hname⟩

/-- The texts of an entry change as the request writes, when it does not complete the catalog. -/
theorem text?_of_find?_step
    (hfind : ∀ key, (c.step request).1.find? key =
      if request.key? = some key then some (request.edit ((c.find? key).getD (.empty key))) else c.find? key)
    (key l : String) : (c.step request).1.text? key l = (request.write? key l).getD (c.text? key l) := by
  unfold text?
  rw [hfind]
  by_cases hk : request.key? = some key
  · rw [if_pos hk, Option.bind_some, Operation.get?_edit hk, get?_texts_getD]
  · have hwrite : request.write? key l = none := by
      cases hw : request.write? key l with
      | none => rfl
      | some written => exact absurd (Operation.key?_of_write? hw) hk
    rw [if_neg hk, hwrite, Option.getD_none]

/-- What a request writes is there. -/
theorem text?_step_of_write? {written : Option String} (h : request.write? key l = some written) :
    (c.step request).1.text? key l = written := by
  obtain ⟨fallback, rfl⟩ | hfind := step_cases c request
  · cases h
  · rw [text?_of_find?_step hfind, h, Option.getD_some]

/-- A text that completing puts where there was none is the one for the fallback locale. -/
theorem text?_validate_of_none {fallback : Option String} {text : String}
    (hold : c.text? key l = none) (hnew : (c.validate fallback).catalog.text? key l = some text) :
    ∃ f, fallback = some f ∧ c.text? key f = some text := by
  obtain ⟨e', he', hget'⟩ := Option.bind_eq_some_iff.mp hnew
  obtain ⟨e, he⟩ := Option.isSome_iff_exists.mp
    (isSome_find?_validate.mp (Option.isSome_iff_exists.mpr ⟨e', he'⟩))
  rw [text?, he, Option.bind_some] at hold
  obtain ⟨e'', he'', hcases⟩ := find?_validate_cases fallback he
  obtain rfl : e'' = e' := Option.some.inj (he''.symm.trans he')
  rcases hcases with rfl | hcompleted
  · rw [hold] at hget'
    cases hget'
  · obtain ⟨-, f, rfl, htext⟩ := hcompleted.added l text hold hget'
    refine ⟨f, rfl, ?_⟩
    rw [text?, he]
    exact htext

/-- **A request that does not write for a key and a locale** changes nothing there, or it completes the
catalog and copies the text for the fallback locale to where there was none. -/
theorem text?_step_cases (h : request.write? key l = none) :
    (c.step request).1.text? key l = c.text? key l ∨
      ∃ fallback text, request = .validate (some fallback) ∧ c.text? key l = none ∧
        c.text? key fallback = some text ∧ (c.step request).1.text? key l = some text := by
  obtain ⟨fallback, rfl⟩ | hfind := step_cases c request
  · cases hold : c.text? key l with
    | some text => exact Or.inl (text?_validate_of_some hold)
    | none =>
      cases hnew : (c.step (.validate fallback)).1.text? key l with
      | none => exact Or.inl rfl
      | some text =>
        obtain ⟨f, rfl, htext⟩ := text?_validate_of_none hold hnew
        exact Or.inr ⟨f, text, rfl, rfl, htext, rfl⟩
  · left
    rw [text?_of_find?_step hfind, h, Option.getD_none]

end Step

/-! ## All requests -/

theorem steps_concat (c : Catalog) (requests : List Operation) (request : Operation) :
    c.steps (requests ++ [request]) = ((c.steps requests).step request).1 := by
  unfold steps
  rw [List.foldl_append]
  rfl

theorem steps_append (c : Catalog) (requests later : List Operation) :
    c.steps (requests ++ later) = (c.steps requests).steps later :=
  List.foldl_append

theorem keyed_steps {c : Catalog} (h : c.Keyed) (requests : List Operation) : (c.steps requests).Keyed := by
  induction requests using List.reverseRecOn with
  | nil => exact h
  | append_singleton requests request ih =>
    rw [steps_concat]
    exact ih.step request

theorem locales_steps (c : Catalog) (requests : List Operation) :
    (c.steps requests).locales = c.locales ++ requests.filterMap Operation.addedLocale? := by
  induction requests using List.reverseRecOn with
  | nil => exact (List.append_nil _).symm
  | append_singleton requests request ih =>
    have hone : [request].filterMap Operation.addedLocale? = request.addedLocale?.toList := by
      cases h : request.addedLocale? <;> simp [h]
    rw [steps_concat, locales_step, ih, List.filterMap_append, hone, List.append_assoc]

/-- There are entries for the keys that had one, and for those that a request has named. -/
theorem isSome_find?_steps {c : Catalog} {requests : List Operation} {key : String} :
    ((c.steps requests).find? key).isSome ↔
      (c.find? key).isSome ∨ ∃ request ∈ requests, request.key? = some key := by
  induction requests using List.reverseRecOn with
  | nil => simp [steps]
  | append_singleton requests request ih =>
    rw [steps_concat, isSome_find?_step, ih]
    simp [or_and_right, exists_or, or_assoc]

theorem placeholders_steps {c : Catalog} {key : String} {e : Entry} (requests : List Operation)
    (he : c.find? key = some e) :
    ∃ e', (c.steps requests).find? key = some e' ∧
      ∀ name ∈ e.placeholders.toNames, name ∈ e'.placeholders.toNames := by
  induction requests using List.reverseRecOn with
  | nil => exact ⟨e, he, fun name hname => hname⟩
  | append_singleton requests request ih =>
    obtain ⟨e', he', hkept⟩ := ih
    obtain ⟨e'', he'', hkept'⟩ : ∃ e'', ((c.steps requests).step request).1.find? key = some e'' ∧
        ∀ name ∈ e'.placeholders.toNames, name ∈ e''.placeholders.toNames := placeholders_step he'
    rw [steps_concat]
    exact ⟨e'', he'', fun name hname => hkept' name (hkept name hname)⟩

/-! ## Where a text comes from -/

/-- What the last of the requests that write for a key and a locale writes there, if any does. -/
def lastWrite? (requests : List Operation) (key l : String) : Option (Option String) :=
  (requests.filterMap (·.write? key l)).getLast?

/-- A text **was copied** to a key and a locale by a request to complete the catalog, when there was no
text there before it, the entry had the text for the fallback locale, and no later request writes there. -/
def WasCopied (c : Catalog) (requests : List Operation) (key l text : String) : Prop :=
  ∃ before fallback later, requests = before ++ .validate (some fallback) :: later ∧
    (c.steps before).text? key l = none ∧
    (c.steps before).text? key fallback = some text ∧
    (c.steps (before ++ [.validate (some fallback)])).text? key l = some text ∧
    ∀ request ∈ later, request.write? key l = none

theorem lastWrite?_concat (requests : List Operation) (request : Operation) (key l : String) :
    lastWrite? (requests ++ [request]) key l =
      (request.write? key l).or (lastWrite? requests key l) := by
  unfold lastWrite?
  rw [List.filterMap_append, List.getLast?_append]
  cases h : request.write? key l <;> simp [h]

/-- A request that does not write leaves what was copied before it. -/
theorem WasCopied.concat {c : Catalog} {requests : List Operation} {request : Operation}
    {key l text : String} (h : c.WasCopied requests key l text) (hwrite : request.write? key l = none) :
    c.WasCopied (requests ++ [request]) key l text := by
  obtain ⟨before, fallback, later, rfl, hnone, htext, hcopy, hlater⟩ := h
  refine ⟨before, fallback, later ++ [request], by simp, hnone, htext, hcopy, ?_⟩
  rw [List.forall_mem_append, List.forall_mem_singleton]
  exact ⟨hlater, hwrite⟩

/-- **A text is the one that was written last, or it was copied.** -/
theorem text?_steps {c : Catalog} (hempty : ∀ key l, c.text? key l = none)
    (requests : List Operation) (key l : String) :
    match lastWrite? requests key l with
    | some (some text) => (c.steps requests).text? key l = some text
    | _ => ∀ text, (c.steps requests).text? key l = some text → c.WasCopied requests key l text := by
  induction requests using List.reverseRecOn with
  | nil =>
    intro text htext
    rw [show c.steps [] = c from rfl, hempty] at htext
    cases htext
  | append_singleton requests request ih =>
    rw [lastWrite?_concat, steps_concat]
    cases hwrite : request.write? key l with
    | some written =>
      rw [Option.some_or, text?_step_of_write? hwrite]
      cases written with
      | some text => rfl
      | none =>
        intro text htext
        cases htext
    | none =>
      rw [Option.none_or]
      obtain hsame | ⟨fallback, t, rfl, hnone, hsource, hnew⟩ :=
        text?_step_cases (c := c.steps requests) hwrite
      · rw [hsame]
        split
        · rename_i text hlast
          rw [hlast] at ih
          exact ih
        · rename_i hlast
          split at ih
          · rename_i text hlast'
            exact absurd hlast' (hlast text)
          · exact fun text htext => (ih text htext).concat hwrite
      · -- the text was not there before, so no text was written there last
        rw [hnew]
        split
        · rename_i text hlast
          rw [hlast, hnone] at ih
          cases ih
        · intro text htext
          cases htext
          refine ⟨requests, fallback, [], rfl, hnone, hsource, ?_, List.forall_mem_nil _⟩
          rw [steps_concat]
          exact hnew

/-! ## What is answered -/

/-- An entry that is asked for is found, and it answers with its own key. -/
theorem step_entry_of_find? {c : Catalog} {key : String} {e : Entry} (he : c.find? key = some e) :
    (c.step (.entry key)).1.find? key = some e ∧
      (c.step (.entry key)).2.outcome = .ok (.key e.key) := by
  have hfind : (c.update key id).find? key = some e := by
    rw [find?_update, if_pos rfl, he]
    rfl
  refine ⟨hfind, ?_⟩
  show Except.ok (Answer.key (((c.update key id).find? key).getD (.empty key)).key) = _
  rw [hfind]
  rfl

/-- The error that stops a completion is about an entry without the text. -/
theorem find?_of_outcome_validate {c : Catalog} {fallback : Option String} {key locale : String}
    (h : (c.step (.validate fallback)).2.outcome = .error (.failure (.missingText key locale))) :
    ∃ e, c.find? key = some e ∧ e.texts.get? locale = none := by
  obtain ⟨e, he, hopen, -⟩ := gap?_validate_eq_some (gap?_of_outcome_validate h)
  exact ⟨e, he, (Entry.get?_of_firstGap? (Entry.openGap?_eq_some hopen).2).2⟩

/-- What a plan shows under a key is the entry that is stored there. -/
theorem text?_of_mem_plan {c : Catalog} {target : Target} {accessors : List Accessor}
    (h : target.plan c = .ok accessors) {a : Accessor} (ha : a ∈ accessors) :
    ∃ e, c.find? a.key = some e ∧ a.parameters = target.parameters e ∧
      ∀ row ∈ a.rows, c.text? a.key row.1 = some row.2 := by
  obtain ⟨e, he, hgap, hparameters, hrows⟩ := Target.mem_plan h ha
  refine ⟨e, he, hparameters, ?_⟩
  rw [hrows, List.forall_mem_map]
  intro l hl
  obtain ⟨text, htext, hrow⟩ := Entry.row_of_firstGap? hgap hl
  rw [hrow, text?, he, Option.bind_some]
  exact htext

/-! ## The law -/

/-- **What a session leaves.** Of the requests to a catalog without entries: an entry is stored under its
own key, and it is found and answers with that key when it is asked for. The accessors of a plan, the notices
of a completion and the error that stops one name an entry by its own key. There is an entry for exactly the
keys that a request has named. The locales are the first ones and those that were added, in order. Under a
key and a locale there is the text that was written there last; where none was written or the last one was
taken away, there is no text, or one that was copied there since. Whatever is requested later, an entry stays
with all its placeholders, and completing gives it others only when it has none. -/
theorem session_history (locales : List String) (requests : List Operation) :
    let after := (ofLocales locales).steps
    (∀ key e, (key, e) ∈ (after requests).entries.toList →
      e.key = key ∧ (after requests).find? key = some e ∧
      ((after requests).step (.entry key)).1.find? key = some e ∧
      ((after requests).step (.entry key)).2.outcome = .ok (.key e.key)) ∧
    (∀ target accessors, Target.plan target (after requests) = .ok accessors → ∀ a ∈ accessors,
      ∃ e, (after requests).find? a.key = some e ∧ e.key = a.key ∧ a.parameters = target.parameters e ∧
        ∀ row ∈ a.rows, (after requests).text? a.key row.1 = some row.2) ∧
    (∀ fallback,
      let report := ((after requests).step (.validate fallback)).2
      (∀ notice ∈ report.notices, ∀ key ∈ notice.key?,
        ∃ e, (after requests).find? key = some e ∧ e.key = key) ∧
      ∀ key locale, report.outcome = .error (.failure (.missingText key locale)) →
        ∃ e, (after requests).find? key = some e ∧ e.key = key ∧ e.texts.get? locale = none) ∧
    (∀ key, ((after requests).find? key).isSome ↔ ∃ request ∈ requests, request.key? = some key) ∧
    (after requests).locales = locales ++ requests.filterMap Operation.addedLocale? ∧
    (∀ key l,
      match lastWrite? requests key l with
      | some (some text) => (after requests).text? key l = some text
      | _ => ∀ text, (after requests).text? key l = some text →
          (ofLocales locales).WasCopied requests key l text) ∧
    ∀ key e, (after requests).find? key = some e →
      (∀ later, ∃ e', (after (requests ++ later)).find? key = some e' ∧
        ∀ name ∈ e.placeholders.toNames, name ∈ e'.placeholders.toNames) ∧
      ∀ fallback e', (after (requests ++ [.validate fallback])).find? key = some e' →
        e.placeholders.toNames ≠ [] → e'.placeholders = e.placeholders := by
  intro after
  have hkeyed : (after requests).Keyed := keyed_steps (keyed_ofLocales locales) requests
  have hkeys : ∀ key, ((after requests).find? key).isSome ↔
      ∃ request ∈ requests, request.key? = some key := by
    intro key
    rw [isSome_find?_steps]
    exact or_iff_right (by simp [ofLocales, find?])
  have hempty : ∀ key l, (ofLocales locales).text? key l = none := by
    intro key l
    rfl
  refine ⟨?_, ?_, ?_, hkeys, locales_steps _ requests, text?_steps hempty requests, ?_⟩
  · intro key e hmem
    have he : (after requests).find? key = some e := Fields.mem_toList.mp hmem
    exact ⟨hkeyed key e he, he, step_entry_of_find? he⟩
  · intro target accessors h a ha
    obtain ⟨e, he, hparameters, hrows⟩ := text?_of_mem_plan h ha
    exact ⟨e, he, hkeyed a.key e he, hparameters, hrows⟩
  · intro fallback report
    constructor
    · intro notice hnotice key hkey
      obtain ⟨e, he⟩ := key?_of_mem_notices_validate hnotice hkey
      exact ⟨e, he, hkeyed key e he⟩
    · intro key locale houtcome
      obtain ⟨e, he, hnone⟩ := find?_of_outcome_validate houtcome
      exact ⟨e, he, hkeyed key e he, hnone⟩
  · intro key e he
    constructor
    · intro later
      show ∃ e', ((ofLocales locales).steps (requests ++ later)).find? key = some e' ∧ _
      rw [steps_append]
      exact placeholders_steps later he
    · intro fallback e' he' hne
      have hstep : after (requests ++ [.validate fallback]) =
          ((after requests).validate fallback).catalog := steps_concat _ requests (.validate fallback)
      rw [hstep] at he'
      exact placeholders_validate he he' hne

/-- Requests that write a text, take it away for a locale that is added, and complete the catalog. -/
def copying : List Operation :=
  [.setText "a" "en" "A \x7by\x7d", .addLocale "de", .validate none, .declare "a" ["x"],
    .setText "a" "de" "B", .unsetText "a" "de", .validate (some "en"), .textFor "a" "fi"]

theorem session_history_copying :
    lastWrite? copying "a" "de" = some none ∧
    (ofLocales ["en"]).WasCopied copying "a" "de" "A \x7by\x7d" ∧
    ∃ e e', ((ofLocales ["en"]).steps copying).find? "a" = some e ∧ e.key = "a" ∧
      e.placeholders.toNames = ["x"] ∧
      ((ofLocales ["en"]).steps (copying ++ [.validate none])).find? "a" = some e' ∧
      e'.placeholders = e.placeholders := by
  have hlast : lastWrite? copying "a" "de" = some none := by decide
  have htext : ((ofLocales ["en"]).steps copying).text? "a" "de" = some "A \x7by\x7d" := by
    decide +kernel
  obtain ⟨hstored, -, -, -, -, hhistory, hentries⟩ := session_history ["en"] copying
  have hcopied := hhistory "a" "de"
  rw [hlast] at hcopied
  have hdeclared : (((ofLocales ["en"]).steps copying).find? "a").map (·.placeholders.toNames) =
      some ["x"] := by
    decide +kernel
  obtain ⟨e, he, hnames⟩ := Option.map_eq_some_iff.mp hdeclared
  obtain ⟨e', he', -⟩ := (hentries "a" e he).1 [.validate none]
  have hne : e.placeholders.toNames ≠ [] := by simp [hnames]
  have hkey : e.key = "a" := (hstored "a" e (Fields.mem_toList.mpr he)).1
  exact ⟨hlast, hcopied _ htext, e, e', he, hkey, hnames, he', (hentries "a" e he).2 none e' he' hne⟩

end Catalog

end Phrasebook
