import Phrasebook.Proofs.Identifier

/-!
# The search for a free name

A taken name is given a number, which is counted up from two until the name with it is free. The count
passes only names that are taken, all of them different and none of them the name without a number, so it
ends before it has taken as many steps as there are taken names.

## Contents
- `Counts`: the count as steps
- `Counts.passed`, `counts_iff`: what a count leaves behind
- `Counts.determined`, `Counts.lt_card`: there is one count, and it is short
- `unique_least_free`: the name that is chosen
-/

namespace Phrasebook.Identifier

variable {candidate : String} {taken : List String} {start steps number : Nat}

/-- The **count** for a candidate: from a number on, one is added as long as the variant with the number
is taken. It holds of where the count starts, how many times one is added, and where it ends. -/
inductive Counts (candidate : String) (taken : List String) : Nat → Nat → Nat → Prop where
  /-- The count ends at a number whose variant is free. -/
  | free {start : Nat} (hfree : numbered candidate start ∉ taken) : Counts candidate taken start 0 start
  /-- It goes on behind a number whose variant is taken. -/
  | next {start steps number : Nat} (htaken : numbered candidate start ∈ taken)
      (hrest : Counts candidate taken (start + 1) steps number) :
      Counts candidate taken start (steps + 1) number

/-- **What a count leaves behind.** It ends as many numbers later as it takes steps, at a free variant, and
all variants before that one are taken. -/
theorem Counts.passed (h : Counts candidate taken start steps number) :
    number = start + steps ∧ numbered candidate number ∉ taken ∧
      ∀ m, start ≤ m → m < number → numbered candidate m ∈ taken := by
  induction h with
  | free hfree => exact ⟨rfl, hfree, fun m hm hlt => by omega⟩
  | @next start steps number htaken hrest ih =>
    obtain ⟨hnumber, hfree, hpassed⟩ := ih
    refine ⟨by omega, hfree, ?_⟩
    intro m hm hlt
    by_cases hstart : m = start
    · rw [hstart]
      exact htaken
    · exact hpassed m (by omega) hlt

/-- **A count ends** at a free variant when all before it are taken. -/
theorem counts_of_passed (hfree : numbered candidate (start + steps) ∉ taken)
    (hpassed : ∀ m, start ≤ m → m < start + steps → numbered candidate m ∈ taken) :
    Counts candidate taken start steps (start + steps) := by
  induction steps generalizing start with
  | zero => exact .free hfree
  | succ steps ih =>
    have hend : start + (steps + 1) = start + 1 + steps := by omega
    rw [hend] at hfree hpassed ⊢
    apply Counts.next
    · exact hpassed start (by omega) (by omega)
    · exact ih hfree fun m hm hlt => hpassed m (by omega) hlt

theorem counts_iff : Counts candidate taken start steps number ↔
    number = start + steps ∧ numbered candidate number ∉ taken ∧
      ∀ m, start ≤ m → m < number → numbered candidate m ∈ taken := by
  constructor
  · exact Counts.passed
  · rintro ⟨rfl, hfree, hpassed⟩
    exact counts_of_passed hfree hpassed

/-- Two counts from one number are the same. -/
theorem Counts.determined {steps' number' : Nat} (h : Counts candidate taken start steps number)
    (h' : Counts candidate taken start steps' number') : steps' = steps ∧ number' = number := by
  induction h generalizing steps' number' with
  | free hfree =>
    cases h' with
    | free _ => exact ⟨rfl, rfl⟩
    | next htaken _ => exact absurd htaken hfree
  | next htaken _ ih =>
    cases h' with
    | free hfree => exact absurd htaken hfree
    | next _ hrest =>
      obtain ⟨hsteps, hnumber⟩ := ih hrest
      exact ⟨by omega, hnumber⟩

/-- **The length of a count.** The variants it passes are taken, and so is the candidate, which is none of
them. -/
theorem Counts.lt_card (h : Counts candidate taken start steps number) (hmem : candidate ∈ taken) :
    steps < taken.toFinset.card := by
  obtain ⟨hnumber, -, hpassed⟩ := h.passed
  have hothers : ∀ i < steps, numbered candidate (start + i) ∈ taken.toFinset.erase candidate := by
    intro i hi
    rw [Finset.mem_erase, List.mem_toFinset]
    exact ⟨numbered_ne_self candidate _, hpassed _ (by omega) (by omega)⟩
  have hle : steps ≤ (taken.toFinset.erase candidate).card := le_card_of_numbered_mem hothers
  have hcandidate : candidate ∈ taken.toFinset := List.mem_toFinset.mpr hmem
  have hcard := Finset.card_erase_add_one hcandidate
  omega

/-- The count for a taken candidate ends, at the number that the candidate gets. -/
theorem exists_counts (hmem : candidate ∈ taken) : ∃ steps number,
    Counts candidate taken 2 steps number ∧ unique candidate taken = numbered candidate number := by
  obtain ⟨n, hunique, hn, hfree, hpassed⟩ := unique_of_mem hmem
  refine ⟨n - 2, n, ?_, hunique⟩
  rw [counts_iff]
  exact ⟨by omega, hfree, hpassed⟩

/-- **The chosen name is the least free one.** It is not taken. A candidate that is free is chosen itself. For
a candidate that is taken, the count from two on ends, in one way only and after fewer steps than there are
taken names; the number where it ends, in decimal, is what the candidate gets, and it is the least one that
gives a free name. -/
theorem unique_least_free (candidate : String) (taken : List String) :
    unique candidate taken ∉ taken ∧
    (candidate ∉ taken → unique candidate taken = candidate) ∧
    (candidate ∈ taken → ∃ steps number,
      (∀ steps' number', Counts candidate taken 2 steps' number' ↔
        steps' = steps ∧ number' = number) ∧
      steps < taken.toFinset.card ∧
      unique candidate taken = candidate ++ "_" ++ toString number ∧
      2 ≤ number ∧ candidate ++ "_" ++ toString number ∉ taken ∧
      ∀ m, 2 ≤ m → m < number → candidate ++ "_" ++ toString m ∈ taken) := by
  refine ⟨unique_not_mem candidate taken, unique_of_not_mem, ?_⟩
  intro hmem
  obtain ⟨steps, number, hcounts, hunique⟩ := exists_counts hmem
  obtain ⟨hnumber, hfree, hpassed⟩ := hcounts.passed
  refine ⟨steps, number, ?_, hcounts.lt_card hmem, hunique, by omega, hfree, hpassed⟩
  intro steps' number'
  constructor
  · exact hcounts.determined
  · rintro ⟨rfl, rfl⟩
    exact hcounts

theorem unique_least_free_greet :
    "greet" ∈ ["greet", "greet_2", "menu", "greet"] ∧
      Counts "greet" ["greet", "greet_2", "menu", "greet"] 2 1 3 ∧
      1 < ["greet", "greet_2", "menu", "greet"].toFinset.card ∧
      unique "greet" ["greet", "greet_2", "menu", "greet"] = "greet_3" ∧
      "wave" ∉ ["greet"] ∧ unique "wave" ["greet"] = "wave" := by
  have hmem : "greet" ∈ ["greet", "greet_2", "menu", "greet"] := by decide
  have hfree : "wave" ∉ ["greet"] := by decide
  have hcounts : Counts "greet" ["greet", "greet_2", "menu", "greet"] 2 1 3 :=
    .next (by decide +kernel) (.free (by decide +kernel))
  obtain ⟨-, -, htaken⟩ := unique_least_free "greet" ["greet", "greet_2", "menu", "greet"]
  obtain ⟨steps, number, hends, hlt, hunique, -⟩ := htaken hmem
  -- the count of one step is the only one
  obtain ⟨rfl, rfl⟩ := (hends 1 3).mp hcounts
  obtain ⟨-, hself, -⟩ := unique_least_free "wave" ["greet"]
  exact ⟨hmem, hcounts, hlt, hunique, hfree, hself hfree⟩

end Phrasebook.Identifier
