import ChatMarkup.Inline.Pairing
import Mathlib.Data.List.Forall2

/-!
# Steps of the Pairing Machine

What a step can do, said once: it passes the first run by, or the run gives up,
or it is joined to an opener before it. Everything that is proved of the
machine follows these three cases, and `reaches_induction` carries what a step
keeps to every state that the machine comes to, the final one included.

The text is looked at as a whole, the runs passed and those ahead in one list.
A step only moves the boundary between the two and takes from what is there,
so run for run the text before a step and the text after it are related by
`Becomes`: a run stays where it is, and it only ever loses.

None of this depends on how far a closer looks back. The limit of the search is
a variable throughout.

## Main definitions

* `Held.Becomes`: The same run, perhaps with fewer markers or out of play.
* `Pairing.all`: The runs of the text, whether passed or ahead.
* `Pairing.Reaches`: The machine comes from one state to the other.

## Theorems

* `Held.of_seeks`: What a run needs to look for an opener.
* `fit_opener`: An opener that fits is in play and has the closer's marker.
* `step_cases`: What a step can do.
* `reaches_induction`: What every step keeps holds wherever the machine comes to.
* `reaches_finish`: The machine comes to its final state.
* `finish_of_step`: A step does not change how the run ends.
* `ahead_finish`: At the end no run is ahead.
* `all_of_found`, `all_join`: The text around an opener that is found, before
  and after the match.
* `made_join`: A match adds one pair at the end.
* `becomes_of_step`, `retired_of_step`: A step only takes from the runs, and it
  brings none back into play.
-/

namespace ChatMarkup.Inline

/-- What is left of a run later on. It is not another run, it has not come back
    into play, and it has gained no markers. -/
structure Held.Becomes (held later : Held) : Prop where
  /-- It is the same run. -/
  run_eq : later.run = held.run
  /-- It was in play before, if it still is. -/
  active : later.active = true → held.active = true
  /-- It has no more markers than before. -/
  remaining_le : later.remaining ≤ held.remaining

namespace Held

theorem becomes_refl (held : Held) : held.Becomes held :=
  ⟨rfl, id, Nat.le_refl _⟩

theorem becomes_retire (held : Held) : held.Becomes held.retire :=
  ⟨rfl, fun h => absurd h Bool.false_ne_true, Nat.le_refl _⟩

theorem becomes_spend (held : Held) (size : Nat) : held.Becomes (held.spend size) := by
  refine ⟨rfl, fun h => ?_, Nat.sub_le _ _⟩
  simp only [spend, Bool.and_eq_true] at h
  exact h.1

/-- A run that looks for an opener is in play, can close, and has markers left. -/
theorem of_seeks {held : Held} (h : held.seeks = true) :
    held.active = true ∧ held.run.canClose = true ∧ 0 < held.remaining := by
  simp only [seeks, Bool.and_eq_true, decide_eq_true_eq] at h
  exact ⟨h.1.1, h.1.2, h.2⟩

theorem map_run_of_becomes {runs later : List Held} (h : List.Forall₂ Becomes runs later) :
    later.map run = runs.map run := by
  induction h with
  | nil => rfl
  | cons hheld _ ih => rw [List.map_cons, List.map_cons, hheld.run_eq, ih]

end Held

/-- An opener that fits is in play, can open, and has the closer's marker. -/
theorem fit_opener {switches : Switches} {opener closer : Held} {size : Nat}
    (h : fit switches opener closer = some size) :
    opener.active = true ∧ opener.run.canOpen = true ∧
      opener.run.marker = closer.run.marker := by
  rw [fit] at h
  split at h
  · next hopener =>
      simp only [Bool.and_eq_true, beq_iff_eq] at hopener
      exact ⟨hopener.1.1.1, hopener.1.1.2, hopener.2⟩
  · exact absurd h (by simp)

namespace Pairing

/-- The runs of the text, in its order, whether passed or ahead. -/
def all (state : Pairing) : List Held :=
  state.runs ++ state.ahead

/-- A step passes the first run by, or the run gives up, or it is joined to an
    opener before it. -/
theorem step_cases {switches : Switches} {limit : Pairing → Held → Nat} {state next : Pairing}
    (h : state.step switches limit = some next) :
    ∃ closer rest, state.ahead = closer :: rest ∧
      ((closer.seeks = false ∧
          next = { state with passed := closer :: state.passed, ahead := rest }) ∨
        (closer.seeks = true ∧
          nearest switches closer (limit state closer) state.passed = none ∧
          next = state.giveUp closer rest) ∨
        ∃ found, closer.seeks = true ∧
          nearest switches closer (limit state closer) state.passed = some found ∧
          next = state.join closer rest found) := by
  rw [step] at h
  split at h
  · exact absurd h (by simp)
  · next closer rest hahead =>
      refine ⟨closer, rest, hahead, ?_⟩
      split at h
      · next hseeks =>
          split at h
          · next found hfound =>
              exact .inr (.inr ⟨found, hseeks, hfound, (Option.some.inj h).symm⟩)
          · next hnone => exact .inr (.inl ⟨hseeks, hnone, (Option.some.inj h).symm⟩)
      · next hseeks =>
          exact .inl ⟨Bool.eq_false_iff.mpr hseeks, (Option.some.inj h).symm⟩

theorem ahead_of_step_eq_none {switches : Switches} {limit : Pairing → Held → Nat}
    {state : Pairing} (h : state.step switches limit = none) : state.ahead = [] := by
  unfold step at h
  split at h
  · assumption
  · split at h
    · split at h <;> exact absurd h (by simp)
    · exact absurd h (by simp)

/-- The machine comes from the first state to the second. -/
inductive Reaches (switches : Switches) (limit : Pairing → Held → Nat) :
    Pairing → Pairing → Prop
  /-- Without a step. -/
  | refl (state : Pairing) : Reaches switches limit state state
  /-- By a step and what follows. -/
  | step (state next last : Pairing) : state.step switches limit = some next →
    Reaches switches limit next last → Reaches switches limit state last

/-- What every step keeps holds wherever the machine comes to. -/
theorem reaches_induction {switches : Switches} {limit : Pairing → Held → Nat}
    {Holds : Pairing → Prop}
    (hstep : ∀ state next, state.step switches limit = some next → Holds state → Holds next)
    {state last : Pairing} (hreaches : Reaches switches limit state last) (h : Holds state) :
    Holds last := by
  induction hreaches with
  | refl state => exact h
  | step state next last hnext _ ih => exact ih (hstep _ _ hnext h)

/-- The machine comes to its final state. -/
theorem reaches_finish (switches : Switches) (limit : Pairing → Held → Nat) (state : Pairing) :
    Reaches switches limit state (state.finish switches limit) := by
  fun_induction finish switches limit state with
  | case1 state => exact .refl state
  | case2 state next hnext ih => exact .step state next _ hnext ih

/-- A step does not change how the run ends. -/
theorem finish_of_step {switches : Switches} {limit : Pairing → Held → Nat}
    {state next : Pairing} (h : state.step switches limit = some next) :
    state.finish switches limit = next.finish switches limit := by
  rw [finish]
  split
  · next hnone => exact absurd (hnone.symm.trans h) (by simp)
  · next other hother => rw [Option.some.inj (hother.symm.trans h)]

/-- At the end no run is ahead. -/
theorem ahead_finish (switches : Switches) (limit : Pairing → Held → Nat) (state : Pairing) :
    (state.finish switches limit).ahead = [] := by
  fun_induction finish switches limit state with
  | case1 state hnone => exact ahead_of_step_eq_none hnone
  | case2 state next _ ih => exact ih

section Found

variable {switches : Switches} {state : Pairing} {closer : Held} {rest : List Held} {limit : Nat}
  {found : Found}

/-- The text around an opener that has been found for the first run ahead. -/
theorem all_of_found (hahead : state.ahead = closer :: rest)
    (hfound : nearest switches closer limit state.passed = some found) :
    state.all = found.before.reverse ++
      found.opener :: (found.between.reverse ++ closer :: rest) := by
  rw [all, runs, hahead, (nearest_split hfound).1]
  simp

theorem passed_length_of_found
    (hfound : nearest switches closer limit state.passed = some found) :
    state.passed.length = found.before.length + (found.between.length + 1) := by
  rw [(nearest_split hfound).1, List.length_append, List.length_cons]
  omega

theorem all_opener (hahead : state.ahead = closer :: rest)
    (hfound : nearest switches closer limit state.passed = some found) :
    state.all[found.before.length]? = some found.opener := by
  rw [all_of_found hahead hfound, List.getElem?_append_right (by simp)]
  simp

theorem all_closer (hahead : state.ahead = closer :: rest) :
    state.all[state.passed.length]? = some closer := by
  rw [all, runs, hahead, List.getElem?_append_right (by simp)]
  simp

/-- The text after the two have been joined. -/
theorem all_join (state : Pairing) (closer : Held) (rest : List Held) (found : Found) :
    (state.join closer rest found).all = found.before.reverse ++
      found.opener.spend found.size ::
        (found.between.reverse.map Held.retire ++ closer.spend found.size :: rest) := by
  rw [join, all, runs]
  split <;> simp

theorem made_join (state : Pairing) (closer : Held) (rest : List Held) (found : Found) :
    (state.join closer rest found).made =
      state.made ++
        [⟨found.before.length, state.passed.length, closer.run.marker, found.size⟩] := by
  rw [join, made]
  split <;> exact List.reverse_cons

/-- Joining two runs puts those between them out of play. -/
theorem retired_join (hfound : nearest switches closer limit state.passed = some found)
    {index : Nat} {held : Held} (hopener : found.before.length < index)
    (hcloser : index < state.passed.length)
    (hheld : (state.join closer rest found).all[index]? = some held) : held.active = false := by
  rw [passed_length_of_found hfound] at hcloser
  have hindex : index = (found.before.reverse ++ [found.opener.spend found.size]).length +
      (index - found.before.length - 1) := by
    simp only [List.length_append, List.length_reverse, List.length_singleton]
    omega
  rw [all_join, List.append_cons, hindex, List.getElem?_append_right (Nat.le_add_right _ _),
    Nat.add_sub_cancel_left, List.getElem?_append_left (by simp; omega)] at hheld
  rcases List.mem_map.mp (List.mem_of_getElem? hheld) with ⟨_, _, rfl⟩
  rfl

theorem passed_length_le_join
    (hfound : nearest switches closer limit state.passed = some found) :
    state.passed.length ≤ (state.join closer rest found).passed.length := by
  rw [passed_length_of_found hfound, join]
  split <;> simp only [List.length_append, List.length_map, List.length_cons] <;> omega

end Found

/-- The text after the first run ahead has given up. -/
theorem all_giveUp (state : Pairing) (closer : Held) (rest : List Held) :
    (state.giveUp closer rest).all =
      state.runs ++ (if closer.run.canOpen then closer else closer.retire) :: rest := by
  simp [giveUp, all, runs]

/-- A step leaves the runs as they are, except that some are put out of play
    and some lose markers. -/
theorem becomes_of_step {switches : Switches} {limit : Pairing → Held → Nat}
    {state next : Pairing} (h : state.step switches limit = some next) :
    List.Forall₂ Held.Becomes state.all next.all := by
  have hsame (runs : List Held) : List.Forall₂ Held.Becomes runs runs :=
    List.forall₂_same.mpr fun held _ => held.becomes_refl
  rcases step_cases h with ⟨closer, rest, hahead, hcase⟩
  rcases hcase with ⟨_, rfl⟩ | ⟨_, _, rfl⟩ | ⟨found, _, hfound, rfl⟩
  · have hall : state.all =
        ({ state with passed := closer :: state.passed, ahead := rest } : Pairing).all := by
      simp [all, runs, hahead]
    rw [← hall]
    exact hsame _
  · rw [all_giveUp, all, hahead]
    refine List.rel_append (hsame _) (List.Forall₂.cons ?_ (hsame rest))
    split
    · exact closer.becomes_refl
    · exact closer.becomes_retire
  · rw [all_join, all_of_found hahead hfound]
    refine List.rel_append (hsame _) (List.Forall₂.cons (found.opener.becomes_spend _) ?_)
    refine List.rel_append ?_ (List.Forall₂.cons (closer.becomes_spend _) (hsame rest))
    exact List.forall₂_map_right_iff.mpr
      (List.forall₂_same.mpr fun held _ => held.becomes_retire)

/-- Every run of the text after a step is what has become of one before. -/
theorem exists_becomes_of_step {switches : Switches} {limit : Pairing → Held → Nat}
    {state next : Pairing} (h : state.step switches limit = some next) {index : Nat}
    {later : Held} (hlater : next.all[index]? = some later) :
    ∃ held, state.all[index]? = some held ∧ held.Becomes later := by
  have hbecomes := becomes_of_step h
  rcases List.getElem?_eq_some_iff.mp hlater with ⟨hindex, hget⟩
  have hold : index < state.all.length := by
    rw [hbecomes.length_eq]
    exact hindex
  refine ⟨state.all[index], List.getElem?_eq_getElem hold, ?_⟩
  have hheld := hbecomes.get hold hindex
  simp only [List.get_eq_getElem, hget] at hheld
  exact hheld

/-- What is out of play stays out of play. -/
theorem retired_of_step {switches : Switches} {limit : Pairing → Held → Nat}
    {state next : Pairing} (h : state.step switches limit = some next) {index : Nat}
    (hretired : ∀ held, state.all[index]? = some held → held.active = false) {later : Held}
    (hlater : next.all[index]? = some later) : later.active = false := by
  rcases exists_becomes_of_step h hlater with ⟨held, hheld, hbecomes⟩
  refine Bool.eq_false_iff.mpr fun hactive => ?_
  exact absurd (hbecomes.active hactive) (by simp [hretired held hheld])

end Pairing

end ChatMarkup.Inline
