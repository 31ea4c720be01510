import ChatMarkup.Proofs.Laminar
import Mathlib.Algebra.GroupWithZero.Nat

/-!
# The Markers of a Run

Where the markers of a run have gone at the end of pairing.

A match takes markers from two runs and is recorded as a pair. So what a run has
left and what the pairs took from it are together what was written, at every
step. For this a match must never ask for more markers than both sides hold.
Asterisks and underscores are matched by what is left of them. Tildes are
matched by twos without a look at what is left, which is right because a run of
tildes that takes part has two markers and so never has a single one left.

## Main definitions

* `usedAt`: The markers that pairs took from a run.
* `Pairing.Balanced`: What is left and what was taken make up every run.
* `Settled`: The same for one run, whose pairs have its marker.

## Theorems

* `fit_le`, `le_of_found`: A match asks for no more than both sides hold.
* `exists_used_of_step`: What a step takes from a run is recorded.
* `Balanced.step`, `Balanced.of_reaches`: A step keeps the balance, so it holds in
  every state on the way.
* `settled_pairRuns`: Every run of a text is settled when all are paired.
-/

namespace ChatMarkup.Inline

/-- The markers that the pairs took from the run at the position. -/
def usedAt (pairs : List Pair) (index : Nat) : Nat :=
  ((pairs.filter fun pair => pair.closer == index).map Pair.size).sum +
    ((pairs.filter fun pair => pair.opener == index).map Pair.size).sum

theorem usedAt_concat (pairs : List Pair) (pair : Pair) (index : Nat) :
    usedAt (pairs ++ [pair]) index = usedAt pairs index +
      ((if pair.closer = index then pair.size else 0) +
        if pair.opener = index then pair.size else 0) := by
  have hsum (p : Pair → Bool) : (((pairs ++ [pair]).filter p).map Pair.size).sum =
      ((pairs.filter p).map Pair.size).sum + if p pair then pair.size else 0 := by
    rw [List.filter_append, List.filter_singleton, List.map_append, List.sum_append]
    cases p pair with
    | true => simp
    | false => simp
  simp only [usedAt, hsum, beq_iff_eq]
  omega

/-- A match asks for no more markers than both sides hold, if tildes are held by
    twos. -/
theorem fit_le {switches : Switches} {opener closer : Held} {size : Nat}
    (h : fit switches opener closer = some size) (hcloser : 0 < closer.remaining)
    (hopenerTildes : opener.run.marker = .tilde → opener.remaining % 2 = 0)
    (hcloserTildes : closer.run.marker = .tilde → closer.remaining % 2 = 0) :
    size ≤ opener.remaining ∧ size ≤ closer.remaining ∧
      (closer.run.marker = .tilde → size = 2) := by
  have hmarker := (fit_opener h).2.2
  rw [fit] at h
  split at h
  · next hopener =>
      simp only [Bool.and_eq_true, decide_eq_true_eq] at hopener
      split at h
      · next htilde =>
          -- An even number that is not zero is two at least.
          have hopenerEven := hopenerTildes (hmarker.trans htilde)
          have hcloserEven := hcloserTildes htilde
          rw [← Option.some.inj h]
          omega
      · next htilde =>
          split at h
          · exact absurd h (by simp)
          · have hfound := List.find?_some h
            simp only [Bool.and_eq_true, decide_eq_true_eq] at hfound
            exact ⟨hfound.1.1, hfound.1.2, fun heq => absurd heq htilde⟩
  · exact absurd h (by simp)

/-- A run of tildes takes part in the pairing only if it has two of them. -/
theorem length_of_takesPart {switches : Switches} {run : Run}
    (h : run.takesPart switches = true) (htilde : run.marker = .tilde) : run.length = 2 := by
  rw [Run.takesPart, htilde] at h
  simp only [Bool.and_eq_true, beq_iff_eq] at h
  exact h.2.2

/-- The elements of a list around one of them. -/
theorem getElem?_append_cons {α : Type} (xs : List α) (x : α) (ys : List α) (index : Nat) :
    (xs ++ x :: ys)[index]? =
      if index < xs.length then xs[index]?
      else if index = xs.length then some x
      else ys[index - (xs.length + 1)]? := by
  split
  · next hlt => exact List.getElem?_append_left hlt
  · next hge =>
      rw [List.getElem?_append_right (Nat.le_of_not_lt hge), List.getElem?_cons]
      split
      · next hzero => rw [if_pos (by omega)]
      · next hpos => rw [if_neg (by omega), Nat.sub_sub]

namespace Pairing

/-- Every run is made up of what is left of it and of what the pairs took. A run
    of tildes has an even number left. -/
structure Balanced (state : Pairing) : Prop where
  /-- What is left and what was taken make up the run. -/
  balance : ∀ (index : Nat) (held : Held), state.all[index]? = some held →
    held.run.length = held.remaining + usedAt state.made index
  /-- Tildes are taken by twos. -/
  tildes : ∀ (index : Nat) (held : Held), state.all[index]? = some held →
    held.run.marker = .tilde → held.remaining % 2 = 0

variable {switches : Switches} {limit : Pairing → Held → Nat} {runs : List Run}
  {state next : Pairing}

/-- The run at a position after two have been joined. -/
theorem getElem?_all_join {closer : Held} {rest : List Held} {found : Found} {count index : Nat}
    {later : Held} (hahead : state.ahead = closer :: rest)
    (hfound : nearest switches closer count state.passed = some found)
    (hlater : (state.join closer rest found).all[index]? = some later) :
    (index = found.before.length ∧ later = found.opener.spend found.size) ∨
      (index = state.passed.length ∧ later = closer.spend found.size) ∨
        (index ≠ found.before.length ∧ index ≠ state.passed.length ∧
          ∃ held, state.all[index]? = some held ∧ later.remaining = held.remaining) := by
  have hlength := passed_length_of_found hfound
  rw [all_of_found hahead hfound]
  rw [all_join] at hlater
  rw [getElem?_append_cons, getElem?_append_cons] at hlater ⊢
  simp only [List.length_reverse, List.length_map] at hlater ⊢
  -- In front of the opener, at the opener, between the two, at the closer, behind it.
  split at hlater
  · next hlt => exact .inr (.inr ⟨by omega, by omega, later, by rw [if_pos hlt]; exact hlater, rfl⟩)
  · split at hlater
    · next heq => exact .inl ⟨heq, (Option.some.inj hlater).symm⟩
    · split at hlater
      · next hge hne hlt =>
          rw [List.getElem?_map] at hlater
          rcases Option.map_eq_some_iff.mp hlater with ⟨held, hheld, rfl⟩
          refine .inr (.inr ⟨hne, by omega, held, ?_, rfl⟩)
          rw [if_neg hge, if_neg hne, if_pos hlt]
          exact hheld
      · split at hlater
        · exact .inr (.inl ⟨by omega, (Option.some.inj hlater).symm⟩)
        · next hge hne hge' hne' =>
            refine .inr (.inr ⟨hne, by omega, later, ?_, rfl⟩)
            rw [if_neg hge, if_neg hne, if_neg hge', if_neg hne']
            exact hlater

/-- A step that makes no pair passes a run and takes no markers. -/
theorem map_remaining_of_step (h : state.step switches limit = some next) :
    (next.passed.length = state.passed.length + 1 ∧ next.made = state.made ∧
        next.all.map Held.remaining = state.all.map Held.remaining) ∨
      ∃ closer rest found, state.ahead = closer :: rest ∧ closer.seeks = true ∧
        nearest switches closer (limit state closer) state.passed = some found ∧
        next = state.join closer rest found := by
  rcases step_cases h with ⟨closer, rest, hahead, hcase⟩
  rcases hcase with ⟨_, rfl⟩ | ⟨_, _, rfl⟩ | ⟨found, hseeks, hfound, rfl⟩
  · refine .inl ⟨rfl, rfl, ?_⟩
    simp only [all, Pairing.runs, hahead, List.reverse_cons, List.append_assoc,
      List.singleton_append]
  · refine .inl ⟨rfl, rfl, ?_⟩
    rw [all_giveUp, all, hahead, List.map_append, List.map_append, List.map_cons, List.map_cons]
    split <;> rfl
  · exact .inr ⟨closer, rest, found, hahead, hseeks, hfound, rfl⟩

/-- Both sides of a match hold what it takes. -/
theorem le_of_found (balanced : state.Balanced) {closer : Held} {rest : List Held}
    {count : Nat} {found : Found} (hahead : state.ahead = closer :: rest)
    (hseeks : closer.seeks = true)
    (hfound : nearest switches closer count state.passed = some found) :
    found.size ≤ found.opener.remaining ∧ found.size ≤ closer.remaining ∧
      (closer.run.marker = .tilde → found.size = 2) :=
  fit_le (nearest_split hfound).2 (Held.of_seeks hseeks).2.2
    (balanced.tildes _ _ (all_opener hahead hfound)) (balanced.tildes _ _ (all_closer hahead))

/-- What a step takes from a run is recorded. Tildes are taken by twos. -/
theorem exists_used_of_step (balanced : state.Balanced)
    (h : state.step switches limit = some next) {index : Nat} {later : Held}
    (hlater : next.all[index]? = some later) :
    ∃ held used, state.all[index]? = some held ∧ later.run = held.run ∧
      held.remaining = later.remaining + used ∧
      usedAt next.made index = usedAt state.made index + used ∧
      (held.run.marker = .tilde → used % 2 = 0) := by
  rcases exists_becomes_of_step h hlater with ⟨held, hheld, hbecomes⟩
  rcases map_remaining_of_step h with
    ⟨_, hmade, hmap⟩ | ⟨closer, rest, found, hahead, hseeks, hfound, hjoin⟩
  · -- No pair was made, so nothing was taken.
    have hremaining := congrArg (fun left => left[index]?) hmap
    simp only [List.getElem?_map, hlater, hheld, Option.map_some, Option.some.injEq] at hremaining
    exact ⟨held, 0, hheld, hbecomes.run_eq, hremaining.symm, by rw [hmade]; rfl, fun _ => rfl⟩
  · have hfit := (nearest_split hfound).2
    have hopener := all_opener hahead hfound
    have hcloser := all_closer hahead
    have hdistinct : state.passed.length ≠ found.before.length := by
      rw [passed_length_of_found hfound]
      omega
    rcases le_of_found balanced hahead hseeks hfound with ⟨hopenerLe, hcloserLe, htwo⟩
    rw [hjoin] at hlater ⊢
    rw [made_join, usedAt_concat]
    -- The new pair takes from its opener and its closer and from no other run.
    rcases getElem?_all_join hahead hfound hlater with
      ⟨rfl, rfl⟩ | ⟨rfl, rfl⟩ | ⟨hneOpener, hneCloser, held', hheld', hremaining⟩
    · refine ⟨found.opener, found.size, hopener, rfl, ?_, ?_, fun htilde => ?_⟩
      · exact (Nat.sub_add_cancel hopenerLe).symm
      · simp only [hdistinct, if_false, if_true, Nat.zero_add]
      · rw [htwo ((fit_opener hfit).2.2.symm.trans htilde)]
    · refine ⟨closer, found.size, hcloser, rfl, ?_, ?_, fun htilde => ?_⟩
      · exact (Nat.sub_add_cancel hcloserLe).symm
      · simp only [hdistinct.symm, if_false, if_true, Nat.add_zero]
      · rw [htwo htilde]
    · refine ⟨held, 0, hheld, hbecomes.run_eq, ?_, ?_, fun _ => rfl⟩
      · rw [Option.some.inj (hheld.symm.trans hheld'), hremaining, Nat.add_zero]
      · rw [if_neg (Ne.symm hneCloser), if_neg (Ne.symm hneOpener)]

namespace Balanced

theorem start (htakes : ∀ run ∈ runs, run.takesPart switches = true) :
    Balanced (start runs) where
  balance := by
    intro index held hheld
    rcases List.mem_map.mp (List.mem_of_getElem? hheld) with ⟨run, _, rfl⟩
    rfl
  tildes := by
    intro index held hheld htilde
    rcases List.mem_map.mp (List.mem_of_getElem? hheld) with ⟨run, hrun, rfl⟩
    exact congrArg (· % 2) (length_of_takesPart (htakes run hrun) htilde)

/-- A step keeps the balance. -/
theorem step (balanced : state.Balanced) (h : state.step switches limit = some next) :
    next.Balanced where
  balance := by
    intro index later hlater
    rcases exists_used_of_step balanced h hlater with ⟨held, used, hheld, hrun, hleft, hused, _⟩
    have hbalance := balanced.balance index held hheld
    rw [hrun]
    omega
  tildes := by
    intro index later hlater htilde
    rcases exists_used_of_step balanced h hlater with ⟨held, used, hheld, hrun, hleft, _, heven⟩
    rw [hrun] at htilde
    have hbefore := balanced.tildes index held hheld htilde
    have hused := heven htilde
    omega

/-- The balance holds in every state on the way, whatever the limit of the
    search. -/
theorem of_reaches (htakes : ∀ run ∈ runs, run.takesPart switches = true)
    (h : Reaches switches limit (Pairing.start runs) state) : state.Balanced :=
  reaches_induction (fun _ _ hstep balanced => balanced.step hstep) h (start htakes)

end Balanced

end Pairing

/-- The pairs of the run at the position have its marker, and what they took
    from it is what it lacks. -/
structure Settled (pairs : List Pair) (index : Nat) (held : Held) : Prop where
  /-- What is left and what was taken make up the run. -/
  balance : held.run.length = held.remaining + usedAt pairs index
  /-- The pairs of a run have its marker. -/
  marker : ∀ pair ∈ pairs, pair.opener = index ∨ pair.closer = index →
    pair.marker = held.run.marker

/-- Every run of a text is settled when all are paired. -/
theorem settled_pairRuns (switches : Switches) {runs : List Run}
    (h : ∀ run ∈ runs, run.takesPart switches = true) {index : Nat} {held : Held}
    (hheld : (pairRuns switches runs).runs[index]? = some held) :
    Settled (pairRuns switches runs).made index held := by
  have balanced := Pairing.Balanced.of_reaches h
    (Pairing.reaches_finish switches Pairing.aboveFloor (Pairing.start runs))
  have sound := Pairing.sound_finish switches Pairing.aboveFloor runs
  have hrun : runs[index]? = some held.run := by
    rw [← map_run_pairRuns switches runs, List.getElem?_map, hheld]
    rfl
  rw [← all_pairRuns] at hheld
  refine ⟨balanced.balance index held hheld, ?_⟩
  intro pair hpair hindex
  rcases hindex with hopener | hcloser
  · rcases (sound.joins pair hpair).opens with ⟨run, hopens, hmarker, _⟩
    rw [hopener] at hopens
    rw [← hmarker, Option.some.inj (hopens.symm.trans hrun)]
  · rcases (sound.joins pair hpair).closes with ⟨run, hcloses, hmarker, _⟩
    rw [hcloser] at hcloses
    rw [← hmarker, Option.some.inj (hcloses.symm.trans hrun)]

end ChatMarkup.Inline
