import ChatMarkup.Proofs.PairingSteps

/-!
# Paired Runs Are Nested

What holds of the pairs however the search is limited: each of them joins two
runs that may be joined, and no two of them cross.

A pair reaches over the runs between its two, and those are put out of play.
So an opener that is found later cannot lie within a pair made before, and this
is all that keeps pairs from crossing. It is said of a state as an invariant,
`Sound`, which also holds on to the runs that the machine was started with.

Pairs are made in the order of their closers, and those of one closer from the
inside outwards. `Precedes` says both at once, and that two pairs do not cross.

## Main definitions

* `Pair.Joins`: The pair joins two runs of the text that may be joined.
* `Pair.Crosses`: One pair begins inside the other and ends outside.
* `Pair.Precedes`: A pair made later is to the right or around.
* `Pairing.Sound`: What every state satisfies.

## Theorems

* `Sound.step`: A step keeps the invariant.
* `Sound.of_reaches`, `sound_finish`: Every state on the way satisfies the
  invariant, the final one included.
* `Sound.not_crosses`: No two pairs of a state cross.
* `map_run_pairRuns`: The runs that are paired are the runs of the text.
-/

namespace ChatMarkup.Inline

/-- The pair joins two runs of the text that may be joined: both have its
    marker, and the one that can open comes before the one that can close. -/
structure Pair.Joins (runs : List Run) (pair : Pair) : Prop where
  /-- The opener comes first. -/
  before : pair.opener < pair.closer
  /-- The opener is a run that can open. -/
  opens : ∃ run, runs[pair.opener]? = some run ∧ run.marker = pair.marker ∧ run.canOpen = true
  /-- The closer is a run that can close. -/
  closes : ∃ run, runs[pair.closer]? = some run ∧ run.marker = pair.marker ∧ run.canClose = true

/-- The other pair begins inside the pair and ends outside of it. -/
def Pair.Crosses (pair other : Pair) : Prop :=
  pair.opener < other.opener ∧ other.opener < pair.closer ∧ pair.closer < other.closer

/-- The pair made later ends no earlier, and it begins around the pair or
    behind it. -/
def Pair.Precedes (pair later : Pair) : Prop :=
  pair.closer ≤ later.closer ∧ (later.opener ≤ pair.opener ∨ pair.closer ≤ later.opener)

theorem Pair.Precedes.not_crosses {pair later : Pair} (h : pair.Precedes later) :
    ¬ pair.Crosses later ∧ ¬ later.Crosses pair := by
  unfold Precedes at h
  unfold Crosses
  omega

namespace Pairing

/-- What every state satisfies that is reached from the given runs. -/
structure Sound (runs : List Run) (state : Pairing) : Prop where
  /-- The runs are still those of the text. -/
  runs_eq : state.all.map Held.run = runs
  /-- Every pair joins two runs that may be joined. -/
  joins : ∀ pair ∈ state.made, pair.Joins runs
  /-- No pair closes after the first run ahead. -/
  reached : ∀ pair ∈ state.made, pair.closer ≤ state.passed.length
  /-- The runs within a pair are out of play. -/
  retired : ∀ pair ∈ state.made, ∀ index held, pair.opener < index → index < pair.closer →
    state.all[index]? = some held → held.active = false
  /-- A pair made later is to the right or around. -/
  ordered : state.made.Pairwise Pair.Precedes

namespace Sound

variable {switches : Switches} {limit : Pairing → Held → Nat} {runs : List Run}
  {state next : Pairing}

theorem start (runs : List Run) : Sound runs (start runs) where
  runs_eq := by
    simp only [all, Pairing.runs, Pairing.start, List.reverse_nil, List.nil_append, List.map_map]
    exact List.map_id _
  joins := fun _ h => absurd h List.not_mem_nil
  reached := fun _ h => absurd h List.not_mem_nil
  retired := fun _ h => absurd h List.not_mem_nil
  ordered := List.Pairwise.nil

theorem runs_eq_step (sound : state.Sound runs) (h : state.step switches limit = some next) :
    next.all.map Held.run = runs := by
  rw [← sound.runs_eq]
  exact Held.map_run_of_becomes (becomes_of_step h)

/-- The runs within a pair stay out of play. -/
theorem retired_step (sound : state.Sound runs) (h : state.step switches limit = some next)
    {pair : Pair} (hpair : pair ∈ state.made) {index : Nat} {held : Held}
    (hopener : pair.opener < index) (hcloser : index < pair.closer)
    (hheld : next.all[index]? = some held) : held.active = false :=
  retired_of_step h (fun old => sound.retired pair hpair index old hopener hcloser) hheld

/-- If a step makes no pair, the invariant is kept because nothing comes back
    into play. -/
theorem step_of_made_eq (sound : state.Sound runs) (h : state.step switches limit = some next)
    (hmade : next.made = state.made) (hpassed : state.passed.length ≤ next.passed.length) :
    next.Sound runs where
  runs_eq := sound.runs_eq_step h
  joins := by
    rw [hmade]
    exact sound.joins
  reached := by
    rw [hmade]
    exact fun pair hpair => Nat.le_trans (sound.reached pair hpair) hpassed
  retired := by
    rw [hmade]
    exact fun pair hpair index held => sound.retired_step h hpair
  ordered := by
    rw [hmade]
    exact sound.ordered

/-- The pair that is made joins two runs that may be joined. -/
theorem joins_of_found (sound : state.Sound runs) {closer : Held} {rest : List Held}
    {found : Found} (hahead : state.ahead = closer :: rest) (hseeks : closer.seeks = true)
    (hfound : nearest switches closer (limit state closer) state.passed = some found) :
    Pair.Joins runs
      ⟨found.before.length, state.passed.length, closer.run.marker, found.size⟩ := by
  rcases fit_opener (nearest_split hfound).2 with ⟨_, hopen, hmarker⟩
  have hcloses := (Held.of_seeks hseeks).2.1
  refine ⟨?_, ⟨found.opener.run, ?_, hmarker, hopen⟩, ⟨closer.run, ?_, rfl, hcloses⟩⟩
  · have hlength := passed_length_of_found hfound
    simp only
    omega
  · rw [← sound.runs_eq, List.getElem?_map, all_opener hahead hfound]
    rfl
  · rw [← sound.runs_eq, List.getElem?_map, all_closer hahead]
    rfl

/-- The pair that is made is to the right of every pair made before, or around
    it: its opener is in play, so it does not lie within one. -/
theorem precedes_of_found (sound : state.Sound runs) {closer : Held} {rest : List Held}
    {found : Found} (hahead : state.ahead = closer :: rest)
    (hfound : nearest switches closer (limit state closer) state.passed = some found)
    {pair : Pair} (hpair : pair ∈ state.made) :
    pair.Precedes
      ⟨found.before.length, state.passed.length, closer.run.marker, found.size⟩ := by
  have hactive := (fit_opener (nearest_split hfound).2).1
  refine ⟨sound.reached pair hpair, ?_⟩
  by_cases hopener : pair.opener < found.before.length
  · by_cases hcloser : found.before.length < pair.closer
    · -- Within the old pair the opener would be out of play.
      have hretired := sound.retired pair hpair found.before.length found.opener hopener hcloser
        (all_opener hahead hfound)
      exact absurd (hretired.symm.trans hactive) (by simp)
    · exact .inr (Nat.le_of_not_lt hcloser)
  · exact .inl (Nat.le_of_not_lt hopener)

/-- A step keeps the invariant. -/
theorem step (sound : state.Sound runs) (h : state.step switches limit = some next) :
    next.Sound runs := by
  rcases step_cases h with ⟨closer, rest, hahead, hcase⟩
  rcases hcase with ⟨_, hnext⟩ | ⟨_, _, hnext⟩ | ⟨found, hseeks, hfound, hnext⟩
  · -- The run is passed by.
    refine sound.step_of_made_eq h ?_ ?_
    · rw [hnext, made, made]
    · rw [hnext]
      exact Nat.le_succ _
  · -- The run gives up.
    refine sound.step_of_made_eq h ?_ ?_
    · rw [hnext, giveUp, made, made]
    · rw [hnext]
      exact Nat.le_succ _
  · -- A pair is made, and it is the last. What holds of the others still does.
    have hmade := made_join state closer rest found
    have hpassed : state.passed.length ≤ (state.join closer rest found).passed.length :=
      passed_length_le_join hfound
    rw [← hnext] at hmade hpassed
    refine ⟨sound.runs_eq_step h, ?_, ?_, ?_, ?_⟩
    · intro pair hpair
      rw [hmade, List.mem_append, List.mem_singleton] at hpair
      rcases hpair with hpair | rfl
      · exact sound.joins pair hpair
      · exact sound.joins_of_found hahead hseeks hfound
    · intro pair hpair
      rw [hmade, List.mem_append, List.mem_singleton] at hpair
      rcases hpair with hpair | rfl
      · exact Nat.le_trans (sound.reached pair hpair) hpassed
      · exact hpassed
    · intro pair hpair index held hopener hcloser hheld
      rw [hmade, List.mem_append, List.mem_singleton] at hpair
      rcases hpair with hpair | rfl
      · exact sound.retired_step h hpair hopener hcloser hheld
      · rw [hnext] at hheld
        exact retired_join hfound hopener hcloser hheld
    · rw [hmade, List.pairwise_append]
      refine ⟨sound.ordered, List.pairwise_singleton _ _, ?_⟩
      intro pair hpair later hlater
      rw [List.mem_singleton.mp hlater]
      exact sound.precedes_of_found hahead hfound hpair

/-- Every state on the way satisfies the invariant. -/
theorem of_reaches (h : Reaches switches limit (Pairing.start runs) state) : state.Sound runs :=
  reaches_induction (fun _ _ hstep sound => sound.step hstep) h (start runs)

-- The order in which two pairs were made is not known, so both ways are needed.
theorem not_crosses (sound : state.Sound runs) {pair other : Pair} (hpair : pair ∈ state.made)
    (hother : other ∈ state.made) : ¬ pair.Crosses other := by
  have hself : ∀ pair ∈ state.made, ¬ pair.Crosses pair := by
    intro pair _
    unfold Pair.Crosses
    omega
  have hforward : state.made.Pairwise fun pair later => ¬ pair.Crosses later :=
    sound.ordered.imp fun h => h.not_crosses.1
  have hbackward : state.made.Pairwise fun pair later => ¬ later.Crosses pair :=
    sound.ordered.imp fun h => h.not_crosses.2
  exact List.Pairwise.forall_of_forall_of_flip hself hforward hbackward hpair hother

end Sound

/-- The final state satisfies the invariant, whatever the limit of the
    search. -/
theorem sound_finish (switches : Switches) (limit : Pairing → Held → Nat) (runs : List Run) :
    ((start runs).finish switches limit).Sound runs :=
  .of_reaches (reaches_finish switches limit (start runs))

end Pairing

/-- When all runs are paired, none is left ahead. -/
theorem all_pairRuns (switches : Switches) (runs : List Run) :
    (pairRuns switches runs).all = (pairRuns switches runs).runs := by
  rw [Pairing.all, pairRuns, Pairing.ahead_finish, List.append_nil]

/-- The runs that are paired are the runs of the text. -/
theorem map_run_pairRuns (switches : Switches) (runs : List Run) :
    (pairRuns switches runs).runs.map Held.run = runs := by
  rw [← all_pairRuns]
  exact (Pairing.sound_finish switches Pairing.aboveFloor runs).runs_eq

end ChatMarkup.Inline
