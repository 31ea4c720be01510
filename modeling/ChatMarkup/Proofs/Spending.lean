import ChatMarkup.Proofs.Floors
import ChatMarkup.Proofs.Growth

/-!
# Spending Markers

What every step of the pairing takes from the runs, and why there is a last step.

A match takes as many markers from its opener as from its closer. It is not
checked that they are there. For asterisks and underscores the number is counted
from what both sides hold, and the switches say which numbers count. For tildes it
is two, whatever is left. That is right because a run of tildes takes part only if
it has two, so that it is either whole or spent. `Spends` says of one match what it
takes from whom, and that both have it to give.

Runs that are out of play are not found, and they do not look for an opener. They
never come back into play, so no later match is theirs.

A run that looks for an opener may be matched again and again before it is passed,
so the steps are not bounded by the number of runs. But a step that does not pass a
run takes markers from two, and nothing gives any back. So the runs ahead and the
markers left, counted together, become fewer with every step, and there are no more
steps than there were of both at the start.

## Main definitions

* `chosenSize`: The markers that a match uses, by what the two sides hold.
* `Pairing.left`: The markers that no match has used.
* `Pairing.Spends`: A match, and what it takes from the two runs.
* `Pairing.Advances`: A run is passed, or there are fewer markers left.
* `Pairing.Accounted`: Every marker is left or was taken, by sizes with a meaning.
* `Pairing.toDo`: The runs ahead and the markers left.
* `Pairing.runFor`: The state after a number of steps.

## Theorems

* `chosenSize_of_fit`: A match uses the number chosen.
* `spends_of_found`: A match takes no more than is there.
* `spends_of_step`, `advances_of_step`: What a step does to the markers.
* `spared_of_reaches`: A run that is out of play is in no later match.
* `accounted_of_reaches`: Every state on the way is accounted for.
* `exists_runFor_of_reaches`: How many steps lead to a state.
* `pairing_accounted`: All of this for the runs of a text.
-/

namespace ChatMarkup.Inline

/-! ### The size of a match -/

/-- The most asterisks or underscores that a match may use: three if both sides
    have three, otherwise two, or what the side with fewer has. -/
def mostUsed (opener closer : Nat) : Nat :=
  if 3 ≤ opener ∧ 3 ≤ closer then 3 else min (min opener closer) 2

/-- The markers that a match uses on either side, by what the two sides hold: the
    largest number with a meaning, counted down from the most that may be used.
    Tildes are not counted. -/
def chosenSize (switches : Switches) (marker : Marker) (opener closer : Nat) : Option Nat :=
  if marker = .tilde then some 2
  else (List.range' 1 (mostUsed opener closer)).reverse.find? switches.allowsSize

-- A run of a single tilde would have to give what it does not have.
example (switches : Switches) : chosenSize switches .tilde 1 1 = some 2 := rfl

/-- To try those of three, two and one that both sides hold is to count down. -/
theorem find?_size_eq (switches : Switches) (opener closer : Nat) :
    ([3, 2, 1].find? fun size =>
      decide (size ≤ opener) && decide (size ≤ closer) && switches.allowsSize size) =
        (List.range' 1 (mostUsed opener closer)).reverse.find? switches.allowsSize := by
  have hheld : ∀ size, size = 3 ∨ size = 2 ∨ size = 1 →
      (decide (size ≤ opener) && decide (size ≤ closer)) =
        decide (size ≤ mostUsed opener closer) := by
    intro size hsize
    rw [← Bool.decide_and, mostUsed, decide_eq_decide]
    split <;> omega
  have hmost : mostUsed opener closer ≤ 3 := by
    rw [mostUsed]
    split <;> omega
  simp only [List.find?_cons, List.find?_nil, hheld 3 (.inl rfl), hheld 2 (.inr (.inl rfl)),
    hheld 1 (.inr (.inr rfl))]
  -- What is left depends on the number alone, and there are four of them.
  generalize mostUsed opener closer = most at hmost
  rcases (by omega : most = 0 ∨ most = 1 ∨ most = 2 ∨ most = 3) with rfl | rfl | rfl | rfl
  · rfl
  · simp [List.range', List.find?_cons]
  · simp [List.range', List.find?_cons]
  · simp [List.range', List.find?_cons]

/-- A match uses the number chosen. -/
theorem chosenSize_of_fit {switches : Switches} {opener closer : Held} {size : Nat}
    (h : fit switches opener closer = some size) :
    chosenSize switches closer.run.marker opener.remaining closer.remaining = some size := by
  rw [fit] at h
  rw [chosenSize]
  split at h
  · split at h
    · next htilde => rw [if_pos htilde, h]
    · next htilde =>
        rw [if_neg htilde]
        split at h
        · exact absurd h (by simp)
        · rw [← find?_size_eq, h]
  · exact absurd h (by simp)

namespace Pairing

variable {switches : Switches} {limit : Pairing → Held → Nat} {runs : List Run}
  {state next last : Pairing}

/-! ### One match -/

/-- The markers that no match has used. -/
def left (state : Pairing) : Nat :=
  (state.all.map Held.remaining).sum

/-- Between the two states a pair is made of two runs in play. Its size is chosen
    by what they hold, both hold as many markers, and both have given as many
    afterwards. No other run gives any. -/
structure Spends (switches : Switches) (state next : Pairing) (pair : Pair)
    (opener closer : Held) : Prop where
  /-- The pair is recorded. -/
  made_eq : next.made = state.made ++ [pair]
  /-- The run that opens is in play. -/
  opener_eq : state.all[pair.opener]? = some opener ∧ opener.active = true
  /-- The run that closes is in play. -/
  closer_eq : state.all[pair.closer]? = some closer ∧ closer.active = true
  /-- The size is the one chosen. -/
  size_eq : chosenSize switches pair.marker opener.remaining closer.remaining = some pair.size
  /-- The opener holds as many markers. -/
  le_opener : pair.size ≤ opener.remaining
  /-- The closer holds as many markers. -/
  le_closer : pair.size ≤ closer.remaining
  /-- The opener has given them. -/
  opener_spent : next.all[pair.opener]? = some (opener.spend pair.size)
  /-- The closer has given them. -/
  closer_spent : next.all[pair.closer]? = some (closer.spend pair.size)
  /-- Another run holds what it held. -/
  others : ∀ index later, next.all[index]? = some later → index ≠ pair.opener →
    index ≠ pair.closer →
      ∃ held, state.all[index]? = some held ∧ later.remaining = held.remaining

/-- A run is passed, or there are fewer markers left. Neither is ever undone. -/
structure Advances (state next : Pairing) : Prop where
  /-- No run is ahead again. -/
  passed_le : state.passed.length ≤ next.passed.length
  /-- No markers are given back. -/
  left_le : next.left ≤ state.left
  /-- It is the next run's turn, or there are fewer markers. -/
  moves : next.passed.length = state.passed.length + 1 ∨ next.left < state.left

section Found

variable {closer : Held} {rest : List Held} {count : Nat} {found : Found}

theorem all_join_opener (state : Pairing) (closer : Held) (rest : List Held) (found : Found) :
    (state.join closer rest found).all[found.before.length]? =
      some (found.opener.spend found.size) := by
  rw [all_join, getElem?_append_cons]
  simp

theorem all_join_closer (hfound : nearest switches closer count state.passed = some found) :
    (state.join closer rest found).all[state.passed.length]? =
      some (closer.spend found.size) := by
  have hbetween : found.before.length + (found.between.length + 1) -
      (found.before.length + 1) = found.between.length := by omega
  rw [all_join, passed_length_of_found hfound, getElem?_append_cons, getElem?_append_cons]
  simp [hbetween]

/-- A match takes no more than is there. -/
theorem spends_of_found (balanced : state.Balanced) (hahead : state.ahead = closer :: rest)
    (hseeks : closer.seeks = true)
    (hfound : nearest switches closer count state.passed = some found) :
    state.Spends switches (state.join closer rest found)
      ⟨found.before.length, state.passed.length, closer.run.marker, found.size⟩
      found.opener closer where
  made_eq := made_join state closer rest found
  opener_eq := ⟨all_opener hahead hfound, (fit_opener (nearest_split hfound).2).1⟩
  closer_eq := ⟨all_closer hahead, (Held.of_seeks hseeks).1⟩
  size_eq := chosenSize_of_fit (nearest_split hfound).2
  le_opener := (le_of_found balanced hahead hseeks hfound).1
  le_closer := (le_of_found balanced hahead hseeks hfound).2.1
  opener_spent := all_join_opener state closer rest found
  closer_spent := all_join_closer hfound
  others := by
    intro index later hlater hopener hcloser
    rcases getElem?_all_join hahead hfound hlater with ⟨heq, _⟩ | ⟨heq, _⟩ | ⟨_, _, hheld⟩
    · exact absurd heq hopener
    · exact absurd heq hcloser
    · exact hheld

/-- What the two sides have given is missing from what is left. -/
theorem left_join (balanced : state.Balanced) (hahead : state.ahead = closer :: rest)
    (hseeks : closer.seeks = true)
    (hfound : nearest switches closer count state.passed = some found) :
    (state.join closer rest found).left + 2 * found.size = state.left := by
  have hle := le_of_found balanced hahead hseeks hfound
  have hretired : (found.between.reverse.map Held.retire).map Held.remaining =
      found.between.reverse.map Held.remaining := by
    rw [List.map_map]
    rfl
  rw [left, left, all_join, all_of_found hahead hfound]
  simp only [List.map_append, List.map_cons, hretired, List.sum_append, List.sum_cons, Held.spend]
  omega

end Found

/-! ### One step -/

/-- A step passes a run and spends nothing, or it makes a match. -/
theorem spends_of_step (balanced : state.Balanced) (h : state.step switches limit = some next) :
    (next.passed.length = state.passed.length + 1 ∧ next.made = state.made ∧
        next.all.map Held.remaining = state.all.map Held.remaining) ∨
      ∃ pair opener closer, state.Spends switches next pair opener closer := by
  rcases map_remaining_of_step h with hpassed | ⟨closer, rest, found, hahead, hseeks, hfound, rfl⟩
  · exact .inl hpassed
  · exact .inr ⟨_, _, _, spends_of_found balanced hahead hseeks hfound⟩

/-- A step advances: what it does not pass it pays for. -/
theorem advances_of_step (balanced : state.Balanced) (h : state.step switches limit = some next) :
    state.Advances next := by
  rcases map_remaining_of_step h with
    ⟨hpassed, _, hleft⟩ | ⟨closer, rest, found, hahead, hseeks, hfound, rfl⟩
  · refine ⟨by omega, ?_, .inl hpassed⟩
    rw [left, left, hleft]
  · have hpos := fit_pos (nearest_split hfound).2
    have hleft := left_join balanced hahead hseeks hfound
    exact ⟨passed_length_le_join hfound, by omega, .inr (by omega)⟩

/-- A run that is out of play is in no match that a step makes, because both runs
    of a match are in play. -/
theorem spared_of_step (h : state.step switches limit = some next) {index : Nat}
    (hretired : ∀ held, state.all[index]? = some held → held.active = false) :
    ∃ more, next.made = state.made ++ more ∧
      ∀ pair ∈ more, pair.opener ≠ index ∧ pair.closer ≠ index := by
  rcases map_remaining_of_step h with
    ⟨_, hmade, _⟩ | ⟨closer, rest, found, hahead, hseeks, hfound, rfl⟩
  · exact ⟨[], by rw [hmade, List.append_nil], fun _ hpair => absurd hpair List.not_mem_nil⟩
  · have hne {position : Nat} {held : Held} (hheld : state.all[position]? = some held)
        (hactive : held.active = true) : position ≠ index := by
      rintro rfl
      exact absurd (hretired held hheld) (by simp [hactive])
    refine ⟨_, made_join _ _ _ _, fun pair hpair => ?_⟩
    rw [List.mem_singleton.mp hpair]
    exact ⟨hne (all_opener hahead hfound) (fit_opener (nearest_split hfound).2).1,
      hne (all_closer hahead) (Held.of_seeks hseeks).1⟩

/-! ### All steps -/

/-- A run that is out of play is in no later match, because it stays out of
    play. -/
theorem spared_of_reaches (h : Reaches switches limit state last) {index : Nat}
    (hretired : ∀ held, state.all[index]? = some held → held.active = false) :
    ∃ more, last.made = state.made ++ more ∧
      ∀ pair ∈ more, pair.opener ≠ index ∧ pair.closer ≠ index := by
  induction h with
  | refl state => exact ⟨[], (List.append_nil _).symm, fun _ hpair => absurd hpair List.not_mem_nil⟩
  | step state next last hstep _ ih =>
      rcases spared_of_step hstep hretired with ⟨first, hfirst, hspared⟩
      rcases ih fun _ => retired_of_step hstep hretired with ⟨more, hmore, hlater⟩
      refine ⟨first ++ more, by rw [hmore, hfirst, List.append_assoc], ?_⟩
      exact List.forall_mem_append.mpr ⟨hspared, hlater⟩

/-- Every marker of every run is left or was taken by a pair, and every pair takes
    as many as have a meaning. -/
structure Accounted (switches : Switches) (runs : List Run) (state : Pairing) : Prop where
  /-- The runs are those of the text. -/
  runs_eq : state.all.map Held.run = runs
  /-- What is left of a run, and what was taken from it as an opener and as a
      closer, make up its length. -/
  balance : ∀ index held, state.all[index]? = some held →
    held.run.length = held.remaining + usedAt state.made index
  /-- The emphasis that a size stands for is switched on. -/
  allowed : ∀ pair ∈ state.made, pair.Allowed switches

/-- Every state on the way is accounted for. -/
theorem accounted_of_reaches (htakes : ∀ run ∈ runs, run.takesPart switches = true)
    (h : Reaches switches limit (start runs) state) : state.Accounted switches runs := by
  have balanced : state.Balanced := .of_reaches htakes h
  have sound : state.Sound runs := .of_reaches h
  have meaningful : state.Meaningful switches := .of_reaches h
  refine ⟨sound.runs_eq, balanced.balance, fun pair hpair => ?_⟩
  rcases (sound.joins pair hpair).opens with ⟨run, hrun, hmarker, _⟩
  exact meaningful.allowed hpair (htakes run (List.mem_of_getElem? hrun)) hmarker.symm

/-! ### The number of steps -/

/-- The runs ahead and the markers left. -/
def toDo (state : Pairing) : Nat :=
  state.ahead.length + state.left

/-- The state after so many steps, if there are as many. -/
def runFor (switches : Switches) (limit : Pairing → Held → Nat) : Nat → Pairing → Option Pairing
  | 0, state => some state
  | count + 1, state =>
    match state.step switches limit with
    | none => none
    | some next => runFor switches limit count next

/-- There is less to do after a step. -/
theorem toDo_lt_of_step (balanced : state.Balanced) (h : state.step switches limit = some next) :
    next.toDo < state.toDo := by
  have hcount (state : Pairing) : state.all.length = state.passed.length + state.ahead.length := by
    rw [all, Pairing.runs, List.length_append, List.length_reverse]
  have hlength := (becomes_of_step h).length_eq
  rw [hcount, hcount] at hlength
  rcases advances_of_step balanced h with ⟨hpassed, hleft, hmoves⟩
  rw [toDo, toDo]
  omega

/-- A state on the way is come to in no more steps than there has become less to
    do. -/
theorem exists_runFor_of_reaches (balanced : state.Balanced)
    (h : Reaches switches limit state last) :
    ∃ count, count + last.toDo ≤ state.toDo ∧ runFor switches limit count state = some last := by
  induction h with
  | refl state => exact ⟨0, Nat.le_of_eq (Nat.zero_add _), rfl⟩
  | step state next last hstep _ ih =>
      rcases ih (balanced.step hstep) with ⟨count, hle, hrun⟩
      have hlt := toDo_lt_of_step balanced hstep
      refine ⟨count + 1, by omega, ?_⟩
      rw [runFor, hstep]
      exact hrun

theorem toDo_start (runs : List Run) :
    (start runs).toDo = runs.length + (runs.map Run.length).sum := by
  rw [toDo, left, all, Pairing.runs]
  simp only [start, List.reverse_nil, List.nil_append, List.length_map, List.map_map]
  rfl

end Pairing

/-- For every text between two characters and under all switches, at every step of
    the pairing: every marker of every run is left or was taken, by sizes that are
    switched on; a run out of play is in no later match; and the step makes no
    match, or one that both its runs can afford. Every step passes a run or lowers
    the number of markers left, so the pairing comes to its end in no more steps
    than there are runs and markers. -/
theorem pairing_accounted (switches : Switches) (label : Text → List Span)
    (before after : Option Char) (s : Text) :
    let runs := runsBetween switches label before after s
    (∀ state, Pairing.Reaches switches Pairing.aboveFloor (Pairing.start runs) state →
      state.Accounted switches runs ∧
        (∀ index held, state.all[index]? = some held → held.active = false →
          ∀ last, Pairing.Reaches switches Pairing.aboveFloor state last →
            ∃ more, last.made = state.made ++ more ∧
              ∀ pair ∈ more, pair.opener ≠ index ∧ pair.closer ≠ index) ∧
        ∀ next, state.step switches Pairing.aboveFloor = some next →
          ((next.passed.length = state.passed.length + 1 ∧ next.made = state.made ∧
              next.all.map Held.remaining = state.all.map Held.remaining) ∨
            ∃ pair opener closer, state.Spends switches next pair opener closer) ∧
          state.Advances next) ∧
      ∃ count ≤ runs.length + (runs.map Run.length).sum,
        Pairing.runFor switches Pairing.aboveFloor count (Pairing.start runs) =
            some (pairRuns switches runs) ∧
          (pairRuns switches runs).step switches Pairing.aboveFloor = none := by
  intro runs
  have htakes : ∀ run ∈ runs, run.takesPart switches = true :=
    fun _ hrun => takesPart_of_mem_pieces hrun
  refine ⟨fun state hreaches => ?_, ?_⟩
  · have balanced : state.Balanced := .of_reaches htakes hreaches
    refine ⟨Pairing.accounted_of_reaches htakes hreaches, ?_, fun next hnext => ?_⟩
    · intro index held hheld hretired last hlast
      refine Pairing.spared_of_reaches hlast fun other hother => ?_
      rwa [← Option.some.inj (hheld.symm.trans hother)]
    · exact ⟨Pairing.spends_of_step balanced hnext, Pairing.advances_of_step balanced hnext⟩
  · have hfinish := Pairing.reaches_finish switches Pairing.aboveFloor (Pairing.start runs)
    rcases Pairing.exists_runFor_of_reaches (.start htakes) hfinish with ⟨count, hle, hrun⟩
    rw [Pairing.toDo_start] at hle
    refine ⟨count, by omega, hrun, ?_⟩
    -- There is no step because no run is ahead.
    rw [Pairing.step, pairRuns, Pairing.ahead_finish]

end ChatMarkup.Inline
