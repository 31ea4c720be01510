import ChatMarkup.Inline.Parse
import ChatMarkup.Proofs.PairingSteps

/-!
# Searches That Stop at a Floor

When the floors of the search change nothing, and when they do.

A closer that finds no opener raises the floor of its class. The thought is that
whatever did not fit this closer will not fit a later one of its class, so the
later one need not look. That is right if a failure does not depend on how many
markers the closer has left, and this in turn is a matter of the switches: a
match may use as few as one marker, so with italic switched on any two runs that
could meet do meet, and with neither bold nor italic no two do.

With bold switched on and italic off it is wrong. A closer of three markers that
has spent two of them is left with one, and one marker fits nothing. It gives
up, and the floor hides openers of two markers that a later closer of three
would have fitted.

So the two searches agree on all texts exactly if italic is switched on wherever
bold is. For a single text they agree exactly if the search of everything never
comes upon an opener below the floor.

## Main definitions

* `Pairing.floor`: The number of runs that closers of a class overlook.
* `Pairing.Overlooks`: The next search finds an opener below the floor.
* `Pairing.FloorsHold`: Nothing below a floor fits a closer of its class.
* `runsBetween`: The runs of a text between two characters.

## Theorems

* `nearest_limit`: A limited search is a full one whose result is discarded if
  it is out of reach.
* `step_aboveFloor`: The two searches take the same step if nothing is
  overlooked.
* `made_ne_of_overlooks`: An opener that is overlooked makes a difference.
* `made_eq_iff_not_overlooks`: When the two searches make the same pairs.
* `fit_eq_none_of_becomes`: A failure is one for the class, and it stays one.
* `FloorsHold.step`: What is below the floors stays unfit.
* `made_aboveFloor_eq_everything_iff`: The switches under which the two
  searches agree on all texts.
-/

namespace ChatMarkup.Inline

/-- A limited search finds what the full search finds, unless that is out of
    reach. -/
theorem nearest_limit (switches : Switches) (closer : Held) (limit : Nat) (runs : List Held) :
    nearest switches closer limit runs =
      (nearest switches closer runs.length runs).filter fun found =>
        decide (found.between.length < limit) := by
  induction runs generalizing limit with
  | nil => cases limit <;> rfl
  | cons held rest ih =>
      cases limit with
      | zero => simp [nearest]
      | succ limit =>
          rw [List.length_cons, nearest, nearest]
          cases hfit : fit switches held closer with
          | some size => simp [Option.filter_some]
          | none =>
              -- The first run is one more between the opener and the closer.
              simp only
              rw [ih limit]
              cases nearest switches closer rest.length rest with
              | none => rfl
              | some found =>
                  by_cases hreach : found.between.length < limit
                  · simp [Option.filter_some, hreach]
                  · simp [Option.filter_some, hreach]

namespace Pairing

/-- The number of runs at the start of the text that closers of the class
    overlook. -/
def floor (state : Pairing) (kind : RunClass) : Nat :=
  (state.floors.lookup kind).getD 0

/-- The run at the front looks for an opener, and the nearest that it fits is
    below the floor of its class. -/
def Overlooks (switches : Switches) (state : Pairing) : Prop :=
  ∃ closer rest found, state.ahead = closer :: rest ∧ closer.seeks = true ∧
    nearest switches closer state.passed.length state.passed = some found ∧
    found.before.length < state.floor closer.run.class

section Search

variable {switches : Switches} {state next : Pairing}

/-- What a closer finds above the floor is what it finds anywhere, if that is
    above the floor. -/
theorem nearest_aboveFloor (switches : Switches) (state : Pairing) (closer : Held) :
    nearest switches closer (state.aboveFloor closer) state.passed =
      (nearest switches closer state.passed.length state.passed).filter fun found =>
        decide (state.floor closer.run.class ≤ found.before.length) := by
  rw [nearest_limit]
  cases hfound : nearest switches closer state.passed.length state.passed with
  | none => rfl
  | some found =>
      have hlength := passed_length_of_found hfound
      have hreach : found.between.length < state.aboveFloor closer ↔
          state.floor closer.run.class ≤ found.before.length := by
        rw [aboveFloor, floor]
        omega
      simp only [Option.filter_some, hreach]

/-- Where nothing is overlooked, the floor makes no difference. -/
theorem step_aboveFloor (h : ¬ state.Overlooks switches) :
    state.step switches aboveFloor = state.step switches everything := by
  cases hahead : state.ahead with
  | nil => rw [step, step, hahead]
  | cons closer rest =>
      rw [step, step, hahead]
      by_cases hseeks : closer.seeks = true
      · simp only [if_pos hseeks, nearest_aboveFloor, everything]
        cases hfound : nearest switches closer state.passed.length state.passed with
        | none => rfl
        | some found =>
            have habove : state.floor closer.run.class ≤ found.before.length :=
              Nat.le_of_not_lt fun hbelow =>
                h ⟨closer, rest, found, hahead, hseeks, hfound, hbelow⟩
            rw [Option.filter_some, if_pos (decide_eq_true habove)]
      · simp only [if_neg hseeks]

/-- Where an opener is overlooked, one search gives up and the other makes a
    pair. -/
theorem step_of_overlooks (h : state.Overlooks switches) :
    ∃ closer rest found,
      state.step switches aboveFloor = some (state.giveUp closer rest) ∧
        state.step switches everything = some (state.join closer rest found) := by
  rcases h with ⟨closer, rest, found, hahead, hseeks, hfound, hbelow⟩
  refine ⟨closer, rest, found, ?_, ?_⟩
  · have hnone : nearest switches closer (state.aboveFloor closer) state.passed = none := by
      rw [nearest_aboveFloor, hfound, Option.filter_some, if_neg (by simp; omega)]
    rw [step, hahead]
    simp only [if_pos hseeks, hnone]
  · rw [step, hahead]
    simp only [if_pos hseeks, everything, hfound]

/-- A step makes at most one pair, and that closes at the first run ahead. -/
theorem made_step {limit : Pairing → Held → Nat} (h : state.step switches limit = some next) :
    state.passed.length ≤ next.passed.length ∧
      ∃ more, next.made = state.made ++ more ∧
        ∀ pair ∈ more, pair.closer = state.passed.length := by
  rcases step_cases h with ⟨closer, rest, hahead, hcase⟩
  rcases hcase with ⟨_, rfl⟩ | ⟨_, _, rfl⟩ | ⟨found, _, hfound, rfl⟩
  · exact ⟨Nat.le_succ _, [], (List.append_nil _).symm, fun _ h => absurd h List.not_mem_nil⟩
  · exact ⟨Nat.le_succ _, [], (List.append_nil _).symm, fun _ h => absurd h List.not_mem_nil⟩
  · refine ⟨passed_length_le_join hfound, _, made_join state closer rest found, ?_⟩
    intro pair hpair
    rw [List.mem_singleton.mp hpair]

/-- The pairs still to be made come after those made, and none of them closes
    at a run that has been passed. -/
theorem made_finish (switches : Switches) (limit : Pairing → Held → Nat) (state : Pairing) :
    ∃ more, (state.finish switches limit).made = state.made ++ more ∧
      ∀ pair ∈ more, state.passed.length ≤ pair.closer := by
  fun_induction finish switches limit state with
  | case1 state => exact ⟨[], (List.append_nil _).symm, fun _ h => absurd h List.not_mem_nil⟩
  | case2 state next hnext ih =>
      rcases made_step hnext with ⟨hpassed, first, hfirst, hcloser⟩
      rcases ih with ⟨more, hmore, hlater⟩
      refine ⟨first ++ more, by rw [hmore, hfirst, List.append_assoc], ?_⟩
      intro pair hpair
      rcases List.mem_append.mp hpair with hpair | hpair
      · exact Nat.le_of_eq (hcloser pair hpair).symm
      · exact Nat.le_trans hpassed (hlater pair hpair)

/-- An opener that is overlooked makes a difference: the closer is passed
    without the pair that it should have made. -/
theorem made_ne_of_overlooks (h : state.Overlooks switches) :
    (state.finish switches aboveFloor).made ≠ (state.finish switches everything).made := by
  rcases step_of_overlooks h with ⟨closer, rest, found, hfloor, heverything⟩
  rw [finish_of_step hfloor, finish_of_step heverything]
  rcases made_finish switches aboveFloor (state.giveUp closer rest) with ⟨late, hlate, hcloser⟩
  rcases made_finish switches everything (state.join closer rest found) with ⟨more, hmore, _⟩
  rw [hlate, hmore, made_join, List.append_assoc]
  intro heq
  -- The first pair after those of `state` closes here, so it cannot be a later one.
  have hmem := hcloser ⟨found.before.length, state.passed.length, closer.run.marker, found.size⟩
    (by rw [List.append_cancel_left heq]; exact List.mem_cons_self)
  exact absurd hmem (Nat.not_succ_le_self _)

/-- The two searches make the same pairs exactly if the full one never comes
    upon an opener below the floor. -/
theorem made_eq_iff_not_overlooks (switches : Switches) (state : Pairing) :
    (state.finish switches aboveFloor).made = (state.finish switches everything).made ↔
      ∀ last, Reaches switches everything state last → ¬ last.Overlooks switches := by
  constructor
  · -- At the first state that overlooks an opener the searches part for good.
    intro heq last hreaches
    induction hreaches with
    | refl state => exact fun hoverlooks => made_ne_of_overlooks hoverlooks heq
    | step state next last hstep _ ih =>
        by_cases hoverlooks : state.Overlooks switches
        · exact absurd heq (made_ne_of_overlooks hoverlooks)
        · have hsame := (step_aboveFloor hoverlooks).trans hstep
          rw [finish_of_step hstep, finish_of_step hsame] at heq
          exact ih heq
  · -- As long as nothing is overlooked, the searches go through the same states.
    intro hnever
    fun_induction finish switches everything state with
    | case1 state hnone =>
        have hsame := step_aboveFloor (hnever state (.refl state))
        rw [finish]
        split
        · rfl
        · next next hnext => exact absurd (hnext.symm.trans (hsame.trans hnone)) (by simp)
    | case2 state next hnext ih =>
        have hsame := step_aboveFloor (hnever state (.refl state))
        rw [finish_of_step (hsame.trans hnext)]
        exact ih fun last hreaches => hnever last (.step state next last hnext hreaches)

end Search

end Pairing

/-- Whether two runs may meet is decided by the opener and the class of the
    closer. -/
theorem lengthsClash_congr {opener closer other : Run} (h : closer.class = other.class) :
    lengthsClash opener closer = lengthsClash opener other := by
  simp only [Run.class, RunClass.mk.injEq] at h
  rcases h with ⟨_, hopen, hresidue⟩
  have hsum : (opener.length + closer.length) % 3 = (opener.length + other.length) % 3 := by
    omega
  rw [lengthsClash, lengthsClash, hopen, hresidue, hsum]

section Sizes

variable {switches : Switches} (hsizes : switches.bold = true → switches.italic = true)
include hsizes

/-- If italic is switched on wherever bold is, two runs with markers left lack
    a number of markers to use only if no number has a meaning. -/
theorem find?_size_eq_none_iff {opener closer : Nat} (hopener : 0 < opener)
    (hcloser : 0 < closer) :
    ([3, 2, 1].find? fun size =>
      decide (size ≤ opener) && decide (size ≤ closer) && switches.allowsSize size) = none ↔
        switches.italic = false := by
  rw [List.find?_eq_none]
  constructor
  · intro h
    -- A single marker is always there to be used.
    have hone := h 1 (by simp)
    simp only [Switches.allowsSize, Bool.and_eq_true, decide_eq_true_eq, not_and] at hone
    exact Bool.eq_false_iff.mpr (hone ⟨hopener, hcloser⟩)
  · intro hitalic size _
    have hbold : switches.bold = false := by
      refine Bool.eq_false_iff.mpr fun hbold => ?_
      exact absurd (hsizes hbold) (by simp [hitalic])
    unfold Switches.allowsSize
    split <;> simp [hbold, hitalic]

/-- Under these switches a match fails because of what the two runs are, or
    because the opener is spent. How many markers the closer has left does not
    matter, as long as there is one. -/
theorem fit_eq_none_iff {opener closer : Held} (hcloser : 0 < closer.remaining) :
    fit switches opener closer = none ↔
      (opener.active = true → opener.run.canOpen = true → 0 < opener.remaining →
        opener.run.marker = closer.run.marker →
          closer.run.marker ≠ .tilde ∧
            (lengthsClash opener.run closer.run = true ∨ switches.italic = false)) := by
  unfold fit
  by_cases hopener : (opener.active && opener.run.canOpen && decide (0 < opener.remaining) &&
      opener.run.marker == closer.run.marker) = true
  · rw [if_pos hopener]
    simp only [Bool.and_eq_true, decide_eq_true_eq, beq_iff_eq] at hopener
    rcases hopener with ⟨⟨⟨hactive, hopen⟩, hheld⟩, hmarker⟩
    by_cases htilde : closer.run.marker = .tilde
    · simp [htilde, hactive, hopen, hheld, hmarker]
    · by_cases hclash : lengthsClash opener.run closer.run = true
      · simp [htilde, hclash]
      · rw [if_neg htilde, if_neg hclash, find?_size_eq_none_iff hsizes hheld hcloser]
        simp [hactive, hopen, hheld, hmarker, htilde, hclash]
  · rw [if_neg hopener]
    simp only [Bool.and_eq_true, decide_eq_true_eq, beq_iff_eq] at hopener
    refine iff_of_true rfl fun hactive hopen hheld hmarker => ?_
    exact absurd ⟨⟨⟨hactive, hopen⟩, hheld⟩, hmarker⟩ hopener

/-- A failure is one for all closers of the class, and it stays one whatever
    becomes of the opener. -/
theorem fit_eq_none_of_becomes {opener later closer other : Held} (hlater : opener.Becomes later)
    (hclass : closer.run.class = other.run.class) (hcloser : 0 < closer.remaining)
    (hother : 0 < other.remaining) (h : fit switches opener closer = none) :
    fit switches later other = none := by
  rw [fit_eq_none_iff hsizes hcloser] at h
  rw [fit_eq_none_iff hsizes hother]
  intro hactive hopen hheld hmarker
  have hmarkers : closer.run.marker = other.run.marker := congrArg RunClass.marker hclass
  rw [hlater.run_eq] at hopen hmarker ⊢
  rw [← hmarkers, ← lengthsClash_congr hclass]
  exact h (hlater.active hactive) hopen (Nat.lt_of_lt_of_le hheld hlater.remaining_le)
    (hmarker.trans hmarkers.symm)

end Sizes

/-- A search of everything that fails has tried every run. -/
theorem fit_eq_none_of_nearest {switches : Switches} {closer : Held} {runs : List Held}
    (h : nearest switches closer runs.length runs = none) :
    ∀ held ∈ runs, fit switches held closer = none := by
  induction runs with
  | nil => exact fun _ hmem => absurd hmem List.not_mem_nil
  | cons first rest ih =>
      rw [List.length_cons, nearest] at h
      split at h
      · exact absurd h (by simp)
      · next hfirst =>
          split at h
          · exact absurd h (by simp)
          · next hrest =>
              intro held hmem
              rcases List.mem_cons.mp hmem with rfl | hmem
              · exact hfirst
              · exact ih hrest held hmem

namespace Pairing

/-- Nothing below a floor fits a closer of its class that has markers left. -/
def FloorsHold (switches : Switches) (state : Pairing) : Prop :=
  ∀ closer : Held, 0 < closer.remaining → ∀ index held,
    index < state.floor closer.run.class → state.all[index]? = some held →
      fit switches held closer = none

theorem floor_giveUp (state : Pairing) (closer : Held) (rest : List Held) (kind : RunClass) :
    (state.giveUp closer rest).floor kind =
      if kind = closer.run.class then state.passed.length else state.floor kind := by
  unfold floor giveUp
  by_cases hkind : kind = closer.run.class
  · simp [hkind]
  · rw [if_neg hkind, List.lookup_cons, beq_eq_false_iff_ne.mpr hkind]

theorem floor_join (state : Pairing) (closer : Held) (rest : List Held) (found : Found)
    (kind : RunClass) : (state.join closer rest found).floor kind = state.floor kind := by
  unfold floor join
  dsimp only
  split <;> rfl

namespace FloorsHold

variable {switches : Switches} {state next : Pairing}

theorem start (switches : Switches) (runs : List Run) : (start runs).FloorsHold switches :=
  fun _ _ _ _ hbelow => absurd hbelow (Nat.not_lt_zero _)

/-- Where the floors hold, nothing is overlooked. -/
theorem not_overlooks (floors : state.FloorsHold switches) : ¬ state.Overlooks switches := by
  rintro ⟨closer, rest, found, hahead, hseeks, hfound, hbelow⟩
  have hholds := (Held.of_seeks hseeks).2.2
  have hnone := floors closer hholds found.before.length found.opener hbelow
    (all_opener hahead hfound)
  exact absurd (hnone.symm.trans (nearest_split hfound).2) (by simp)

/-- A run below a floor that a step leaves where it is still fits nothing. -/
theorem fit_eq_none_of_step (floors : state.FloorsHold switches)
    (hsizes : switches.bold = true → switches.italic = true)
    (h : state.step switches everything = some next) {closer later : Held}
    (hcloser : 0 < closer.remaining) {index : Nat}
    (hbelow : index < state.floor closer.run.class) (hlater : next.all[index]? = some later) :
    fit switches later closer = none := by
  rcases exists_becomes_of_step h hlater with ⟨held, hheld, hbecomes⟩
  exact fit_eq_none_of_becomes hsizes hbecomes rfl hcloser hcloser
    (floors closer hcloser index held hbelow hheld)

/-- The floors go on holding, because a step only takes from the runs. -/
theorem step (floors : state.FloorsHold switches)
    (hsizes : switches.bold = true → switches.italic = true)
    (h : state.step switches everything = some next) : next.FloorsHold switches := by
  intro other hother index later hbelow hlater
  rcases step_cases h with ⟨closer, rest, hahead, hcase⟩
  rcases hcase with ⟨_, hnext⟩ | ⟨hseeks, hnone, hnext⟩ | ⟨found, _, hfound, hnext⟩
  · rw [hnext] at hbelow
    exact floors.fit_eq_none_of_step hsizes h hother hbelow hlater
  · -- Only the class of the run that gives up has a new floor.
    rw [hnext, floor_giveUp] at hbelow
    split at hbelow
    · next hclass =>
        -- What is below the new floor has just been tried in vain.
        rcases exists_becomes_of_step h hlater with ⟨held, hheld, hbecomes⟩
        have hpassed : held ∈ state.passed := by
          rw [all, List.getElem?_append_left (by simpa [runs] using hbelow)] at hheld
          exact List.mem_reverse.mp (List.mem_of_getElem? hheld)
        exact fit_eq_none_of_becomes hsizes hbecomes hclass.symm (Held.of_seeks hseeks).2.2 hother
          (fit_eq_none_of_nearest hnone held hpassed)
    · exact floors.fit_eq_none_of_step hsizes h hother hbelow hlater
  · rw [hnext, floor_join] at hbelow
    exact floors.fit_eq_none_of_step hsizes h hother hbelow hlater

theorem of_reaches (floors : state.FloorsHold switches)
    (hsizes : switches.bold = true → switches.italic = true) {last : Pairing}
    (h : Reaches switches everything state last) : last.FloorsHold switches :=
  reaches_induction (fun _ _ hstep floors => floors.step hsizes hstep) h floors

end FloorsHold

end Pairing

/-- The runs of a text between two characters. -/
def runsBetween (switches : Switches) (label : Text → List Span) (before after : Option Char)
    (s : Text) : List Run :=
  ((tokens switches.escapes before s after).map (Token.piece switches label)).filterMap Piece.run?

/-- The search with floors makes the same pairs as the search of everything
    before the closer: of the same runs, of the same sizes and in the same
    order. -/
def SearchesAgree (switches : Switches) (runs : List Run) : Prop :=
  (pairRuns switches runs).made =
    ((Pairing.start runs).finish switches Pairing.everything).made

/-- If italic is switched on wherever bold is, floors change nothing. -/
theorem searchesAgree_of_sizes {switches : Switches}
    (hsizes : switches.bold = true → switches.italic = true) (runs : List Run) :
    SearchesAgree switches runs := by
  refine (Pairing.made_eq_iff_not_overlooks switches (Pairing.start runs)).mpr ?_
  intro last hreaches
  exact ((Pairing.FloorsHold.start switches runs).of_reaches hsizes hreaches).not_overlooks

/-- Two openers of two markers, and two closers of three. The first closer
    spends two on the second opener and gives up with one left, which puts the
    first opener below the floor of both closers. -/
def overlookedText : Text :=
  "**a **b*** c***".toList

theorem not_searchesAgree_overlookedText {switches : Switches} (hbold : switches.bold = true)
    (hitalic : switches.italic = false) :
    ¬ SearchesAgree switches (runsBetween switches (fun _ => []) none none overlookedText) := by
  rcases switches with ⟨bold, italic, strike, underscores, links, images, escapes⟩
  simp only at hbold hitalic
  subst hbold hitalic
  unfold SearchesAgree
  revert strike underscores links images escapes
  decide +kernel

/-- For a text, the two searches agree exactly if the search of everything
    never comes upon an opener below the floor of the closer's class. They agree
    on all texts exactly if italic is switched on wherever bold is. -/
theorem searchesAgree_iff (switches : Switches) :
    (∀ (label : Text → List Span) (before after : Option Char) (s : Text),
      SearchesAgree switches (runsBetween switches label before after s) ↔
        ∀ last, Pairing.Reaches switches Pairing.everything
          (Pairing.start (runsBetween switches label before after s)) last →
            ¬ last.Overlooks switches) ∧
      ((∀ (label : Text → List Span) (before after : Option Char) (s : Text),
        SearchesAgree switches (runsBetween switches label before after s)) ↔
          (switches.bold = true → switches.italic = true)) := by
  refine ⟨fun label before after s => Pairing.made_eq_iff_not_overlooks switches _, ?_, ?_⟩
  · intro hagree hbold
    by_cases hitalic : switches.italic = true
    · exact hitalic
    · exact absurd (hagree (fun _ => []) none none overlookedText)
        (not_searchesAgree_overlookedText hbold (Bool.eq_false_iff.mpr hitalic))
  · intro hsizes label before after s
    exact searchesAgree_of_sizes hsizes _

end ChatMarkup.Inline
