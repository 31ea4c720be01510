import ChatMarkup.Proofs.PairingSteps
import ChatMarkup.Proofs.Phrases

/-!
# Reading Spaced Emphasis

A written phrase is read as what it is.

The runs of a phrase are paired among themselves. Behind white space a run does
not seek an opener, so the run in front of a phrase in a style is passed by.
When the run behind it has its turn, the content has been read, and every run in
the content has used up its markers and is out of play. The nearest run that
fits is then the one in front, and it fits with all of its markers, since
neither of the two runs can both open and close. The search never fails, so no
floor rises on the way.

The pairs of a phrase name its own runs only. What stands around the phrase can
therefore be left open while its events are written out, while neighbouring
texts are merged, and while the tree is built.

## Main definitions

* `Held.spent`: A run all of whose markers have been used.
* `Phrase.runs`, `Phrase.pairs`: The runs of a phrase, and how they are paired.
* `Phrase.beats`: The events of a phrase.

## Theorems

* `nearest_of_inactive`: A search passes over runs that are out of play.
* `finish_runs`: The runs of a phrase are paired among themselves.
* `mergeTexts_events`: The events of a phrase, in front of others.
* `assembleFrom_beats`: The events of a phrase describe its span.
* `render_span`: The span of a phrase in the markup of the chat.
* `parseInline_writeAll`: Written phrases are read as what they are.
-/

namespace ChatMarkup

namespace Inline

/-- A run all of whose markers have been used. -/
def Held.spent (run : Run) : Held where
  run := run
  remaining := 0
  active := false

namespace Phrase

/-! ### The runs of a phrase and their pairs -/

/-- The runs of the phrase. -/
def runs (phrase : Phrase) : List Run :=
  phrase.pieces.filterMap Piece.run?

/-- The runs of the phrases. -/
def runsAll (phrases : List Phrase) : List Run :=
  (piecesAll phrases).filterMap Piece.run?

theorem runs_text (s : Text) : (text s).runs = [] := by
  rw [runs, pieces, List.filterMap_map]
  exact List.filterMap_eq_nil_iff.mpr fun _ _ => rfl

theorem runs_code (body : Text) : (code body).runs = [] := by
  rw [runs, pieces]
  rfl

theorem runs_styled (style : Style) (underscores : Bool) (content : List Phrase) :
    (styled style underscores content).runs =
      style.opener underscores :: (runsAll content ++ [style.closer underscores]) := by
  rw [runs, pieces, List.cons_append, List.filterMap_cons, List.filterMap_append]
  rfl

theorem length_runs_styled (style : Style) (underscores : Bool) (content : List Phrase) :
    (styled style underscores content).runs.length = (runsAll content).length + 2 := by
  rw [runs_styled, List.length_cons, List.length_append, List.length_singleton]

theorem runsAll_cons (phrase : Phrase) (phrases : List Phrase) :
    runsAll (phrase :: phrases) = phrase.runs ++ runsAll phrases := by
  rw [runsAll, piecesAll, List.filterMap_append]
  rfl

/-- The pair of the runs on either side of content in a style, the first of
    which has the given index. -/
def outerPair (index : Nat) (style : Style) (underscores : Bool) (content : List Phrase) :
    Pair where
  opener := index
  closer := index + 1 + (runsAll content).length
  marker := style.marker underscores
  size := style.length

mutual

/-- The pairs of the phrase, whose first run has the given index, in the order
    in which they are made. -/
def pairs (index : Nat) : Phrase → List Pair
  | text _ => []
  | code _ => []
  | styled style underscores content =>
    pairsAll (index + 1) content ++ [outerPair index style underscores content]

/-- The pairs of the phrases, whose first run has the given index. -/
def pairsAll (index : Nat) : List Phrase → List Pair
  | [] => []
  | phrase :: phrases => pairs index phrase ++ pairsAll (index + phrase.runs.length) phrases

end

end Phrase

/-- A search passes over runs that are out of play. -/
theorem nearest_of_inactive {switches : Switches} {opener closer : Held} {size : Nat}
    (hfit : fit switches opener closer = some size) {skipped : List Held}
    (hskipped : ∀ held ∈ skipped, held.active = false) (before : List Held) {limit : Nat}
    (hlimit : skipped.length < limit) :
    nearest switches closer limit (skipped ++ opener :: before) =
      some ⟨skipped, opener, before, size⟩ := by
  induction skipped generalizing limit with
  | nil =>
      cases limit with
      | zero => exact absurd hlimit (Nat.not_lt_zero _)
      | succ limit => rw [List.nil_append, nearest, hfit]
  | cons held skipped ih =>
      cases limit with
      | zero => exact absurd hlimit (Nat.not_lt_zero _)
      | succ limit =>
          have hnone : fit switches held closer = none := by
            rw [fit, hskipped held List.mem_cons_self]
            rfl
          have hrest := ih (fun other hother => hskipped other (List.mem_cons_of_mem _ hother))
            (Nat.lt_of_succ_lt_succ hlimit)
          rw [List.cons_append, nearest, hnone, hrest]

/-- A run is paired with the nearest run in play, and both use up all of their
    markers. -/
theorem Pairing.step_of_fit {switches : Switches} {opener closer : Run}
    (hcloses : closer.canClose = true) (hpos : 0 < closer.length)
    (hlength : opener.length = closer.length)
    (hfit : fit switches (.fresh opener) (.fresh closer) = some closer.length)
    (skipped : List Run) (passed rest : List Held) (made : List Pair) :
    Pairing.step switches Pairing.aboveFloor
        ⟨skipped.map Held.spent ++ .fresh opener :: passed, .fresh closer :: rest, [], made⟩ =
      some ⟨.spent closer :: (skipped.map Held.spent ++ .spent opener :: passed), rest, [],
        ⟨passed.length, passed.length + 1 + skipped.length, closer.marker, closer.length⟩ ::
          made⟩ := by
  have hseeks : (Held.fresh closer).seeks = true := by
    simp [Held.seeks, Held.fresh, hcloses, hpos]
  have hinactive : ∀ held ∈ skipped.map Held.spent, held.active = false := by
    intro held hheld
    rcases List.mem_map.mp hheld with ⟨run, _, rfl⟩
    rfl
  -- The runs in between are put out of play, and they have been before.
  have hretired : (skipped.map Held.spent).map Held.retire = skipped.map Held.spent := by
    rw [List.map_map]
    rfl
  have hspent : (Held.fresh opener).spend closer.length = .spent opener ∧
      (Held.fresh closer).spend closer.length = .spent closer := by
    simp [Held.fresh, Held.spend, Held.spent, hlength]
  have hpassed : (skipped.map Held.spent ++ .fresh opener :: passed).length =
      passed.length + 1 + skipped.length := by
    rw [List.length_append, List.length_cons, List.length_map, Nat.add_comm]
  have hlimit : (skipped.map Held.spent).length < Pairing.aboveFloor
      ⟨skipped.map Held.spent ++ .fresh opener :: passed, .fresh closer :: rest, [], made⟩
        (.fresh closer) := by
    rw [Pairing.aboveFloor, hpassed, List.length_map]
    simp only [List.lookup_nil, Option.getD_none]
    omega
  have hfound := nearest_of_inactive hfit hinactive passed hlimit
  rw [Pairing.step]
  simp only [hseeks, if_true, hfound, Pairing.join, hretired, hspent, hpassed]
  rfl

theorem Style.length_pos (style : Style) : 0 < style.length := by
  cases style <;> decide

/-- The two runs of a style fit with all of their markers. -/
theorem Style.fit_mark {switches : Switches} (hall : switches.AllEmphasis) (underscores : Bool)
    (style : Style) :
    fit switches (.fresh (style.opener underscores)) (.fresh (style.closer underscores)) =
      some style.length := by
  cases style <;> cases underscores <;>
    simp [fit, Held.fresh, opener, closer, marker, length, lengthsClash, Switches.allowsSize,
      hall.bold, hall.italic]

namespace Phrase

variable {switches : Switches}

mutual

/-- The runs of a phrase are paired among themselves. -/
theorem finish_runs (hall : switches.AllEmphasis) :
    ∀ (phrase : Phrase) (passed rest : List Held) (made : List Pair),
    Pairing.finish switches Pairing.aboveFloor
        ⟨passed, phrase.runs.map Held.fresh ++ rest, [], made⟩ =
      Pairing.finish switches Pairing.aboveFloor
        ⟨(phrase.runs.map Held.spent).reverse ++ passed, rest, [],
          (phrase.pairs passed.length).reverse ++ made⟩
  | text s, passed, rest, made => by
      rw [runs_text, pairs]
      rfl
  | code body, passed, rest, made => by
      rw [runs_code, pairs]
      rfl
  | styled style underscores content, passed, rest, made => by
      -- The opener is passed by, the content is paired, and the closer goes back over it.
      have hopener : Pairing.step switches Pairing.aboveFloor
          ⟨passed, .fresh (style.opener underscores) :: ((runsAll content).map Held.fresh ++
            .fresh (style.closer underscores) :: rest), [], made⟩ =
          some ⟨.fresh (style.opener underscores) :: passed, (runsAll content).map Held.fresh ++
            .fresh (style.closer underscores) :: rest, [], made⟩ := rfl
      have hcontent := finish_runsAll hall content (.fresh (style.opener underscores) :: passed)
        (.fresh (style.closer underscores) :: rest) made
      have hlength : (style.opener underscores).length = (style.closer underscores).length := rfl
      have hcloser := Pairing.finish_of_step (Pairing.step_of_fit rfl style.length_pos hlength
        (style.fit_mark hall underscores) (runsAll content).reverse passed rest
        ((pairsAll (passed.length + 1) content).reverse ++ made))
      rw [List.map_reverse, List.length_reverse] at hcloser
      rw [runs_styled, List.map_cons, List.map_append, List.cons_append, List.append_assoc,
        List.map_singleton, List.singleton_append, Pairing.finish_of_step hopener, hcontent,
        List.length_cons, hcloser, pairs]
      simp [outerPair, Style.closer]

/-- The runs of phrases are paired among themselves. -/
theorem finish_runsAll (hall : switches.AllEmphasis) :
    ∀ (phrases : List Phrase) (passed rest : List Held) (made : List Pair),
    Pairing.finish switches Pairing.aboveFloor
        ⟨passed, (runsAll phrases).map Held.fresh ++ rest, [], made⟩ =
      Pairing.finish switches Pairing.aboveFloor
        ⟨((runsAll phrases).map Held.spent).reverse ++ passed, rest, [],
          (pairsAll passed.length phrases).reverse ++ made⟩
  | [], passed, rest, made => rfl
  | phrase :: phrases, passed, rest, made => by
      have hlength : ((phrase.runs.map Held.spent).reverse ++ passed).length =
          passed.length + phrase.runs.length := by
        rw [List.length_append, List.length_reverse, List.length_map, Nat.add_comm]
      rw [runsAll_cons, List.map_append, List.append_assoc, finish_runs hall phrase,
        finish_runsAll hall phrases, hlength, pairsAll, List.map_append, List.reverse_append,
        List.reverse_append, List.append_assoc, List.append_assoc]

end

/-- The runs of phrases as a whole text are all used up. -/
theorem pairRuns_runsAll (hall : switches.AllEmphasis) (phrases : List Phrase) :
    (pairRuns switches (runsAll phrases)).made = pairsAll 0 phrases ∧
      (pairRuns switches (runsAll phrases)).runs = (runsAll phrases).map Held.spent := by
  have hfinish := finish_runsAll hall phrases [] [] []
  have hlast : Pairing.finish switches Pairing.aboveFloor
      ⟨((runsAll phrases).map Held.spent).reverse, [], [], (pairsAll 0 phrases).reverse⟩ =
        ⟨((runsAll phrases).map Held.spent).reverse, [], [], (pairsAll 0 phrases).reverse⟩ := by
    rw [Pairing.finish]
    rfl
  rw [List.append_nil, List.append_nil, List.append_nil, List.length_nil, hlast] at hfinish
  rw [pairRuns, Pairing.start, hfinish]
  exact ⟨List.reverse_reverse _, List.reverse_reverse _⟩

end Phrase

/-! ### The events of a phrase -/

/-- The two pairs have no run in common. -/
def Pair.Apart (first second : Pair) : Prop :=
  (first.opener ≠ second.opener ∧ first.opener ≠ second.closer) ∧
    first.closer ≠ second.opener ∧ first.closer ≠ second.closer

/-- Neither run of the pair is among the `count` runs from the one at
    `index`. -/
def Pair.Avoids (index count : Nat) (pair : Pair) : Prop :=
  (pair.opener < index ∨ index + count ≤ pair.opener) ∧
    (pair.closer < index ∨ index + count ≤ pair.closer)

/-- Both runs of the pair are among the `count` runs from the one at `index`. -/
def Pair.Within (index count : Nat) (pair : Pair) : Prop :=
  (index ≤ pair.opener ∧ pair.opener < index + count) ∧
    index ≤ pair.closer ∧ pair.closer < index + count

theorem Pair.avoids_of_avoids {index count first fewer : Nat} {pair : Pair}
    (h : pair.Avoids index count) (hfirst : index ≤ first)
    (hlast : first + fewer ≤ index + count) : pair.Avoids first fewer := by
  simp only [Avoids] at h ⊢
  omega

theorem Pair.avoids_of_within {index count first fewer : Nat} {pair : Pair}
    (h : pair.Within index count) (helsewhere : index + count ≤ first ∨ first + fewer ≤ index) :
    pair.Avoids first fewer := by
  simp only [Within, Avoids] at h ⊢
  omega

/-- What is in a list is in the middle of it or around. -/
theorem mem_or_mem_around {before middle after : List Pair} {pair : Pair}
    (h : pair ∈ before ++ middle ++ after) : pair ∈ middle ∨ pair ∈ before ++ after := by
  rw [List.append_assoc] at h
  exact List.mem_append.mp ((List.perm_append_comm_assoc _ _ _).mem_iff.mp h)

section Events

variable {before after : List Pair} {pair : Pair}

theorem filter_eq_nil_of_ne (place : Pair → Nat) {index : Nat} (hpair : place pair ≠ index)
    (hothers : ∀ other ∈ before ++ after, place other ≠ index) :
    (before ++ pair :: after).filter (fun other => place other == index) = [] := by
  refine List.filter_eq_nil_iff.mpr fun other hother heq => ?_
  rw [List.append_cons] at hother
  rcases mem_or_mem_around hother with hmiddle | haround
  · exact hpair (List.mem_singleton.mp hmiddle ▸ beq_iff_eq.mp heq)
  · exact hothers other haround (beq_iff_eq.mp heq)

theorem filter_eq_singleton (place : Pair → Nat)
    (hothers : ∀ other ∈ before ++ after, place other ≠ place pair) :
    (before ++ pair :: after).filter (fun other => place other == place pair) = [pair] := by
  have hnil {others : List Pair} (h : ∀ other ∈ others, place other ≠ place pair) :
      others.filter (fun other => place other == place pair) = [] :=
    List.filter_eq_nil_iff.mpr fun other hother heq => h other hother (beq_iff_eq.mp heq)
  have hself : (place pair == place pair) = true := BEq.rfl
  rw [List.filter_append, List.filter_cons, if_pos hself,
    hnil fun other hother => hothers other (List.mem_append_left _ hother),
    hnil fun other hother => hothers other (List.mem_append_right _ hother)]
  rfl

/-- When no other pair has a run of this one, its first run does nothing but
    open it. -/
theorem events_opener (hapart : ∀ other ∈ before ++ after, other.Apart pair)
    (hne : pair.opener ≠ pair.closer) (run : Run) :
    (Held.spent run).events pair.opener (before ++ pair :: after) =
      [.text [], .opening pair] := by
  rw [Held.events, filter_eq_nil_of_ne Pair.closer hne.symm fun other h => (hapart other h).2.1,
    filter_eq_singleton Pair.opener fun other h => (hapart other h).1.1]
  rfl

/-- When no other pair has a run of this one, its second run does nothing but
    close it. -/
theorem events_closer (hapart : ∀ other ∈ before ++ after, other.Apart pair)
    (hne : pair.opener ≠ pair.closer) (run : Run) :
    (Held.spent run).events pair.closer (before ++ pair :: after) =
      [.closing pair, .text []] := by
  rw [Held.events, filter_eq_nil_of_ne Pair.opener hne fun other h => (hapart other h).1.2,
    filter_eq_singleton Pair.closer fun other h => (hapart other h).2.2]
  rfl

end Events

/-- The first event is not a text. -/
def NotText (events : List Event) : Prop :=
  ∀ s rest, events ≠ .text s :: rest

theorem events_chars (pairs : List Pair) (index : Nat) (runs : List Held) (s : Text)
    (rest : List Piece) :
    events pairs index runs (s.map (fun c => .text [c]) ++ rest) =
      s.map (fun c => .text [c]) ++ events pairs index runs rest := by
  induction s with
  | nil => rfl
  | cons c s ih => rw [List.map_cons, List.cons_append, events, ih]; rfl

/-- The characters of a text merge to the text. -/
theorem mergeTexts_chars {s : Text} (hs : s ≠ []) {rest : List Event}
    (hrest : NotText (mergeTexts rest)) :
    mergeTexts (s.map (fun c => .text [c]) ++ rest) = .text s :: mergeTexts rest := by
  induction s with
  | nil => exact absurd rfl hs
  | cons c s ih =>
      rw [List.map_cons, List.cons_append]
      change pushEvent (.text [c]) (mergeTexts (s.map (fun c => .text [c]) ++ rest)) = _
      cases s with
      | nil =>
          rw [List.map_nil, List.nil_append]
          cases hmerged : mergeTexts rest with
          | nil => rfl
          | cons event events =>
              cases event with
              | text t => exact absurd hmerged (hrest t events)
              | span span => rfl
              | opening pair => rfl
              | closing pair => rfl
      | cons d s =>
          rw [ih (List.cons_ne_nil _ _)]
          rfl

namespace Phrase

mutual

/-- The events of the phrase, whose first run has the given index. -/
def beats (index : Nat) : Phrase → List Event
  | text s => [.text s]
  | code body => [.span (.code (backtick :: body ++ [backtick]))]
  | styled style underscores content =>
    .opening (outerPair index style underscores content) :: beatsAll (index + 1) content ++
      [.closing (outerPair index style underscores content)]

/-- The events of the phrases, whose first run has the given index. -/
def beatsAll (index : Nat) : List Phrase → List Event
  | [] => []
  | phrase :: phrases => beats index phrase ++ beatsAll (index + phrase.runs.length) phrases

end

mutual

/-- The pairs of a phrase are made of its own runs. -/
theorem within_pairs : ∀ (phrase : Phrase) (index : Nat),
    ∀ pair ∈ phrase.pairs index, pair.Within index phrase.runs.length
  | text _, _, _, hpair => absurd hpair List.not_mem_nil
  | code _, _, _, hpair => absurd hpair List.not_mem_nil
  | styled style underscores content, index, pair, hpair => by
      rw [length_runs_styled]
      rw [pairs] at hpair
      rcases List.mem_append.mp hpair with hinner | houter
      · have hwithin := within_pairsAll content (index + 1) pair hinner
        simp only [Pair.Within] at hwithin ⊢
        omega
      · rw [List.mem_singleton.mp houter]
        simp only [Pair.Within, outerPair]
        omega

/-- The pairs of phrases are made of their own runs. -/
theorem within_pairsAll : ∀ (phrases : List Phrase) (index : Nat),
    ∀ pair ∈ pairsAll index phrases, pair.Within index (runsAll phrases).length
  | [], _, _, hpair => absurd hpair List.not_mem_nil
  | phrase :: phrases, index, pair, hpair => by
      rw [runsAll_cons, List.length_append]
      rw [pairsAll] at hpair
      rcases List.mem_append.mp hpair with hfirst | hrest
      · have hwithin := within_pairs phrase index pair hfirst
        simp only [Pair.Within] at hwithin ⊢
        omega
      · have hwithin := within_pairsAll phrases _ pair hrest
        simp only [Pair.Within] at hwithin ⊢
        omega

end

/-- A text is followed by something else. -/
theorem notText_beatsAll {s : Text} {phrases : List Phrase}
    (hchain : (text s :: phrases).IsChain Fits) (index : Nat) {rest : List Event}
    (hrest : phrases = [] → NotText rest) :
    NotText (beatsAll index phrases ++ rest) := by
  cases phrases with
  | nil => exact hrest rfl
  | cons second phrases =>
      cases second with
      | text s' => exact absurd (List.isChain_cons_cons.mp hchain).1 id
      | code body =>
          intro t more heq
          rw [beatsAll, beats] at heq
          exact absurd heq (by simp)
      | styled style underscores content =>
          intro t more heq
          rw [beatsAll, beats] at heq
          exact absurd heq (by simp)

mutual

/-- The events of a phrase, in front of others. -/
theorem mergeTexts_events : ∀ (phrase : Phrase) (index : Nat) {all before after : List Pair}
    (runs : List Held) (rest : List Piece), phrase.Sound →
    all = before ++ phrase.pairs index ++ after →
    (∀ pair ∈ before ++ after, pair.Avoids index phrase.runs.length) →
    (∀ s, phrase = text s →
      NotText (mergeTexts (events all (index + phrase.runs.length) runs rest))) →
    mergeTexts (events all index (phrase.runs.map Held.spent ++ runs) (phrase.pieces ++ rest)) =
      phrase.beats index ++
        mergeTexts (events all (index + phrase.runs.length) runs rest)
  | text s, index, all, before, after, runs, rest, hsound, _, _, hrest => by
      rw [Sound] at hsound
      have hnot := hrest s rfl
      rw [runs_text] at hnot ⊢
      rw [pieces, events_chars, List.map_nil, List.nil_append, beats]
      exact mergeTexts_chars hsound.1 hnot
  | code body, index, all, before, after, runs, rest, _, _, _, _ => by
      rw [runs_code]
      rfl
  | styled style underscores content, index, all, before, after, runs, rest, hsound, hall,
      havoid, _ => by
      rw [Sound] at hsound
      rw [length_runs_styled] at havoid ⊢
      let pair := outerPair index style underscores content
      have hpairs : all = before ++ pairsAll (index + 1) content ++ pair :: after := by
        rw [hall, pairs]
        simp only [pair, List.append_assoc, List.singleton_append]
      have hne : pair.opener ≠ pair.closer := by
        simp only [pair, outerPair]
        omega
      have hapart : ∀ other ∈ before ++ pairsAll (index + 1) content ++ after,
          other.Apart pair := by
        intro other hother
        rcases mem_or_mem_around hother with hinner | houter
        · have hwithin := within_pairsAll content (index + 1) other hinner
          simp only [Pair.Within, Pair.Apart, pair, outerPair] at hwithin ⊢
          omega
        · have haway := havoid other houter
          simp only [Pair.Avoids, Pair.Apart, pair, outerPair] at haway ⊢
          omega
      -- What is left of either run is an empty text, which merging drops.
      have hopening (runs : List Held) (rest : List Piece) : mergeTexts (events all index
          (.spent (style.opener underscores) :: runs) (.run (style.opener underscores) :: rest)) =
            .opening pair :: mergeTexts (events all (index + 1) runs rest) := by
        have hopener : (Held.spent (style.opener underscores)).events index all =
            [.text [], .opening pair] := hpairs ▸ events_opener hapart hne _
        rw [events, hopener]
        rfl
      have hclosing : mergeTexts (events all (index + 1 + (runsAll content).length)
          (.spent (style.closer underscores) :: runs) (.run (style.closer underscores) :: rest)) =
            .closing pair ::
              mergeTexts (events all (index + ((runsAll content).length + 2)) runs rest) := by
        have hcloser : (Held.spent (style.closer underscores)).events
            (index + 1 + (runsAll content).length) all = [.closing pair, .text []] :=
          hpairs ▸ events_closer hapart hne _
        rw [events, hcloser, Nat.add_right_comm index 1]
        rfl
      -- To the content the pair around it is one of those that stand outside.
      have haround : ∀ other ∈ before ++ pair :: after,
          other.Avoids (index + 1) (runsAll content).length := by
        intro other hother
        rw [List.append_cons] at hother
        rcases mem_or_mem_around hother with hself | houter
        · rw [List.mem_singleton.mp hself]
          simp only [Pair.Avoids, pair, outerPair]
          omega
        · exact Pair.avoids_of_avoids (havoid other houter) (by omega) (by omega)
      have hcontent := mergeTexts_eventsAll content (index + 1)
        (.spent (style.closer underscores) :: runs) (.run (style.closer underscores) :: rest)
        hsound.1 hsound.2.1 hpairs haround (by
          intro s _ t more heq
          exact absurd (hclosing.symm.trans heq) (by simp))
      calc mergeTexts (events all index
            ((styled style underscores content).runs.map Held.spent ++ runs)
            ((styled style underscores content).pieces ++ rest))
        _ = mergeTexts (events all index
              (.spent (style.opener underscores) :: ((runsAll content).map Held.spent ++
                .spent (style.closer underscores) :: runs))
              (.run (style.opener underscores) :: (piecesAll content ++
                .run (style.closer underscores) :: rest))) := by
            rw [runs_styled, pieces]
            simp only [List.map_cons, List.map_append, List.map_nil, List.cons_append,
              List.append_assoc, List.nil_append]
        _ = .opening pair :: (beatsAll (index + 1) content ++ .closing pair ::
              mergeTexts (events all (index + ((runsAll content).length + 2)) runs rest)) := by
            rw [hopening, hcontent, hclosing]
        _ = _ := by
            rw [beats]
            simp only [pair, List.cons_append, List.append_assoc, List.nil_append]

/-- The events of phrases, in front of others. -/
theorem mergeTexts_eventsAll : ∀ (phrases : List Phrase) (index : Nat)
    {all before after : List Pair} (runs : List Held) (rest : List Piece),
    AllSound phrases → phrases.IsChain Fits →
    all = before ++ pairsAll index phrases ++ after →
    (∀ pair ∈ before ++ after, pair.Avoids index (runsAll phrases).length) →
    (∀ s, phrases.getLast? = some (text s) →
      NotText (mergeTexts (events all (index + (runsAll phrases).length) runs rest))) →
    mergeTexts (events all index ((runsAll phrases).map Held.spent ++ runs)
        (piecesAll phrases ++ rest)) =
      beatsAll index phrases ++
        mergeTexts (events all (index + (runsAll phrases).length) runs rest)
  | [], _, _, _, _, _, _, _, _, _, _, _ => rfl
  | phrase :: phrases, index, all, before, after, runs, rest, hsound, hchain, hall, havoid,
      hrest => by
      rw [AllSound] at hsound
      rw [pairsAll] at hall
      rw [runsAll_cons, List.length_append, ← Nat.add_assoc] at hrest ⊢
      rw [runsAll_cons, List.length_append] at havoid
      have hfirst : all = before ++ phrase.pairs index ++
          (pairsAll (index + phrase.runs.length) phrases ++ after) := by
        simp only [hall, List.append_assoc]
      have hothers : all = before ++ phrase.pairs index ++
          pairsAll (index + phrase.runs.length) phrases ++ after := by
        simp only [hall, List.append_assoc]
      have hbeside : ∀ other ∈ before ++ (pairsAll (index + phrase.runs.length) phrases ++ after),
          other.Avoids index phrase.runs.length := by
        intro other hother
        rw [← List.append_assoc] at hother
        rcases mem_or_mem_around hother with hlater | houter
        · exact Pair.avoids_of_within (within_pairsAll phrases _ other hlater) (by omega)
        · exact Pair.avoids_of_avoids (havoid other houter) (by omega) (by omega)
      have haround : ∀ other ∈ before ++ phrase.pairs index ++ after,
          other.Avoids (index + phrase.runs.length) (runsAll phrases).length := by
        intro other hother
        rcases mem_or_mem_around hother with hearlier | houter
        · exact Pair.avoids_of_within (within_pairs phrase index other hearlier) (by omega)
        · exact Pair.avoids_of_avoids (havoid other houter) (by omega) (by omega)
      -- What stands behind is settled first, because a text must not merge with it.
      have hphrases := mergeTexts_eventsAll phrases (index + phrase.runs.length) runs rest
        hsound.2 hchain.tail hothers haround fun s hs => hrest s (by
          rw [List.getLast?_cons, hs]
          rfl)
      have hphrase := mergeTexts_events phrase index ((runsAll phrases).map Held.spent ++ runs)
        (piecesAll phrases ++ rest) hsound.1 hfirst hbeside (by
          rintro s rfl
          rw [hphrases]
          refine notText_beatsAll hchain _ fun hnil => ?_
          subst hnil
          exact hrest s rfl)
      rw [List.map_append, List.append_assoc, piecesAll, List.append_assoc, hphrase, hphrases,
        beatsAll, List.append_assoc]

end

/-! ### The span of a phrase -/

/-- The two runs of a style put it on their content. Content that begins with
    text is not a single span in a style, so nothing is merged. -/
theorem wrap_outerPair (hall : switches.AllEmphasis) (index : Nat) (style : Style)
    (underscores : Bool) {content : List Phrase} (hfirm : Firm content) :
    (outerPair index style underscores content).wrap switches (spans content) =
      style.apply (spans content) := by
  rcases hfirm.1 with ⟨s, hhead, _⟩
  rcases List.head?_eq_some_iff.mp hhead with ⟨others, rfl⟩
  cases style <;> cases underscores <;>
    simp [outerPair, Pair.wrap, Style.marker, Style.length, Style.apply, spans, span, Span.style,
      hall.bold, hall.italic]

mutual

/-- The events of a phrase describe its span. -/
theorem assembleFrom_beats (hall : switches.AllEmphasis) :
    ∀ (phrase : Phrase) (index : Nat) (frames : List Frame) (current : List Span)
      (rest : List Event), phrase.Sound →
    assembleFrom switches frames current (phrase.beats index ++ rest) =
      assembleFrom switches frames (phrase.span :: current) rest
  | text s, index, frames, current, rest, _ => by
      rw [beats, span]
      rfl
  | code body, index, frames, current, rest, _ => by
      rw [beats, span]
      rfl
  | styled style underscores content, index, frames, current, rest, hsound => by
      rw [Sound] at hsound
      rw [beats, span, List.cons_append, List.cons_append, List.append_assoc,
        List.singleton_append, assembleFrom, assembleFrom_beatsAll hall content _ _ _ _ hsound.1,
        List.append_nil]
      cases frames <;> rw [assembleFrom, List.reverse_reverse,
        wrap_outerPair hall index style underscores hsound.2.2]

/-- The events of phrases describe their spans. -/
theorem assembleFrom_beatsAll (hall : switches.AllEmphasis) :
    ∀ (phrases : List Phrase) (index : Nat) (frames : List Frame) (current : List Span)
      (rest : List Event), AllSound phrases →
    assembleFrom switches frames current (beatsAll index phrases ++ rest) =
      assembleFrom switches frames ((spans phrases).reverse ++ current) rest
  | [], _, _, _, _, _ => rfl
  | phrase :: phrases, index, frames, current, rest, hsound => by
      rw [AllSound] at hsound
      rw [beatsAll, List.append_assoc, assembleFrom_beats hall phrase _ _ _ _ hsound.1,
        assembleFrom_beatsAll hall phrases _ _ _ _ hsound.2, spans, List.reverse_cons,
        List.append_assoc, List.singleton_append]

end

/-- The pieces of phrases resolve to their spans. -/
theorem resolve_piecesAll (hall : switches.AllEmphasis) {phrases : List Phrase}
    (h : Spaced phrases) : resolve switches (piecesAll phrases) = spans phrases := by
  rcases pairRuns_runsAll hall phrases with ⟨hmade, hruns⟩
  have hpairs : pairsAll 0 phrases = [] ++ pairsAll 0 phrases ++ [] := by
    rw [List.nil_append, List.append_nil]
  have hevents := mergeTexts_eventsAll phrases 0 [] [] h.sound h.fits hpairs
    (fun _ hpair => absurd hpair List.not_mem_nil) (fun _ _ _ _ => (List.cons_ne_nil _ _).symm)
  rw [List.append_nil, List.append_nil] at hevents
  change assemble switches (mergeTexts (events (pairRuns switches (runsAll phrases)).made 0
    (pairRuns switches (runsAll phrases)).runs (piecesAll phrases))) = _
  rw [hmade, hruns, hevents, assemble, assembleFrom_beatsAll hall phrases _ _ _ _ h.sound,
    List.append_nil]
  exact List.reverse_reverse _

mutual

/-- The span of a phrase in the markup of the chat. -/
theorem render_span {look : Look} (hmarked : look.marked = true) :
    ∀ phrase : Phrase, phrase.span.render look = phrase.chat
  | text s => by rw [span, chat, Span.render]
  | code body => by rw [span, chat, Span.render]
  | styled style underscores content => by
      have hcontent := renderAll_spans hmarked content
      cases style <;>
        simp [span, chat, Style.apply, Style.chatOpen, Style.chatClose, Span.render,
          Span.renderAll, Look.mark, hmarked, hcontent]

/-- The spans of phrases in the markup of the chat. -/
theorem renderAll_spans {look : Look} (hmarked : look.marked = true) :
    ∀ phrases : List Phrase, Span.renderAll look (spans phrases) = chatAll phrases
  | [] => rfl
  | phrase :: phrases => by
      rw [spans, chatAll, Span.renderAll, render_span hmarked phrase,
        renderAll_spans hmarked phrases]

end

end Phrase

end Inline

open Inline

/-- Written phrases are read as what they are, however deep and however many. In
    the markup of the chat they are the same phrases. -/
theorem parseInline_writeAll {config : Config} (hbold : config.convert.bold = true)
    (hitalic : config.convert.italic = true) (hstrike : config.convert.strikethrough = true)
    {phrases : List Phrase} (h : Phrase.Spaced phrases) :
    parseInline config (Phrase.writeAll phrases) = Phrase.spans phrases ∧
      convertInline config (Phrase.writeAll phrases) = Phrase.chatAll phrases := by
  have hall : config.inlineSwitches.AllEmphasis := ⟨hbold, hitalic, hstrike, rfl⟩
  have hpieces := Phrase.pieces_writeAll hall (parseLabel config.inlineSwitches) phrases none []
    h.sound h.fits (fun phrase _ => phrase.mayFollow_none) (fun phrase _ => phrase.mayPrecede_none)
  rw [List.append_nil] at hpieces
  have hparse : parseInline config (Phrase.writeAll phrases) = Phrase.spans phrases := by
    rw [parseInline, parse, parseBetween, hpieces, tokens, List.map_nil, List.append_nil,
      Phrase.resolve_piecesAll hall h]
  exact ⟨hparse, by rw [convertInline, hparse, Phrase.renderAll_spans rfl]⟩

/-- Struck text with code and bold italic underscores within bold asterisks. -/
theorem parseInline_writeAll_nested : ∃ phrases : List Phrase,
    Phrase.writeAll phrases = "**a ___b___ c** ~~d \x60e\x60 f~~".toList ∧
      Phrase.Spaced phrases ∧
      parseInline {} "**a ___b___ c** ~~d \x60e\x60 f~~".toList =
        [.styled .bold [.text ['a', ' '], .styled .bold [.styled .italic [.text ['b']]],
            .text [' ', 'c']],
          .text [' '],
          .styled .strike [.text ['d', ' '], .code "\x60e\x60".toList, .text [' ', 'f']]] ∧
      convertInline {} "**a ___b___ c** ~~d \x60e\x60 f~~".toList =
        "*a *_b_* c* ~d \x60e\x60 f~".toList := by
  let phrases : List Phrase :=
    [.styled .bold false [.text ['a', ' '], .styled .boldItalic true [.text ['b']],
        .text [' ', 'c']],
      .text [' '],
      .styled .strike false [.text ['d', ' '], .code ['e'], .text [' ', 'f']]]
  have hblank : Text.isBlank ' ' = true ∧ Text.isBlank 'a' = false ∧ Text.isBlank 'b' = false ∧
      Text.isBlank 'c' = false ∧ Text.isBlank 'd' = false ∧ Text.isBlank 'f' = false := by decide
  have hspaced : Phrase.Spaced phrases := by
    constructor <;>
      simp [phrases, Phrase.AllSound, Phrase.Sound, Phrase.Firm, Phrase.Fits, Phrase.isPlain,
        backtick, hblank]
  have hbold : ({} : Config).convert.bold = true := rfl
  have hread := parseInline_writeAll hbold rfl rfl hspaced
  exact ⟨phrases, rfl, hspaced, hread⟩

end ChatMarkup
