import ChatMarkup.Inline.Parse
import ChatMarkup.Proofs.Laminar

/-!
# The Tree Follows the Pairs

The tree is built by a stack that does not look at what it closes: whatever was
opened last ends at the next end. Here the stack is watched. `replay` builds
the same tree and refuses an end that is not the end of the innermost pair, or
a text that leaves a pair open. It never refuses what the pairing produces.

The pairs that are open between two runs are those that begin before and end
after, and no search for the right order is needed: in the order in which they
were made, they are ordered from the innermost outwards. A run first closes a
prefix of them and then puts the pairs it opens in front.

## Main definitions

* `Event.act`: What an event does to the pairs that are open.
* `openAfter`: The pairs that are open after events.
* `replay`: The spans of events, if every end is that of the innermost pair.
* `openAt`: The pairs that are open in front of a run.

## Theorems

* `openAfter_mergeTexts`: Merging texts does not change what is open.
* `replay_of_openAfter`: A replay that is in order builds the tree.
* `nested_openAt`: Of two pairs open in one place, one is within the other.
* `openAt_closing`: A run closes the innermost of the open pairs.
* `openAt_opening`: The pairs that a run opens become the innermost.
* `openAfter_heldEvents`: What is open after the events of a run.
* `openAfter_events`: What is open after the events of a text.
* `parseBetween_wellNested`: The pairs of a text are nested, and its tree is
  built by closing exactly what they opened.
-/

namespace ChatMarkup.Inline

/-- The pairs that are open after the event, innermost first, given those that
    are open before. There are none if the event ends another pair than the
    innermost. -/
def Event.act : List Pair → Event → Option (List Pair)
  | stack, .text _ => some stack
  | stack, .span _ => some stack
  | stack, .opening pair => some (pair :: stack)
  | [], .closing _ => none
  | top :: stack, .closing pair => if top = pair then some stack else none

/-- The pairs that are open after the events. -/
def openAfter (stack : List Pair) (events : List Event) : Option (List Pair) :=
  events.foldlM Event.act stack

theorem openAfter_cons (stack : List Pair) (event : Event) (events : List Event) :
    openAfter stack (event :: events) =
      (event.act stack).bind fun stack => openAfter stack events :=
  List.foldlM_cons

theorem openAfter_append (stack : List Pair) (events more : List Event) :
    openAfter stack (events ++ more) =
      (openAfter stack events).bind fun stack => openAfter stack more :=
  List.foldlM_append

/-- The spans that the events describe, provided that every end is the end of
    the emphasis that was begun last and that none is open at the end. -/
def replay (switches : Switches) : List Frame → List Span → List Event → Option (List Span)
  | [], current, [] => some current.reverse
  | _ :: _, _, [] => none
  | frames, current, .text s :: events => replay switches frames (.text s :: current) events
  | frames, current, .span span :: events => replay switches frames (span :: current) events
  | frames, current, .opening pair :: events =>
    replay switches (⟨pair, current⟩ :: frames) [] events
  | [], _, .closing _ :: _ => none
  | frame :: frames, current, .closing pair :: events =>
    if frame.pair = pair then
      replay switches frames (frame.pair.wrap switches current.reverse :: frame.before) events
    else none

/-- If the pairs are opened and closed in order, the replay builds the tree. -/
theorem replay_of_openAfter {switches : Switches} {frames : List Frame} {events : List Event}
    (h : openAfter (frames.map Frame.pair) events = some []) (current : List Span) :
    replay switches frames current events =
      some (assembleFrom switches frames current events) := by
  induction events generalizing frames current with
  | nil =>
      cases frames with
      | nil => rfl
      | cons frame frames => exact absurd h (by simp [openAfter])
  | cons event events ih =>
      -- The stack of the tree holds the open pairs, frame by frame.
      rw [openAfter_cons] at h
      cases event with
      | text s =>
          rw [replay, assembleFrom]
          exact ih h _
      | span span =>
          rw [replay, assembleFrom]
          exact ih h _
      | opening pair =>
          have hpushed : openAfter (List.map Frame.pair (⟨pair, current⟩ :: frames)) events =
              some [] := h
          rw [replay, assembleFrom]
          exact ih hpushed _
      | closing pair =>
          cases frames with
          | nil => exact absurd h (by simp [Event.act])
          | cons frame frames =>
              -- The end is in order only if it is that of the frame in front.
              rw [replay, assembleFrom]
              simp only [List.map_cons, Event.act] at h
              by_cases htop : frame.pair = pair
              · rw [if_pos htop] at h ⊢
                exact ih h _
              · rw [if_neg htop] at h
                exact absurd h (by simp)

theorem openAfter_pushEvent (stack : List Pair) (event : Event) (rest : List Event) :
    openAfter stack (pushEvent event rest) = openAfter stack (event :: rest) := by
  fun_cases pushEvent event rest with
  | case1 => rfl
  | case2 => rfl
  | case3 => rfl

/-- Texts open and close nothing, so it does not matter how they are cut. -/
theorem openAfter_mergeTexts (stack : List Pair) (events : List Event) :
    openAfter stack (mergeTexts events) = openAfter stack events := by
  induction events generalizing stack with
  | nil => rfl
  | cons event events ih =>
      rw [mergeTexts, List.foldr_cons, openAfter_pushEvent, openAfter_cons, openAfter_cons]
      congr 1
      funext stack
      exact ih stack

/-- A list of closings ends the pairs at the front of the stack. -/
theorem openAfter_closings (pairs stack : List Pair) :
    openAfter (pairs ++ stack) (pairs.map .closing) = some stack := by
  induction pairs with
  | nil => rfl
  | cons pair pairs ih =>
      rw [List.map_cons, openAfter_cons, List.cons_append, Event.act, if_pos rfl]
      exact ih

/-- What is opened last is in front. -/
theorem openAfter_openings (pairs stack : List Pair) :
    openAfter stack (pairs.reverse.map .opening) = some (pairs ++ stack) := by
  induction pairs with
  | nil => rfl
  | cons pair pairs ih =>
      rw [List.reverse_cons, List.map_append, openAfter_append, ih]
      rfl

/-- A list in which the predicate holds in front of where it fails consists of
    where it holds and where it fails. -/
theorem filter_append_filter_not {α : Type} {holds : α → Bool} {xs : List α}
    (h : xs.Pairwise fun x y => holds y = true → holds x = true) :
    xs.filter holds ++ xs.filter (fun x => !holds x) = xs := by
  induction xs with
  | nil => rfl
  | cons x xs ih =>
      rcases List.pairwise_cons.mp h with ⟨hx, hxs⟩
      by_cases hholds : holds x = true
      · rw [List.filter_cons_of_pos hholds, List.filter_cons_of_neg (by simp [hholds]),
          List.cons_append, ih hxs]
      · -- Where it fails once, it holds nowhere after.
        have hnone : xs.filter holds = [] :=
          List.filter_eq_nil_iff.mpr fun y hy hy' => hholds (hx y hy hy')
        have hrest := ih hxs
        rw [hnone, List.nil_append] at hrest
        rw [List.filter_cons_of_neg hholds, List.filter_cons_of_pos (by simp [hholds]), hnone,
          hrest, List.nil_append]

/-- The pairs that are open in front of the run at `index`, innermost first:
    those that begin before it and do not end before it. -/
def openAt (pairs : List Pair) (index : Nat) : List Pair :=
  pairs.filter fun pair => decide (pair.opener < index) && decide (index ≤ pair.closer)

/-- The pairs that are open in front of the run at `index` and behind it. -/
def openAround (pairs : List Pair) (index : Nat) : List Pair :=
  pairs.filter fun pair => decide (pair.opener < index) && decide (index < pair.closer)

section Nested

variable {pairs : List Pair}

theorem mem_openAt {pair : Pair} {index : Nat} (h : pair ∈ openAt pairs index) :
    pair.opener < index ∧ index ≤ pair.closer := by
  simpa using (List.mem_filter.mp h).2

/-- Of the pairs that are open in one place, the one made first is within the
    other. -/
theorem nested_openAt (ordered : pairs.Pairwise Pair.Precedes) (index : Nat) :
    (openAt pairs index).Pairwise fun pair later =>
      later.opener ≤ pair.opener ∧ pair.closer ≤ later.closer := by
  refine List.Pairwise.imp_of_mem ?_ (ordered.filter _)
  intro pair later hpair hlater hprecedes
  have hpair := mem_openAt hpair
  have hlater := mem_openAt hlater
  unfold Pair.Precedes at hprecedes
  omega

/-- If a property passes from an open pair to those within, then the open pairs
    are those that have it, followed by those that do not. -/
theorem openAt_split (ordered : pairs.Pairwise Pair.Precedes) {index : Nat}
    {inner : Pair → Bool} (h : ∀ pair ∈ openAt pairs index, ∀ later,
      later.opener ≤ pair.opener → pair.closer ≤ later.closer → inner later = true →
        inner pair = true) :
    openAt pairs index =
      (openAt pairs index).filter inner ++
        (openAt pairs index).filter (fun pair => !inner pair) := by
  refine (filter_append_filter_not ?_).symm
  refine List.Pairwise.imp_of_mem ?_ (nested_openAt ordered index)
  intro pair later hpair _ hnested
  exact h pair hpair later hnested.1 hnested.2

theorem filter_openAt {index : Nat} {holds among : Pair → Bool}
    (h : ∀ pair ∈ pairs, among pair = true ↔
      (pair.opener < index ∧ index ≤ pair.closer) ∧ holds pair = true) :
    (openAt pairs index).filter holds = pairs.filter among := by
  rw [openAt, List.filter_filter]
  refine List.filter_congr fun pair hpair => ?_
  rw [Bool.eq_iff_iff, h pair hpair]
  simp only [Bool.and_eq_true, decide_eq_true_eq]
  exact and_comm

/-- The pairs that the run at `index` closes are the innermost of the open
    ones. -/
theorem openAt_closing (ordered : pairs.Pairwise Pair.Precedes)
    (before : ∀ pair ∈ pairs, pair.opener < pair.closer) (index : Nat) :
    openAt pairs index =
      pairs.filter (fun pair => pair.closer == index) ++ openAround pairs index := by
  have hinner : ∀ pair ∈ openAt pairs index, ∀ later : Pair, later.opener ≤ pair.opener →
      pair.closer ≤ later.closer → (later.closer == index) = true →
        (pair.closer == index) = true := by
    intro pair hpair later _ hcloser hlater
    have hopen := mem_openAt hpair
    rw [beq_iff_eq] at hlater ⊢
    omega
  rw [openAt_split ordered hinner, openAround]
  congr 1
  · -- A pair that closes here began before.
    refine filter_openAt fun pair hpair => ?_
    have := before pair hpair
    rw [beq_iff_eq]
    omega
  · refine filter_openAt fun pair _ => ?_
    simp only [Bool.and_eq_true, Bool.not_eq_true', decide_eq_true_eq, beq_eq_false_iff_ne]
    omega

/-- The pairs that the run at `index` opens are the innermost of those that are
    open behind it. -/
theorem openAt_opening (ordered : pairs.Pairwise Pair.Precedes)
    (before : ∀ pair ∈ pairs, pair.opener < pair.closer) (index : Nat) :
    openAt pairs (index + 1) =
      pairs.filter (fun pair => pair.opener == index) ++ openAround pairs index := by
  have hinner : ∀ pair ∈ openAt pairs (index + 1), ∀ later : Pair,
      later.opener ≤ pair.opener → pair.closer ≤ later.closer →
        (later.opener == index) = true → (pair.opener == index) = true := by
    intro pair hpair later hopener _ hlater
    have hopen := mem_openAt hpair
    rw [beq_iff_eq] at hlater ⊢
    omega
  rw [openAt_split ordered hinner, openAround]
  congr 1
  · -- A pair that opens here ends behind.
    refine filter_openAt fun pair hpair => ?_
    have := before pair hpair
    rw [beq_iff_eq]
    omega
  · refine filter_openAt fun pair _ => ?_
    simp only [Bool.and_eq_true, Bool.not_eq_true', decide_eq_true_eq, beq_eq_false_iff_ne]
    omega

/-- The events of a run lead from the pairs that are open in front of it to
    those that are open in front of the next. -/
theorem openAfter_heldEvents (ordered : pairs.Pairwise Pair.Precedes)
    (before : ∀ pair ∈ pairs, pair.opener < pair.closer) (held : Held) (index : Nat) :
    openAfter (openAt pairs index) (held.events index pairs) =
      some (openAt pairs (index + 1)) := by
  rw [Held.events, openAt_closing ordered before, openAfter_append, openAfter_closings,
    Option.bind_some, openAfter_cons, Event.act, Option.bind_some, openAfter_openings,
    openAt_opening ordered before]

/-- The same for all runs of a text and what is between them. -/
theorem openAfter_events (ordered : pairs.Pairwise Pair.Precedes)
    (before : ∀ pair ∈ pairs, pair.opener < pair.closer) (index : Nat) (runs : List Held)
    (pieces : List Piece) (hlength : runs.length = (pieces.filterMap Piece.run?).length) :
    openAfter (openAt pairs index) (events pairs index runs pieces) =
      some (openAt pairs (index + runs.length)) := by
  fun_induction events pairs index runs pieces with
  | case1 index runs =>
      rw [hlength]
      rfl
  | case2 index runs s pieces ih =>
      rw [openAfter_cons, Event.act, Option.bind_some]
      exact ih hlength
  | case3 index runs span pieces ih =>
      rw [openAfter_cons, Event.act, Option.bind_some]
      exact ih hlength
  | case4 index held runs run pieces ih =>
      rw [openAfter_append, openAfter_heldEvents ordered before, Option.bind_some,
        ih (Nat.succ.inj hlength), List.length_cons, Nat.add_right_comm, Nat.add_assoc]
  | case5 index run pieces ih =>
      -- There are as many runs as pieces that are runs.
      exact absurd hlength (by simp [Piece.run?])

end Nested

/-- In front of the first run nothing is open. -/
theorem openAt_zero (pairs : List Pair) : openAt pairs 0 = [] :=
  List.filter_eq_nil_iff.mpr fun pair _ => by simp

/-- Behind the last run nothing is open, because every pair has closed. -/
theorem openAt_length {pairs : List Pair} {count : Nat}
    (h : ∀ pair ∈ pairs, pair.closer < count) : openAt pairs count = [] := by
  refine List.filter_eq_nil_iff.mpr fun pair hpair => ?_
  have := h pair hpair
  simp only [Bool.and_eq_true, decide_eq_true_eq, not_and]
  omega

theorem Pair.Joins.closer_lt {runs : List Run} {pair : Pair} (h : pair.Joins runs) :
    pair.closer < runs.length := by
  rcases h.closes with ⟨run, hrun, _⟩
  exact (List.getElem?_eq_some_iff.mp hrun).1

/-- At the end the runs passed are the runs of the text. -/
theorem length_runs_pairRuns (switches : Switches) (runs : List Run) :
    (pairRuns switches runs).runs.length = runs.length := by
  have hlength := congrArg List.length (map_run_pairRuns switches runs)
  rwa [List.length_map] at hlength

/-- The events of paired pieces open and close pairs in order. -/
theorem openAfter_pairRuns (switches : Switches) (pieces : List Piece) :
    let paired := pairRuns switches (pieces.filterMap Piece.run?)
    openAfter [] (mergeTexts (events paired.made 0 paired.runs pieces)) = some [] := by
  intro paired
  have sound : paired.Sound (pieces.filterMap Piece.run?) :=
    Pairing.sound_finish switches Pairing.aboveFloor _
  have hlength : paired.runs.length = (pieces.filterMap Piece.run?).length :=
    length_runs_pairRuns switches _
  have hend : openAt paired.made paired.runs.length = [] := by
    refine openAt_length fun pair hpair => ?_
    rw [hlength]
    exact (sound.joins pair hpair).closer_lt
  have hevents := openAfter_events sound.ordered (fun pair hpair => (sound.joins pair hpair).before)
    0 paired.runs pieces hlength
  rw [openAt_zero, Nat.zero_add, hend] at hevents
  rw [openAfter_mergeTexts, hevents]

/-- For every text between two characters and under all switches, the pairs of
    its runs join runs that may be joined and do not cross. The tree of the text
    is built by closing, at every end, exactly the pair that was opened last and
    has not ended, and at the end of the text no pair is open. -/
theorem parseBetween_wellNested (switches : Switches) (label : Text → List Span)
    (before after : Option Char) (s : Text) :
    let pieces := (tokens switches.escapes before s after).map (Token.piece switches label)
    let runs := pieces.filterMap Piece.run?
    let paired := pairRuns switches runs
    (∀ pair ∈ paired.made, pair.Joins runs) ∧
      (∀ pair ∈ paired.made, ∀ other ∈ paired.made, ¬ pair.Crosses other) ∧
      replay switches [] [] (mergeTexts (events paired.made 0 paired.runs pieces)) =
        some (parseBetween switches label before after s) := by
  intro pieces runs paired
  have sound : paired.Sound runs := Pairing.sound_finish switches Pairing.aboveFloor runs
  have hopen : openAfter (List.map Frame.pair [])
      (mergeTexts (events paired.made 0 paired.runs pieces)) = some [] :=
    openAfter_pairRuns switches pieces
  refine ⟨sound.joins, fun pair hpair other hother => sound.not_crosses hpair hother, ?_⟩
  exact replay_of_openAfter hopen []

end ChatMarkup.Inline
