import ChatMarkup.Inline.Token

/-!
# Pairing of Runs

Which runs of markers open and close emphasis together.

The runs of a text are taken from left to right. A run that can close looks
back for the nearest run that it fits; both give up as many markers as the
match uses, and whatever is left of either goes on looking. The runs between
the two have missed their chance: a partner for one of them would have to
reach across the new pair, so they are put out of play.

A search that fails need not be repeated. Runs fall into classes by marker, by
whether they can open as well, and by their length modulo three, which is all
that decides whether two runs may meet. After a failure the *floor* of the
class rises to the run that failed, and later closers of the class look no
further back than that. How far a closer looks is a parameter of the step, so
the search with floors and the search of everything before the closer are two
runs of one machine. They do not agree under all switches, since a search can
also fail because the closer has too few markers left.

The machine is a step function on a state. It is iterated by a measure: the
markers that the runs ahead still hold, and one more for each such run.

## Main definitions

* `Held`: A run, what is left of it, and whether it is still in play.
* `Pair`: Two runs matched, by position, and the number of markers used.
* `fit`: The number of markers that an opener and a closer would use.
* `nearest`: The nearest run before a closer that it fits.
* `Pairing`: The state of the machine.
* `Pairing.step`: One search, or one run passed by.
* `Pairing.finish`: The state in which no run is ahead any more.
* `pairRuns`: The final state for the runs of a text.

## Theorems

* `nearest_split`: What a search finds stands among the runs searched.
* `fit_pos`: A match uses at least one marker.
* `ahead_lt_of_step`: A step lowers the measure.
-/

namespace ChatMarkup.Inline

/-- A run while the runs are being paired. -/
structure Held where
  /-- The run as it was read. -/
  run : Run
  /-- The markers that no match has used. -/
  remaining : Nat
  /-- The run can still be matched. -/
  active : Bool
  deriving DecidableEq, Repr

namespace Held

/-- A run that nothing has happened to. -/
def fresh (run : Run) : Held where
  run := run
  remaining := run.length
  active := true

/-- The run out of play. -/
def retire (held : Held) : Held :=
  { held with active := false }

/-- The run after a match has used `size` of its markers. A run without
    markers is out of play. -/
def spend (held : Held) (size : Nat) : Held :=
  { held with
    remaining := held.remaining - size
    active := held.active && decide (held.remaining ≠ size) }

/-- Whether the run is to look for an opener. -/
def seeks (held : Held) : Bool :=
  held.active && held.run.canClose && decide (0 < held.remaining)

end Held

/-- Two runs matched. Runs are named by their position among the runs of the
    text. -/
structure Pair where
  /-- The run that opens. -/
  opener : Nat
  /-- The run that closes. -/
  closer : Nat
  /-- The marker of both. -/
  marker : Marker
  /-- The markers used on either side. -/
  size : Nat
  deriving DecidableEq, Repr

/-- Whether the lengths of the two runs forbid a match. If either could both
    open and close, the sum of the lengths must not be a multiple of three,
    unless both lengths are. -/
def lengthsClash (opener closer : Run) : Bool :=
  (opener.canClose || closer.canOpen) &&
    (opener.length + closer.length) % 3 == 0 &&
    !(opener.length % 3 == 0 && closer.length % 3 == 0)

/-- The number of markers that a match between the two runs would use, if they
    can be matched: the largest number that has a meaning and that both still
    hold. A match of tildes always uses two. -/
def fit (switches : Switches) (opener closer : Held) : Option Nat :=
  if opener.active && opener.run.canOpen && decide (0 < opener.remaining) &&
      opener.run.marker == closer.run.marker then
    -- A run of tildes takes part in the pairing only if it has two of them.
    if closer.run.marker = .tilde then some 2
    else if lengthsClash opener.run closer.run then none
    else [3, 2, 1].find? fun size =>
      decide (size ≤ opener.remaining) && decide (size ≤ closer.remaining) &&
        switches.allowsSize size
  else none

theorem fit_pos {switches : Switches} {opener closer : Held} {size : Nat}
    (h : fit switches opener closer = some size) : 0 < size := by
  rw [fit] at h
  split at h
  · split at h
    · simp only [Option.some.injEq] at h
      omega
    · split at h
      · exact absurd h (by simp)
      · have hmem := List.mem_of_find?_eq_some h
        simp only [List.mem_cons, List.not_mem_nil, or_false] at hmem
        omega
  · exact absurd h (by simp)

/-- An opener that was found, and the runs around it. -/
structure Found where
  /-- The runs between the opener and the closer, nearest to the closer
      first. -/
  between : List Held
  /-- The opener. -/
  opener : Held
  /-- The runs before the opener, nearest first. -/
  before : List Held
  /-- The markers that the match uses. -/
  size : Nat

/-- The first run in the list that fits the closer, looking at no more than
    `limit` of them. -/
def nearest (switches : Switches) (closer : Held) : Nat → List Held → Option Found
  | 0, _ => none
  | _ + 1, [] => none
  | limit + 1, held :: rest =>
    match fit switches held closer with
    | some size => some ⟨[], held, rest, size⟩
    | none =>
      match nearest switches closer limit rest with
      | some found => some { found with between := held :: found.between }
      | none => none

theorem nearest_split {switches : Switches} {closer : Held} {limit : Nat} {runs : List Held}
    {found : Found} (h : nearest switches closer limit runs = some found) :
    runs = found.between ++ found.opener :: found.before ∧
      fit switches found.opener closer = some found.size := by
  induction limit generalizing runs found with
  | zero => exact absurd h (by simp [nearest])
  | succ limit ih =>
      cases runs with
      | nil => exact absurd h (by simp [nearest])
      | cons held rest =>
          rw [nearest] at h
          split at h
          · next hfit =>
              simp only [Option.some.injEq] at h
              rw [← h]
              exact ⟨rfl, hfit⟩
          · split at h
            · next hrest =>
                simp only [Option.some.injEq] at h
                obtain ⟨hsplit, hfit⟩ := ih hrest
                rw [← h]
                exact ⟨congrArg (held :: ·) hsplit, hfit⟩
            · exact absurd h (by simp)

/-- What decides whether two runs of one marker may meet. -/
structure RunClass where
  /-- The marker. -/
  marker : Marker
  /-- The run can open as well as close. -/
  canOpen : Bool
  /-- The length modulo three. -/
  residue : Nat
  deriving DecidableEq, Repr

/-- The class of a run. -/
def Run.class (run : Run) : RunClass where
  marker := run.marker
  canOpen := run.canOpen
  residue := run.length % 3

/-- The state in the middle of pairing. -/
structure Pairing where
  /-- The runs passed, nearest first. -/
  passed : List Held
  /-- The runs ahead; the first is the one under consideration. -/
  ahead : List Held
  /-- For a class, the number of runs at the start of the text that its
      closers need not look at. The latest entry of a class counts. -/
  floors : List (RunClass × Nat)
  /-- The pairs made, latest first. -/
  pairs : List Pair

namespace Pairing

/-- The state before any run has been looked at. -/
def start (runs : List Run) : Pairing where
  passed := []
  ahead := runs.map Held.fresh
  floors := []
  pairs := []

/-- The number of runs that a closer needs to look at: those passed that stand
    above the floor of its class. -/
def aboveFloor (state : Pairing) (closer : Held) : Nat :=
  state.passed.length - (state.floors.lookup closer.run.class).getD 0

/-- The number of runs that a closer can look at: all of those passed. -/
def everything (state : Pairing) (_closer : Held) : Nat :=
  state.passed.length

/-- The state after the closer at the front has been matched with an opener.
    It stays at the front as long as it has markers left. -/
def join (state : Pairing) (closer : Held) (rest : List Held) (found : Found) : Pairing :=
  let pair : Pair :=
    { opener := found.before.length
      closer := state.passed.length
      marker := closer.run.marker
      size := found.size }
  let passed :=
    found.between.map Held.retire ++ found.opener.spend found.size :: found.before
  let closer := closer.spend found.size
  -- A closer with markers left looks again, past the runs just retired.
  if closer.remaining = 0 then
    { state with passed := closer :: passed, ahead := rest, pairs := pair :: state.pairs }
  else
    { state with passed := passed, ahead := closer :: rest, pairs := pair :: state.pairs }

/-- The state after the closer at the front has found no opener. If it cannot
    open either, it is out of play. -/
def giveUp (state : Pairing) (closer : Held) (rest : List Held) : Pairing :=
  { state with
    passed := (if closer.run.canOpen then closer else closer.retire) :: state.passed
    ahead := rest
    floors := (closer.run.class, state.passed.length) :: state.floors }

/-- One step: the run at the front is matched, gives up, or is passed by
    because it does not seek an opener. There is no step when no run is
    ahead. The function `limit` says how many runs a closer looks at. -/
def step (switches : Switches) (limit : Pairing → Held → Nat) (state : Pairing) :
    Option Pairing :=
  match state.ahead with
  | [] => none
  | closer :: rest =>
    if closer.seeks then
      match nearest switches closer (limit state closer) state.passed with
      | some found => some (state.join closer rest found)
      | none => some (state.giveUp closer rest)
    else some { state with passed := closer :: state.passed, ahead := rest }

/-- The markers that the runs ahead still hold, and one more for each run. -/
def aheadCount (state : Pairing) : Nat :=
  state.ahead.foldr (fun held count => held.remaining + 1 + count) 0

/-- A step passes the run at the front, or takes at least one marker from
    it. -/
theorem ahead_lt_of_step {switches : Switches} {limit : Pairing → Held → Nat}
    {state next : Pairing} (h : state.step switches limit = some next) :
    next.aheadCount < state.aheadCount := by
  rw [step] at h
  split at h
  · exact absurd h (by simp)
  · next closer rest hahead =>
      simp only [aheadCount, hahead, List.foldr_cons]
      split at h
      · next hseeks =>
          split at h
          · next found hfound =>
              simp only [Option.some.injEq] at h
              have hpos := fit_pos (nearest_split hfound).2
              have hheld : 0 < closer.remaining := by
                simp only [Held.seeks, Bool.and_eq_true, decide_eq_true_eq] at hseeks
                exact hseeks.2
              rw [← h, join]
              split
              · simp only; omega
              · simp only [List.foldr_cons, Held.spend]; omega
          · simp only [Option.some.injEq] at h
            rw [← h, giveUp]
            simp only; omega
      · simp only [Option.some.injEq] at h
        rw [← h]
        simp only; omega

/-- The state after as many steps as there are. -/
def finish (switches : Switches) (limit : Pairing → Held → Nat) (state : Pairing) : Pairing :=
  match _h : state.step switches limit with
  | none => state
  | some next => finish switches limit next
termination_by state.aheadCount
decreasing_by exact ahead_lt_of_step _h

/-- The pairs in the order in which they were made. -/
def made (state : Pairing) : List Pair :=
  state.pairs.reverse

/-- The runs passed, in the order of the text. -/
def runs (state : Pairing) : List Held :=
  state.passed.reverse

end Pairing

/-- The runs of a text, paired. Closers look no further back than the floor of
    their class. -/
def pairRuns (switches : Switches) (runs : List Run) : Pairing :=
  (Pairing.start runs).finish switches Pairing.aboveFloor

end ChatMarkup.Inline
