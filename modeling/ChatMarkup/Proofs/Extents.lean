import ChatMarkup.Proofs.Contents
import ChatMarkup.Proofs.Cutting

/-!
# Lines that Blocks Use

How many lines a block uses, counted from its first one.

The extent of a block counts the lines behind the one that opens it. Counted from
the first line, each kind of block has a measure of its own. Blank lines and
quoted lines are counted by a test that the first line has to pass as well; a
table is measured before it is known to be one; fenced code goes up to where the
closing fence stands. What is known of the first line is what it opens, and from
that follows that all these measures are the extent and one more line.

So there is a single number for a block: as many lines as it uses are cut off,
and as many are its source.

## Main definitions

* `Opening.used`: How many lines a block uses.

## Theorems

* `Opening.used_ofLine`: A block uses the lines of its extent and the first one.
* `Cutting.step_eq_some`: A block is cut off with the lines that it uses.
-/

namespace ChatMarkup

/-- How many of the lines the block uses that begins with the first of them. -/
def Opening.used (line : Text) (rest : List Text) : Opening → Nat
  | blank => countLines Text.allBlank (line :: rest)
  | fence f =>
    match rest.findIdx? f.closedBy with
    | some offset => offset + 2
    | none => (line :: rest).length
  | table => (Table.length? (line :: rest)).getD 0
  | rule => 1
  | heading _ _ => 1
  | item i => 1 + continuation (fun line => decide (i.indent < Text.indentation line)) rest
  | quote depth _ => countLines (isQuotedAt depth) (line :: rest)
  | paragraph => 1 + continuation (fun _ => true) rest

theorem countLines_cons_of_pos {p : Text → Bool} {line : Text} (h : p line = true)
    (rest : List Text) : countLines p (line :: rest) = countLines p rest + 1 := by
  rw [countLines, List.takeWhile_cons, if_pos h]
  rfl

theorem Opening.begins_of_ofLine {line : Text} {next : Option Text}
    (h : Opening.ofLine line next = .table) : Table.begins line next = true := by
  by_cases hbegins : Table.begins line next = true
  · exact hbegins
  · unfold Opening.ofLine at h
    rw [if_neg hbegins] at h
    repeat' split at h
    all_goals exact Opening.noConfusion h

/-- A block uses the lines of its extent and the one that opens it. -/
theorem Opening.used_ofLine (line : Text) (rest : List Text) :
    (Opening.ofLine line rest.head?).used line rest =
      (Opening.ofLine line rest.head?).extent rest + 1 := by
  have hreads := Opening.reads_ofLine line rest.head?
  cases hopening : Opening.ofLine line rest.head? with
  | blank => exact countLines_cons_of_pos (Opening.allBlank_of_ofLine hopening) rest
  | fence f =>
      rw [used, extent]
      cases rest.findIdx? f.closedBy <;> rfl
  | table =>
      rw [used, Table.length?_cons, if_pos (Opening.begins_of_ofLine hopening)]
      rfl
  | rule => rfl
  | heading level content => rfl
  | item i => exact Nat.add_comm _ _
  | quote depth content =>
      rw [hopening] at hreads
      have hquoted : isQuotedAt depth line = true := by
        rw [isQuotedAt, show quote? line = some (depth, content) from hreads]
        exact beq_self_eq_true depth
      exact countLines_cons_of_pos hquoted rest
  | paragraph => exact Nat.add_comm _ _

/-- A block is cut off with the lines that it uses, and these are its source. -/
theorem Cutting.step_eq_some {state next : Cutting} (h : state.step = some next) :
    ∃ line rest block used, state.rest = line :: rest ∧
      used = (Opening.ofLine line rest.head?).used line rest ∧
      next.done = state.done ++ [block] ∧ block.source = (state.rest.take used).flatten ∧
      next.rest = state.rest.drop used := by
  rw [step] at h
  split at h
  · exact absurd h.symm (Option.some_ne_none _)
  · next line rest hrest =>
      obtain rfl := Option.some.inj h
      refine ⟨line, rest, _, _, hrest, rfl, rfl, ?_, ?_⟩
      · rw [source_place, Opening.source_block, Opening.used_ofLine, hrest, List.take_succ_cons]
      · rw [Opening.used_ofLine, hrest, List.drop_succ_cons]

end ChatMarkup
