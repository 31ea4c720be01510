import ChatMarkup.Proofs.Alike

/-!
# Carriage Returns

A text whose lines end in a carriage return and a line feed says what it says
with line feeds alone, even if only some of its lines end so.

What a line says does not depend on how it ends, and neither does what is shown
of it, which is what `SameLine` collects. It is left to see that a carriage
return put before a line feed gets into no other place than the end of a line.
It does not cut a line, since lines are cut at line feeds, and so the two texts
have the same number of lines, one beside the other. There it is taken off with
the line feed, unless a carriage return of the line itself stands before it. A
text without carriage returns has none.

## Main definitions

* `Text.WithReturns`: Some line feeds have got a carriage return.
* `Text.LineWithReturn`: The same for the end of one line.
* `Block.reading`: What a block says and how many lines say it.

## Theorems

* `WithReturns.lines`: The lines stand side by side.
* `LineWithReturn.sameLine`: The line shows no difference.
* `convert_of_withReturns`: The texts have the same blocks and make the same
  message.
-/

namespace ChatMarkup

namespace Text

/-- The second text is the first with a carriage return put before some of its
    line feeds. -/
inductive WithReturns : Text → Text → Prop
  /-- There is nothing left. -/
  | nil : WithReturns [] []
  /-- A character stays as it is. -/
  | keep (c : Char) {s t : Text} : WithReturns s t → WithReturns (c :: s) (c :: t)
  /-- A line feed gets a carriage return. -/
  | put {s t : Text} : WithReturns s t → WithReturns ('\n' :: s) ('\r' :: '\n' :: t)

/-- The second line is the first, or it ends in a carriage return and a line
    feed where the first ends in a line feed. -/
inductive LineWithReturn : Text → Text → Prop
  /-- The line stays as it is. -/
  | same (line : Text) : LineWithReturn line line
  /-- The end of the line gets a carriage return. -/
  | put (body : Text) : LineWithReturn (body ++ ['\n']) (body ++ ['\r', '\n'])

theorem LineWithReturn.cons (c : Char) {line line' : Text} (h : LineWithReturn line line') :
    LineWithReturn (c :: line) (c :: line') := by
  cases h with
  | same => exact .same (c :: line)
  | put body => exact .put (c :: body)

/-- Line by line, the texts differ in the ends at most. -/
theorem WithReturns.lines {s t : Text} (h : WithReturns s t) :
    List.Forall₂ LineWithReturn (lines s) (lines t) := by
  induction h with
  | nil => exact .nil
  | @keep c s t h ih =>
      rw [Text.lines, Text.lines]
      by_cases hc : c = '\n'
      · rw [if_pos hc, if_pos hc]
        exact .cons (.same [c]) ih
      · -- The character joins the first line of either text.
        rw [if_neg hc, if_neg hc]
        generalize Text.lines s = xs, Text.lines t = ys at ih
        cases ih with
        | nil => exact .cons (.same [c]) .nil
        | cons hline hmore => exact .cons (hline.cons c) hmore
  | put h ih =>
      have hne : '\r' ≠ '\n' := by decide
      rw [Text.lines, if_pos rfl, Text.lines, if_neg hne, Text.lines, if_pos rfl]
      exact .cons (.put []) ih

/-- A line without carriage returns shows nothing of one that its end gets. -/
theorem LineWithReturn.sameLine {line line' : Text} (h : LineWithReturn line line')
    (hplain : '\r' ∉ line) : SameLine line line' := by
  cases h with
  | same => exact ⟨rfl, rfl⟩
  | put body =>
      have hfeed : stripEnd (body ++ ['\n']) = body := by
        refine stripEnd_append_feed fun heq => hplain ?_
        exact List.mem_append_left _ (List.mem_of_getLast? heq)
      have hreturn : stripEnd (body ++ ['\r', '\n']) = body := by
        rw [show body ++ ['\r', '\n'] = (body ++ ['\r']) ++ ['\n'] by simp, stripEnd,
          dropLastIf_concat, if_pos rfl, dropLastIf_concat, if_pos rfl]
      refine ⟨hfeed.trans hreturn.symm, ?_⟩
      -- Either line ends in a line feed, so code is shown without the end.
      have hlast : (body ++ ['\r', '\n']).getLast? = some '\n' := by
        rw [List.getLast?_append]
        rfl
      rw [codeLine, codeLine, List.getLast?_concat, hlast, if_pos rfl, if_pos rfl, hfeed, hreturn]

theorem WithReturns.sameLines {s t : Text} (h : WithReturns s t) (hplain : '\r' ∉ s) :
    List.Forall₂ SameLine (Text.lines s) (Text.lines t) := by
  have hlines := (List.forall₂_and_left _ _).mpr
    ⟨fun _ hline => not_mem_of_mem_lines hplain hline, h.lines⟩
  exact hlines.imp fun _ _ hline => hline.2.sameLine hline.1

end Text

/-- What the block says, and how many lines say it. -/
def Block.reading (block : Block) : Block.Kind × Text × Nat × Nat :=
  (block.kind, block.content, block.level, Block.lineCount block.source)

theorem Block.Alike.reading {block block' : Block} (h : block.Alike block') :
    block.reading = block'.reading := by
  rw [Block.reading, Block.reading, h.kind, h.content, h.level, h.lineCount]

/-- How lines end does not matter. A text in which any of the line feeds have got
    a carriage return has as many blocks as before, which say the same in as many
    lines, and makes the same message under every configuration. -/
theorem convert_of_withReturns {markdown markdown' : Text} (hplain : '\r' ∉ markdown)
    (h : Text.WithReturns markdown markdown') :
    (Document.ofText markdown').blocks.map Block.reading =
        (Document.ofText markdown).blocks.map Block.reading ∧
      ∀ config, convert config markdown' = convert config markdown := by
  have hlines := h.sameLines hplain
  constructor
  · exact (map_eq_of_forall₂ (fun _ _ hblock => hblock.reading) (ofText_congr hlines)).symm
  · intro config
    exact (convert_congr config hlines).symm

/-- Code, a table and a list, of which every other line has got a carriage
    return. -/
theorem convert_of_withReturns_every_other :
    (Document.ofText "~~~\r\nx\n~~~\r\n|a|\n|-|\r\n- b\n  c\r\n".toList).blocks.map Block.reading =
        (Document.ofText "~~~\nx\n~~~\n|a|\n|-|\n- b\n  c\n".toList).blocks.map Block.reading ∧
      ∀ config, convert config "~~~\r\nx\n~~~\r\n|a|\n|-|\r\n- b\n  c\r\n".toList =
        convert config "~~~\nx\n~~~\n|a|\n|-|\n- b\n  c\n".toList :=
  convert_of_withReturns (by decide) (by repeat constructor)

end ChatMarkup
