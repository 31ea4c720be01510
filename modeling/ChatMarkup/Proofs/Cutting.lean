import ChatMarkup.Document.Basic
import ChatMarkup.Proofs.Lines
import ChatMarkup.Proofs.Nesting
import Mathlib.Algebra.GroupWithZero.Nat

/-!
# Cutting a Document

The document of a text as what a loop leaves behind that cuts one block off
the lines at a time.

`Document.ofText` cuts all blocks first and assigns the levels of list items
afterwards. `Cutting.step` does both for one block: its state holds the lines
that are in no block yet, the levels that are open, and the blocks cut off so
far. Every step cuts off at least the line that opens the block, so there are
at most as many steps as lines, and the blocks at the end are those of the
document.

The lines of a block are neighbouring lines of the text. Since the lines of a
text stay lines when they are taken out of it, the source of a block is cut
into just those lines again. So the lines of the blocks, one block after the
other, are the lines of the text, and counting them block by block misses
none.

## Main definitions

* `Cutting`: The state in the middle of cutting.
* `Cutting.step`: One block cut off.
* `Cutting.steps`: A number of blocks cut off.

## Theorems

* `steps_blocksOfLines`: The loop ends with the blocks of its lines.
* `flatMap_lines_blocksOfLines`: The lines of the blocks are the lines cut.
* `ofText_lossless`: Cutting a document ends and loses nothing.
-/

namespace ChatMarkup

/-- The state in the middle of cutting a document. -/
structure Cutting where
  /-- The lines that are in no block yet. -/
  rest : List Text
  /-- The indentations of the open levels, innermost first. -/
  levels : List Nat
  /-- The blocks cut off, in order. -/
  done : List Block

namespace Cutting

/-- The state before anything has been cut off. -/
def start (markdown : Text) : Cutting where
  rest := Text.lines markdown
  levels := []
  done := []

/-- The state after one more block has been cut off. There is no step when no
    line is left. -/
def step (state : Cutting) : Option Cutting :=
  match state.rest with
  | [] => none
  | line :: rest =>
    let opening := Opening.ofLine line rest.head?
    let extent := opening.extent rest
    let placed := (opening.block line (rest.take extent)).place state.levels
    some
      { rest := rest.drop extent
        levels := placed.2
        done := state.done ++ [placed.1] }

/-- The state after `count` steps, if there are so many. -/
def steps : (count : Nat) → Cutting → Option Cutting
  | 0, state => some state
  | count + 1, state =>
    match state.step with
    | none => none
    | some next => steps count next

/-- As many steps as there are blocks use up the lines, and what has been cut
    off is the blocks with their levels. -/
theorem steps_blocksOfLines (lines : List Text) (levels : List Nat) (done : List Block) :
    ∃ final, steps (blocksOfLines lines).length ⟨lines, levels, done⟩ = some final ∧
      final.rest = [] ∧ final.done = done ++ assignLevels levels (blocksOfLines lines) := by
  fun_induction blocksOfLines lines generalizing levels done with
  | case1 => exact ⟨_, rfl, rfl, (List.append_nil done).symm⟩
  | case2 line rest opening extent ih =>
      rcases ih ((opening.block line (rest.take extent)).place levels).2
          (done ++ [((opening.block line (rest.take extent)).place levels).1]) with
        ⟨final, hsteps, hrest, hdone⟩
      refine ⟨final, hsteps, hrest, ?_⟩
      rw [hdone, assignLevels_cons, List.append_assoc, List.singleton_append]

theorem step_eq_none {state : Cutting} (h : state.rest = []) : state.step = none := by
  rw [step, h]

end Cutting

/-- A block is cut off with at least one line, so there are no more blocks than
    lines. -/
theorem length_blocksOfLines_le (lines : List Text) :
    (blocksOfLines lines).length ≤ lines.length := by
  fun_induction blocksOfLines lines with
  | case1 => exact Nat.le_refl _
  | case2 line rest opening extent ih =>
      rw [List.length_drop] at ih
      simp only [List.length_cons]
      omega

/-- The lines of the blocks, one block after the other, are the lines that were
    cut. -/
theorem flatMap_lines_blocksOfLines {lines : List Text} (h : Text.AreLines lines) :
    (blocksOfLines lines).flatMap (fun block => Text.lines block.source) = lines := by
  fun_induction blocksOfLines lines with
  | case1 => rfl
  | case2 line rest opening extent ih =>
      -- The lines of the first block are a prefix of the lines.
      have hsplit : line :: rest = (line :: rest.take extent) ++ rest.drop extent := by
        rw [List.cons_append, List.take_append_drop]
      rw [hsplit] at h
      rw [List.flatMap_cons, Opening.source_block, Text.lines_flatten h.of_append_left,
        ih h.of_append_right, ← hsplit]

theorem source_ne_nil_of_mem_blocksOfLines {lines : List Text} (h : Text.AreLines lines) :
    ∀ block ∈ blocksOfLines lines, block.source ≠ [] := by
  fun_induction blocksOfLines lines with
  | case1 =>
      intro block hmem
      exact absurd hmem List.not_mem_nil
  | case2 line rest opening extent ih =>
      have hrest : Text.AreLines (rest.drop extent) := by
        rw [← List.take_append_drop extent rest] at h
        exact h.tail.of_append_right
      intro block hmem
      rcases List.mem_cons.mp hmem with rfl | hmem
      · rw [Opening.source_block, List.flatten_cons]
        exact List.append_ne_nil_of_left_ne_nil h.ne_nil _
      · exact ih hrest block hmem

/-- Only the last block can end without a line feed. -/
theorem getLast?_source_of_mem_dropLast {lines : List Text} (h : Text.AreLines lines) :
    ∀ block ∈ (blocksOfLines lines).dropLast, block.source.getLast? = some '\n' := by
  fun_induction blocksOfLines lines with
  | case1 =>
      intro block hmem
      exact absurd hmem List.not_mem_nil
  | case2 line rest opening extent ih =>
      have hsplit : line :: rest = (line :: rest.take extent) ++ rest.drop extent := by
        rw [List.cons_append, List.take_append_drop]
      have hline := h.ne_nil
      rw [hsplit] at h
      intro block hmem
      cases hblocks : blocksOfLines (rest.drop extent) with
      | nil =>
          rw [hblocks] at hmem
          exact absurd hmem List.not_mem_nil
      | cons next more =>
          rw [hblocks, List.dropLast_cons_cons, ← hblocks] at hmem
          rcases List.mem_cons.mp hmem with rfl | hmem
          · have hmore : rest.drop extent ≠ [] := by
              intro hnil
              rw [hnil, blocksOfLines] at hblocks
              exact absurd hblocks (by simp only [reduceCtorEq, not_false_eq_true])
            have hwhole := h.whole_flatten hmore
            rw [Opening.source_block]
            cases hlast : (line :: rest.take extent).flatten.getLast? with
            | none =>
                rw [List.getLast?_eq_none_iff, List.flatten_cons] at hlast
                exact absurd (List.append_eq_nil_iff.mp hlast).1 hline
            | some c => rw [hwhole c hlast]
          · exact ih h.of_append_right block hmem

/-- Cutting a document ends and loses nothing. The loop stops after no more
    steps than there are lines, with the blocks of the document; their sources
    are the text again, none is empty, and each consists of whole lines of the
    text, so that the numbers of their lines add up. -/
theorem ofText_lossless (markdown : Text) :
    (∃ count ≤ (Text.lines markdown).length, ∃ final,
      Cutting.steps count (Cutting.start markdown) = some final ∧ final.step = none ∧
        final.done = (Document.ofText markdown).blocks) ∧
    (Document.ofText markdown).source = markdown ∧
    (∀ block ∈ (Document.ofText markdown).blocks, block.source ≠ []) ∧
    (Document.ofText markdown).blocks.flatMap (fun block => Text.lines block.source)
      = Text.lines markdown ∧
    (∀ block ∈ (Document.ofText markdown).blocks.dropLast, block.source.getLast? = some '\n') ∧
    ((Document.ofText markdown).blocks.map fun block => Block.lineCount block.source).sum
      = (Text.lines markdown).length := by
  have hlines := Text.areLines_lines markdown
  have hsources := map_source_assignLevels [] (blocksOfLines (Text.lines markdown))
  have hflat : (Document.ofText markdown).blocks.flatMap (fun block => Text.lines block.source)
      = Text.lines markdown := by
    have hmap := congrArg (fun sources => sources.flatMap Text.lines) hsources
    simp only [List.flatMap_map] at hmap
    exact hmap.trans (flatMap_lines_blocksOfLines hlines)
  refine ⟨?_, Document.source_ofText markdown, ?_, hflat, ?_, ?_⟩
  · rcases Cutting.steps_blocksOfLines (Text.lines markdown) [] [] with
      ⟨final, hsteps, hrest, hdone⟩
    exact ⟨_, length_blocksOfLines_le _, final, hsteps, Cutting.step_eq_none hrest, hdone⟩
  · intro block hmem
    have hsource : block.source ∈ (blocksOfLines (Text.lines markdown)).map Block.source := by
      rw [← hsources]
      exact List.mem_map_of_mem hmem
    rcases List.mem_map.mp hsource with ⟨cut, hcut, heq⟩
    rw [← heq]
    exact source_ne_nil_of_mem_blocksOfLines hlines cut hcut
  · intro block hmem
    have hsource : block.source
        ∈ ((blocksOfLines (Text.lines markdown)).map Block.source).dropLast := by
      rw [← hsources, ← List.map_dropLast]
      exact List.mem_map_of_mem hmem
    rw [← List.map_dropLast] at hsource
    rcases List.mem_map.mp hsource with ⟨cut, hcut, heq⟩
    rw [← heq]
    exact getLast?_source_of_mem_dropLast hlines cut hcut
  · have hlength := congrArg List.length hflat
    rw [List.length_flatMap] at hlength
    exact hlength

end ChatMarkup
