import ChatMarkup.Proofs.Rendering
import ChatMarkup.Proofs.Slices

/-!
# Writing As One Goes

A message grows at its end and nowhere else.

Blocks that come later cannot change what has been written. The lines of a
block depend on the blocks before it only, by way of the numbering that those
leave behind. Three things are decided at the ends of the sequence, though, and
the end is what moves. Blank blocks at the beginning are dropped up to the first
that is not blank, which later blocks do not change once it is there. Blank
blocks at the end are dropped until others follow, and those then bring the
blank ones back in front of them. And the end of the last line is left off,
until there are more lines. In each case what was written before is the
beginning of what is written now.

For a document this means that it can be converted while it is being read, one
block after the other. The first blocks of a document are the document of the
lines that they cover, so converting these lines gives the beginning of the
message.

## Theorems

* `trimBlanks_grows`: What is left without blank blocks at the ends grows.
* `renderLines_grows`: So do the lines.
* `dropLastIf_grows`: So does a text without its last line feed.
* `ofText_take`: The first blocks of a document are a document.
* `renderBlocks_grows`: The message grows.
-/

namespace ChatMarkup

/-! ### The ends of the sequence -/

theorem dropBlanksAtEnd_begins (blocks : List RichBlock) :
    dropBlanksAtEnd blocks <+: blocks := by
  have hsuffix := List.dropWhile_suffix (l := blocks.reverse) RichBlock.isBlank
  rw [← List.reverse_prefix, List.reverse_reverse] at hsuffix
  exact hsuffix

theorem dropBlanksAtEnd_grows (xs ys : List RichBlock) :
    dropBlanksAtEnd xs <+: dropBlanksAtEnd (xs ++ ys) := by
  have hself := dropBlanksAtEnd_begins xs
  rw [dropBlanksAtEnd.eq_def (xs ++ ys), List.reverse_append, List.dropWhile_append]
  split
  · -- All of the later blocks are dropped, and more of the earlier.
    exact List.prefix_refl _
  · rw [List.reverse_append, List.reverse_reverse]
    exact hself.trans (List.prefix_append _ _)

/-- What is left without blank blocks at the ends grows with more blocks. -/
theorem trimBlanks_grows (xs ys : List RichBlock) : trimBlanks xs <+: trimBlanks (xs ++ ys) := by
  rw [trimBlanks, trimBlanks, ← dropBlanksAtEnd, ← dropBlanksAtEnd, List.dropWhile_append]
  split
  · next hempty =>
      -- No text has come yet.
      rw [List.isEmpty_iff.mp hempty]
      exact List.nil_prefix
  · exact dropBlanksAtEnd_grows _ _

/-- The lines grow with more blocks. -/
theorem renderLines_grows (config : Config) (numbering : Numbering) {xs ys : List RichBlock}
    (h : xs <+: ys) : renderLines config numbering xs <+: renderLines config numbering ys := by
  rcases h with ⟨more, rfl⟩
  rw [renderLines_append]
  exact List.prefix_append _ _

/-- A text without its last character, where that is the given one, grows with
    the text. -/
theorem dropLastIf_grows (c : Char) {s t : Text} (h : s <+: t) :
    Text.dropLastIf c s <+: Text.dropLastIf c t := by
  have hself : Text.dropLastIf c s <+: s := by
    rcases Text.dropLastIf_eq_append c s with ⟨dropped, hs, _⟩
    exact ⟨dropped, hs.symm⟩
  rcases h with ⟨more, rfl⟩
  rcases List.eq_nil_or_concat more with rfl | ⟨front, d, rfl⟩
  · exact ⟨[], by rw [List.append_nil, List.append_nil]⟩
  · rw [List.concat_eq_append, ← List.append_assoc, Text.dropLastIf_concat]
    refine hself.trans ?_
    split
    · exact List.prefix_append _ _
    · rw [List.append_assoc]
      exact List.prefix_append _ _

/-! ### The first blocks -/

theorem assignLevels_take (levels : List Nat) (blocks : List Block) (count : Nat) :
    (assignLevels levels blocks).take count = assignLevels levels (blocks.take count) := by
  induction blocks generalizing levels count with
  | nil => rw [List.take_nil, assignLevels, List.take_nil]
  | cons block rest ih =>
      cases count with
      | zero => rw [List.take_zero, List.take_zero, assignLevels]
      | succ count =>
          rw [assignLevels_cons, List.take_succ_cons, ih, List.take_succ_cons, assignLevels_cons]

/-- The first blocks of a document are the document of their lines. -/
theorem ofText_take (markdown : Text) (count : Nat) :
    (Document.ofText (((Document.ofText markdown).blocks.take count).flatMap Block.source)).blocks =
      (Document.ofText markdown).blocks.take count := by
  let cut := blocksOfLines (Text.lines markdown)
  have htaken : (Document.ofText markdown).blocks.take count =
      assignLevels [] (cut.take count) := assignLevels_take _ _ _
  have hsources : (assignLevels [] (cut.take count)).flatMap Block.source =
      (cut.take count).flatMap Block.source := by
    rw [List.flatMap_def, List.flatMap_def, map_source_assignLevels]
  have hcut : blocksOfLines (Text.lines markdown) = [] ++ cut.take count ++ cut.drop count := by
    rw [List.nil_append, List.take_append_drop]
  rw [htaken, hsources, Document.ofText, blocksOfLines_slice (Text.areLines_lines markdown) hcut]

/-! ### The whole -/

/-- The message grows. That of any blocks is the beginning of that of the blocks
    with others behind them, and the message of the lines that the first blocks
    of a document cover is the beginning of that of the document. -/
theorem renderBlocks_grows (config : Config) :
    (∀ xs ys : List RichBlock, renderBlocks config xs <+: renderBlocks config (xs ++ ys)) ∧
    ∀ (markdown : Text) (count : Nat),
      convert config (((Document.ofText markdown).blocks.take count).flatMap Block.source) <+:
        convert config markdown := by
  have hgrows : ∀ xs ys : List RichBlock,
      renderBlocks config xs <+: renderBlocks config (xs ++ ys) := fun xs ys =>
    dropLastIf_grows '\n' (renderLines_grows config .start (trimBlanks_grows xs ys))
  refine ⟨hgrows, fun markdown count => ?_⟩
  let blocks := (Document.ofText markdown).blocks
  have hread : (Document.ofText markdown).read config =
      (blocks.take count).map (Block.read config) ++ (blocks.drop count).map (Block.read config) := by
    rw [← List.map_append, List.take_append_drop]
    rfl
  have hfirst : (Document.ofText ((blocks.take count).flatMap Block.source)).read config =
      (blocks.take count).map (Block.read config) := by
    rw [Document.read, ofText_take]
  rw [convert, convert, Document.convert, Document.convert, hfirst, hread]
  exact hgrows _ _

end ChatMarkup
