import ChatMarkup.Block.Nesting
import ChatMarkup.Block.Split

/-!
# Documents

A Markdown text as the sequence of its blocks.

Any text is a document. Splitting never fails and loses nothing: every line of
the text lands in exactly one block, so the sources of the blocks, one after
the other, are the text again.

## Main definitions

* `Document`: A sequence of blocks.
* `Document.ofText`: The document that a text is.
* `Document.source`: The text that a document was read from.

## Theorems

* `source_ofText`: Splitting loses nothing.
-/

namespace ChatMarkup

/-- A sequence of blocks. -/
structure Document where
  /-- The blocks, in order. -/
  blocks : List Block
  deriving DecidableEq, Repr

namespace Document

/-- The document that the text is. -/
def ofText (markdown : Text) : Document where
  blocks := assignLevels [] (blocksOfLines (Text.lines markdown))

/-- The sources of the blocks, one after the other. -/
def source (document : Document) : Text :=
  document.blocks.flatMap Block.source

/-- Splitting loses nothing. -/
theorem source_ofText (markdown : Text) : (ofText markdown).source = markdown := by
  rw [source, ofText, List.flatMap_def, map_source_assignLevels, ← List.flatMap_def,
    flatMap_source_blocksOfLines, Text.flatten_lines]

end Document

end ChatMarkup
