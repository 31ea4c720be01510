import ChatMarkup.Document.Basic
import ChatMarkup.Render.Span

/-!
# Rich Blocks

Blocks whose inline markup has been read.

Only blocks that hold text have inline markup. Fenced code, rules and blank
lines are shown from their source and have no spans. A table is read row by
row, so that no emphasis reaches from one row into another, and the rows are
kept apart by line breaks. If it is going to be shown as code, most markup in
it would show up as it is written, and only asterisks are taken out.

## Main definitions

* `RichBlock`: A block with the spans of its content.
* `tableSpans`: The spans of a table.
* `Block.read`: A block with its inline markup read.
* `Document.read`: The same for all blocks of a document.
-/

namespace ChatMarkup

/-- A block with the spans of its content. -/
structure RichBlock where
  /-- What it is. -/
  kind : Block.Kind
  /-- The lines it was read from. -/
  source : Text
  /-- The depth of a quote or of a list item in its list. -/
  level : Nat
  /-- The spans of its content. -/
  spans : List Span
  deriving Repr

/-- Whether the block is blank lines. -/
def RichBlock.isBlank (block : RichBlock) : Bool :=
  block.kind.isBlank

namespace Config

/-- Whether tables are shown as code. -/
def tablesAsCode (config : Config) : Bool :=
  config.convert.tables && config.tables.mode == .codeBlock

/-- The constructs of inline markup that are converted in the cells of a
    table. -/
def cellSwitches (config : Config) : Inline.Switches :=
  if config.tablesAsCode then .emphasisOnly else config.inlineSwitches

end Config

/-- The spans of rows, with a line break between neighbours. -/
def rowSpans (switches : Inline.Switches) : List Text → List Span
  | [] => []
  | [row] => Inline.parse switches row
  | row :: next :: rows =>
    Inline.parse switches row ++ .lineBreak :: rowSpans switches (next :: rows)

/-- The spans of a table, whose rows are the lines of the content. -/
def tableSpans (config : Config) (content : Text) : List Span :=
  rowSpans config.cellSwitches (Text.splitOn '\n' content)

namespace Block

/-- The spans of the block's content. -/
def spans (config : Config) (block : Block) : List Span :=
  match block.kind with
  | .blank | .fence _ _ | .rule => []
  | .table => tableSpans config block.content
  | .paragraph | .heading _ | .listItem _ _ _ | .quote => parseInline config block.content

/-- The block with its inline markup read. -/
def read (config : Config) (block : Block) : RichBlock where
  kind := block.kind
  source := block.source
  level := block.level
  spans := block.spans config

end Block

/-- The blocks of the document with their inline markup read. No block needs to
    know of another one, so they may be read side by side, as is done where there
    are many; the results stand in the order of the blocks. -/
def Document.read (config : Config) (document : Document) : List RichBlock :=
  document.blocks.map (Block.read config)

end ChatMarkup
